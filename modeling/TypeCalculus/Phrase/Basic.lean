import TypeCalculus.Phrase.TypeReader
import TypeCalculus.Token.Lexer
import TypeCalculus.Number.Table

namespace TypeCalculus

inductive Phrase where
  | label (text : String)
  | labels (texts : List String)
  | record (entries : List (Phrase.Entry Phrase.TypeForm))
  | table (table : Number.Table)

namespace Phrase

inductive Kind where
  | label
  | labels
  | record
  | table
deriving DecidableEq, Repr

def shortWord (value : Int) : Except Fault Int :=
  if Number.Table.wordMax < value then .error .numberTooLarge
  else if value < -Number.Table.wordMax - 1 then .error .numberTooSmall
  else .ok value

def declared (max leap : Int) : Except Fault Number.Table :=
  match Number.Table.declare max leap with
  | .ok found => .ok found
  | .error .overflow => .error .tableOverflow
  | .error .outOfRange => .error .tableBounds

def readTable (trees : List TokenTree) : Except Fault Number.Table := do
  let (max, ⟨rest, _⟩) ← readInteger trees
  let max ← shortWord max
  let ⟨rest, _⟩ ← readMark ',' rest
  let (key, ⟨rest, _⟩) ← readName rest
  if key ≠ ("leap", false) then throw .wantedLeap
  let ⟨rest, _⟩ ← readMark '=' rest
  let (leap, ⟨rest, _⟩) ← readInteger rest
  let leap ← shortWord leap
  let found ← declared max leap
  ended rest
  return found

def read (kind : Kind) (trees : List TokenTree) : Except Fault Phrase :=
  match kind with
  | .label => return .label (← readOneLabel trees)
  | .labels => return .labels (← readLabels trees)
  | .record => return .record (← TypeForm.reader.readRecord trees)
  | .table => return .table (← readTable trees)

inductive TextFault where
  | notTokens
  | fault (fault : Fault)
deriving DecidableEq, Repr

def ofText (kind : Kind) (text : String) : Except TextFault Phrase :=
  match TokenTree.ofText? text with
  | none => .error .notTokens
  | some trees => (read kind trees).mapError .fault

def isOneLine (text : String) : Bool :=
  go text.toList
where
  go : List Char → Bool
    | [] => true
    | '/' :: '/' :: _ => false
    | c :: rest => c != '\n' && c != '\r' && go rest

-- The fault of the first faulty call inside a phrase.
def fault? : Phrase → Option Fault
  | .record entries => TypeForm.faultIn? (entries.map (·.form))
  | _ => none

def resolve? : Phrase → Option Ty
  | .label text => some (Label.ofText text)
  | .labels texts => some (LabelSet.ofTexts texts)
  | .record entries =>
    (TypeForm.resolveFields? (entries.map fun entry => (entry.key, entry.form))).map Record.ofTexts
  | .table _ => none

end Phrase

end TypeCalculus
