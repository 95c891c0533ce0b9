import TypeCalculus.Phrase.Fault

namespace TypeCalculus.Phrase

open TokenTree (Rest AtMost)

def missing {α : Type} (what : Wanted) (trees : List TokenTree) : Except Fault α :=
  .error (.wanted what trees.isEmpty)

def readLabel (trees : List TokenTree) : Except Fault (String × Rest trees) :=
  match trees with
  | .token (.literal (.string value _)) :: _ => .ok (value, .afterToken)
  | .token (.word name _) :: _ => .ok (name, .afterToken)
  | trees => missing .label trees

-- A given mark. Of a joint mark it takes the first character.
def readMark (wanted : Char) (trees : List TokenTree) : Except Fault (Rest trees) :=
  match trees with
  | .token (.mark c _) :: _ =>
    if c = wanted then .ok .afterToken else .error (.wantedMark wanted)
  | _ => .error (.wantedMark wanted)

-- Elements with commas between them, to the end of the trees. The reader of an element is asked
-- about parts of the trees alone, so it may be one that reads lists of this kind itself.
def separated {α : Type} (trees : List TokenTree)
    (element : (left : AtMost trees) → Except Fault (α × Rest left.val)) :
    Except Fault (List α) :=
  if trees.isEmpty then return []
  else do
    let (first, rest) ← element .all
    if rest.val.isEmpty then return [first]
    else do
      let more ← readMark ',' rest.val
      return first :: (← separated more.val fun left => element (.ofRest (rest.trans more) left))
termination_by TokenTree.weightAll trees
decreasing_by exact (rest.trans more).property

def ended : List TokenTree → Except Fault Unit
  | [] => .ok ()
  | _ => .error (.surplus none)

def readLabels (trees : List TokenTree) : Except Fault (List String) := do
  let texts ← separated trees fun left => readLabel left.val
  distinct .label texts
  return texts

def readOneLabel (trees : List TokenTree) : Except Fault String := do
  let (text, rest) ← readLabel trees
  ended rest.val
  return text

def readInteger (trees : List TokenTree) : Except Fault (Int × Rest trees) :=
  match trees with
  | .token (.literal (.integer value _)) :: _ => .ok (value, .afterToken)
  | .token (.mark '-' _) :: .token (.literal (.integer value _)) :: _ =>
    .ok (-value, .afterTokens)
  | trees => missing .integer trees

def reservedWords : List String :=
  ["_", "abstract", "as", "async", "await", "become", "box", "break", "const", "continue",
    "crate", "do", "dyn", "else", "enum", "extern", "false", "final", "fn", "for", "if", "impl",
    "in", "let", "loop", "macro", "match", "mod", "move", "mut", "override", "priv", "pub",
    "ref", "return", "Self", "self", "static", "struct", "super", "trait", "true", "try",
    "type", "typeof", "unsafe", "unsized", "use", "virtual", "where", "while", "yield"]

def readName (trees : List TokenTree) : Except Fault ((String × Bool) × Rest trees) :=
  match trees with
  | .token (.word text raw) :: _ =>
    if !raw && reservedWords.contains text then .error (.reserved text)
    else .ok ((text, raw), .afterToken)
  | trees => missing .identifier trees

end TypeCalculus.Phrase
