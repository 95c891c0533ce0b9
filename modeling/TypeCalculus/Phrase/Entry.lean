import TypeCalculus.Phrase.Reader

namespace TypeCalculus.Phrase

open TokenTree (Rest)

-- How the types of fields are read. Of a form a record asks no more than whether a group of it was
-- left with tokens in it, and which delimiters the first such group has.
structure TypeReader (Form : Type) where
  read : (trees : List TokenTree) → Except Fault (Form × Rest trees)
  surplus? : Form → Option Delimiter

-- A field: its key, the form of its value, and the text of the value, which an expansion repeats.
structure Entry (Form : Type) where
  key : String
  form : Form
  source : String

variable {Form : Type}

def readEntry (trees : List TokenTree)
    (type : (value : Rest trees) → Except Fault (Form × Rest value.val)) :
    Except Fault (Entry Form × Rest trees) := do
  let (key, afterKey) ← readLabel trees
  let afterColon ← readMark ':' afterKey.val
  let value := afterKey.trans afterColon
  let (form, rest) ← type value
  let source := TokenTree.renderAll (value.val.take (value.val.length - rest.val.length))
  return (⟨key, form, source⟩, value.trans rest)

def checkEntries (surplus? : Form → Option Delimiter) (entries : List (Entry Form)) :
    Except Fault Unit :=
  match entries.findSome? fun entry => surplus? entry.form with
  | some d => .error (.surplus (some d))
  | none => distinct .recordKey (entries.map (·.key))

def readEntries (surplus? : Form → Option Delimiter) (trees : List TokenTree)
    (type : (value : Rest trees) → Except Fault (Form × Rest value.val)) :
    Except Fault (List (Entry Form)) := do
  let entries ← separated trees fun left =>
    readEntry left.val fun value => type (left.thenRest value)
  checkEntries surplus? entries
  return entries

def TypeReader.readRecord (types : TypeReader Form) (trees : List TokenTree) :
    Except Fault (List (Entry Form)) :=
  readEntries types.surplus? trees fun value => types.read value.val

end TypeCalculus.Phrase
