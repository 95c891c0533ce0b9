import TypeCalculus.Phrase.Basic

namespace TypeCalculus.Phrase

def itemPath (module item : String) : String :=
  "::type_algebra::" ++ module ++ "::" ++ item

def digitsExpansion : List Nibble → String
  | [] => itemPath "primitives::label" "NNil"
  | digit :: rest =>
    itemPath "primitives::label" "NCons" ++ "<" ++
      itemPath "primitives::nibble" (Nibble.name digit) ++ "," ++ digitsExpansion rest ++ ">"

def labelExpansion (text : String) : String :=
  itemPath "primitives::label" "Str" ++ "<" ++ digitsExpansion (Label.digitsOf text) ++ ">"

def listExpansion : List String → String
  | [] => itemPath "primitives::list" "HNil"
  | element :: rest =>
    itemPath "primitives::list" "HCons" ++ "<" ++ element ++ "," ++ listExpansion rest ++ ">"

def fieldExpansion {Form : Type} (entry : Entry Form) : String :=
  itemPath "record" "Field" ++ "<" ++ labelExpansion entry.key ++ "," ++ entry.source ++ ">"

def labelsExpansion (texts : List String) : String :=
  listExpansion (texts.map labelExpansion)

def recordExpansion {Form : Type} (entries : List (Entry Form)) : String :=
  listExpansion (entries.map fieldExpansion)

-- The type of a number; a negative one needs braces.
def numberExpansion (value : Int) : String :=
  let numeral := value.natAbs.repr
  "Nat<" ++ (if value < 0 then "\x7b-" ++ numeral ++ "\x7d" else numeral) ++ ">"

def declarationExpansion (subject : Int) (relation items : String) : String :=
  "impl" ++ relation ++ "for" ++ numberExpansion subject ++ "\x7b" ++ items ++ "\x7d"

def typeItem (name type : String) : String :=
  "type" ++ name ++ "=" ++ type ++ ";"

def rowExpansion (row : Number.Row) : String :=
  let declare := declarationExpansion row.value
  declare "sealed::Sealed" "" ++
    declare "Natural"
      ("constVALUE:u8=" ++ row.value.repr ++ ";" ++ typeItem "Label" (labelExpansion row.text)) ++
    declare "NatNext" (typeItem "Out" (numberExpansion row.next)) ++
    declare "NatPrev" (typeItem "Out" (numberExpansion row.prev)) ++
    declare "NatIsZero" (typeItem "Out" (Ty.truthName row.isZero)) ++
    declare "NatIsOne" (typeItem "Out" (Ty.truthName row.isOne)) ++
    declare "NatLeap"
      (typeItem "Up" (numberExpansion row.up) ++ typeItem "Down" (numberExpansion row.down)) ++
    declare "NatStride" (typeItem "Step" row.step.name)

def expansion : Phrase → String
  | .label text => labelExpansion text
  | .labels texts => labelsExpansion texts
  | .record entries => recordExpansion entries
  | .table declared => String.join (declared.rows.map rowExpansion)

end TypeCalculus.Phrase
