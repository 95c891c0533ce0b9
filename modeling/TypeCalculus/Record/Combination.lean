import TypeCalculus.Record.Selection

namespace TypeCalculus.Record

-- The combined field for a key of the first record; `shared` says whether the second one has it.
def combineField? : Ty → Ty → Ty → Ty → Option Ty
  | .truth true, key, value, other => do return .field key (.both value (← get? other key))
  | .truth false, key, value, _ => some (.field key value)
  | _, _, _, _ => none

def combineLeft? : Ty → Ty → Option Ty
  | .nil, _ => some .nil
  | .cons (.field key value) tail, other => do
    let shared ← LabelSet.contains? (← keys? other) key
    let first ← combineField? (.truth shared) key value other
    let rest ← combineLeft? tail other
    return .cons first rest
  | _, _ => none

def combine? (t u : Ty) : Option Ty := do
  let left ← combineLeft? t u
  let right ← omit? u (← keys? t)
  Ty.concat? left right

def intersect? (t u : Ty) : Option Ty := do
  omit? u (← diffKeys? u t)

def merge? (t u : Ty) : Option Ty := do
  combine? (← omit? t (← sharedKeys? t u)) u

def overwrite? (t u : Ty) : Option Ty := do
  merge? t (← intersect? t u)

example :
    combine? (ofTexts [("a", .leaf .u8), ("b", .leaf .u8)]) (ofTexts [("c", .nil), ("b", .nil)]) =
      some (ofTexts [("a", .leaf .u8), ("b", .both (.leaf .u8) .nil), ("c", .nil)]) := by
  decide

example :
    merge? (ofTexts [("a", .leaf .u8), ("b", .leaf .u8)]) (ofTexts [("b", .nil)]) =
      some (ofTexts [("a", .leaf .u8), ("b", .nil)]) := by
  decide

end TypeCalculus.Record
