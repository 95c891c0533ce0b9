import TypeCalculus.Ty.Spine
import TypeCalculus.Label.Basic

namespace TypeCalculus.LabelSet

def contains? : Ty → Ty → Option Bool
  | .nil, _ => some false
  | .cons head tail, label => do
    let here ← Label.equal? head label
    let later ← contains? tail label
    return here || later
  | _, _ => none

def diff? : Ty → Ty → Option Ty
  | .nil, _ => some .nil
  | .cons head tail, other => do
    let shared ← contains? other head
    let rest ← diff? tail other
    return if shared then rest else .cons head rest
  | _, _ => none

-- Whether a list is empty. Nothing is asked of what follows the first element.
def isEmpty? : Ty → Option Bool
  | .nil => some true
  | .cons _ _ => some false
  | _ => none

def subset? (a b : Ty) : Option Bool := do
  isEmpty? (← diff? a b)

def equal? (a b : Ty) : Option Bool := do
  let forth ← subset? a b
  let back ← subset? b a
  return forth && back

-- The difference, for a second operand that is a subset of the first.
def drop? (a b : Ty) : Option Ty := do
  if ← subset? b a then diff? a b else none

def union? (a b : Ty) : Option Ty := do
  Ty.concat? a (← diff? b a)

def intersect? (a b : Ty) : Option Ty := do
  diff? a (← diff? a b)

def dedup? : Ty → Option Ty
  | .nil => some .nil
  | .cons head tail => do
    let again ← contains? tail head
    let rest ← dedup? tail
    return if again then rest else .cons head rest
  | _ => none

-- Of labels, every comparison has an answer: the operators are those of lists.
theorem contains?_ofList {labels : List Ty} {label : Ty} (each : ∀ l ∈ labels, Label.IsLabel l)
    (one : Label.IsLabel label) :
    contains? (.ofList labels) label = some (decide (label ∈ labels)) := by
  induction labels with
  | nil => simp [Ty.ofList, contains?]
  | cons l ls rest =>
    simp [Ty.ofList, contains?, rest fun x member => each x (by simp [member]),
      Label.equal?_of_isLabel (each l (by simp)) one, eq_comm]

theorem diff?_ofList {labels others : List Ty} (each : ∀ l ∈ labels, Label.IsLabel l)
    (eachOther : ∀ l ∈ others, Label.IsLabel l) :
    diff? (.ofList labels) (.ofList others) =
      some (.ofList (labels.filter fun l => decide (l ∉ others))) := by
  induction labels with
  | nil => simp [Ty.ofList, diff?]
  | cons l ls rest =>
    simp only [Ty.ofList, diff?, contains?_ofList eachOther (each l (by simp)),
      rest fun x member => each x (by simp [member])]
    by_cases shared : l ∈ others <;> simp [shared, Ty.ofList]

def ofTexts (texts : List String) : Ty :=
  .ofList (texts.map Label.ofText)

example : union? (ofTexts ["a", "b"]) (ofTexts ["c", "a"]) = some (ofTexts ["a", "b", "c"]) := by
  decide

example : dedup? (ofTexts ["a", "b", "a"]) = some (ofTexts ["b", "a"]) := by decide

example : drop? (ofTexts ["a"]) (ofTexts ["b"]) = none := by decide

end TypeCalculus.LabelSet
