import TypeCalculus.Record.Basic
import TypeCalculus.LabelSet

namespace TypeCalculus.Record

def pick? : Ty → Ty → Option Ty
  | .nil, _ => some .nil
  | .cons (.field key value) tail, chosen => do
    let kept ← LabelSet.contains? chosen key
    let rest ← pick? tail chosen
    return if kept then .cons (.field key value) rest else rest
  | _, _ => none

theorem pick?_ofFields {fields : List (Ty × Ty)} {chosen : List Ty}
    (each : ∀ f ∈ fields, Label.IsLabel f.1) (eachChosen : ∀ l ∈ chosen, Label.IsLabel l) :
    pick? (ofFields fields) (.ofList chosen) =
      some (ofFields (fields.filter fun f => decide (f.1 ∈ chosen))) := by
  induction fields with
  | nil => rfl
  | cons f fs rest =>
    simp only [ofFields_cons, pick?, LabelSet.contains?_ofList eachChosen (each f (by simp)),
      rest fun x member => each x (by simp [member])]
    by_cases kept : f.1 ∈ chosen <;> simp [kept, ofFields_cons]

def omit? (t dropped : Ty) : Option Ty := do
  pick? t (← LabelSet.diff? (← keys? t) dropped)

def sharedKeys? (t u : Ty) : Option Ty := do
  LabelSet.intersect? (← keys? t) (← keys? u)

def diffKeys? (t u : Ty) : Option Ty := do
  LabelSet.diff? (← keys? t) (← keys? u)

def allKeys? (t u : Ty) : Option Ty := do
  LabelSet.union? (← keys? t) (← keys? u)

end TypeCalculus.Record
