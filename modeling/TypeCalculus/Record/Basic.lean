import TypeCalculus.Ty.Spine
import TypeCalculus.Label.Basic

namespace TypeCalculus.Record

def ofFields (fields : List (Ty × Ty)) : Ty :=
  .ofList (fields.map fun (key, value) => .field key value)

def ofTexts (entries : List (String × Ty)) : Ty :=
  ofFields (entries.map fun (text, value) => (Label.ofText text, value))

-- How many fields a record has, whose keys are labels. Its values have to be static types as well,
-- which needs no check: no type of `Ty` holds a lifetime shorter than that.
def size? : Ty → Option Nat
  | .nil => some 0
  | .cons (.field key _) tail => do
    let _ ← Label.size? key
    return (← size? tail) + 1
  | _ => none

def keys? : Ty → Option Ty
  | .nil => some .nil
  | .cons (.field key _) tail => (keys? tail).map (.cons key)
  | _ => none

-- The value of the first field with a key. Every key before it has to be comparable with the wanted
-- one; nothing is asked of what follows it.
def get? : Ty → Ty → Option Ty
  | .cons (.field key value) tail, wanted => do
    if ← Label.equal? key wanted then return value else get? tail wanted
  | _, _ => none

def IsRecord (t : Ty) : Prop :=
  ∃ fields : List (Ty × Ty), (∀ f ∈ fields, Label.IsLabel f.1) ∧ t = ofFields fields

theorem ofFields_cons (f : Ty × Ty) (fields : List (Ty × Ty)) :
    ofFields (f :: fields) = .cons (.field f.1 f.2) (ofFields fields) :=
  rfl

theorem size?_ofFields {fields : List (Ty × Ty)} (each : ∀ f ∈ fields, Label.IsLabel f.1) :
    size? (ofFields fields) = some fields.length := by
  induction fields with
  | nil => rfl
  | cons f fs rest =>
    obtain ⟨n, counted⟩ := Option.isSome_iff_exists.mp
      (Label.size?_isSome_iff.mpr (each f (by simp)))
    rw [ofFields_cons, size?, counted, rest fun x member => each x (by simp [member])]
    rfl

theorem size?_isSome_iff {t : Ty} : (size? t).isSome ↔ IsRecord t := by
  constructor
  · intro measured
    induction t with
    | nil => exact ⟨[], by simp, rfl⟩
    | cons head tail _ ended =>
      cases head with
      | field key value =>
        rw [size?] at measured
        cases keyed : Label.size? key with
        | none => simp [keyed] at measured
        | some n =>
          cases counted : size? tail with
          | none => simp [keyed, counted] at measured
          | some m =>
            obtain ⟨fields, each, rfl⟩ := ended (by simp [counted])
            have isLabel : Label.IsLabel key := Label.size?_isSome_iff.mp (by simp [keyed])
            exact ⟨(key, value) :: fields, by simpa [isLabel] using each, rfl⟩
      | _ => simp [size?] at measured
    | _ => simp [size?] at measured
  · rintro ⟨fields, each, rfl⟩
    simp [size?_ofFields each]

theorem keys?_ofFields (fields : List (Ty × Ty)) :
    keys? (ofFields fields) = some (.ofList (fields.map (·.1))) := by
  induction fields with
  | nil => rfl
  | cons f fs rest => simp [ofFields_cons, keys?, rest, Ty.ofList]

def getStep? : Ty → Ty → Ty → Ty → Option Ty
  | .truth true, value, _, _ => some value
  | .truth false, _, tail, wanted => get? tail wanted
  | _, _, _, _ => none

theorem get?_cons (key value tail wanted : Ty) :
    get? (.cons (.field key value) tail) wanted =
      (Label.equal? key wanted).bind fun found => getStep? (.truth found) value tail wanted := by
  rw [get?]
  cases Label.equal? key wanted with
  | none => rfl
  | some found => cases found <;> rfl

theorem get?_here {key wanted : Ty} (equal : Label.equal? key wanted = some true)
    (value tail : Ty) : get? (.cons (.field key value) tail) wanted = some value := by
  rw [get?_cons, equal, Option.bind_some, getStep?]

theorem get?_later {key wanted : Ty} (differ : Label.equal? key wanted = some false)
    (value tail : Ty) : get? (.cons (.field key value) tail) wanted = get? tail wanted := by
  rw [get?_cons, differ, Option.bind_some, getStep?]

end TypeCalculus.Record
