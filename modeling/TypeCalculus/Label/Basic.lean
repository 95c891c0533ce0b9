import TypeCalculus.Label.Digits
import TypeCalculus.Truth

namespace TypeCalculus.Label

open Utf8 (Octet)

def digitsAgree? (a b : Ty) : Option Bool := do
  let left ← digit? a
  let right ← digit? b
  return left == right

-- Whether two chains of digits are equal. Two chains that end together are compared to their ends,
-- and past the end of one of them nothing is read: what follows may be any type.
def digitListsAgree? : Ty → Ty → Option Bool
  | .nibbleNil, .nibbleNil => some true
  | .nibbleNil, .nibbleCons _ _ => some false
  | .nibbleCons _ _, .nibbleNil => some false
  | .nibbleCons a as, .nibbleCons b bs => do
    let first ← digitsAgree? a b
    let rest ← digitListsAgree? as bs
    return first && rest
  | _, _ => none

def equal? : Ty → Ty → Option Bool
  | .label a, .label b => digitListsAgree? a b
  | _, _ => none

def digitsOf (text : String) : List Nibble :=
  (Utf8.encode text.toList).flatMap split

def ofText (text : String) : Ty :=
  .label (ofDigits (digitsOf text))

def octets? : Ty → Option (List Octet)
  | .label digits => (digits? digits).map pairUp
  | _ => none

def size? : Ty → Option Nat
  | .label digits => (digitCount? digits).map (· / 2)
  | _ => none

def name? (t : Ty) : Option String :=
  (octets? t).map fun octets => .ofList (Utf8.decodeLossy octets)

-- The text of a label that is the label of a text.
def text? : Ty → Option String
  | .label digits => do
    let digits ← digits? digits
    if digits.length % 2 = 0 then
      return .ofList (← Utf8.decode? (pairUp digits))
    else none
  | _ => none

def IsLabel (t : Ty) : Prop :=
  ∃ digits, t = .label (ofDigits digits)

theorem isLabel_ofText (text : String) : IsLabel (ofText text) :=
  ⟨_, rfl⟩

theorem digitListsAgree?_ofDigits (ds es : List Nibble) :
    digitListsAgree? (ofDigits ds) (ofDigits es) = some (decide (ds = es)) := by
  induction ds generalizing es with
  | nil => cases es <;> simp [ofDigits, digitListsAgree?]
  | cons d ds rest =>
    cases es with
    | nil => simp [ofDigits, digitListsAgree?]
    | cons e es =>
      by_cases same : d = e <;> simp [ofDigits, digitListsAgree?, digitsAgree?, digit?, rest, same]

theorem equal?_of_isLabel {a b : Ty} (left : IsLabel a) (right : IsLabel b) :
    equal? a b = some (decide (a = b)) := by
  obtain ⟨ds, rfl⟩ := left
  obtain ⟨es, rfl⟩ := right
  rw [equal?, digitListsAgree?_ofDigits]
  by_cases same : ds = es
  · simp [same]
  · have differ : ofDigits ds ≠ ofDigits es := fun written => same (ofDigits_injective written)
    simp [same, differ]

theorem size?_isSome_iff {t : Ty} : (size? t).isSome ↔ IsLabel t := by
  cases t with
  | label digits =>
    rw [size?, Option.isSome_map, IsLabel]
    constructor
    · intro counted
      obtain ⟨n, found⟩ := Option.isSome_iff_exists.mp counted
      obtain ⟨ds, rfl⟩ := exists_of_digitCount? found
      exact ⟨ds, rfl⟩
    · rintro ⟨ds, same⟩
      cases same
      simp [digitCount?_ofDigits]
  | _ => simp [size?, IsLabel]

theorem octets?_isSome_iff {t : Ty} : (octets? t).isSome ↔ IsLabel t := by
  cases t with
  | label digits =>
    simp only [octets?, Option.isSome_map, IsLabel, Ty.label.injEq]
    constructor
    · intro found
      obtain ⟨ds, read⟩ := Option.isSome_iff_exists.mp found
      exact ⟨ds, digits?_eq_some_iff.mp read⟩
    · rintro ⟨ds, rfl⟩
      simp [digits?_ofDigits]
  | _ => simp [octets?, IsLabel]

example : equal? (ofText "ab") (ofText "a") = some false := by decide

example : name? (ofText "é日") = some "é日" := by decide

example : name? (.label (ofDigits [6, 1, 7])) = some "a" := by decide

end TypeCalculus.Label
