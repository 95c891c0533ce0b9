import TypeCalculus.Ty.Basic
import TypeCalculus.Text.Utf8

namespace TypeCalculus.Label

open Utf8 (Octet)

def digit? : Ty → Option Nibble
  | .nibble digit => some digit
  | _ => none

def ofDigits : List Nibble → Ty
  | [] => .nibbleNil
  | d :: ds => .nibbleCons (.nibble d) (ofDigits ds)

def digits? : Ty → Option (List Nibble)
  | .nibbleNil => some []
  | .nibbleCons head tail => do
    let first ← digit? head
    let rest ← digits? tail
    return first :: rest
  | _ => none

def digitCount? : Ty → Option Nat
  | .nibbleNil => some 0
  | .nibbleCons head tail => do
    let _ ← digit? head
    return (← digitCount? tail) + 1
  | _ => none

def split (octet : Octet) : List Nibble :=
  [⟨octet.toNat / 16, by have := octet.toNat_lt; omega⟩, ⟨octet.toNat % 16, by omega⟩]

def join (high low : Nibble) : Octet :=
  .ofNat (16 * high.val + low.val)

-- Digits two by two; a last one without a partner is dropped.
def pairUp : List Nibble → List Octet
  | high :: low :: rest => join high low :: pairUp rest
  | _ => []

theorem digits?_ofDigits (ds : List Nibble) : digits? (ofDigits ds) = some ds := by
  induction ds with
  | nil => rfl
  | cons d ds rest => simp [ofDigits, digits?, digit?, rest]

theorem digits?_eq_some_iff {t : Ty} {ds : List Nibble} :
    digits? t = some ds ↔ t = ofDigits ds := by
  refine ⟨fun read => ?_, fun written => written ▸ digits?_ofDigits ds⟩
  induction t generalizing ds with
  | nibbleNil => cases read; rfl
  | nibbleCons head tail _ ended =>
    cases head with
    | nibble digit =>
      obtain ⟨rest, found, same⟩ := Option.bind_eq_some_iff.mp read
      cases same
      rw [ofDigits, ended found]
    | _ => cases read
  | _ => cases read

theorem ofDigits_injective {ds es : List Nibble} (written : ofDigits ds = ofDigits es) :
    ds = es := by
  simpa [digits?_ofDigits] using congrArg digits? written

theorem digitCount?_ofDigits (ds : List Nibble) : digitCount? (ofDigits ds) = some ds.length := by
  induction ds with
  | nil => rfl
  | cons d ds rest => simp [ofDigits, digitCount?, digit?, rest]

theorem exists_of_digitCount? {t : Ty} {n : Nat} (counted : digitCount? t = some n) :
    ∃ ds, t = ofDigits ds := by
  induction t generalizing n with
  | nibbleNil => exact ⟨[], rfl⟩
  | nibbleCons head tail _ ended =>
    cases head with
    | nibble digit =>
      obtain ⟨m, found, _⟩ := Option.bind_eq_some_iff.mp counted
      obtain ⟨ds, rfl⟩ := ended found
      exact ⟨digit :: ds, rfl⟩
    | _ => cases counted
  | _ => cases counted

theorem join_split (octet : Octet) : pairUp (split octet) = [octet] := by
  have bound := octet.toNat_lt
  simp only [split, pairUp, join, List.cons.injEq, and_true]
  rw [← UInt8.toNat_inj, UInt8.toNat_ofNat']
  omega

theorem length_pairUp (ds : List Nibble) : (pairUp ds).length = ds.length / 2 := by
  fun_induction pairUp ds with
  | case1 high low rest ih => simp only [List.length_cons, ih]; omega
  | case2 ds short =>
    match ds, short with
    | [], _ => rfl
    | [_], _ => simp
    | high :: low :: rest, short => exact absurd rfl (short high low rest)

end TypeCalculus.Label
