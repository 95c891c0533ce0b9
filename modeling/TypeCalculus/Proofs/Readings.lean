import TypeCalculus.Naming
import TypeCalculus.Proofs.Lengths

namespace TypeCalculus

namespace Label

theorem name?_isSome_iff {t : Ty} : (name? t).isSome ↔ IsLabel t := by
  rw [name?, Option.isSome_map, octets?_isSome_iff]

end Label

namespace Key

def name (key : Key) : String :=
  (Label.name? key.ty).get (Label.name?_isSome_iff.mpr key.isLabel)

theorem name?_ty (key : Key) : Label.name? key.ty = some key.name :=
  (Option.some_get _).symm

end Key

namespace Naming

theorem item?_ty (key : Key) : item? key.ty = some key.name := by
  obtain ⟨digits, written⟩ := key.isLabel
  rw [← key.name?_ty, written]
  rfl

theorem item?_field (key : Key) (value : Ty) : item? (.field key.ty value) = some key.name :=
  key.name?_ty

theorem list?_ofKeys (keys : List Key) :
    list? (LabelSet.ofKeys keys) = some (keys.map Key.name) := by
  induction keys with
  | nil => rfl
  | cons key keys rest =>
    rw [LabelSet.ofKeys_cons, list?, item?_ty, rest]
    rfl

theorem list?_ofRows (rows : Record.Rows) :
    list? (Record.ofRows rows) = some (rows.keys.map Key.name) := by
  induction rows with
  | nil => rfl
  | cons row rows rest =>
    rw [Record.ofRows_cons, list?, item?_field, rest]
    rfl

end Naming

namespace Record

open Sequence (length? length?_ofKeys length?_ofRows)

theorem readings_agree {t : Ty} {n : Nat} (sized : size? t = some n) :
    ∃ (rows : Rows) (names : List String),
      t = ofRows rows ∧
      keys? t = some (LabelSet.ofKeys rows.keys) ∧
      Naming.list? t = some names ∧
      (do Naming.list? (← keys? t)) = some names ∧
      names.map some = rows.map (fun row => Label.name? row.1.ty) ∧
      n = names.length ∧
      ∃ outcome, outcome = (if n ≤ 64 then some (.number n) else none) ∧
        length? t = outcome ∧ (do length? (← keys? t)) = outcome := by
  have one : IsRecord t := size?_isSome_iff.mp (Option.isSome_of_eq_some sized)
  obtain ⟨rows, rfl⟩ := isRecord_iff.mp one
  rw [size?_ofRows] at sized
  cases sized
  refine ⟨rows, rows.keys.map Key.name, rfl, keys?_ofRows rows, Naming.list?_ofRows rows, ?_, ?_,
    ?_, _, rfl, length?_ofRows rows, ?_⟩
  · rw [keys?_ofRows]
    exact Naming.list?_ofKeys rows.keys
  · simp only [Rows.keys, List.map_map, Function.comp_def, Key.name?_ty]
  · rw [List.length_map, Rows.length_keys]
  · rw [keys?_ofRows, Option.bind_eq_bind, Option.bind_some, length?_ofKeys, Rows.length_keys]

-- One key stands twice, and the octet of another one is no text.
theorem readings_agree_repeated_key :
    size? (ofFields [(Label.ofText "a", .nil), (.label (Label.ofDigits [15, 15]), .leaf .u8),
      (Label.ofText "a", .leaf .char)]) = some 3 ∧
    ∃ names : List String, names.length = 3 ∧
      Naming.list? (ofFields [(Label.ofText "a", .nil),
        (.label (Label.ofDigits [15, 15]), .leaf .u8), (Label.ofText "a", .leaf .char)]) =
          some names ∧
      Naming.list? (.ofList [Label.ofText "a", .label (Label.ofDigits [15, 15]),
        Label.ofText "a"]) = some names ∧
      length? (ofFields [(Label.ofText "a", .nil), (.label (Label.ofDigits [15, 15]), .leaf .u8),
        (Label.ofText "a", .leaf .char)]) = some (.number 3) := by
  have sized : size? (ofFields [(Label.ofText "a", .nil),
      (.label (Label.ofDigits [15, 15]), .leaf .u8), (Label.ofText "a", .leaf .char)]) = some 3 := by
    decide
  obtain ⟨rows, names, _, _, named, keyed, _, counted, outcome, value, long, _⟩ :=
    readings_agree sized
  exact ⟨sized, names, counted.symm, named, keyed, long.trans value⟩

end Record

end TypeCalculus
