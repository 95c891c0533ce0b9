import TypeCalculus.Proofs.Shapes

namespace TypeCalculus.Record

def restored? : Ty → Option Ty
  | .nil => some .nil
  | .cons (.field key (.optional form)) rest => do
    let value ← restored? form
    let tail ← restored? rest
    return .cons (.field key value) tail
  | .optional form => (restored? form).map .optional
  | .leaf kind => some (.leaf kind)
  | .tuple [] => some (.tuple [])
  | .vector element => some (.vector element)
  | .boxed content => some (.boxed content)
  | .label digits => some (.label digits)
  | _ => none

theorem restored?_of_partialForm {t form : Ty} (related : PartialForm t form) :
    restored? form = some t := by
  induction related with
  | whole kept => cases kept <;> rfl
  | optional _ inner => rw [restored?, inner, Option.map_some]
  | nil => rfl
  | field _ _ here later => rw [restored?, here, later]; rfl

-- By the cases of the function, which looks inside the value of a field.
theorem partialForm_of_restored? {t form : Ty} (resolved : restored? form = some t) :
    PartialForm t form := by
  fun_induction restored? form generalizing t with
  | case1 => cases resolved; exact .nil
  | case2 key form rest here later =>
    simp only [Option.bind_eq_bind, Option.bind_eq_some_iff] at resolved
    obtain ⟨value, found, tail, others, same⟩ := resolved
    cases same
    exact .field (here found) (later others)
  | case3 form inner =>
    obtain ⟨payload, found, rfl⟩ := Option.map_eq_some_iff.mp resolved
    exact .optional (inner found)
  | case4 kind => cases resolved; exact .whole (.leaf kind)
  | case5 => cases resolved; exact .whole .unit
  | case6 element => cases resolved; exact .whole (.vector element)
  | case7 content => cases resolved; exact .whole (.boxed content)
  | case8 digits => cases resolved; exact .whole (.label digits)
  | case9 => cases resolved

theorem restored?_eq_some_iff {t form : Ty} :
    restored? form = some t ↔ deepPartial? t = some form := by
  rw [deepPartial?_eq_some_iff_partialForm]
  exact ⟨partialForm_of_restored?, restored?_of_partialForm⟩

theorem deepPartial?_injective {x y form : Ty} (first : deepPartial? x = some form)
    (second : deepPartial? y = some form) : x = y := by
  have left := restored?_eq_some_iff.mpr first
  have right := restored?_eq_some_iff.mpr second
  exact Option.some.inj (left.symm.trans right)

theorem deepPartial?_injective_picked :
    (do deepPartial? (← pick? (ofTexts [("a", .leaf .u8), ("b", ofTexts [("x", .optional .nil)])])
      (LabelSet.ofTexts ["b"]))) =
      some (ofTexts [("b", .optional (ofTexts [("x", .optional (.optional .nil))]))]) ∧
    deepPartial? (ofTexts [("b", ofTexts [("x", .optional .nil)])]) =
      some (ofTexts [("b", .optional (ofTexts [("x", .optional (.optional .nil))]))]) ∧
    pick? (ofTexts [("a", .leaf .u8), ("b", ofTexts [("x", .optional .nil)])])
      (LabelSet.ofTexts ["b"]) = some (ofTexts [("b", ofTexts [("x", .optional .nil)])]) := by
  have first : (do deepPartial? (← pick?
      (ofTexts [("a", .leaf .u8), ("b", ofTexts [("x", .optional .nil)])])
      (LabelSet.ofTexts ["b"]))) =
      some (ofTexts [("b", .optional (ofTexts [("x", .optional (.optional .nil))]))]) := by decide
  have second : deepPartial? (ofTexts [("b", ofTexts [("x", .optional .nil)])]) =
      some (ofTexts [("b", .optional (ofTexts [("x", .optional (.optional .nil))]))]) := by decide
  obtain ⟨picked, resolved, formed⟩ := Option.bind_eq_some_iff.mp first
  exact ⟨first, second, resolved.trans (congrArg some (deepPartial?_injective formed second))⟩

end TypeCalculus.Record
