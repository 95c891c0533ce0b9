import TypeCalculus.Proofs.Rows

namespace TypeCalculus.Record

inductive Whole : Ty → Prop
  | leaf (kind : Leaf) : Whole (.leaf kind)
  | unit : Whole (.tuple [])
  | vector (element : Ty) : Whole (.vector element)
  | boxed (content : Ty) : Whole (.boxed content)
  | label (digits : Ty) : Whole (.label digits)

-- The end of a list of fields stands where any type may stand, so a list may end in any type with
-- a partial form.
inductive PartialForm : Ty → Ty → Prop
  | whole {t : Ty} (kept : Whole t) : PartialForm t t
  | optional {payload form : Ty} (inner : PartialForm payload form) :
      PartialForm (.optional payload) (.optional form)
  | nil : PartialForm .nil .nil
  | field {key value form tail rest : Ty} (here : PartialForm value form)
      (later : PartialForm tail rest) :
      PartialForm (.cons (.field key value) tail) (.cons (.field key (.optional form)) rest)

theorem deepPartial?_of_partialForm {t form : Ty} (related : PartialForm t form) :
    deepPartial? t = some form := by
  induction related with
  | whole kept => cases kept <;> rfl
  | optional _ inner => rw [deepPartial?, inner, Option.map_some]
  | nil => rfl
  | field _ _ here later => rw [deepPartial?, here, later]; rfl

-- By the cases of the function: a value lies deeper in a list than its head and its tail.
theorem partialForm_of_deepPartial? {t form : Ty} (resolved : deepPartial? t = some form) :
    PartialForm t form := by
  fun_induction deepPartial? t generalizing form with
  | case1 => cases resolved; exact .nil
  | case2 key value tail here later =>
    simp only [Option.bind_eq_bind, Option.bind_eq_some_iff] at resolved
    obtain ⟨first, found, rest, others, same⟩ := resolved
    cases same
    exact .field (here found) (later others)
  | case3 payload inner =>
    obtain ⟨form, found, rfl⟩ := Option.map_eq_some_iff.mp resolved
    exact .optional (inner found)
  | case4 kind => cases resolved; exact .whole (.leaf kind)
  | case5 => cases resolved; exact .whole .unit
  | case6 element => cases resolved; exact .whole (.vector element)
  | case7 content => cases resolved; exact .whole (.boxed content)
  | case8 digits => cases resolved; exact .whole (.label digits)
  | case9 => cases resolved

theorem deepPartial?_eq_some_iff_partialForm {t form : Ty} :
    deepPartial? t = some form ↔ PartialForm t form :=
  ⟨partialForm_of_deepPartial?, deepPartial?_of_partialForm⟩

theorem deepPartial?_isSome_iff {t : Ty} :
    (deepPartial? t).isSome ↔ ∃ form, PartialForm t form := by
  simp only [Option.isSome_iff_exists, deepPartial?_eq_some_iff_partialForm]

namespace PartialForm

variable {t form : Ty}

-- A value that was wrapped is an optional of a partial form, so the wrapping stays and the next form
-- is taken of what it holds.
theorem again (related : PartialForm t form) : ∃ next, PartialForm form next := by
  induction related with
  | whole kept => exact ⟨_, .whole kept⟩
  | optional _ inner =>
    obtain ⟨next, further⟩ := inner
    exact ⟨_, .optional further⟩
  | nil => exact ⟨_, .nil⟩
  | field _ _ here later =>
    obtain ⟨first, inside⟩ := here
    obtain ⟨rest, after⟩ := later
    exact ⟨_, .field (.optional inside) after⟩

theorem keys?_eq (related : PartialForm t form) : keys? form = keys? t := by
  induction related with
  | field _ _ _ later => rw [keys?, keys?, later]
  | _ => rfl

theorem get?_rel (related : PartialForm t form) (wanted : Ty) :
    Option.Rel (fun value wrapped => ∃ inner, PartialForm value inner ∧ wrapped = .optional inner)
      (get? t wanted) (get? form wanted) := by
  induction related with
  | whole kept => cases kept <;> exact .none
  | optional => exact .none
  | nil => exact .none
  | @field key value form tail rest here _ _ later =>
    rw [get?_cons, get?_cons]
    cases Label.equal? key wanted with
    | none => exact .none
    | some found =>
      cases found with
      | true => exact .some ⟨form, here, rfl⟩
      | false => exact later

end PartialForm

end TypeCalculus.Record
