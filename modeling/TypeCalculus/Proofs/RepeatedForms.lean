import Mathlib.Logic.Function.Iterate
import TypeCalculus.Proofs.Shapes

namespace TypeCalculus.Record

def deepPartials? : Nat → Ty → Option Ty
  | 0, t => some t
  | n + 1, t => do deepPartial? (← deepPartials? n t)

theorem deepPartials?_succ_eq_some_iff {n : Nat} {t form : Ty} :
    deepPartials? (n + 1) t = some form ↔
      ∃ before, deepPartials? n t = some before ∧ PartialForm before form := by
  simp only [deepPartials?, Option.bind_eq_bind, Option.bind_eq_some_iff,
    deepPartial?_eq_some_iff_partialForm]

-- What carries the induction is that the last form has a partial form again.
theorem exists_deepPartials? {t first : Ty} (related : PartialForm t first) (n : Nat) :
    ∃ form next, deepPartials? n t = some form ∧ PartialForm form next := by
  induction n with
  | zero => exact ⟨t, first, rfl, related⟩
  | succ n run =>
    obtain ⟨form, next, reached, step⟩ := run
    obtain ⟨after, again⟩ := step.again
    exact ⟨next, after, deepPartials?_succ_eq_some_iff.mpr ⟨form, reached, step⟩, again⟩

theorem deepPartials?_whole {t : Ty} (kept : Whole t) (n : Nat) : deepPartials? n t = some t := by
  induction n with
  | zero => rfl
  | succ n run => exact deepPartials?_succ_eq_some_iff.mpr ⟨t, run, .whole kept⟩

theorem partialForm_optionals_iff {n : Nat} {t form : Ty} :
    PartialForm (Ty.optional^[n] t) form ↔
      ∃ inner, PartialForm t inner ∧ form = Ty.optional^[n] inner := by
  induction n generalizing form with
  | zero => simp
  | succ n rest =>
    rw [Function.iterate_succ_apply']
    constructor
    · intro related
      cases related with
      | whole kept => cases kept
      | optional inside =>
        obtain ⟨inner, step, rfl⟩ := rest.mp inside
        exact ⟨inner, step, (Function.iterate_succ_apply' _ _ _).symm⟩
    · rintro ⟨inner, step, rfl⟩
      rw [Function.iterate_succ_apply']
      exact .optional (rest.mpr ⟨inner, step, rfl⟩)

theorem keys?_deepPartials? {n : Nat} {t form : Ty} (reached : deepPartials? n t = some form) :
    keys? form = keys? t := by
  induction n generalizing form with
  | zero => cases reached; rfl
  | succ n run =>
    obtain ⟨before, earlier, step⟩ := deepPartials?_succ_eq_some_iff.mp reached
    rw [step.keys?_eq, run earlier]

theorem rel_trans {a b c : Option Ty} {first second both : Ty → Ty → Prop}
    (compose : ∀ x y z, first x y → second y z → both x z) (left : Option.Rel first a b)
    (right : Option.Rel second b c) : Option.Rel both a c := by
  cases left with
  | none => cases right; exact .none
  | some related =>
    cases right with
    | some next => exact .some (compose _ _ _ related next)

theorem parts_of_rel {a b : Option Ty} {holds : Ty → Ty → Prop} (related : Option.Rel holds a b) :
    (b.isSome ↔ a.isSome) ∧ ∀ x, a = some x → ∃ y, holds x y ∧ b = some y := by
  cases related with
  | none => exact ⟨Iff.rfl, fun _ found => nomatch found⟩
  | @some x y pair =>
    refine ⟨Iff.rfl, ?_⟩
    intro x' same
    cases same
    exact ⟨y, pair, rfl⟩

theorem get?_deepPartials? {n : Nat} {t form : Ty} (reached : deepPartials? n t = some form)
    (wanted : Ty) :
    Option.Rel (fun value wrapped => ∃ inner, deepPartials? n value = some inner ∧
        wrapped = Ty.optional^[n] inner)
      (get? t wanted) (get? form wanted) := by
  induction n generalizing form with
  | zero =>
    cases reached
    cases get? t wanted with
    | none => exact .none
    | some value => exact .some ⟨value, rfl, rfl⟩
  | succ n run =>
    obtain ⟨before, earlier, step⟩ := deepPartials?_succ_eq_some_iff.mp reached
    refine rel_trans ?_ (run earlier) (step.get?_rel wanted)
    rintro value _ _ ⟨inner, inside, rfl⟩ ⟨wrapped, related, rfl⟩
    obtain ⟨next, further, rfl⟩ := partialForm_optionals_iff.mp related
    refine ⟨next, deepPartials?_succ_eq_some_iff.mpr ⟨inner, inside, further⟩, ?_⟩
    rw [Function.iterate_succ_apply']

theorem deepPartials?_along_keys :
    (∀ t : Ty, (deepPartial? t).isSome → ∀ n : Nat, ∃ form, deepPartials? n t = some form ∧
      keys? form = keys? t ∧
      (IsRecord t → (keys? form).isSome) ∧
      ∀ wanted : Ty,
        ((get? form wanted).isSome ↔ (get? t wanted).isSome) ∧
        ∀ value, get? t wanted = some value →
          ∃ inner, deepPartials? n value = some inner ∧
            get? form wanted = some (Ty.optional^[n] inner)) ∧
    ∀ t : Ty, Whole t → ∀ n : Nat, deepPartials? n t = some t := by
  refine ⟨?_, fun _ => deepPartials?_whole⟩
  intro t resolved n
  obtain ⟨first, related⟩ := deepPartial?_isSome_iff.mp resolved
  obtain ⟨form, _, reached, _⟩ := exists_deepPartials? related n
  have named := keys?_deepPartials? reached
  refine ⟨form, reached, named, ?_, ?_⟩
  · intro one
    obtain ⟨rows, rfl⟩ := isRecord_iff.mp one
    rw [named, keys?_ofRows, Option.isSome_some]
  · intro wanted
    obtain ⟨alike, each⟩ := parts_of_rel (get?_deepPartials? reached wanted)
    refine ⟨alike, ?_⟩
    intro value found
    obtain ⟨_, ⟨inner, inside, rfl⟩, target⟩ := each value found
    exact ⟨inner, inside, target⟩

-- The value is an optional record: its optional stays in its place and two are added around it.
theorem deepPartials?_along_keys_twice :
    (deepPartial? (ofTexts [("a", .optional (ofTexts [("x", .leaf .u8)]))])).isSome ∧
    IsRecord (ofTexts [("a", .optional (ofTexts [("x", .leaf .u8)]))]) ∧
    get? (ofTexts [("a", .optional (ofTexts [("x", .leaf .u8)]))]) (Label.ofText "a") =
      some (.optional (ofTexts [("x", .leaf .u8)])) ∧
    Whole (.vector .unregistered) ∧
    (∃ form, deepPartials? 2 (ofTexts [("a", .optional (ofTexts [("x", .leaf .u8)]))]) = some form ∧
      (keys? form).isSome ∧
      get? form (Label.ofText "a") = some (.optional (.optional (.optional
        (ofTexts [("x", .optional (.optional (.leaf .u8)))]))))) ∧
    deepPartials? 2 (.vector .unregistered) = some (.vector .unregistered) := by
  have resolved : (deepPartial? (ofTexts [("a", .optional (ofTexts [("x", .leaf .u8)]))])).isSome :=
    by decide
  have one : IsRecord (ofTexts [("a", .optional (ofTexts [("x", .leaf .u8)]))]) :=
    isRecord_iff.mpr ⟨_, ofTexts_eq _⟩
  have found : get? (ofTexts [("a", .optional (ofTexts [("x", .leaf .u8)]))]) (Label.ofText "a") =
      some (.optional (ofTexts [("x", .leaf .u8)])) := by decide
  have kept : Whole (.vector .unregistered) := .vector _
  obtain ⟨records, wholes⟩ := deepPartials?_along_keys
  obtain ⟨form, reached, _, named, along⟩ := records _ resolved 2
  obtain ⟨inner, inside, wrapped⟩ := (along (Label.ofText "a")).2 _ found
  refine ⟨resolved, one, found, kept, ⟨form, reached, named one, ?_⟩, wholes _ kept 2⟩
  have computed : deepPartials? 2 (.optional (ofTexts [("x", .leaf .u8)])) =
      some (.optional (ofTexts [("x", .optional (.optional (.leaf .u8)))])) := by decide
  cases inside.symm.trans computed
  exact wrapped

end TypeCalculus.Record
