import TypeCalculus.Proofs.Combination

namespace TypeCalculus.Record

namespace Rows

def Partials (rows partials : Rows) : Prop :=
  rows.mapM partialRow? = some partials

namespace Partials

variable {t u p q : Rows}

theorem keys (forms : Partials t p) : p.keys = t.keys :=
  keys_mapM_partialRow? forms

theorem filter (forms : Partials t p) (kept : Key → Bool) :
    Partials (t.filter fun row => kept row.1) (p.filter fun row => kept row.1) := by
  induction t generalizing p with
  | nil => cases forms; rfl
  | cons row rows rest =>
    obtain ⟨value, others, found, foundRest, rfl⟩ := mapM_partialRow?_cons.mp forms
    cases stays : kept row.1 with
    | true =>
      simp only [List.filter_cons, stays, if_true]
      exact mapM_partialRow?_cons.mpr ⟨value, _, found, rest foundRest, rfl⟩
    | false =>
      simp only [List.filter_cons, stays, Bool.false_eq_true, if_false]
      exact rest foundRest

theorem append (first : Partials t p) (second : Partials u q) : Partials (t ++ u) (p ++ q) := by
  rw [Partials] at first second ⊢
  rw [List.mapM_append, first, second]
  rfl

theorem only (forms : Partials t p) (chosen : List Key) :
    Partials (t.only chosen) (p.only chosen) :=
  forms.filter fun key => key ∈ chosen

theorem without (forms : Partials t p) (dropped : List Key) :
    Partials (t.without dropped) (p.without dropped) :=
  forms.filter fun key => key ∉ dropped

theorem merge (first : Partials t p) (second : Partials u q) :
    Partials (t.merge u) (p.merge q) := by
  rw [Rows.merge, Rows.merge, second.keys]
  exact (first.without u.keys).append second

theorem overwrite (first : Partials t p) (second : Partials u q) :
    Partials (t.overwrite u) (p.overwrite q) := by
  rw [overwrite_eq_merge, overwrite_eq_merge, first.keys]
  exact first.merge (second.only t.keys)

theorem combine_of_apart (first : Partials t p) (second : Partials u q)
    (apart : ∀ key ∈ t.keys, key ∉ u.keys) : Partials (t.combine u) (p.combine q) := by
  have formsApart : ∀ key ∈ p.keys, key ∉ q.keys := by
    rw [first.keys, second.keys]
    exact apart
  rw [Rows.combine_of_apart apart, Rows.combine_of_apart formsApart]
  exact first.append second

-- A key of both records has a pair as its value, and the pair has no partial form.
theorem apart_of_combine (forms : Partials (t.combine u) p) : ∀ key ∈ t.keys, key ∉ u.keys := by
  intro key inFirst inSecond
  obtain ⟨left, foundLeft⟩ := Option.isSome_iff_exists.mp (lookup_isSome_iff.mpr inFirst)
  obtain ⟨right, foundRight⟩ := Option.isSome_iff_exists.mp (lookup_isSome_iff.mpr inSecond)
  have paired : (t.combine u).lookup key = some (.both left right) := by
    rw [lookup_combine, foundLeft, foundRight]
    rfl
  obtain ⟨before, after, split, _⟩ := List.lookup_eq_some_iff.mp paired
  have member : (key, .both left right) ∈ t.combine u := by
    rw [split]
    exact List.mem_append_right before List.mem_cons_self
  have resolves := mapM_partialRow?_isSome_iff.mp (Option.isSome_of_eq_some forms) _ member
  cases resolves

end Partials

end Rows

theorem deepPartial?_eq_some_iff {t : Rows} {form : Ty} :
    deepPartial? (ofRows t) = some form ↔ ∃ p, t.Partials p ∧ form = ofRows p := by
  rw [deepPartial?_ofRows, Option.map_eq_some_iff]
  constructor
  · rintro ⟨p, forms, rfl⟩
    exact ⟨p, forms, rfl⟩
  · rintro ⟨p, forms, rfl⟩
    exact ⟨p, forms, rfl⟩

theorem deepPartial?_agrees {result other : Option Ty} {t p : Rows}
    (record : result = some (ofRows t)) (forms : other = some (ofRows p))
    (partials : t.Partials p) :
    ∃ form, result.bind deepPartial? = some form ∧ other = some form := by
  refine ⟨ofRows p, ?_, forms⟩
  rw [record, Option.bind_some]
  exact deepPartial?_eq_some_iff.mpr ⟨p, partials, rfl⟩

theorem deepPartial?_commutes {t u : Rows} {p q : Ty} (first : deepPartial? (ofRows t) = some p)
    (second : deepPartial? (ofRows u) = some q) (keys : List Key) :
    (∃ form, (do deepPartial? (← pick? (ofRows t) (LabelSet.ofKeys keys))) = some form ∧
      pick? p (LabelSet.ofKeys keys) = some form) ∧
    (∃ form, (do deepPartial? (← omit? (ofRows t) (LabelSet.ofKeys keys))) = some form ∧
      omit? p (LabelSet.ofKeys keys) = some form) ∧
    (∃ form, (do deepPartial? (← intersect? (ofRows t) (ofRows u))) = some form ∧
      intersect? p q = some form) ∧
    (∃ form, (do deepPartial? (← merge? (ofRows t) (ofRows u))) = some form ∧
      merge? p q = some form) ∧
    (∃ form, (do deepPartial? (← overwrite? (ofRows t) (ofRows u))) = some form ∧
      overwrite? p q = some form) ∧
    ((do deepPartial? (← combine? (ofRows t) (ofRows u))).isSome ↔
      ∀ key ∈ t.keys, key ∉ u.keys) ∧
    ((∀ key ∈ t.keys, key ∉ u.keys) →
      ∃ form, (do deepPartial? (← combine? (ofRows t) (ofRows u))) = some form ∧
        combine? p q = some form) := by
  obtain ⟨p, left, rfl⟩ := deepPartial?_eq_some_iff.mp first
  obtain ⟨q, right, rfl⟩ := deepPartial?_eq_some_iff.mp second
  have combined : (∀ key ∈ t.keys, key ∉ u.keys) →
      ∃ form, (do deepPartial? (← combine? (ofRows t) (ofRows u))) = some form ∧
        combine? (ofRows p) (ofRows q) = some form := fun apart =>
    deepPartial?_agrees (combine?_ofRows t u) (combine?_ofRows p q)
      (left.combine_of_apart right apart)
  refine ⟨?_, ?_, ?_, ?_, ?_, ?_, combined⟩
  · exact deepPartial?_agrees (pick?_ofRows t keys) (pick?_ofRows p keys) (left.only keys)
  · exact deepPartial?_agrees (omit?_ofRows t keys) (omit?_ofRows p keys) (left.without keys)
  · have picked : (u.only t.keys).Partials (q.only p.keys) := by
      rw [left.keys]
      exact right.only t.keys
    exact deepPartial?_agrees (intersect?_ofRows t u) (intersect?_ofRows p q) picked
  · exact deepPartial?_agrees (merge?_ofRows t u) (merge?_ofRows p q) (left.merge right)
  · exact deepPartial?_agrees (overwrite?_ofRows t u) (overwrite?_ofRows p q)
      (left.overwrite right)
  · constructor
    · intro resolves
      obtain ⟨form, resolved⟩ := Option.isSome_iff_exists.mp resolves
      rw [combine?_ofRows, Option.bind_eq_bind, Option.bind_some] at resolved
      obtain ⟨_, forms, _⟩ := deepPartial?_eq_some_iff.mp resolved
      exact forms.apart_of_combine
    · intro apart
      obtain ⟨form, resolved, _⟩ := combined apart
      exact Option.isSome_of_eq_some resolved

theorem deepPartial?_commutes_nested :
    deepPartial? (ofRows [(.ofText "a", ofTexts [("x", .leaf .u8)])]) =
      some (ofTexts [("a", .optional (ofTexts [("x", .optional (.leaf .u8))]))]) ∧
    deepPartial? (ofRows [(.ofText "b", .leaf .char)]) =
      some (ofTexts [("b", .optional (.leaf .char))]) ∧
    (∀ key ∈ Rows.keys [(.ofText "a", ofTexts [("x", .leaf .u8)])],
      key ∉ Rows.keys [(.ofText "b", .leaf .char)]) ∧
    ∃ form,
      (do deepPartial? (← combine? (ofRows [(.ofText "a", ofTexts [("x", .leaf .u8)])])
        (ofRows [(.ofText "b", .leaf .char)]))) = some form ∧
      combine? (ofTexts [("a", .optional (ofTexts [("x", .optional (.leaf .u8))]))])
        (ofTexts [("b", .optional (.leaf .char))]) = some form := by
  have first : deepPartial? (ofRows [(.ofText "a", ofTexts [("x", .leaf .u8)])]) =
      some (ofTexts [("a", .optional (ofTexts [("x", .optional (.leaf .u8))]))]) := by decide
  have second : deepPartial? (ofRows [(.ofText "b", .leaf .char)]) =
      some (ofTexts [("b", .optional (.leaf .char))]) := by decide
  have apart : ∀ key ∈ Rows.keys [(.ofText "a", ofTexts [("x", .leaf .u8)])],
      key ∉ Rows.keys [(.ofText "b", .leaf .char)] := by decide
  obtain ⟨_, _, _, _, _, _, combined⟩ := deepPartial?_commutes first second []
  exact ⟨first, second, apart, combined apart⟩

end TypeCalculus.Record
