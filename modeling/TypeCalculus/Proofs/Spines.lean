import TypeCalculus.Proofs.Lookup
import TypeCalculus.Proofs.Shapes

namespace TypeCalculus.Record

def IsSpine (t : Ty) : Prop :=
  ∃ fields : List (Ty × Ty), t = ofFields fields ∧ ∀ f ∈ fields, (deepPartial? f.2).isSome

inductive Single : Ty → Prop
  | whole {t : Ty} (kept : Whole t) : Single t
  | optional {payload : Ty} (inner : (deepPartial? payload).isSome) : Single (.optional payload)

def EndsInSingle (t : Ty) : Prop :=
  ∃ (fields : List (Ty × Ty)) (last : Ty), t = fieldsThen fields last ∧
    (∀ f ∈ fields, (deepPartial? f.2).isSome) ∧ Single last

theorem ofFields_eq_fieldsThen (fields : List (Ty × Ty)) :
    ofFields fields = fieldsThen fields .nil := by
  induction fields with
  | nil => rfl
  | cons f fields rest => rw [ofFields_cons, fieldsThen_cons, rest]

theorem deepPartial?_field_isSome_iff {key value tail : Ty} :
    (deepPartial? (.cons (.field key value) tail)).isSome ↔
      (deepPartial? value).isSome ∧ (deepPartial? tail).isSome := by
  rw [deepPartial?]
  cases deepPartial? value <;> cases deepPartial? tail <;> simp

theorem deepPartial?_fieldsThen_isSome_iff {fields : List (Ty × Ty)} {last : Ty} :
    (deepPartial? (fieldsThen fields last)).isSome ↔
      (∀ f ∈ fields, (deepPartial? f.2).isSome) ∧ (deepPartial? last).isSome := by
  induction fields with
  | nil => simp [fieldsThen]
  | cons f fields rest =>
    rw [fieldsThen_cons, deepPartial?_field_isSome_iff, rest, List.forall_mem_cons, and_assoc]

namespace Single

variable {t : Ty}

theorem resolves (one : Single t) : (deepPartial? t).isSome := by
  cases one with
  | whole kept => exact deepPartial?_isSome_iff.mpr ⟨t, .whole kept⟩
  | optional inner => rwa [deepPartial?, Option.isSome_map]

theorem elements?_eq_none (one : Single t) : t.elements? = none := by
  cases one with
  | whole kept => cases kept <;> rfl
  | optional => rfl

end Single

theorem elements?_fieldsThen {last : Ty} (noList : last.elements? = none)
    (fields : List (Ty × Ty)) : (fieldsThen fields last).elements? = none := by
  have written : fieldsThen fields last =
      (fields.map fun f => Ty.field f.1 f.2).foldr .cons last := List.foldr_map.symm
  rw [written, Ty.elements?_foldr_cons noList]

namespace PartialForm

variable {t form : Ty}

-- By the rules of the relation: a field in front leaves the end of its list what it is.
theorem spine_or_single (related : PartialForm t form) : IsSpine t ∨ EndsInSingle t := by
  induction related with
  | whole kept => exact .inr ⟨[], _, rfl, by simp, .whole kept⟩
  | optional inner =>
    exact .inr ⟨[], _, rfl, by simp, .optional (deepPartial?_isSome_iff.mpr ⟨_, inner⟩)⟩
  | nil => exact .inl ⟨[], rfl, by simp⟩
  | @field key value form tail rest here later _ ended =>
    have first : (deepPartial? value).isSome := deepPartial?_isSome_iff.mpr ⟨form, here⟩
    rcases ended with ⟨fields, rfl, each⟩ | ⟨fields, last, rfl, each, one⟩
    · exact .inl ⟨(key, value) :: fields, rfl, List.forall_mem_cons.mpr ⟨first, each⟩⟩
    · exact .inr ⟨(key, value) :: fields, last, rfl, List.forall_mem_cons.mpr ⟨first, each⟩, one⟩

end PartialForm

theorem IsSpine.resolves {t : Ty} (spine : IsSpine t) : (deepPartial? t).isSome := by
  obtain ⟨fields, rfl, each⟩ := spine
  rw [ofFields_eq_fieldsThen, deepPartial?_fieldsThen_isSome_iff]
  exact ⟨each, rfl⟩

theorem EndsInSingle.resolves {t : Ty} (ended : EndsInSingle t) : (deepPartial? t).isSome := by
  obtain ⟨fields, last, rfl, each, one⟩ := ended
  exact deepPartial?_fieldsThen_isSome_iff.mpr ⟨each, one.resolves⟩

theorem IsSpine.elements?_isSome {t : Ty} (spine : IsSpine t) : t.elements?.isSome := by
  obtain ⟨fields, rfl, _⟩ := spine
  rw [ofFields, Ty.elements?_ofList, Option.isSome_some]

theorem EndsInSingle.elements?_eq_none {t : Ty} (ended : EndsInSingle t) :
    t.elements? = none := by
  obtain ⟨fields, last, rfl, _, one⟩ := ended
  exact elements?_fieldsThen one.elements?_eq_none fields

theorem IsSpine.not_endsInSingle {t : Ty} (spine : IsSpine t) : ¬ EndsInSingle t := by
  intro ended
  simpa [ended.elements?_eq_none] using spine.elements?_isSome

theorem deepPartial?_isSome_iff_cases {t : Ty} :
    (deepPartial? t).isSome ↔ IsSpine t ∨ EndsInSingle t := by
  constructor
  · intro resolved
    obtain ⟨form, related⟩ := deepPartial?_isSome_iff.mp resolved
    exact related.spine_or_single
  · intro ended
    rcases ended with spine | ended
    · exact spine.resolves
    · exact ended.resolves

theorem deepPartial?_isSome_iff_spine_or_single (head tail : Ty) :
    ((deepPartial? (.cons head tail)).isSome ↔
      IsSpine (.cons head tail) ∨ EndsInSingle (.cons head tail)) ∧
    (((deepPartial? (.cons head tail)).isSome ↔ IsSpine (.cons head tail)) ↔
      ¬ EndsInSingle (.cons head tail)) ∧
    ((Ty.cons head tail).elements?.isSome →
      ((deepPartial? (.cons head tail)).isSome ↔ IsSpine (.cons head tail))) ∧
    ((Ty.cons head tail).elements? = none →
      ((deepPartial? (.cons head tail)).isSome ↔ EndsInSingle (.cons head tail))) := by
  refine ⟨deepPartial?_isSome_iff_cases, ?_, ?_, ?_⟩
  · constructor
    · intro spines ended
      exact (spines.mp ended.resolves).not_endsInSingle ended
    · intro apart
      rw [deepPartial?_isSome_iff_cases, or_iff_left apart]
  · intro listed
    have apart : ¬ EndsInSingle (.cons head tail) := by
      intro ended
      simp [ended.elements?_eq_none] at listed
    rw [deepPartial?_isSome_iff_cases, or_iff_left apart]
  · intro unlisted
    have apart : ¬ IsSpine (.cons head tail) := by
      intro spine
      simpa [unlisted] using spine.elements?_isSome
    rw [deepPartial?_isSome_iff_cases, or_iff_right apart]

theorem deepPartial?_isSome_iff_spine_or_single_two_ends :
    (Ty.cons (.field (Label.ofText "a") .unregistered) .nil).elements?.isSome ∧
    ¬ IsSpine (.cons (.field (Label.ofText "a") .unregistered) .nil) ∧
    (Ty.cons (.field (Label.ofText "a") (.leaf .u8))
      (.optional (ofTexts [("x", .leaf .char)]))).elements? = none ∧
    EndsInSingle (.cons (.field (Label.ofText "a") (.leaf .u8))
      (.optional (ofTexts [("x", .leaf .char)]))) := by
  obtain ⟨_, _, lists, _⟩ := deepPartial?_isSome_iff_spine_or_single
    (.field (Label.ofText "a") .unregistered) .nil
  obtain ⟨_, _, _, others⟩ := deepPartial?_isSome_iff_spine_or_single
    (.field (Label.ofText "a") (.leaf .u8)) (.optional (ofTexts [("x", .leaf .char)]))
  have listed : (Ty.cons (.field (Label.ofText "a") .unregistered) .nil).elements?.isSome := by
    decide
  have unlisted : (Ty.cons (.field (Label.ofText "a") (.leaf .u8))
      (.optional (ofTexts [("x", .leaf .char)]))).elements? = none := by decide
  refine ⟨listed, ?_, unlisted, (others unlisted).mp (by decide)⟩
  intro spine
  cases (lists listed).mpr spine

-- A field in front of a ground type is no record spine, and has a partial form all the same.
theorem deepPartial?_isSome_iff_spine_or_single_leaf_end :
    deepPartial? (.cons (.field (Label.ofText "a") (.leaf .u8)) (.leaf .u8)) =
      some (.cons (.field (Label.ofText "a") (.optional (.leaf .u8))) (.leaf .u8)) ∧
    ¬ IsSpine (.cons (.field (Label.ofText "a") (.leaf .u8)) (.leaf .u8)) := by
  refine ⟨by decide, ?_⟩
  intro spine
  cases spine.elements?_isSome

end TypeCalculus.Record
