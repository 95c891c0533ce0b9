import Mathlib.Data.List.Dedup
import TypeCalculus.LabelSet

namespace TypeCalculus

structure Key where
  ty : Ty
  isLabel : Label.IsLabel ty
deriving DecidableEq

namespace Key

theorem ty_inj {a b : Key} : a.ty = b.ty ↔ a = b := by
  cases a; cases b; simp

theorem ty_mem_map {keys : List Key} {key : Key} : key.ty ∈ keys.map ty ↔ key ∈ keys := by
  simp [ty_inj]

theorem equal?_ty (a b : Key) : Label.equal? a.ty b.ty = some (decide (a = b)) := by
  rw [Label.equal?_of_isLabel a.isLabel b.isLabel]
  simp only [ty_inj]

def ofText (text : String) : Key :=
  ⟨Label.ofText text, Label.isLabel_ofText text⟩

end Key

namespace LabelSet

def ofKeys (keys : List Key) : Ty :=
  .ofList (keys.map Key.ty)

theorem ofKeys_cons (key : Key) (keys : List Key) :
    ofKeys (key :: keys) = .cons key.ty (ofKeys keys) :=
  rfl

theorem ofKeys_inj {a b : List Key} : ofKeys a = ofKeys b ↔ a = b := by
  constructor
  · intro same
    have injective : Function.Injective Key.ty := fun _ _ equal => Key.ty_inj.mp equal
    exact List.map_injective_iff.mpr injective (Ty.ofList_injective same)
  · intro same
    rw [same]

theorem ofTexts_eq (texts : List String) : ofTexts texts = ofKeys (texts.map Key.ofText) := by
  simp [ofTexts, ofKeys, Key.ofText, Function.comp_def]

theorem isLabel_of_mem {keys : List Key} : ∀ l ∈ keys.map Key.ty, Label.IsLabel l := by
  intro l member
  obtain ⟨key, _, rfl⟩ := List.mem_map.mp member
  exact key.isLabel

-- What is appended was cut by the very keys that it is appended to.
theorem nodup_append_filter {keys others : List Key} (first : keys.Nodup)
    (second : others.Nodup) : (keys ++ others.filter fun key => key ∉ keys).Nodup := by
  refine first.append (second.filter _) ?_
  intro key inFirst inRest
  simp [inFirst] at inRest

theorem mem_append_filter {keys others : List Key} {key : Key} :
    (key ∈ keys ++ others.filter fun key => key ∉ keys) ↔ key ∈ keys ∨ key ∈ others := by
  by_cases first : key ∈ keys <;> simp [first]

@[simp] theorem contains?_ofKeys (keys : List Key) (key : Key) :
    contains? (ofKeys keys) key.ty = some (decide (key ∈ keys)) := by
  rw [ofKeys, contains?_ofList isLabel_of_mem key.isLabel]
  simp only [Key.ty_mem_map]

@[simp] theorem diff?_ofKeys (keys others : List Key) :
    diff? (ofKeys keys) (ofKeys others) = some (ofKeys (keys.filter fun key => key ∉ others)) := by
  rw [ofKeys, ofKeys, diff?_ofList isLabel_of_mem isLabel_of_mem, List.filter_map]
  simp only [Function.comp_def, Key.ty_mem_map, ofKeys]

@[simp] theorem isEmpty?_ofKeys (keys : List Key) :
    isEmpty? (ofKeys keys) = some (decide (keys = [])) := by
  cases keys <;> simp [ofKeys, Ty.ofList, isEmpty?]

@[simp] theorem concat?_ofKeys (keys others : List Key) :
    Ty.concat? (ofKeys keys) (ofKeys others) = some (ofKeys (keys ++ others)) := by
  simp [ofKeys, Ty.concat?_ofList, Ty.foldr_cons_ofList]

@[simp] theorem subset?_ofKeys (keys others : List Key) :
    subset? (ofKeys keys) (ofKeys others) = some (decide (∀ key ∈ keys, key ∈ others)) := by
  simp [subset?, List.filter_eq_nil_iff]

@[simp] theorem equal?_ofKeys (keys others : List Key) :
    equal? (ofKeys keys) (ofKeys others) =
      some (decide (∀ key ∈ keys, key ∈ others) && decide (∀ key ∈ others, key ∈ keys)) := by
  simp [equal?]

theorem equal?_ofKeys_iff {keys others : List Key} :
    equal? (ofKeys keys) (ofKeys others) = some true ↔ ∀ key, key ∈ keys ↔ key ∈ others := by
  simp only [equal?_ofKeys, Option.some.injEq, Bool.and_eq_true, decide_eq_true_eq]
  constructor
  · rintro ⟨forth, back⟩ key
    exact ⟨forth key, back key⟩
  · intro same
    exact ⟨fun key => (same key).mp, fun key => (same key).mpr⟩

@[simp] theorem union?_ofKeys (keys others : List Key) :
    union? (ofKeys keys) (ofKeys others) =
      some (ofKeys (keys ++ others.filter fun key => key ∉ keys)) := by
  simp [union?]

@[simp] theorem intersect?_ofKeys (keys others : List Key) :
    intersect? (ofKeys keys) (ofKeys others) =
      some (ofKeys (keys.filter fun key => key ∈ others)) := by
  simp only [intersect?, diff?_ofKeys, Option.bind_eq_bind, Option.bind_some]
  congr 2
  apply List.filter_congr
  intro key member
  simp [member]

@[simp] theorem drop?_ofKeys (keys others : List Key) :
    drop? (ofKeys keys) (ofKeys others) =
      if ∀ key ∈ others, key ∈ keys then some (ofKeys (keys.filter fun key => key ∉ others))
      else none := by
  simp [drop?]

theorem drop?_ofKeys_eq_some_iff {keys others : List Key} {left : Ty} :
    drop? (ofKeys keys) (ofKeys others) = some left ↔
      (∀ key ∈ others, key ∈ keys) ∧ left = ofKeys (keys.filter fun key => key ∉ others) := by
  rw [drop?_ofKeys]
  by_cases covered : ∀ key ∈ others, key ∈ keys
  · rw [if_pos covered, Option.some.injEq, eq_comm]
    exact (and_iff_right covered).symm
  · rw [if_neg covered]
    constructor
    · intro resolved
      cases resolved
    · intro taken
      exact absurd taken.1 covered

theorem drop?_ofKeys_isSome_iff {keys others : List Key} :
    (drop? (ofKeys keys) (ofKeys others)).isSome ↔ ∀ key ∈ others, key ∈ keys := by
  rw [Option.isSome_iff_exists]
  simp only [drop?_ofKeys_eq_some_iff, exists_and_left, exists_eq, and_true]

@[simp] theorem dedup?_ofKeys (keys : List Key) :
    dedup? (ofKeys keys) = some (ofKeys keys.dedup) := by
  induction keys with
  | nil => rfl
  | cons key keys rest =>
    rw [ofKeys_cons, dedup?, rest, contains?_ofKeys]
    by_cases again : key ∈ keys <;> simp [again, ofKeys_cons]

theorem diff?_sublist {keys : List Key} {other t : Ty}
    (resolved : diff? (ofKeys keys) other = some t) :
    ∃ kept : List Key, kept.Sublist keys ∧ t = ofKeys kept := by
  induction keys generalizing t with
  | nil => cases resolved; exact ⟨[], .refl _, rfl⟩
  | cons key keys rest =>
    simp only [ofKeys_cons, diff?, Option.bind_eq_bind, Option.bind_eq_some_iff] at resolved
    obtain ⟨shared, _, tail, found, same⟩ := resolved
    obtain ⟨kept, inside, rfl⟩ := rest found
    cases shared with
    | true => cases same; exact ⟨kept, inside.cons key, rfl⟩
    | false => cases same; exact ⟨key :: kept, inside.cons_cons key, rfl⟩

theorem drop?_eq_some {a b t : Ty} (resolved : drop? a b = some t) : diff? a b = some t := by
  simp only [drop?, Option.bind_eq_bind, Option.bind_eq_some_iff] at resolved
  obtain ⟨covered, _, result⟩ := resolved
  cases covered with
  | true => exact result
  | false => cases result

end LabelSet

end TypeCalculus
