import TypeCalculus.Proofs.Combination
import TypeCalculus.Proofs.Membership

namespace TypeCalculus

namespace Ty

theorem heads_ofList (ts : List Ty) : (ofList ts).heads = ts := by
  induction ts with
  | nil => rfl
  | cons t ts rest => rw [ofList, heads, rest]

end Ty

namespace LabelSet

open Label (IsLabel)

theorem contains?_ofList_isSome_iff {elements : List Ty} {label : Ty} :
    (contains? (.ofList elements) label).isSome ↔
      ∀ e ∈ elements, (Label.equal? e label).isSome := by
  induction elements with
  | nil => simp [Ty.ofList, contains?]
  | cons e elements rest =>
    rw [List.forall_mem_cons, ← rest, Ty.ofList, contains?]
    cases Label.equal? e label <;> cases contains? (.ofList elements) label <;> simp

theorem diff?_ofList_isSome_iff {elements : List Ty} {other : Ty} :
    (diff? (.ofList elements) other).isSome ↔ ∀ e ∈ elements, (contains? other e).isSome := by
  induction elements with
  | nil => simp [Ty.ofList, diff?]
  | cons e elements rest =>
    rw [List.forall_mem_cons, ← rest, Ty.ofList, diff?]
    cases contains? other e <;> cases diff? (.ofList elements) other <;> simp

theorem isLabel_of_contains? {elements : List Ty} {e : Ty} (member : e ∈ elements)
    (resolved : (contains? (.ofList elements) e).isSome) : IsLabel e :=
  Label.equal?_self_isSome_iff.mp (contains?_ofList_isSome_iff.mp resolved e member)

-- An element that the difference has kept is looked up in the difference, any other was found in
-- what was taken away.
theorem contains?_diff?_isSome_iff {elements : List Ty} {other left : Ty}
    (resolved : diff? (.ofList elements) other = some left) :
    (∀ e ∈ elements, (contains? left e).isSome) ↔ ∀ e ∈ elements, IsLabel e := by
  obtain ⟨_, rest⟩ := diff?_eq_some resolved
  rw [Ty.heads_ofList] at rest
  subst rest
  constructor
  · intro again e member
    obtain ⟨found, searched⟩ := Option.isSome_iff_exists.mp
      (diff?_ofList_isSome_iff.mp (Option.isSome_of_eq_some resolved) e member)
    obtain ⟨listed, here⟩ := contains?_eq_some searched
    by_cases inside : e ∈ other.heads
    · rw [listed] at searched
      exact isLabel_of_contains? inside (Option.isSome_of_eq_some searched)
    · exact isLabel_of_contains? (List.mem_filter.mpr ⟨member, by simpa using inside⟩)
        (again e member)
  · intro each e member
    rw [contains?_ofList (fun l kept => each l (List.mem_filter.mp kept).1) (each e member),
      Option.isSome_some]

theorem intersect?_ofList_isSome_iff {elements : List Ty} {other : Ty} :
    (intersect? (.ofList elements) other).isSome ↔
      ∀ e ∈ elements, IsLabel e ∧ (contains? other e).isSome := by
  rw [forall₂_and, ← diff?_ofList_isSome_iff, intersect?]
  cases resolved : diff? (.ofList elements) other with
  | none => simp
  | some left =>
    rw [Option.bind_eq_bind, Option.bind_some, diff?_ofList_isSome_iff,
      contains?_diff?_isSome_iff resolved]
    simp

theorem union?_ofList_isSome_iff {elements others : List Ty} :
    (union? (.ofList elements) (.ofList others)).isSome ↔
      (diff? (.ofList others) (.ofList elements)).isSome := by
  rw [union?]
  cases diff? (.ofList others) (.ofList elements) with
  | none => rfl
  | some left => simp [Ty.concat?_ofList]

end LabelSet

namespace Record

open Label (IsLabel)
open LabelSet (contains? contains?_ofList_isSome_iff diff?_ofList_isSome_iff)

def IsFields (t : Ty) : Prop :=
  ∃ fields : List (Ty × Ty), t = ofFields fields

def Comparable (t u : Ty) : Prop :=
  ∃ first second : List (Ty × Ty), t = ofFields first ∧ u = ofFields second ∧
    ∀ f ∈ first, ∀ g ∈ second, (Label.equal? f.1 g.1).isSome

theorem ofFields_injective {first second : List (Ty × Ty)}
    (same : ofFields first = ofFields second) : first = second := by
  have injective : Function.Injective fun f : Ty × Ty => Ty.field f.1 f.2 := by
    intro f g written
    cases f; cases g; cases written; rfl
  exact List.map_injective_iff.mpr injective (Ty.ofList_injective same)

theorem isRecord_ofFields_iff {fields : List (Ty × Ty)} :
    IsRecord (ofFields fields) ↔ ∀ f ∈ fields, IsLabel f.1 := by
  constructor
  · intro one
    obtain ⟨others, labels, written⟩ := one
    cases ofFields_injective written
    exact labels
  · intro labels
    exact ⟨fields, labels, rfl⟩

theorem comparable_ofFields_iff {first second : List (Ty × Ty)} :
    Comparable (ofFields first) (ofFields second) ↔
      ∀ f ∈ first, ∀ g ∈ second, (Label.equal? f.1 g.1).isSome := by
  constructor
  · intro compared
    obtain ⟨left, right, written, read, each⟩ := compared
    cases ofFields_injective written
    cases ofFields_injective read
    exact each
  · intro each
    exact ⟨first, second, rfl, rfl, each⟩

theorem Comparable.symm {t u : Ty} (compared : Comparable t u) : Comparable u t := by
  obtain ⟨first, second, rfl, rfl, each⟩ := compared
  refine ⟨second, first, rfl, rfl, ?_⟩
  intro g inSecond f inFirst
  rw [Label.equal?_comm]
  exact each f inFirst g inSecond

theorem keys?_isSome_iff {t : Ty} : (keys? t).isSome ↔ IsFields t := by
  constructor
  · intro resolved
    induction t with
    | nil => exact ⟨[], rfl⟩
    | cons head tail _ ended =>
      cases head with
      | field key value =>
        rw [keys?, Option.isSome_map] at resolved
        obtain ⟨fields, rfl⟩ := ended resolved
        exact ⟨(key, value) :: fields, rfl⟩
      | _ => cases resolved
    | _ => cases resolved
  · intro shaped
    obtain ⟨fields, rfl⟩ := shaped
    rw [keys?_ofFields, Option.isSome_some]

theorem pick?_ofFields_isSome_iff {fields : List (Ty × Ty)} {chosen : Ty} :
    (pick? (ofFields fields) chosen).isSome ↔ ∀ f ∈ fields, (contains? chosen f.1).isSome := by
  induction fields with
  | nil => simp [ofFields, Ty.ofList, pick?]
  | cons f fields rest =>
    rw [List.forall_mem_cons, ← rest, ofFields_cons, pick?]
    cases contains? chosen f.1 <;> cases pick? (ofFields fields) chosen <;> simp

theorem isFields_of_pick? {t chosen : Ty} (resolved : (pick? t chosen).isSome) : IsFields t := by
  induction t with
  | nil => exact ⟨[], rfl⟩
  | cons head tail _ ended =>
    cases head with
    | field key value =>
      obtain ⟨picked, found⟩ := Option.isSome_iff_exists.mp resolved
      simp only [pick?, Option.bind_eq_bind, Option.bind_eq_some_iff] at found
      obtain ⟨_, _, _, others, _⟩ := found
      obtain ⟨fields, rfl⟩ := ended (Option.isSome_of_eq_some others)
      exact ⟨(key, value) :: fields, rfl⟩
    | _ => cases resolved
  | _ => cases resolved

theorem pick?_isSome_iff {t chosen : Ty} :
    (pick? t chosen).isSome ↔
      ∃ fields, t = ofFields fields ∧ ∀ f ∈ fields, (contains? chosen f.1).isSome := by
  constructor
  · intro resolved
    obtain ⟨fields, rfl⟩ := isFields_of_pick? resolved
    exact ⟨fields, rfl, pick?_ofFields_isSome_iff.mp resolved⟩
  · rintro ⟨fields, rfl, each⟩
    exact pick?_ofFields_isSome_iff.mpr each

-- What is picked by is what was kept of the record's own keys, so these are compared with
-- themselves.
theorem omit?_ofFields_isSome_iff {fields : List (Ty × Ty)} {dropped : Ty} :
    (omit? (ofFields fields) dropped).isSome ↔
      ∀ f ∈ fields, IsLabel f.1 ∧ (contains? dropped f.1).isSome := by
  have same : (omit? (ofFields fields) dropped).isSome ↔
      (LabelSet.intersect? (.ofList (fields.map Prod.fst)) dropped).isSome := by
    rw [omit?, keys?_ofFields, LabelSet.intersect?, Option.bind_eq_bind, Option.bind_some]
    cases LabelSet.diff? (.ofList (fields.map Prod.fst)) dropped with
    | none => rfl
    | some left =>
      simp only [Option.bind_some, pick?_ofFields_isSome_iff, diff?_ofList_isSome_iff,
        List.forall_mem_map]
  rw [same, LabelSet.intersect?_ofList_isSome_iff, List.forall_mem_map]

theorem omit?_isSome_iff {t dropped : Ty} :
    (omit? t dropped).isSome ↔
      ∃ fields, t = ofFields fields ∧
        ∀ f ∈ fields, IsLabel f.1 ∧ (contains? dropped f.1).isSome := by
  constructor
  · intro resolved
    obtain ⟨_, found⟩ := Option.isSome_iff_exists.mp resolved
    simp only [omit?, Option.bind_eq_bind, Option.bind_eq_some_iff] at found
    obtain ⟨_, keyed, _⟩ := found
    obtain ⟨fields, rfl⟩ := keys?_isSome_iff.mp (Option.isSome_of_eq_some keyed)
    exact ⟨fields, rfl, omit?_ofFields_isSome_iff.mp resolved⟩
  · rintro ⟨fields, rfl, each⟩
    exact omit?_ofFields_isSome_iff.mpr each

theorem isRecord_of_omit? {t dropped : Ty} (resolved : (omit? t dropped).isSome) : IsRecord t := by
  obtain ⟨fields, rfl, each⟩ := omit?_isSome_iff.mp resolved
  exact ⟨fields, fun f member => (each f member).1, rfl⟩

theorem bind_keys?_isSome_iff {t u : Ty} (operator : Ty → Ty → Option Ty) :
    (do operator (← keys? t) (← keys? u)).isSome ↔
      ∃ first second : List (Ty × Ty), t = ofFields first ∧ u = ofFields second ∧
        (operator (.ofList (first.map Prod.fst)) (.ofList (second.map Prod.fst))).isSome := by
  constructor
  · intro resolved
    obtain ⟨result, found⟩ := Option.isSome_iff_exists.mp resolved
    simp only [Option.bind_eq_bind, Option.bind_eq_some_iff] at found
    obtain ⟨_, left, _, right, _⟩ := found
    obtain ⟨first, rfl⟩ := keys?_isSome_iff.mp (Option.isSome_of_eq_some left)
    obtain ⟨second, rfl⟩ := keys?_isSome_iff.mp (Option.isSome_of_eq_some right)
    rw [keys?_ofFields, keys?_ofFields] at resolved
    exact ⟨first, second, rfl, rfl, resolved⟩
  · intro shaped
    obtain ⟨first, second, rfl, rfl, resolved⟩ := shaped
    rw [keys?_ofFields, keys?_ofFields]
    exact resolved

theorem forall_contains?_isSome_iff {first second : List (Ty × Ty)} :
    (∀ f ∈ first, (contains? (.ofList (second.map Prod.fst)) f.1).isSome) ↔
      ∀ f ∈ first, ∀ g ∈ second, (Label.equal? f.1 g.1).isSome := by
  simp only [contains?_ofList_isSome_iff, List.forall_mem_map, Label.equal?_comm]

theorem diffKeys?_isSome_iff {t u : Ty} : (diffKeys? t u).isSome ↔ Comparable t u := by
  rw [diffKeys?, bind_keys?_isSome_iff]
  simp only [diff?_ofList_isSome_iff, List.forall_mem_map, forall_contains?_isSome_iff, Comparable]

theorem allKeys?_isSome_iff {t u : Ty} : (allKeys? t u).isSome ↔ Comparable t u := by
  rw [allKeys?, bind_keys?_isSome_iff]
  simp only [LabelSet.union?_ofList_isSome_iff, diff?_ofList_isSome_iff, List.forall_mem_map,
    forall_contains?_isSome_iff]
  constructor
  · intro shaped
    obtain ⟨first, second, left, right, each⟩ := shaped
    exact Comparable.symm ⟨second, first, right, left, each⟩
  · intro compared
    obtain ⟨second, first, right, left, each⟩ := compared.symm
    exact ⟨first, second, left, right, each⟩

theorem sharedKeys?_isSome_iff {t u : Ty} :
    (sharedKeys? t u).isSome ↔ IsRecord t ∧ Comparable t u := by
  rw [sharedKeys?, bind_keys?_isSome_iff]
  simp only [LabelSet.intersect?_ofList_isSome_iff, List.forall_mem_map, forall₂_and,
    forall_contains?_isSome_iff]
  constructor
  · intro shaped
    obtain ⟨first, second, rfl, rfl, labels, each⟩ := shaped
    exact ⟨isRecord_ofFields_iff.mpr labels, comparable_ofFields_iff.mpr each⟩
  · intro accepted
    obtain ⟨one, first, second, rfl, rfl, each⟩ := accepted
    exact ⟨first, second, rfl, rfl, isRecord_ofFields_iff.mp one, each⟩

theorem intersect?_isSome_iff {t u : Ty} :
    (intersect? t u).isSome ↔ IsRecord u ∧ Comparable t u := by
  constructor
  · intro resolved
    obtain ⟨result, found⟩ := Option.isSome_iff_exists.mp resolved
    rw [intersect?, Option.bind_eq_bind, Option.bind_eq_some_iff] at found
    obtain ⟨missing, lacking, kept⟩ := found
    exact ⟨isRecord_of_omit? (Option.isSome_of_eq_some kept),
      (diffKeys?_isSome_iff.mp (Option.isSome_of_eq_some lacking)).symm⟩
  · intro accepted
    obtain ⟨one, first, second, rfl, rfl, each⟩ := accepted
    have labels := isRecord_ofFields_iff.mp one
    have compared : Comparable (ofFields second) (ofFields first) :=
      (comparable_ofFields_iff.mpr each).symm
    obtain ⟨missing, lacking⟩ := Option.isSome_iff_exists.mp (diffKeys?_isSome_iff.mpr compared)
    rw [intersect?, lacking, Option.bind_eq_bind, Option.bind_some, omit?_ofFields_isSome_iff]
    rw [diffKeys?, keys?_ofFields, keys?_ofFields] at lacking
    have again := (LabelSet.contains?_diff?_isSome_iff lacking).mpr (List.forall_mem_map.mpr labels)
    intro f member
    exact ⟨labels f member, List.forall_mem_map.mp again f member⟩

theorem get?_ofFields_isSome {fields : List (Ty × Ty)} {key : Ty}
    (each : ∀ f ∈ fields, (Label.equal? f.1 key).isSome) (present : key ∈ fields.map Prod.fst) :
    (get? (ofFields fields) key).isSome := by
  induction fields with
  | nil => cases present
  | cons f fields rest =>
    obtain ⟨here, others⟩ := List.forall_mem_cons.mp each
    obtain ⟨found, compared⟩ := Option.isSome_iff_exists.mp here
    rw [ofFields_cons]
    cases found with
    | true => rw [get?_here compared, Option.isSome_some]
    | false =>
      have differ : f.1 ≠ key := fun same => Bool.false_ne_true
        ((Label.equal?_eq_some compared).mpr same)
      rcases List.mem_cons.mp present with same | later
      · exact absurd same.symm differ
      · rw [get?_later compared]
        exact rest others later

theorem exists_combineLeft? {first second : List (Ty × Ty)}
    (each : ∀ f ∈ first, ∀ g ∈ second, (Label.equal? f.1 g.1).isSome) :
    ∃ combined : List Ty,
      combineLeft? (ofFields first) (ofFields second) = some (.ofList combined) := by
  induction first with
  | nil => exact ⟨[], rfl⟩
  | cons f first rest =>
    obtain ⟨here, others⟩ := List.forall_mem_cons.mp each
    obtain ⟨combined, resolved⟩ := rest others
    have compared : ∀ g ∈ second, (Label.equal? g.1 f.1).isSome := by
      intro g member
      rw [Label.equal?_comm]
      exact here g member
    obtain ⟨shared, searched⟩ := Option.isSome_iff_exists.mp
      (contains?_ofList_isSome_iff.mpr (List.forall_mem_map.mpr compared))
    rw [ofFields_cons, combineLeft?, keys?_ofFields, Option.bind_eq_bind, Option.bind_some,
      searched, Option.bind_eq_bind, Option.bind_some, resolved]
    cases shared with
    | false => exact ⟨.field f.1 f.2 :: combined, rfl⟩
    | true =>
      have present : f.1 ∈ second.map Prod.fst := by
        rw [← Ty.heads_ofList (second.map Prod.fst)]
        exact (LabelSet.contains?_eq_some searched).2.mp rfl
      obtain ⟨other, valued⟩ := Option.isSome_iff_exists.mp (get?_ofFields_isSome compared present)
      rw [combineField?, valued]
      exact ⟨.field f.1 (.both f.2 other) :: combined, rfl⟩

theorem combine?_isSome_iff {t u : Ty} :
    (combine? t u).isSome ↔ IsRecord u ∧ Comparable t u := by
  constructor
  · intro resolved
    obtain ⟨result, found⟩ := Option.isSome_iff_exists.mp resolved
    simp only [combine?, Option.bind_eq_bind, Option.bind_eq_some_iff] at found
    obtain ⟨_, _, _, keyed, right, kept, _⟩ := found
    obtain ⟨first, rfl⟩ := keys?_isSome_iff.mp (Option.isSome_of_eq_some keyed)
    rw [keys?_ofFields, Option.some.injEq] at keyed
    subst keyed
    have accepted := Option.isSome_of_eq_some kept
    obtain ⟨second, rfl, each⟩ := omit?_isSome_iff.mp accepted
    have compared := forall_contains?_isSome_iff.mp fun f member => (each f member).2
    exact ⟨isRecord_of_omit? accepted, (comparable_ofFields_iff.mpr compared).symm⟩
  · intro accepted
    obtain ⟨one, first, second, rfl, rfl, each⟩ := accepted
    have back := comparable_ofFields_iff.mp (comparable_ofFields_iff.mpr each).symm
    obtain ⟨combined, resolved⟩ := exists_combineLeft? each
    have kept : (omit? (ofFields second) (.ofList (first.map Prod.fst))).isSome := by
      rw [omit?_ofFields_isSome_iff]
      intro g member
      exact ⟨isRecord_ofFields_iff.mp one g member,
        forall_contains?_isSome_iff.mpr back g member⟩
    obtain ⟨rest, omitted⟩ := Option.isSome_iff_exists.mp kept
    simp [combine?, resolved, keys?_ofFields, omitted, Ty.concat?_ofList]

-- Both operands of a merge have to be records: the first one is cut, the second one combined.
theorem merge?_isSome_iff {t u : Ty} : (merge? t u).isSome ↔ IsRecord t ∧ IsRecord u := by
  constructor
  · intro resolved
    obtain ⟨result, found⟩ := Option.isSome_iff_exists.mp resolved
    simp only [merge?, Option.bind_eq_bind, Option.bind_eq_some_iff] at found
    obtain ⟨shared, _, cut, kept, combined⟩ := found
    exact ⟨isRecord_of_omit? (Option.isSome_of_eq_some kept),
      (combine?_isSome_iff.mp (Option.isSome_of_eq_some combined)).1⟩
  · intro accepted
    obtain ⟨left, right⟩ := accepted
    obtain ⟨first, rfl⟩ := isRecord_iff.mp left
    obtain ⟨second, rfl⟩ := isRecord_iff.mp right
    rw [merge?_ofRows, Option.isSome_some]

theorem overwrite?_isSome_iff {t u : Ty} :
    (overwrite? t u).isSome ↔ IsRecord t ∧ IsRecord u := by
  constructor
  · intro resolved
    obtain ⟨result, found⟩ := Option.isSome_iff_exists.mp resolved
    rw [overwrite?, Option.bind_eq_bind, Option.bind_eq_some_iff] at found
    obtain ⟨replacing, picked, merged⟩ := found
    exact ⟨(merge?_isSome_iff.mp (Option.isSome_of_eq_some merged)).1,
      (intersect?_isSome_iff.mp (Option.isSome_of_eq_some picked)).1⟩
  · intro accepted
    obtain ⟨left, right⟩ := accepted
    obtain ⟨first, rfl⟩ := isRecord_iff.mp left
    obtain ⟨second, rfl⟩ := isRecord_iff.mp right
    rw [overwrite?_ofRows, Option.isSome_some]

theorem accepted_operands (t u : Ty) :
    ((keys? t).isSome ↔ IsFields t) ∧
    ((pick? t u).isSome ↔
      ∃ fields, t = ofFields fields ∧ ∀ f ∈ fields, (contains? u f.1).isSome) ∧
    ((omit? t u).isSome ↔
      ∃ fields, t = ofFields fields ∧
        ∀ f ∈ fields, IsLabel f.1 ∧ (contains? u f.1).isSome) ∧
    ((diffKeys? t u).isSome ↔ Comparable t u) ∧
    ((allKeys? t u).isSome ↔ Comparable t u) ∧
    ((sharedKeys? t u).isSome ↔ IsRecord t ∧ Comparable t u) ∧
    ((intersect? t u).isSome ↔ IsRecord u ∧ Comparable t u) ∧
    ((combine? t u).isSome ↔ IsRecord u ∧ Comparable t u) ∧
    ((merge? t u).isSome ↔ IsRecord t ∧ IsRecord u) ∧
    ((overwrite? t u).isSome ↔ IsRecord t ∧ IsRecord u) :=
  ⟨keys?_isSome_iff, pick?_isSome_iff, omit?_isSome_iff, diffKeys?_isSome_iff, allKeys?_isSome_iff,
    sharedKeys?_isSome_iff, intersect?_isSome_iff, combine?_isSome_iff, merge?_isSome_iff,
    overwrite?_isSome_iff⟩

-- A list of fields that is no record has keys all the same, and is combined with the empty record.
theorem accepted_operands_no_label :
    size? (ofFields [(.leaf .u8, .leaf .u8)]) = none ∧
    keys? (ofFields [(.leaf .u8, .leaf .u8)]) = some (.ofList [.leaf .u8]) ∧
    combine? (ofFields [(.leaf .u8, .leaf .u8)]) .nil = some (ofFields [(.leaf .u8, .leaf .u8)]) ∧
    merge? (ofFields [(.leaf .u8, .leaf .u8)]) .nil = none := by
  decide

end Record

end TypeCalculus
