import TypeCalculus.Proofs.Operands

namespace TypeCalculus

-- Two results that never differ: what is left to say is where the first has one.
theorem eq_some_iff_of_agree {a b : Option Ty} {accepted : Prop}
    (domain : a.isSome ↔ accepted ∧ b.isSome)
    (agree : ∀ x y, a = some x → b = some y → x = y) (result : Ty) :
    a = some result ↔ accepted ∧ b = some result := by
  constructor
  · intro found
    obtain ⟨proper, resolves⟩ := domain.mp (Option.isSome_of_eq_some found)
    obtain ⟨other, resolved⟩ := Option.isSome_iff_exists.mp resolves
    rw [agree result other found resolved]
    exact ⟨proper, resolved⟩
  · intro both
    obtain ⟨proper, found⟩ := both
    obtain ⟨other, resolved⟩ := Option.isSome_iff_exists.mp
      (domain.mpr ⟨proper, Option.isSome_of_eq_some found⟩)
    rw [← agree other result resolved found]
    exact resolved

namespace LabelSet

open Label (IsLabel)

def common? : Ty → Ty → Option Ty
  | .nil, _ => some .nil
  | .cons head tail, other => do
    let shared ← contains? other head
    let rest ← common? tail other
    return if shared then .cons head rest else rest
  | _, _ => none

theorem common?_ofList_isSome_iff {elements : List Ty} {other : Ty} :
    (common? (.ofList elements) other).isSome ↔ ∀ e ∈ elements, (contains? other e).isSome := by
  induction elements with
  | nil => simp [Ty.ofList, common?]
  | cons e elements rest =>
    rw [List.forall_mem_cons, ← rest, Ty.ofList, common?]
    cases contains? other e <;> cases common? (.ofList elements) other <;> simp

theorem common?_eq_some {t u shared : Ty} (resolved : common? t u = some shared) :
    t = .ofList t.heads ∧ shared = .ofList (t.heads.filter fun element => element ∈ u.heads) := by
  induction t generalizing shared with
  | nil => cases resolved; exact ⟨rfl, rfl⟩
  | cons head tail _ rest =>
    simp only [common?, Option.bind_eq_bind, Option.bind_eq_some_iff] at resolved
    obtain ⟨found, searched, others, kept, same⟩ := resolved
    cases same
    obtain ⟨listed, rfl⟩ := rest kept
    refine ⟨by rw [Ty.heads, Ty.ofList, ← listed], ?_⟩
    rw [contains?_eq_decide searched]
    by_cases inside : head ∈ u.heads <;> simp [inside, Ty.heads, Ty.ofList]
  | _ => cases resolved

-- The second difference drops what the first one kept, and of the elements nothing else is left.
theorem intersect?_eq_some {t u shared : Ty} (resolved : intersect? t u = some shared) :
    t = .ofList t.heads ∧ shared = .ofList (t.heads.filter fun element => element ∈ u.heads) := by
  rw [intersect?, Option.bind_eq_bind, Option.bind_eq_some_iff] at resolved
  obtain ⟨left, outer, inner⟩ := resolved
  obtain ⟨listed, rfl⟩ := diff?_eq_some outer
  obtain ⟨_, rfl⟩ := diff?_eq_some inner
  refine ⟨listed, congrArg Ty.ofList (List.filter_congr ?_)⟩
  intro element member
  simp [Ty.heads_ofList, member]

theorem intersect?_isSome_iff {t u : Ty} :
    (intersect? t u).isSome ↔ (∀ e ∈ t.heads, IsLabel e) ∧ (common? t u).isSome := by
  have ofList : ∀ elements : List Ty, (intersect? (.ofList elements) u).isSome ↔
      (∀ e ∈ elements, IsLabel e) ∧ (common? (.ofList elements) u).isSome := by
    intro elements
    rw [intersect?_ofList_isSome_iff, common?_ofList_isSome_iff, forall₂_and]
  constructor
  · intro resolved
    obtain ⟨shared, found⟩ := Option.isSome_iff_exists.mp resolved
    rw [(intersect?_eq_some found).1] at resolved ⊢
    rw [Ty.heads_ofList]
    exact (ofList _).mp resolved
  · intro both
    obtain ⟨labels, resolved⟩ := both
    obtain ⟨shared, found⟩ := Option.isSome_iff_exists.mp resolved
    rw [(common?_eq_some found).1] at resolved ⊢
    exact (ofList _).mpr ⟨labels, resolved⟩

theorem intersect?_eq_some_iff (t u shared : Ty) :
    intersect? t u = some shared ↔ (∀ e ∈ t.heads, IsLabel e) ∧ common? t u = some shared := by
  refine eq_some_iff_of_agree intersect?_isSome_iff ?_ shared
  intro twice once resolved found
  rw [(intersect?_eq_some resolved).2, (common?_eq_some found).2]

end LabelSet

namespace Record

open Label (IsLabel)
open LabelSet (contains?)

def spare? : Ty → Ty → Option Ty
  | .nil, _ => some .nil
  | .cons (.field key value) tail, dropped => do
    let listed ← contains? dropped key
    let rest ← spare? tail dropped
    return if listed then rest else .cons (.field key value) rest
  | _, _ => none

theorem spare?_isSome_iff {t dropped : Ty} :
    (spare? t dropped).isSome ↔ (pick? t dropped).isSome := by
  induction t with
  | nil => exact Iff.rfl
  | cons head tail _ rest =>
    cases head with
    | field key value =>
      rw [spare?, pick?]
      cases contains? dropped key with
      | none => exact Iff.rfl
      | some listed =>
        cases spared : spare? tail dropped <;> cases picked : pick? tail dropped <;>
          simp [spared, picked] at rest ⊢
    | _ => exact Iff.rfl
  | _ => exact Iff.rfl

theorem pick?_eq_some {t chosen picked : Ty} (resolved : pick? t chosen = some picked) :
    ∃ fields, t = ofFields fields ∧
      picked = ofFields (fields.filter fun f => f.1 ∈ chosen.heads) := by
  obtain ⟨fields, rfl⟩ := isFields_of_pick? (Option.isSome_of_eq_some resolved)
  refine ⟨fields, rfl, ?_⟩
  induction fields generalizing picked with
  | nil => cases resolved; rfl
  | cons f fields rest =>
    simp only [ofFields_cons, pick?, Option.bind_eq_bind, Option.bind_eq_some_iff] at resolved
    obtain ⟨kept, searched, others, found, same⟩ := resolved
    cases same
    rw [rest found, LabelSet.contains?_eq_decide searched]
    by_cases inside : f.1 ∈ chosen.heads <;> simp [inside, ofFields_cons]

theorem spare?_eq_some {t dropped kept : Ty} (resolved : spare? t dropped = some kept) :
    ∃ fields, t = ofFields fields ∧
      kept = ofFields (fields.filter fun f => f.1 ∉ dropped.heads) := by
  have shaped := spare?_isSome_iff.mp (Option.isSome_of_eq_some resolved)
  obtain ⟨fields, rfl⟩ := isFields_of_pick? shaped
  refine ⟨fields, rfl, ?_⟩
  clear shaped
  induction fields generalizing kept with
  | nil => cases resolved; rfl
  | cons f fields rest =>
    simp only [ofFields_cons, spare?, Option.bind_eq_bind, Option.bind_eq_some_iff] at resolved
    obtain ⟨listed, searched, others, found, same⟩ := resolved
    cases same
    rw [rest found, LabelSet.contains?_eq_decide searched]
    by_cases inside : f.1 ∈ dropped.heads <;> simp [inside, ofFields_cons]

theorem omit?_eq_some {t dropped kept : Ty} (resolved : omit? t dropped = some kept) :
    ∃ fields, t = ofFields fields ∧
      kept = ofFields (fields.filter fun f => f.1 ∉ dropped.heads) := by
  simp only [omit?, Option.bind_eq_bind, Option.bind_eq_some_iff] at resolved
  obtain ⟨keys, keyed, left, lacking, picked⟩ := resolved
  obtain ⟨fields, rfl, rfl⟩ := pick?_eq_some picked
  rw [keys?_ofFields, Option.some.injEq] at keyed
  subst keyed
  obtain ⟨_, rfl⟩ := LabelSet.diff?_eq_some lacking
  refine ⟨fields, rfl, congrArg ofFields (List.filter_congr ?_)⟩
  intro f member
  have own : f.1 ∈ fields.map Prod.fst := List.mem_map_of_mem member
  simp only [Ty.heads_ofList, List.mem_filter, own, true_and, decide_eq_true_eq]

theorem omit?_eq_some_iff (t dropped kept : Ty) :
    omit? t dropped = some kept ↔ IsRecord t ∧ spare? t dropped = some kept := by
  have domain : (omit? t dropped).isSome ↔ IsRecord t ∧ (spare? t dropped).isSome := by
    rw [omit?_isSome_iff, spare?_isSome_iff, pick?_isSome_iff]
    constructor
    · intro shaped
      obtain ⟨fields, rfl, each⟩ := shaped
      exact ⟨isRecord_ofFields_iff.mpr fun f member => (each f member).1, fields, rfl,
        fun f member => (each f member).2⟩
    · intro accepted
      obtain ⟨one, fields, rfl, each⟩ := accepted
      exact ⟨fields, rfl, fun f member => ⟨isRecord_ofFields_iff.mp one f member, each f member⟩⟩
  refine eq_some_iff_of_agree domain ?_ kept
  intro twice once resolved found
  obtain ⟨fields, rfl, rfl⟩ := omit?_eq_some resolved
  obtain ⟨others, same, rfl⟩ := spare?_eq_some found
  rw [ofFields_injective same]

theorem pickKeys?_isSome_iff {t u : Ty} : (do pick? u (← keys? t)).isSome ↔ Comparable t u := by
  constructor
  · intro resolved
    obtain ⟨picked, found⟩ := Option.isSome_iff_exists.mp resolved
    simp only [Option.bind_eq_bind, Option.bind_eq_some_iff] at found
    obtain ⟨keys, keyed, kept⟩ := found
    obtain ⟨first, rfl⟩ := keys?_isSome_iff.mp (Option.isSome_of_eq_some keyed)
    obtain ⟨second, rfl⟩ := isFields_of_pick? (Option.isSome_of_eq_some kept)
    rw [keys?_ofFields, Option.bind_eq_bind, Option.bind_some, pick?_ofFields_isSome_iff,
      forall_contains?_isSome_iff] at resolved
    exact (comparable_ofFields_iff.mpr resolved).symm
  · intro compared
    obtain ⟨second, first, rfl, rfl, each⟩ := compared.symm
    rw [keys?_ofFields, Option.bind_eq_bind, Option.bind_some, pick?_ofFields_isSome_iff,
      forall_contains?_isSome_iff]
    exact each

theorem pickKeys?_eq_some {t u kept : Ty} (resolved : (do pick? u (← keys? t)) = some kept) :
    ∃ first second, t = ofFields first ∧ u = ofFields second ∧
      kept = ofFields (second.filter fun f => f.1 ∈ first.map Prod.fst) := by
  simp only [Option.bind_eq_bind, Option.bind_eq_some_iff] at resolved
  obtain ⟨keys, keyed, picked⟩ := resolved
  obtain ⟨first, rfl⟩ := keys?_isSome_iff.mp (Option.isSome_of_eq_some keyed)
  rw [keys?_ofFields, Option.some.injEq] at keyed
  subst keyed
  obtain ⟨second, rfl, rfl⟩ := pick?_eq_some picked
  exact ⟨first, second, rfl, rfl, by rw [Ty.heads_ofList]⟩

theorem bind_keys?_eq_some {t u result : Ty} {operator : Ty → Ty → Option Ty}
    (resolved : (do operator (← keys? t) (← keys? u)) = some result) :
    ∃ first second, t = ofFields first ∧ u = ofFields second ∧
      operator (.ofList (first.map Prod.fst)) (.ofList (second.map Prod.fst)) = some result := by
  obtain ⟨first, second, rfl, rfl, _⟩ := (bind_keys?_isSome_iff operator).mp
    (Option.isSome_of_eq_some resolved)
  rw [keys?_ofFields, keys?_ofFields] at resolved
  exact ⟨first, second, rfl, rfl, resolved⟩

theorem intersect?_eq_some {t u kept : Ty} (resolved : intersect? t u = some kept) :
    ∃ first second, t = ofFields first ∧ u = ofFields second ∧
      kept = ofFields (second.filter fun f => f.1 ∈ first.map Prod.fst) := by
  rw [intersect?, Option.bind_eq_bind, Option.bind_eq_some_iff] at resolved
  obtain ⟨missing, lacking, omitted⟩ := resolved
  obtain ⟨second, first, rfl, rfl, left⟩ := bind_keys?_eq_some lacking
  obtain ⟨_, rfl⟩ := LabelSet.diff?_eq_some left
  obtain ⟨fields, same, rfl⟩ := omit?_eq_some omitted
  cases ofFields_injective same
  refine ⟨first, second, rfl, rfl, congrArg ofFields (List.filter_congr ?_)⟩
  intro f member
  have own : f.1 ∈ second.map Prod.fst := List.mem_map_of_mem member
  simp only [Ty.heads_ofList, List.mem_filter, own, true_and, decide_eq_true_eq, not_not]

theorem intersect?_eq_some_iff (t u kept : Ty) :
    intersect? t u = some kept ↔ IsRecord u ∧ (do pick? u (← keys? t)) = some kept := by
  have domain : (intersect? t u).isSome ↔ IsRecord u ∧ (do pick? u (← keys? t)).isSome := by
    rw [intersect?_isSome_iff, pickKeys?_isSome_iff]
  refine eq_some_iff_of_agree domain ?_ kept
  intro twice once resolved found
  obtain ⟨first, second, rfl, rfl, rfl⟩ := intersect?_eq_some resolved
  obtain ⟨others, fields, sameFirst, sameSecond, rfl⟩ := pickKeys?_eq_some found
  rw [ofFields_injective sameFirst, ofFields_injective sameSecond]

-- A pick is a list of fields, so it has keys: those that it was picked by, as the record has them.
theorem keysOfPick?_eq_some_iff {t u keys : Ty} :
    (do keys? (← pick? t (← keys? u))) = some keys ↔
      ∃ kept, (do pick? t (← keys? u)) = some kept ∧ keys? kept = some keys := by
  rw [← Option.bind_eq_some_iff]
  simp only [Option.bind_eq_bind, Option.bind_assoc]

theorem keysOfPick?_isSome_iff {t u : Ty} :
    (do keys? (← pick? t (← keys? u))).isSome ↔ Comparable u t := by
  rw [← pickKeys?_isSome_iff]
  constructor
  · intro resolved
    obtain ⟨keys, found⟩ := Option.isSome_iff_exists.mp resolved
    obtain ⟨kept, picked, _⟩ := keysOfPick?_eq_some_iff.mp found
    exact Option.isSome_of_eq_some picked
  · intro resolved
    obtain ⟨kept, picked⟩ := Option.isSome_iff_exists.mp resolved
    obtain ⟨_, _, _, _, rfl⟩ := pickKeys?_eq_some picked
    exact Option.isSome_of_eq_some (keysOfPick?_eq_some_iff.mpr ⟨_, picked, keys?_ofFields _⟩)

theorem sharedKeys?_eq_some_iff (t u keys : Ty) :
    sharedKeys? t u = some keys ↔
      IsRecord t ∧ (do keys? (← pick? t (← keys? u))) = some keys := by
  have domain : (sharedKeys? t u).isSome ↔
      IsRecord t ∧ (do keys? (← pick? t (← keys? u))).isSome := by
    rw [sharedKeys?_isSome_iff, keysOfPick?_isSome_iff]
    exact and_congr_right fun _ => ⟨Comparable.symm, Comparable.symm⟩
  refine eq_some_iff_of_agree domain ?_ keys
  intro twice once resolved found
  obtain ⟨first, second, rfl, rfl, shared⟩ := bind_keys?_eq_some resolved
  obtain ⟨_, rfl⟩ := LabelSet.intersect?_eq_some shared
  obtain ⟨kept, picked, named⟩ := keysOfPick?_eq_some_iff.mp found
  obtain ⟨others, fields, sameSecond, sameFirst, rfl⟩ := pickKeys?_eq_some picked
  cases ofFields_injective sameFirst
  cases ofFields_injective sameSecond
  rw [keys?_ofFields, Option.some.injEq] at named
  rw [← named]
  simp only [Ty.heads_ofList, List.filter_map, Function.comp_def]

theorem differences_in_one_pass :
    (∀ keys others : List Key, ∃ shared,
      LabelSet.intersect? (LabelSet.ofKeys keys) (LabelSet.ofKeys others) = some shared ∧
      LabelSet.common? (LabelSet.ofKeys keys) (LabelSet.ofKeys others) = some shared ∧
      shared = LabelSet.ofKeys (keys.filter fun key => key ∈ others)) ∧
    (∀ (rows : Rows) (dropped : List Key), ∃ kept,
      omit? (ofRows rows) (LabelSet.ofKeys dropped) = some kept ∧
      spare? (ofRows rows) (LabelSet.ofKeys dropped) = some kept ∧
      kept = ofRows (rows.filter fun row => row.1 ∉ dropped)) ∧
    (∀ t u : Rows, ∃ kept,
      intersect? (ofRows t) (ofRows u) = some kept ∧
      (do pick? (ofRows u) (← keys? (ofRows t))) = some kept) ∧
    (∀ t u : Rows, ∃ keys,
      sharedKeys? (ofRows t) (ofRows u) = some keys ∧
      (do keys? (← pick? (ofRows t) (← keys? (ofRows u)))) = some keys) ∧
    (∀ t u shared : Ty, LabelSet.intersect? t u = some shared ↔
      (∀ e ∈ t.heads, IsLabel e) ∧ LabelSet.common? t u = some shared) ∧
    (∀ t dropped kept : Ty, omit? t dropped = some kept ↔
      IsRecord t ∧ spare? t dropped = some kept) ∧
    (∀ t u kept : Ty, intersect? t u = some kept ↔
      IsRecord u ∧ (do pick? u (← keys? t)) = some kept) ∧
    ∀ t u keys : Ty, sharedKeys? t u = some keys ↔
      IsRecord t ∧ (do keys? (← pick? t (← keys? u))) = some keys := by
  refine ⟨?_, ?_, ?_, ?_, LabelSet.intersect?_eq_some_iff, omit?_eq_some_iff,
    intersect?_eq_some_iff, sharedKeys?_eq_some_iff⟩
  · intro keys others
    have twice := LabelSet.intersect?_ofKeys keys others
    exact ⟨_, twice, ((LabelSet.intersect?_eq_some_iff _ _ _).mp twice).2, rfl⟩
  · intro rows dropped
    have twice := omit?_ofRows rows dropped
    exact ⟨_, twice, ((omit?_eq_some_iff _ _ _).mp twice).2, rfl⟩
  · intro t u
    have twice := intersect?_ofRows t u
    exact ⟨_, twice, ((intersect?_eq_some_iff _ _ _).mp twice).2⟩
  · intro t u
    have twice := sharedKeys?_ofRows t u
    exact ⟨_, twice, ((sharedKeys?_eq_some_iff _ _ _).mp twice).2⟩

-- A type that is no label is not compared when the second operand is empty; the second difference
-- would compare it with itself.
theorem differences_in_one_pass_no_label :
    LabelSet.common? (LabelSet.ofTexts ["a", "b", "a"]) (LabelSet.ofTexts ["c", "a"]) =
      some (LabelSet.ofTexts ["a", "a"]) ∧
    LabelSet.common? (.ofList [.leaf .u8]) .nil = some .nil ∧
    LabelSet.intersect? (.ofList [.leaf .u8]) .nil ≠ some .nil := by
  obtain ⟨onLabels, _, _, _, onAny, _⟩ := differences_in_one_pass
  obtain ⟨_, _, once, rfl⟩ := onLabels [.ofText "a", .ofText "b", .ofText "a"]
    [.ofText "c", .ofText "a"]
  refine ⟨?_, by decide, ?_⟩
  · rw [LabelSet.ofTexts_eq, LabelSet.ofTexts_eq, LabelSet.ofTexts_eq]
    exact once.trans (by decide)
  · intro resolved
    obtain ⟨labels, _⟩ := (onAny _ _ _).mp resolved
    obtain ⟨_, written⟩ := labels (.leaf .u8) (by decide)
    cases written

end Record

end TypeCalculus
