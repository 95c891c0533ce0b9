import TypeCalculus.Proofs.Keys
import TypeCalculus.Sequence

namespace TypeCalculus.LabelSet

def lasts (keys : List Key) : List Key :=
  (List.range keys.length).filterMap fun i => keys[i]?.filter fun key => key ∉ keys.drop (i + 1)

-- Places in the tail are one further in the whole list, and the same labels come after them.
theorem lasts_cons (key : Key) (keys : List Key) :
    lasts (key :: keys) = if key ∈ keys then lasts keys else key :: lasts keys := by
  have first : ((key :: keys)[0]?.filter fun k => k ∉ (key :: keys).drop (0 + 1)) =
      if key ∈ keys then none else some key := by
    by_cases again : key ∈ keys <;> simp [again]
  have later : ((List.range keys.length).filterMap fun i =>
      (key :: keys)[i + 1]?.filter fun k => k ∉ (key :: keys).drop (i + 1 + 1)) = lasts keys := rfl
  rw [lasts, List.length_cons, List.range_succ_eq_map, List.filterMap_cons, first,
    List.filterMap_map]
  by_cases again : key ∈ keys
  · rw [if_pos again, if_pos again]
    exact later
  · rw [if_neg again, if_neg again]
    exact congrArg (key :: ·) later

theorem dedup_eq_lasts (keys : List Key) : keys.dedup = lasts keys := by
  induction keys with
  | nil => rfl
  | cons key keys rest =>
    rw [lasts_cons]
    by_cases again : key ∈ keys
    · rw [if_pos again, List.dedup_cons_of_mem again, rest]
    · rw [if_neg again, List.dedup_cons_of_notMem again, rest]

-- An element of the first list stays when neither the rest of that list nor the second has it.
theorem dedup_append_filter (a b : List Key) :
    (a ++ b).dedup = (a.dedup.filter fun key => key ∉ b) ++ b.dedup := by
  induction a with
  | nil => rfl
  | cons key a rest =>
    rw [List.cons_append]
    by_cases again : key ∈ a
    · rw [List.dedup_cons_of_mem (List.mem_append_left b again), List.dedup_cons_of_mem again, rest]
    · rw [List.dedup_cons_of_notMem again]
      by_cases later : key ∈ b
      · rw [List.dedup_cons_of_mem (List.mem_append_right a later), rest,
          List.filter_cons_of_neg (by simpa using later)]
      · have absent : key ∉ a ++ b := by simp [again, later]
        rw [List.dedup_cons_of_notMem absent, rest,
          List.filter_cons_of_pos (by simpa using later), List.cons_append]

theorem labels?_tuple {keys : List Key} (few : keys.length ≤ 12) :
    Sequence.labels? (.tuple (keys.map Key.ty)) = dedup? (ofKeys keys) := by
  have fits : (keys.map Key.ty).length ≤ Sequence.maxTuple := by rwa [List.length_map]
  rw [Sequence.labels?, Sequence.toList?, if_pos fits]
  rfl

theorem dedup?_keeps_last_occurrences :
    (∀ keys : List Key, ∃ kept : List Key,
      dedup? (ofKeys keys) = some (ofKeys kept) ∧
      kept.Nodup ∧
      kept = lasts keys ∧
      equal? (ofKeys kept) (ofKeys keys) = some true ∧
      (ofKeys kept = ofKeys keys ↔ keys.Nodup) ∧
      dedup? (ofKeys kept) = some (ofKeys kept)) ∧
    (∀ a b : List Key, ∃ t,
      (do dedup? (← Ty.concat? (ofKeys a) (ofKeys b))) = some t ∧
      (do Ty.concat? (← diff? (← dedup? (ofKeys a)) (ofKeys b)) (← dedup? (ofKeys b))) = some t) ∧
    ∀ keys : List Key, keys.length ≤ 12 →
      Sequence.labels? (.tuple (keys.map Key.ty)) = dedup? (ofKeys keys) := by
  refine ⟨?_, ?_, fun _ => labels?_tuple⟩
  · intro keys
    refine ⟨keys.dedup, dedup?_ofKeys keys, List.nodup_dedup keys, dedup_eq_lasts keys, ?_, ?_, ?_⟩
    · rw [equal?_ofKeys_iff]
      intro key
      exact List.mem_dedup
    · rw [ofKeys_inj, List.dedup_eq_self]
    · rw [dedup?_ofKeys, List.dedup_idem]
  · intro a b
    refine ⟨ofKeys (a ++ b).dedup, ?_, ?_⟩
    · rw [concat?_ofKeys, Option.bind_eq_bind, Option.bind_some, dedup?_ofKeys]
    · simp only [dedup?_ofKeys, diff?_ofKeys, concat?_ofKeys, Option.bind_eq_bind, Option.bind_some,
        dedup_append_filter]

theorem dedup?_keeps_last_occurrences_thrice :
    [Key.ofText "a", .ofText "b", .ofText "a", .ofText "a"].length ≤ 12 ∧
    Sequence.labels? (.tuple [Label.ofText "a", Label.ofText "b", Label.ofText "a",
      Label.ofText "a"]) = some (ofTexts ["b", "a"]) := by
  obtain ⟨_, _, tuples⟩ := dedup?_keeps_last_occurrences
  have few : [Key.ofText "a", .ofText "b", .ofText "a", .ofText "a"].length ≤ 12 := by decide
  refine ⟨few, (tuples _ few).trans ?_⟩
  decide

end TypeCalculus.LabelSet
