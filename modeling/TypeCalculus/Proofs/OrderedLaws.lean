import TypeCalculus.Proofs.Keys

namespace TypeCalculus.LabelSet

variable {a b c : List Key}

def joined (a b : List Key) : List Key :=
  a ++ b.filter fun key => key ∉ a

theorem union?_eq_joined (a b : List Key) :
    union? (ofKeys a) (ofKeys b) = some (ofKeys (joined a b)) :=
  union?_ofKeys a b

theorem mem_joined {key : Key} : key ∈ joined a b ↔ key ∈ a ∨ key ∈ b :=
  mem_append_filter

theorem joined_of_subset (inside : ∀ key ∈ b, key ∈ a) : joined a b = a := by
  have nothing : (b.filter fun key => key ∉ a) = [] := by
    apply List.filter_eq_nil_iff.mpr
    intro key member
    simpa using inside key member
  rw [joined, nothing, List.append_nil]

-- A test of the elements alone commutes with the union. An element of the second list that passes
-- it is lacking in the first list exactly when it is lacking in what is kept of that one.
theorem filter_joined (kept : Key → Bool) (a b : List Key) :
    (joined a b).filter kept = joined (a.filter kept) (b.filter kept) := by
  rw [joined, joined, List.filter_append, List.filter_filter, List.filter_filter]
  refine congrArg _ (List.filter_congr ?_)
  intro key _
  cases stays : kept key <;> simp [stays]

theorem joined_assoc (a b c : List Key) : joined (joined a b) c = joined a (joined b c) := by
  have lacking : (c.filter fun key => key ∉ joined a b) =
      (c.filter fun key => key ∉ b).filter fun key => key ∉ a := by
    rw [List.filter_filter]
    apply List.filter_congr
    intro key _
    simp [mem_joined]
  calc joined (joined a b) c
      = a ++ (b.filter fun key => key ∉ a) ++ c.filter fun key => key ∉ joined a b := rfl
    _ = a ++ ((b.filter fun key => key ∉ a) ++
          (c.filter fun key => key ∉ b).filter fun key => key ∉ a) := by
        rw [List.append_assoc, lacking]
    _ = joined a (joined b c) := by
        rw [joined, joined, List.filter_append]

theorem filter_not_mem_joined (a b c : List Key) :
    (a.filter fun key => key ∉ joined b c) =
      (a.filter fun key => key ∉ b).filter fun key => key ∉ c := by
  rw [List.filter_filter]
  apply List.filter_congr
  intro key _
  simp [mem_joined, Bool.and_comm]

theorem filter_mem_filter_mem (a b c : List Key) :
    ((a.filter fun key => key ∈ b).filter fun key => key ∈ c) =
      a.filter fun key => key ∈ b.filter fun key => key ∈ c := by
  rw [List.filter_filter]
  apply List.filter_congr
  intro key _
  simp [Bool.and_comm]

theorem filter_mem_joined_self (a b : List Key) : (a.filter fun key => key ∈ joined a b) = a := by
  apply List.filter_eq_self.mpr
  intro key member
  simp [mem_joined, member]

theorem laws_of_label_lists (a b c : List Key) :
    (∃ t,
      (do union? (← union? (ofKeys a) (ofKeys b)) (ofKeys c)) = some t ∧
      (do union? (ofKeys a) (← union? (ofKeys b) (ofKeys c))) = some t) ∧
    union? (ofKeys a) (ofKeys a) = some (ofKeys a) ∧
    (∃ t,
      (do diff? (ofKeys a) (← union? (ofKeys b) (ofKeys c))) = some t ∧
      (do diff? (← diff? (ofKeys a) (ofKeys b)) (ofKeys c)) = some t) ∧
    (∃ t,
      (do diff? (← union? (ofKeys a) (ofKeys b)) (ofKeys c)) = some t ∧
      (do union? (← diff? (ofKeys a) (ofKeys c)) (← diff? (ofKeys b) (ofKeys c))) = some t) ∧
    (∃ t,
      (do intersect? (← intersect? (ofKeys a) (ofKeys b)) (ofKeys c)) = some t ∧
      (do intersect? (ofKeys a) (← intersect? (ofKeys b) (ofKeys c))) = some t) ∧
    (∃ t,
      (do intersect? (← union? (ofKeys a) (ofKeys b)) (ofKeys c)) = some t ∧
      (do union? (← intersect? (ofKeys a) (ofKeys c)) (← intersect? (ofKeys b) (ofKeys c))) =
        some t) ∧
    (do union? (ofKeys a) (← intersect? (ofKeys a) (ofKeys b))) = some (ofKeys a) ∧
    (do intersect? (ofKeys a) (← union? (ofKeys a) (ofKeys b))) = some (ofKeys a) ∧
    (do equal? (← union? (ofKeys a) (ofKeys b)) (← union? (ofKeys b) (ofKeys a))) = some true ∧
    (do equal? (← intersect? (ofKeys a) (ofKeys b)) (← intersect? (ofKeys b) (ofKeys a))) =
      some true ∧
    (do
      let part ← diff? (ofKeys a) (← intersect? (ofKeys b) (ofKeys c))
      equal? part (← union? (← diff? (ofKeys a) (ofKeys b)) (← diff? (ofKeys a) (ofKeys c)))) =
        some true := by
  simp only [union?_eq_joined, diff?_ofKeys, intersect?_ofKeys, Option.bind_eq_bind,
    Option.bind_some, equal?_ofKeys_iff]
  refine ⟨⟨_, rfl, ?_⟩, ?_, ⟨_, rfl, ?_⟩, ⟨_, rfl, ?_⟩, ⟨_, rfl, ?_⟩, ⟨_, rfl, ?_⟩, ?_, ?_, ?_, ?_,
    ?_⟩
  · rw [joined_assoc]
  · rw [joined_of_subset fun _ member => member]
  · rw [filter_not_mem_joined]
  · rw [filter_joined]
  · rw [filter_mem_filter_mem]
  · rw [filter_joined]
  · rw [joined_of_subset fun _ member => (List.mem_filter.mp member).1]
  · rw [filter_mem_joined_self]
  · intro key
    rw [mem_joined, mem_joined, or_comm]
  · intro key
    simp only [List.mem_filter, decide_eq_true_eq, and_comm]
  · intro key
    simp only [mem_joined, List.mem_filter, decide_eq_true_eq]
    rw [not_and_or, and_or_left]

example : union? (ofTexts ["a"]) (ofTexts ["b"]) ≠ union? (ofTexts ["b"]) (ofTexts ["a"]) := by
  decide

end TypeCalculus.LabelSet
