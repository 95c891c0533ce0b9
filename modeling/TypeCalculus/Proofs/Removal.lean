import TypeCalculus.Proofs.Lengths
import TypeCalculus.Proofs.OrderedLaws

namespace TypeCalculus.LabelSet

open Number (Table)
open Sequence (length?)

variable {keys others : List Key}

theorem mem_joined_filter_not_mem (covered : ∀ key ∈ others, key ∈ keys) (key : Key) :
    key ∈ joined (keys.filter fun key => key ∉ others) others ↔ key ∈ keys := by
  rw [mem_joined, List.mem_filter, decide_eq_true_eq]
  constructor
  · intro found
    rcases found with ⟨kept, _⟩ | taken
    · exact kept
    · exact covered key taken
  · intro member
    by_cases taken : key ∈ others
    · exact .inr taken
    · exact .inl ⟨member, taken⟩

-- Without repeats every label that is taken away is one of the first list, once.
theorem length_filter_not_mem (first : keys.Nodup) (second : others.Nodup)
    (covered : ∀ key ∈ others, key ∈ keys) :
    (keys.filter fun key => key ∉ others).length + others.length = keys.length := by
  have taken : (others.filter fun key => key ∈ keys) = others :=
    List.filter_eq_self.mpr fun key member => decide_eq_true (covered key member)
  have shared := length_filter_mem_comm first second
  rw [taken] at shared
  rw [← shared]
  exact length_filter_add keys others

theorem drop?_of_covered (keys others : List Key) :
    ((drop? (ofKeys keys) (ofKeys others)).isSome ↔ ∀ key ∈ others, key ∈ keys) ∧
    ∀ left : Ty, drop? (ofKeys keys) (ofKeys others) = some left →
      diff? (ofKeys keys) (ofKeys others) = some left ∧
      (∀ key ∈ others, contains? left key.ty = some false) ∧
      (do equal? (← union? left (ofKeys others)) (ofKeys keys)) = some true ∧
      (keys.Nodup → others.Nodup → keys.length ≤ 63 → ∃ count,
        length? left = some count ∧
        (do Table.standard.sub? (← length? (ofKeys keys)) (← length? (ofKeys others))) =
          some count) := by
  refine ⟨drop?_ofKeys_isSome_iff, ?_⟩
  intro left resolved
  obtain ⟨covered, rfl⟩ := drop?_ofKeys_eq_some_iff.mp resolved
  refine ⟨diff?_ofKeys keys others, ?_, ?_, ?_⟩
  · intro key taken
    simp [taken]
  · rw [union?_eq_joined, Option.bind_eq_bind, Option.bind_some, equal?_ofKeys_iff]
    exact mem_joined_filter_not_mem covered
  · intro first second short
    have counted := length_filter_not_mem first second covered
    refine ⟨.number (keys.filter fun key => key ∉ others).length, ?_, ?_⟩
    · rw [Sequence.length?_ofKeys, if_pos (by omega)]
    · rw [Sequence.length?_ofKeys, Sequence.length?_ofKeys, if_pos (by omega), if_pos (by omega),
        Option.bind_eq_bind, Option.bind_some, Option.bind_some,
        Table.sub?_number short (by omega), ← counted, Nat.add_sub_cancel]

theorem drop?_of_covered_middle :
    drop? (ofTexts ["a", "b", "c"]) (ofTexts ["b"]) = some (ofTexts ["a", "c"]) ∧
    [Key.ofText "a", .ofText "b", .ofText "c"].Nodup ∧ [Key.ofText "b"].Nodup ∧
    [Key.ofText "a", .ofText "b", .ofText "c"].length ≤ 63 ∧
    contains? (ofTexts ["a", "c"]) (Label.ofText "b") = some false ∧
    (do equal? (← union? (ofTexts ["a", "c"]) (ofTexts ["b"])) (ofTexts ["a", "b", "c"])) =
      some true ∧
    (do Table.standard.sub? (← length? (ofTexts ["a", "b", "c"])) (← length? (ofTexts ["b"]))) =
      some (.number 2) := by
  obtain ⟨_, parts⟩ := drop?_of_covered [.ofText "a", .ofText "b", .ofText "c"] [.ofText "b"]
  have resolved : drop? (ofTexts ["a", "b", "c"]) (ofTexts ["b"]) =
      some (ofTexts ["a", "c"]) := by decide
  have first : [Key.ofText "a", .ofText "b", .ofText "c"].Nodup := by decide
  have second : [Key.ofText "b"].Nodup := by decide
  have short : [Key.ofText "a", .ofText "b", .ofText "c"].length ≤ 63 := by decide
  obtain ⟨_, apart, restored, lengths⟩ := parts _ resolved
  obtain ⟨count, measured, counted⟩ := lengths first second short
  have two : length? (ofTexts ["a", "c"]) = some (.number 2) := by decide
  cases measured.symm.trans two
  exact ⟨resolved, first, second, short, apart (.ofText "b") (by decide), restored, counted⟩

end TypeCalculus.LabelSet
