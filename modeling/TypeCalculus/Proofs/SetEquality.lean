import TypeCalculus.Proofs.Rows

namespace TypeCalculus

variable {t t' u u' : List Key}

namespace LabelSet

theorem mem_iff_of_equal? (same : equal? (ofKeys t) (ofKeys t') = some true) (key : Key) :
    key ∈ t ↔ key ∈ t' :=
  equal?_ofKeys_iff.mp same key

theorem equal?_equivalence :
    Equivalence fun t u : List Key => equal? (ofKeys t) (ofKeys u) = some true := by
  constructor
  · intro t
    exact equal?_ofKeys_iff.mpr fun _ => Iff.rfl
  · intro t u same
    exact equal?_ofKeys_iff.mpr fun key => (mem_iff_of_equal? same key).symm
  · intro t u w first second
    exact equal?_ofKeys_iff.mpr fun key =>
      (mem_iff_of_equal? first key).trans (mem_iff_of_equal? second key)

theorem contains?_congr (same : equal? (ofKeys t) (ofKeys t') = some true) (key : Key) :
    contains? (ofKeys t) key.ty = contains? (ofKeys t') key.ty := by
  simp [mem_iff_of_equal? same key]

theorem subset?_congr (first : equal? (ofKeys t) (ofKeys t') = some true)
    (second : equal? (ofKeys u) (ofKeys u') = some true) :
    subset? (ofKeys t) (ofKeys u) = subset? (ofKeys t') (ofKeys u') := by
  simp only [subset?_ofKeys, mem_iff_of_equal? first, mem_iff_of_equal? second]

-- The second operand of a difference is only asked for members.
theorem diff?_congr_right (second : equal? (ofKeys u) (ofKeys u') = some true) :
    diff? (ofKeys t) (ofKeys u) = diff? (ofKeys t) (ofKeys u') := by
  simp only [diff?_ofKeys, mem_iff_of_equal? second]

theorem drop?_isSome_congr (first : equal? (ofKeys t) (ofKeys t') = some true)
    (second : equal? (ofKeys u) (ofKeys u') = some true) :
    (drop? (ofKeys t) (ofKeys u)).isSome ↔ (drop? (ofKeys t') (ofKeys u')).isSome := by
  simp only [drop?_ofKeys_isSome_iff, mem_iff_of_equal? first, mem_iff_of_equal? second]

end LabelSet

namespace Record

open LabelSet (ofKeys equal? mem_iff_of_equal?)

theorem pick?_congr_right (second : equal? (ofKeys u) (ofKeys u') = some true) (rows : Rows) :
    pick? (ofRows rows) (ofKeys u) = pick? (ofRows rows) (ofKeys u') := by
  rw [pick?_ofRows, pick?_ofRows, Rows.only_congr fun key _ => mem_iff_of_equal? second key]

theorem omit?_congr_right (second : equal? (ofKeys u) (ofKeys u') = some true) (rows : Rows) :
    omit? (ofRows rows) (ofKeys u) = omit? (ofRows rows) (ofKeys u') := by
  rw [omit?_ofRows, omit?_ofRows, Rows.without_congr fun key _ => mem_iff_of_equal? second key]

end Record

namespace LabelSet

open Record (Rows ofRows pick? omit?)

theorem equal?_congruence :
    (Equivalence fun t u : List Key => equal? (ofKeys t) (ofKeys u) = some true) ∧
    ∀ t t' u u' : List Key,
      equal? (ofKeys t) (ofKeys t') = some true → equal? (ofKeys u) (ofKeys u') = some true →
      (∀ key : Key, ∃ found, contains? (ofKeys t) key.ty = some found ∧
        contains? (ofKeys t') key.ty = some found) ∧
      (∃ covered, subset? (ofKeys t) (ofKeys u) = some covered ∧
        subset? (ofKeys t') (ofKeys u') = some covered) ∧
      (∃ left, diff? (ofKeys t) (ofKeys u) = some left ∧
        diff? (ofKeys t) (ofKeys u') = some left) ∧
      (∀ rows : Rows, ∃ picked, pick? (ofRows rows) (ofKeys u) = some picked ∧
        pick? (ofRows rows) (ofKeys u') = some picked) ∧
      (∀ rows : Rows, ∃ kept, omit? (ofRows rows) (ofKeys u) = some kept ∧
        omit? (ofRows rows) (ofKeys u') = some kept) ∧
      (do equal? (← diff? (ofKeys t) (ofKeys u)) (← diff? (ofKeys t') (ofKeys u'))) = some true ∧
      (do equal? (← union? (ofKeys t) (ofKeys u)) (← union? (ofKeys t') (ofKeys u'))) =
        some true ∧
      (do equal? (← intersect? (ofKeys t) (ofKeys u)) (← intersect? (ofKeys t') (ofKeys u'))) =
        some true ∧
      ((drop? (ofKeys t) (ofKeys u)).isSome ↔ (drop? (ofKeys t') (ofKeys u')).isSome) := by
  refine ⟨equal?_equivalence, ?_⟩
  intro t t' u u' first second
  have inFirst := mem_iff_of_equal? first
  have inSecond := mem_iff_of_equal? second
  refine ⟨?_, ?_, ?_, ?_, ?_, ?_, ?_, ?_, drop?_isSome_congr first second⟩
  · intro key
    exact ⟨_, contains?_ofKeys t key, by rw [← contains?_congr first, contains?_ofKeys]⟩
  · exact ⟨_, subset?_ofKeys t u, by rw [← subset?_congr first second, subset?_ofKeys]⟩
  · exact ⟨_, diff?_ofKeys t u, by rw [← diff?_congr_right second, diff?_ofKeys]⟩
  · intro rows
    exact ⟨_, Record.pick?_ofRows rows u, by
      rw [← Record.pick?_congr_right second, Record.pick?_ofRows]⟩
  · intro rows
    exact ⟨_, Record.omit?_ofRows rows u, by
      rw [← Record.omit?_congr_right second, Record.omit?_ofRows]⟩
  · simp only [diff?_ofKeys, Option.bind_eq_bind, Option.bind_some, equal?_ofKeys_iff,
      List.mem_filter, decide_eq_true_eq, inFirst, inSecond, implies_true]
  · simp only [union?_ofKeys, Option.bind_eq_bind, Option.bind_some, equal?_ofKeys_iff,
      List.mem_append, List.mem_filter, decide_eq_true_eq, inFirst, inSecond, implies_true]
  · simp only [intersect?_ofKeys, Option.bind_eq_bind, Option.bind_some, equal?_ofKeys_iff,
      List.mem_filter, decide_eq_true_eq, inFirst, inSecond, implies_true]

theorem equal?_congruence_reordered :
    equal? (ofTexts ["a", "b"]) (ofTexts ["b", "a", "b"]) = some true ∧
    equal? (ofTexts ["b", "c"]) (ofTexts ["c", "b"]) = some true ∧
    (do
      equal? (← union? (ofTexts ["a", "b"]) (ofTexts ["b", "c"]))
        (← union? (ofTexts ["b", "a", "b"]) (ofTexts ["c", "b"]))) = some true ∧
    (∃ kept, omit? (Record.ofTexts [("b", .nil), ("d", .leaf .u8)]) (ofTexts ["b", "c"]) =
      some kept ∧
      omit? (Record.ofTexts [("b", .nil), ("d", .leaf .u8)]) (ofTexts ["c", "b"]) = some kept) := by
  have first : equal? (ofTexts ["a", "b"]) (ofTexts ["b", "a", "b"]) = some true := by decide
  have second : equal? (ofTexts ["b", "c"]) (ofTexts ["c", "b"]) = some true := by decide
  obtain ⟨_, _, _, _, omitted, _, united, _⟩ := equal?_congruence.2 [.ofText "a", .ofText "b"]
    [.ofText "b", .ofText "a", .ofText "b"] [.ofText "b", .ofText "c"] [.ofText "c", .ofText "b"]
    first second
  exact ⟨first, second, united, omitted [(.ofText "b", .nil), (.ofText "d", .leaf .u8)]⟩

end LabelSet

end TypeCalculus
