import TypeCalculus.Proofs.Combination

namespace TypeCalculus.Record

namespace Rows

-- Every row goes to one of two lists, and both keep the order.
inductive Dealt : Rows → Rows → Rows → Prop
  | nil : Dealt [] [] []
  | left {row : Key × Ty} {rows first second : Rows} (rest : Dealt rows first second) :
      Dealt (row :: rows) (row :: first) second
  | right {row : Key × Ty} {rows first second : Rows} (rest : Dealt rows first second) :
      Dealt (row :: rows) first (row :: second)

theorem dealt_only_without (rows : Rows) (chosen : List Key) :
    Dealt rows (rows.only chosen) (rows.without chosen) := by
  induction rows with
  | nil => exact .nil
  | cons row rows rest =>
    rw [only, without, List.filter_cons, List.filter_cons]
    by_cases inside : row.1 ∈ chosen
    · simp only [inside, not_true_eq_false, decide_true, decide_false, if_true,
        Bool.false_eq_true, if_false]
      exact .left rest
    · simp only [inside, not_false_eq_true, decide_true, decide_false, if_true,
        Bool.false_eq_true, if_false]
      exact .right rest

theorem mem_only {rows : Rows} {chosen : List Key} {row : Key × Ty} :
    row ∈ rows.only chosen ↔ row ∈ rows ∧ row.1 ∈ chosen := by
  rw [only, List.mem_filter, decide_eq_true_eq]

theorem mem_without {rows : Rows} {dropped : List Key} {row : Key × Ty} :
    row ∈ rows.without dropped ↔ row ∈ rows ∧ row.1 ∉ dropped := by
  rw [without, List.mem_filter, decide_eq_true_eq]

theorem xor_mem_only_without {rows : Rows} {row : Key × Ty} (member : row ∈ rows)
    (chosen : List Key) : Xor (row ∈ rows.only chosen) (row ∈ rows.without chosen) := by
  rw [mem_only, mem_without]
  by_cases inside : row.1 ∈ chosen
  · exact .inl ⟨⟨member, inside⟩, fun outside => outside.2 inside⟩
  · exact .inr ⟨⟨member, inside⟩, fun picked => inside picked.2⟩

theorem only_apart_without (rows : Rows) (chosen : List Key) :
    ∀ key ∈ (rows.only chosen).keys, key ∉ (rows.without chosen).keys := by
  intro key picked omitted
  exact (mem_keys_without.mp omitted).2 (mem_keys_only.mp picked).2

theorem only_only (rows : Rows) (a b : List Key) :
    (rows.only a).only b = rows.only (a.filter fun key => key ∈ b) := by
  simp only [only, List.filter_filter]
  apply List.filter_congr
  intro row _
  simp [Bool.and_comm]

theorem without_union (rows : Rows) (a b : List Key) :
    rows.without (a ++ b.filter fun key => key ∉ a) = (rows.without a).without b := by
  rw [without_without]
  apply without_congr
  intro key _
  rw [LabelSet.mem_append_filter, List.mem_append]

theorem only_without (rows : Rows) (a b : List Key) :
    (rows.without a).only b = rows.only (b.filter fun key => key ∉ a) := by
  simp only [only, without, List.filter_filter]
  apply List.filter_congr
  intro row _
  simp

end Rows

theorem pick?_omit?_split (rows : Rows) (chosen first second : List Key) :
    (∃ picked omitted : Rows,
      pick? (ofRows rows) (LabelSet.ofKeys chosen) = some (ofRows picked) ∧
      omit? (ofRows rows) (LabelSet.ofKeys chosen) = some (ofRows omitted) ∧
      Rows.Dealt rows picked omitted ∧
      (∀ row ∈ rows, Xor (row ∈ picked) (row ∈ omitted)) ∧
      (∃ keys, keys? (ofRows picked) = some keys ∧
        (do LabelSet.intersect? (← keys? (ofRows rows)) (LabelSet.ofKeys chosen)) = some keys) ∧
      (∃ keys, keys? (ofRows omitted) = some keys ∧
        (do LabelSet.diff? (← keys? (ofRows rows)) (LabelSet.ofKeys chosen)) = some keys) ∧
      ∃ whole, combine? (ofRows picked) (ofRows omitted) = some whole ∧
        merge? (ofRows picked) (ofRows omitted) = some whole ∧
        Ty.concat? (ofRows picked) (ofRows omitted) = some whole) ∧
    (∃ fused,
      (do pick? (← pick? (ofRows rows) (LabelSet.ofKeys first)) (LabelSet.ofKeys second)) =
        some fused ∧
      (do
        let both ← LabelSet.intersect? (LabelSet.ofKeys first) (LabelSet.ofKeys second)
        pick? (ofRows rows) both) = some fused) ∧
    (∃ fused,
      (do omit? (← omit? (ofRows rows) (LabelSet.ofKeys first)) (LabelSet.ofKeys second)) =
        some fused ∧
      (do
        let either ← LabelSet.union? (LabelSet.ofKeys first) (LabelSet.ofKeys second)
        omit? (ofRows rows) either) = some fused) ∧
    ∃ fused,
      (do omit? (← pick? (ofRows rows) (LabelSet.ofKeys second)) (LabelSet.ofKeys first)) =
        some fused ∧
      (do pick? (← omit? (ofRows rows) (LabelSet.ofKeys first)) (LabelSet.ofKeys second)) =
        some fused ∧
      (do
        let left ← LabelSet.diff? (LabelSet.ofKeys second) (LabelSet.ofKeys first)
        pick? (ofRows rows) left) = some fused := by
  have apart := Rows.only_apart_without rows chosen
  refine ⟨⟨rows.only chosen, rows.without chosen, pick?_ofRows rows chosen,
    omit?_ofRows rows chosen, Rows.dealt_only_without rows chosen,
    fun row member => Rows.xor_mem_only_without member chosen, ?_, ?_, ?_⟩, ?_, ?_, ?_⟩
  · exact ⟨_, keys?_ofRows _, by simp [Rows.keys_only]⟩
  · exact ⟨_, keys?_ofRows _, by simp [Rows.keys_without]⟩
  · refine ⟨_, combine?_ofRows _ _, ?_, ?_⟩
    · rw [merge?_ofRows, Rows.merge_of_apart apart, Rows.combine_of_apart apart]
    · rw [concat?_ofRows, Rows.combine_of_apart apart]
  · refine ⟨ofRows ((rows.only first).only second), ?_, ?_⟩
    · rw [pick?_ofRows, Option.bind_eq_bind, Option.bind_some, pick?_ofRows]
    · rw [LabelSet.intersect?_ofKeys, Option.bind_eq_bind, Option.bind_some, pick?_ofRows,
        Rows.only_only]
  · refine ⟨ofRows ((rows.without first).without second), ?_, ?_⟩
    · rw [omit?_ofRows, Option.bind_eq_bind, Option.bind_some, omit?_ofRows]
    · rw [LabelSet.union?_ofKeys, Option.bind_eq_bind, Option.bind_some, omit?_ofRows,
        Rows.without_union]
  · refine ⟨ofRows ((rows.without first).only second), ?_, ?_, ?_⟩
    · rw [pick?_ofRows, Option.bind_eq_bind, Option.bind_some, omit?_ofRows, Rows.without_only]
    · rw [omit?_ofRows, Option.bind_eq_bind, Option.bind_some, pick?_ofRows]
    · rw [LabelSet.diff?_ofKeys, Option.bind_eq_bind, Option.bind_some, pick?_ofRows,
        Rows.only_without]

theorem pick?_omit?_split_repeated_key :
    (Key.ofText "a", Ty.leaf .u8) ∈
      [(Key.ofText "a", .nil), (.ofText "b", .nil), (.ofText "a", .leaf .u8)] ∧
    ∃ picked omitted : Rows,
      pick? (ofRows [(.ofText "a", .nil), (.ofText "b", .nil), (.ofText "a", .leaf .u8)])
        (LabelSet.ofTexts ["c", "a"]) = some (ofRows picked) ∧
      omit? (ofRows [(.ofText "a", .nil), (.ofText "b", .nil), (.ofText "a", .leaf .u8)])
        (LabelSet.ofTexts ["c", "a"]) = some (ofRows omitted) ∧
      Xor ((Key.ofText "a", Ty.leaf .u8) ∈ picked) ((Key.ofText "a", Ty.leaf .u8) ∈ omitted) := by
  obtain ⟨⟨picked, omitted, kept, left, _, once, _⟩, _⟩ := pick?_omit?_split
    [(.ofText "a", .nil), (.ofText "b", .nil), (.ofText "a", .leaf .u8)]
    [.ofText "c", .ofText "a"] [] []
  exact ⟨by simp, picked, omitted, kept, left, once _ (by simp)⟩

end TypeCalculus.Record
