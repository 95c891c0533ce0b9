import TypeCalculus.Proofs.Combination

namespace TypeCalculus.Record

theorem combine?_by_key (t u : Rows) :
    ∃ combined,
      combine? (ofRows t) (ofRows u) = some combined ∧
      (∃ keys, keys? combined = some keys ∧ allKeys? (ofRows t) (ofRows u) = some keys) ∧
      (∀ key : Key,
        ((get? (ofRows t) key.ty).isSome ↔ key ∈ t.keys) ∧
        ((get? (ofRows u) key.ty).isSome ↔ key ∈ u.keys) ∧
        get? combined key.ty =
          match get? (ofRows t) key.ty, get? (ofRows u) key.ty with
          | some left, some right => some (.both left right)
          | some left, none => some left
          | none, some right => some right
          | none, none => none) ∧
      ((∀ key ∈ t.keys, key ∉ u.keys) →
        merge? (ofRows t) (ofRows u) = some combined ∧
        Ty.concat? (ofRows t) (ofRows u) = some combined) := by
  refine ⟨ofRows (t.combine u), combine?_ofRows t u, ?_, ?_, ?_⟩
  · refine ⟨_, keys?_ofRows _, ?_⟩
    rw [allKeys?_ofRows, Rows.keys_combine]
  · intro key
    rw [get?_ofRows, get?_ofRows, get?_ofRows, Rows.lookup_combine]
    refine ⟨Rows.lookup_isSome_iff, Rows.lookup_isSome_iff, ?_⟩
    cases t.lookup key <;> cases u.lookup key <;> rfl
  · intro apart
    rw [Rows.combine_of_apart apart]
    refine ⟨?_, concat?_ofRows t u⟩
    rw [merge?_ofRows, Rows.merge_of_apart apart]

-- The second record has its key twice: the first of its values counts.
theorem combine?_by_key_apart :
    (∀ key ∈ Rows.keys [(.ofText "a", .nil)],
      key ∉ Rows.keys [(.ofText "b", .leaf .u8), (.ofText "b", .nil)]) ∧
    ∃ combined,
      combine? (ofRows [(.ofText "a", .nil)])
        (ofRows [(.ofText "b", .leaf .u8), (.ofText "b", .nil)]) = some combined ∧
      get? combined (Label.ofText "b") = some (.leaf .u8) ∧
      merge? (ofRows [(.ofText "a", .nil)])
        (ofRows [(.ofText "b", .leaf .u8), (.ofText "b", .nil)]) = some combined ∧
      Ty.concat? (ofRows [(.ofText "a", .nil)])
        (ofRows [(.ofText "b", .leaf .u8), (.ofText "b", .nil)]) = some combined := by
  obtain ⟨combined, resolved, _, valued, appended⟩ := combine?_by_key [(.ofText "a", .nil)]
    [(.ofText "b", .leaf .u8), (.ofText "b", .nil)]
  have apart : ∀ key ∈ Rows.keys [(.ofText "a", .nil)],
      key ∉ Rows.keys [(.ofText "b", .leaf .u8), (.ofText "b", .nil)] := by decide
  exact ⟨apart, combined, resolved, (valued (.ofText "b")).2.2.trans (by decide), appended apart⟩

end TypeCalculus.Record
