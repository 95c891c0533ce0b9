import TypeCalculus.Proofs.Merge

namespace TypeCalculus.Record

namespace Rows

theorem overwrite_overwrite (t u w : Rows) :
    (t.overwrite u).overwrite w = t.overwrite (u.merge w) := by
  have last : w.only (t.overwrite u).keys = w.only t.keys :=
    only_congr fun key _ => mem_keys_overwrite
  have replaced : (u.only t.keys).without w.keys ++ w.only t.keys = (u.merge w).only t.keys := by
    rw [merge, only_append, without_only]
  calc (t.overwrite u).overwrite w
      = (t.without u.keys).without w.keys ++ (u.only t.keys).without w.keys ++ w.only t.keys := by
        rw [overwrite, last, overwrite, without_append]
    _ = t.without (u.merge w).keys ++ (u.merge w).only t.keys := by
        rw [without_keys_merge, List.append_assoc, replaced]
    _ = t.overwrite (u.merge w) := rfl

theorem length_overwrite {t u : Rows} (first : t.keys.Nodup) (second : u.keys.Nodup) :
    (t.overwrite u).length = t.length := by
  have rearranged : (t.overwrite u).keys.Perm t.keys :=
    (List.perm_ext_iff_of_nodup (nodup_keys_overwrite first second) first).mpr fun _ =>
      mem_keys_overwrite
  simpa [keys] using rearranged.length_eq

end Rows

theorem overwrite?_action (t u w : Rows) :
    (∃ twice,
      (do overwrite? (← overwrite? (ofRows t) (ofRows u)) (ofRows w)) = some twice ∧
      (do overwrite? (ofRows t) (← merge? (ofRows u) (ofRows w))) = some twice) ∧
    ∃ replaced : Rows,
      replaced = t.without u.keys ++ u.only t.keys ∧
      overwrite? (ofRows t) (ofRows u) = some (ofRows replaced) ∧
      overwrite? (ofRows replaced) (ofRows u) = some (ofRows replaced) ∧
      (do
        let kept ← omit? (ofRows t) (← keys? (ofRows u))
        Ty.concat? kept (← pick? (ofRows u) (← keys? (ofRows t)))) = some (ofRows replaced) ∧
      (do LabelSet.equal? (← keys? (ofRows replaced)) (← keys? (ofRows t))) = some true ∧
      (t.keys.Nodup → u.keys.Nodup →
        size? (ofRows replaced) = some t.length ∧ size? (ofRows t) = some t.length) ∧
      (∀ key ∈ t.keys, get? (ofRows replaced) key.ty =
        if key ∈ u.keys then get? (ofRows u) key.ty else get? (ofRows t) key.ty) ∧
      ∀ key ∈ u.keys, key ∉ t.keys → get? (ofRows replaced) key.ty = none := by
  refine ⟨⟨ofRows ((t.overwrite u).overwrite w), ?_, ?_⟩, t.overwrite u, rfl, overwrite?_ofRows t u,
    ?_, ?_, ?_, ?_, ?_, ?_⟩
  · simp
  · simp [Rows.overwrite_overwrite]
  · rw [overwrite?_ofRows, Rows.overwrite_overwrite, Rows.merge_self]
  · simp [Rows.overwrite]
  · simp only [keys?_ofRows, Option.bind_eq_bind, Option.bind_some, LabelSet.equal?_ofKeys_iff]
    exact fun key => Rows.mem_keys_overwrite
  · intro first second
    exact ⟨by rw [size?_ofRows, Rows.length_overwrite first second], size?_ofRows t⟩
  · intro key member
    rw [get?_ofRows, get?_ofRows, get?_ofRows, Rows.lookup_overwrite member]
  · intro key _ absent
    rw [get?_ofRows, Rows.lookup_eq_none_iff, Rows.mem_keys_overwrite]
    exact absent

theorem overwrite?_action_shared_key :
    ∃ replaced : Rows,
      overwrite? (ofRows [(.ofText "a", .leaf .u8), (.ofText "b", .nil)])
        (ofRows [(.ofText "a", .leaf .char), (.ofText "c", .nil)]) = some (ofRows replaced) ∧
      size? (ofRows replaced) = some 2 ∧
      get? (ofRows replaced) (Label.ofText "a") = some (.leaf .char) ∧
      get? (ofRows replaced) (Label.ofText "c") = none := by
  obtain ⟨replaced, _, resolved, _, _, _, sized, valued, absent⟩ := (overwrite?_action
    [(.ofText "a", .leaf .u8), (.ofText "b", .nil)]
    [(.ofText "a", .leaf .char), (.ofText "c", .nil)] []).2
  refine ⟨replaced, resolved, (sized (by decide) (by decide)).1, ?_, ?_⟩
  · exact (valued (.ofText "a") (by decide)).trans (by decide)
  · exact absent (.ofText "c") (by decide) (by decide)

end TypeCalculus.Record
