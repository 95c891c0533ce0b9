import TypeCalculus.Proofs.Kinds

namespace TypeCalculus.Record

-- Of a label that is no key of theirs neither has a value, so `values` asks nothing more of it.
structure Equivalent (t u : Ty) : Prop where
  left : IsDistinct t
  right : IsDistinct u
  keys : (do LabelSet.equal? (← keys? t) (← keys? u)) = some true
  values : ∀ key : Key, get? t key.ty = get? u key.ty

def EquivalentResults (a b : Option Ty) : Prop :=
  ∃ t u, a = some t ∧ b = some u ∧ Equivalent t u

namespace Rows

structure Alike (t u : Rows) : Prop where
  left : t.keys.Nodup
  right : u.keys.Nodup
  lookup : ∀ key, List.lookup key t = u.lookup key

namespace Alike

variable {t t' u u' : Rows}

theorem mem_keys (alike : Alike t t') (key : Key) : key ∈ t.keys ↔ key ∈ t'.keys := by
  rw [← lookup_isSome_iff, alike.lookup, lookup_isSome_iff]

theorem only (alike : Alike t t') {a b : List Key} (same : ∀ key, key ∈ a ↔ key ∈ b) :
    Alike (t.only a) (t'.only b) := by
  refine ⟨nodup_keys_only alike.left, nodup_keys_only alike.right, ?_⟩
  intro key
  simp only [lookup_only, same key, alike.lookup key]

theorem without (alike : Alike t t') {a b : List Key} (same : ∀ key, key ∈ a ↔ key ∈ b) :
    Alike (t.without a) (t'.without b) := by
  refine ⟨nodup_keys_without alike.left, nodup_keys_without alike.right, ?_⟩
  intro key
  simp only [lookup_without, same key, alike.lookup key]

theorem merge (first : Alike t t') (second : Alike u u') : Alike (t.merge u) (t'.merge u') := by
  refine ⟨nodup_keys_merge first.left second.left, nodup_keys_merge first.right second.right, ?_⟩
  intro key
  simp only [lookup_merge, second.mem_keys key, first.lookup key, second.lookup key]

theorem overwrite (first : Alike t t') (second : Alike u u') :
    Alike (t.overwrite u) (t'.overwrite u') := by
  rw [overwrite_eq_merge, overwrite_eq_merge]
  exact first.merge (second.only first.mem_keys)

theorem combine (first : Alike t t') (second : Alike u u') :
    Alike (t.combine u) (t'.combine u') := by
  refine ⟨nodup_keys_combine first.left second.left,
    nodup_keys_combine first.right second.right, ?_⟩
  intro key
  rw [lookup_combine, lookup_combine, first.lookup, second.lookup]

-- The rows are the same ones in another order, so one list has partial forms when the other has.
theorem mem_iff (alike : Alike t t') (row : Key × Ty) : row ∈ t ↔ row ∈ t' := by
  rw [← lookup_eq_some_iff alike.left, alike.lookup, lookup_eq_some_iff alike.right]

theorem partials_isSome_iff (alike : Alike t t') :
    (t.mapM partialRow?).isSome ↔ (t'.mapM partialRow?).isSome := by
  simp only [mapM_partialRow?_isSome_iff, alike.mem_iff]

theorem partials (alike : Alike t t') {p p' : Rows} (first : t.mapM partialRow? = some p)
    (second : t'.mapM partialRow? = some p') : Alike p p' := by
  refine ⟨?_, ?_, ?_⟩
  · rw [keys_mapM_partialRow? first]
    exact alike.left
  · rw [keys_mapM_partialRow? second]
    exact alike.right
  · intro key
    rw [lookup_mapM_partialRow? first, lookup_mapM_partialRow? second, alike.lookup]

end Alike

theorem alike_iff_perm {t u : Rows} : t.Alike u ↔ t.keys.Nodup ∧ t.Perm u := by
  constructor
  · intro alike
    have first : t.Nodup := alike.left.of_map _
    have second : u.Nodup := alike.right.of_map _
    exact ⟨alike.left, (List.perm_ext_iff_of_nodup first second).mpr alike.mem_iff⟩
  · rintro ⟨distinct, rearranged⟩
    have other : u.keys.Nodup := (rearranged.map Prod.fst).nodup_iff.mp distinct
    refine ⟨distinct, other, ?_⟩
    intro key
    apply Option.ext
    intro value
    rw [lookup_eq_some_iff distinct, lookup_eq_some_iff other, rearranged.mem_iff]

end Rows

theorem equivalent_of_alike {t u : Rows} (alike : t.Alike u) :
    Equivalent (ofRows t) (ofRows u) := by
  refine ⟨⟨t, alike.left, rfl⟩, ⟨u, alike.right, rfl⟩, ?_, ?_⟩
  · simp only [keys?_ofRows, Option.bind_eq_bind, Option.bind_some, LabelSet.equal?_ofKeys_iff]
    exact alike.mem_keys
  · intro key
    rw [get?_ofRows, get?_ofRows, alike.lookup]

theorem exists_alike {a b : Ty} (same : Equivalent a b) :
    ∃ t u : Rows, t.Alike u ∧ a = ofRows t ∧ b = ofRows u := by
  obtain ⟨⟨t, first, rfl⟩, ⟨u, second, rfl⟩, _, values⟩ := same
  refine ⟨t, u, ⟨first, second, ?_⟩, rfl, rfl⟩
  intro key
  rw [← get?_ofRows, values, get?_ofRows]

theorem equivalentResults_of_alike {a b : Option Ty} {t u : Rows} (first : a = some (ofRows t))
    (second : b = some (ofRows u)) (alike : t.Alike u) : EquivalentResults a b :=
  ⟨_, _, first, second, equivalent_of_alike alike⟩

theorem equivalent_congruence {t t' u u' : Ty} {keys keys' : List Key}
    (first : Equivalent t t') (second : Equivalent u u')
    (chosen : LabelSet.equal? (LabelSet.ofKeys keys) (LabelSet.ofKeys keys') = some true) :
    EquivalentResults (pick? t (LabelSet.ofKeys keys)) (pick? t' (LabelSet.ofKeys keys')) ∧
    EquivalentResults (omit? t (LabelSet.ofKeys keys)) (omit? t' (LabelSet.ofKeys keys')) ∧
    EquivalentResults (intersect? t u) (intersect? t' u') ∧
    EquivalentResults (merge? t u) (merge? t' u') ∧
    EquivalentResults (overwrite? t u) (overwrite? t' u') ∧
    EquivalentResults (combine? t u) (combine? t' u') ∧
    ((deepPartial? t).isSome ↔ (deepPartial? t').isSome) ∧
    ∀ p p', deepPartial? t = some p → deepPartial? t' = some p' → Equivalent p p' := by
  obtain ⟨t, t', left, rfl, rfl⟩ := exists_alike first
  obtain ⟨u, u', right, rfl, rfl⟩ := exists_alike second
  have same := LabelSet.equal?_ofKeys_iff.mp chosen
  refine ⟨?_, ?_, ?_, ?_, ?_, ?_, ?_, ?_⟩
  · exact equivalentResults_of_alike (pick?_ofRows _ _) (pick?_ofRows _ _) (left.only same)
  · exact equivalentResults_of_alike (omit?_ofRows _ _) (omit?_ofRows _ _) (left.without same)
  · exact equivalentResults_of_alike (intersect?_ofRows _ _) (intersect?_ofRows _ _)
      (right.only left.mem_keys)
  · exact equivalentResults_of_alike (merge?_ofRows _ _) (merge?_ofRows _ _) (left.merge right)
  · exact equivalentResults_of_alike (overwrite?_ofRows _ _) (overwrite?_ofRows _ _)
      (left.overwrite right)
  · exact equivalentResults_of_alike (combine?_ofRows _ _) (combine?_ofRows _ _)
      (left.combine right)
  · rw [deepPartial?_ofRows, deepPartial?_ofRows, Option.isSome_map, Option.isSome_map]
    exact left.partials_isSome_iff
  · intro p p' resolved resolved'
    rw [deepPartial?_ofRows, Option.map_eq_some_iff] at resolved resolved'
    obtain ⟨partials, found, rfl⟩ := resolved
    obtain ⟨partials', found', rfl⟩ := resolved'
    exact equivalent_of_alike (left.partials found found')

theorem equivalent_congruence_reordered :
    Equivalent (ofTexts [("a", .nil), ("b", .leaf .u8)]) (ofTexts [("b", .leaf .u8), ("a", .nil)]) ∧
    Equivalent (ofTexts [("b", .leaf .char), ("c", .nil)])
      (ofTexts [("c", .nil), ("b", .leaf .char)]) ∧
    LabelSet.equal? (LabelSet.ofTexts ["a", "c"]) (LabelSet.ofTexts ["c", "a", "c"]) = some true ∧
    EquivalentResults
      (overwrite? (ofTexts [("a", .nil), ("b", .leaf .u8)])
        (ofTexts [("b", .leaf .char), ("c", .nil)]))
      (overwrite? (ofTexts [("b", .leaf .u8), ("a", .nil)])
        (ofTexts [("c", .nil), ("b", .leaf .char)])) ∧
    Equivalent (ofTexts [("a", .optional .nil), ("b", .optional (.leaf .u8))])
      (ofTexts [("b", .optional (.leaf .u8)), ("a", .optional .nil)]) := by
  have first : Equivalent (ofTexts [("a", .nil), ("b", .leaf .u8)])
      (ofTexts [("b", .leaf .u8), ("a", .nil)]) :=
    equivalent_of_alike (t := textRows [("a", .nil), ("b", .leaf .u8)])
      (Rows.alike_iff_perm.mpr ⟨by decide, .swap _ _ _⟩)
  have second : Equivalent (ofTexts [("b", .leaf .char), ("c", .nil)])
      (ofTexts [("c", .nil), ("b", .leaf .char)]) :=
    equivalent_of_alike (t := textRows [("b", .leaf .char), ("c", .nil)])
      (Rows.alike_iff_perm.mpr ⟨by decide, .swap _ _ _⟩)
  have chosen : LabelSet.equal? (LabelSet.ofKeys [.ofText "a", .ofText "c"])
      (LabelSet.ofKeys [.ofText "c", .ofText "a", .ofText "c"]) = some true := by decide
  obtain ⟨_, _, _, _, overwritten, _, _, partials⟩ := equivalent_congruence first second chosen
  exact ⟨first, second, chosen, overwritten, partials _ _ (by decide) (by decide)⟩

end TypeCalculus.Record
