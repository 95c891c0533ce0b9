import TypeCalculus.Proofs.Combination
import TypeCalculus.Proofs.Rounds
import TypeCalculus.Sequence

namespace TypeCalculus

open Number (Table)

namespace Sequence

theorem next?_number (n : Nat) :
    Table.standard.next? (.number n) =
      if n + 1 ≤ 64 then some (.number (n + 1 : Nat)) else none := by
  by_cases inside : n ≤ 63
  · have held : Table.standard.row? (.number n) = some (Table.standard.row n) :=
      Table.row?_number inside
    rw [if_pos (by omega), Table.next?, held]
    rfl
  · have outside : Table.standard.row? (.number n) = none :=
      Table.row?_eq_none (.inr (Int.ofNat_lt.mpr (Nat.lt_of_not_le inside)))
    rw [if_neg (by omega), Table.next?, outside, Option.map_none]

-- Elements in front of a type are counted on from its length. The successor of the greatest number
-- is the last one that there is.
theorem length?_foldr_cons {last : Ty} {n : Nat} (counted : length? last = some (.number n))
    (bound : n ≤ 64) (front : List Ty) :
    length? (front.foldr .cons last) =
      if front.length + n ≤ 64 then some (.number (front.length + n : Nat)) else none := by
  induction front with
  | nil => rw [List.foldr_nil, counted, List.length_nil, Nat.zero_add, if_pos bound]
  | cons t front rest =>
    rw [List.foldr_cons, length?, rest, List.length_cons, Nat.add_right_comm]
    by_cases short : front.length + n ≤ 64
    · rw [if_pos short, Option.bind_eq_bind, Option.bind_some, next?_number]
    · rw [if_neg short, if_neg (by omega)]
      rfl

theorem length?_ofList (elements : List Ty) :
    length? (.ofList elements) =
      if elements.length ≤ 64 then some (.number elements.length) else none := by
  have listed : elements.foldr .cons .nil = Ty.ofList elements := by
    rw [← Ty.ofList, Ty.foldr_cons_ofList, List.append_nil]
  rw [← listed]
  exact length?_foldr_cons rfl (Nat.zero_le 64) elements

theorem length?_ofKeys (keys : List Key) :
    length? (LabelSet.ofKeys keys) =
      if keys.length ≤ 64 then some (.number keys.length) else none := by
  rw [LabelSet.ofKeys, length?_ofList, List.length_map]

theorem length?_ofRows (rows : Record.Rows) :
    length? (Record.ofRows rows) =
      if rows.length ≤ 64 then some (.number rows.length) else none := by
  rw [Record.ofRows, Record.ofFields, length?_ofList, List.length_map, List.length_map]

end Sequence

namespace LabelSet

theorem length_filter_mem_comm {keys others : List Key} (first : keys.Nodup)
    (second : others.Nodup) :
    (keys.filter fun key => key ∈ others).length =
      (others.filter fun key => key ∈ keys).length := by
  apply List.Perm.length_eq
  rw [List.perm_ext_iff_of_nodup (first.filter _) (second.filter _)]
  intro key
  simp only [List.mem_filter, decide_eq_true_eq]
  exact And.comm

theorem length_filter_add (keys others : List Key) :
    (keys.filter fun key => key ∉ others).length +
      (keys.filter fun key => key ∈ others).length = keys.length := by
  rw [List.length_eq_length_filter_add (l := keys) fun key => key ∈ others, Nat.add_comm]
  simp only [decide_not]

theorem length_eq_length_dedup {keys all : List Key} (distinct : keys.Nodup)
    (same : ∀ key, key ∈ keys ↔ key ∈ all) : keys.length = all.dedup.length := by
  apply List.Perm.length_eq
  rw [List.perm_ext_iff_of_nodup distinct (List.nodup_dedup all)]
  intro key
  rw [same key, List.mem_dedup]

end LabelSet

namespace Record

namespace Rows

theorem length_keys (rows : Rows) : rows.keys.length = rows.length :=
  List.length_map _

theorem length_merge {t u : Rows} (first : t.keys.Nodup) (second : u.keys.Nodup) :
    (t.merge u).length = (t.keys ++ u.keys).dedup.length := by
  rw [← length_keys]
  apply LabelSet.length_eq_length_dedup (nodup_keys_merge first second)
  intro key
  rw [mem_keys_merge, List.mem_append]

theorem length_combine {t u : Rows} (first : t.keys.Nodup) (second : u.keys.Nodup) :
    (t.combine u).length = (t.keys ++ u.keys).dedup.length := by
  rw [← length_keys]
  apply LabelSet.length_eq_length_dedup (nodup_keys_combine first second)
  intro key
  rw [keys_combine, List.mem_append, List.mem_append, List.mem_filter]
  by_cases present : key ∈ t.keys <;> simp [present]

end Rows

end Record

open LabelSet (ofKeys union? intersect? diff?)
open Record (Rows ofRows merge? combine? allKeys?)
open Sequence (length? length?_ofKeys length?_ofRows)

theorem inclusion_exclusion :
    (∀ t u : List Key, t.Nodup → u.Nodup → t.length + u.length ≤ 63 →
      (∃ total,
        (do
          let both ← length? (← union? (ofKeys t) (ofKeys u))
          Table.standard.add? both (← length? (← intersect? (ofKeys t) (ofKeys u)))) =
            some total ∧
        (do Table.standard.add? (← length? (ofKeys t)) (← length? (ofKeys u))) = some total ∧
        total = .number (t.length + u.length : Nat)) ∧
      ∃ rest,
        (do
          let whole ← length? (ofKeys t)
          Table.standard.sub? whole (← length? (← intersect? (ofKeys t) (ofKeys u)))) =
            some rest ∧
        (do length? (← diff? (ofKeys t) (ofKeys u))) = some rest) ∧
    ∀ t u : Rows, t.keys.Nodup → u.keys.Nodup →
      ∃ count : Nat, count = (t.keys ++ u.keys).dedup.length ∧ count ≤ t.length + u.length ∧
        ∃ outcome, outcome = (if count ≤ 64 then some (.number count) else none) ∧
          (do length? (← merge? (ofRows t) (ofRows u))) = outcome ∧
          (do length? (← combine? (ofRows t) (ofRows u))) = outcome ∧
          (do length? (← allKeys? (ofRows t) (ofRows u))) = outcome := by
  constructor
  · intro t u first second short
    have shared := LabelSet.length_filter_mem_comm first second
    have left := LabelSet.length_filter_add t u
    have right := LabelSet.length_filter_add u t
    simp only [LabelSet.union?_ofKeys, LabelSet.intersect?_ofKeys, LabelSet.diff?_ofKeys,
      Option.bind_eq_bind, Option.bind_some, length?_ofKeys, List.length_append]
    -- Every list here is part of one operand or of both, so it has a length.
    rw [if_pos (by omega), if_pos (by omega), if_pos (by omega), if_pos (by omega),
      if_pos (by omega)]
    simp only [Option.bind_some]
    constructor
    · refine ⟨.number (t.length + u.length : Nat), ?_, ?_, rfl⟩
      · rw [Table.add?_number (by simp only [Table.standard]; omega)]
        have counted : t.length + (u.filter fun key => key ∉ t).length +
            (t.filter fun key => key ∈ u).length = t.length + u.length := by omega
        rw [counted]
      · exact Table.add?_number short
    · refine ⟨.number (t.filter fun key => key ∉ u).length, ?_, rfl⟩
      rw [Table.sub?_number (by simp only [Table.standard]; omega) (by omega)]
      have counted : t.length - (t.filter fun key => key ∈ u).length =
          (t.filter fun key => key ∉ u).length := by omega
      rw [counted]
  · intro t u first second
    refine ⟨_, rfl, ?_, _, rfl, ?_, ?_, ?_⟩
    · rw [← Rows.length_merge first second, Rows.merge, List.length_append]
      exact Nat.add_le_add_right (List.length_filter_le _ _) _
    · rw [Record.merge?_ofRows, Option.bind_eq_bind, Option.bind_some, length?_ofRows,
        Rows.length_merge first second]
    · rw [Record.combine?_ofRows, Option.bind_eq_bind, Option.bind_some, length?_ofRows,
        Rows.length_combine first second]
    · rw [Record.allKeys?_ofRows, Option.bind_eq_bind, Option.bind_some, length?_ofKeys,
        ← Rows.keys_combine, Rows.length_keys, Rows.length_combine first second]

theorem inclusion_exclusion_overlap :
    [Key.ofText "a", .ofText "b"].Nodup ∧ [Key.ofText "b", .ofText "c"].Nodup ∧
    (do
      let both ← length? (← union? (LabelSet.ofTexts ["a", "b"]) (LabelSet.ofTexts ["b", "c"]))
      Table.standard.add? both
        (← length? (← intersect? (LabelSet.ofTexts ["a", "b"]) (LabelSet.ofTexts ["b", "c"])))) =
      some (.number 4) ∧
    (∃ rest, (do length? (← diff? (LabelSet.ofTexts ["a", "b"]) (LabelSet.ofTexts ["b", "c"]))) =
      some rest) ∧
    (do length? (← merge? (Record.ofTexts [("a", .nil), ("b", .leaf .u8)])
      (Record.ofTexts [("b", .nil), ("c", .nil)]))) = some (.number 3) ∧
    (do length? (← combine? (Record.ofTexts [("a", .nil), ("b", .leaf .u8)])
      (Record.ofTexts [("b", .nil), ("c", .nil)]))) = some (.number 3) := by
  obtain ⟨sets, records⟩ := inclusion_exclusion
  obtain ⟨⟨total, summed, _, value⟩, rest, _, left⟩ := sets [.ofText "a", .ofText "b"]
    [.ofText "b", .ofText "c"] (by decide) (by decide) (by decide)
  obtain ⟨count, counted, _, outcome, found, merged, combined, _⟩ := records
    [(.ofText "a", .nil), (.ofText "b", .leaf .u8)] [(.ofText "b", .nil), (.ofText "c", .nil)]
    (by decide) (by decide)
  have three : outcome = some (.number 3) := by
    rw [found, counted]
    decide
  refine ⟨by decide, by decide, ?_, ⟨rest, left⟩, ?_, ?_⟩
  · exact summed.trans (congrArg some value)
  · exact merged.trans three
  · exact combined.trans three

end TypeCalculus
