import TypeCalculus.Proofs.Combination
import TypeCalculus.Proofs.Evaluation

namespace TypeCalculus.Record

namespace Rows

theorem mem_of_mem_merge {t u : Rows} {row : Key × Ty} (member : row ∈ t.merge u) :
    row ∈ t ∨ row ∈ u := by
  rcases List.mem_append.mp member with kept | second
  · exact .inl (List.mem_filter.mp kept).1
  · exact .inr second

theorem nil_merge (t : Rows) : merge [] t = t :=
  rfl

theorem merge_nil (t : Rows) : t.merge [] = t := by
  have whole : t.without (keys []) = t := without_eq_self (by simp)
  rw [merge, whole, List.append_nil]

theorem merge_self (t : Rows) : t.merge t = t := by
  have none_left : t.without t.keys = [] := without_eq_nil fun _ member => member
  rw [merge, none_left, List.nil_append]

theorem without_keys_merge (t u w : Rows) :
    t.without (u.merge w).keys = (t.without u.keys).without w.keys := by
  rw [without_without]
  exact without_congr fun key _ => by rw [mem_keys_merge, List.mem_append]

theorem merge_assoc (a b c : Rows) : (a.merge b).merge c = a.merge (b.merge c) := by
  calc (a.merge b).merge c
      = (a.without b.keys).without c.keys ++ b.without c.keys ++ c := by
        rw [merge, merge, without_append]
    _ = a.without (b.merge c).keys ++ (b.without c.keys ++ c) := by
        rw [without_keys_merge, List.append_assoc]
    _ = a.merge (b.merge c) := rfl

def mergeAll : List Rows → Rows
  | [] => []
  | record :: rest => record.merge (mergeAll rest)

theorem mergeAll_append (before after : List Rows) :
    mergeAll (before ++ after) = (mergeAll before).merge (mergeAll after) := by
  induction before with
  | nil => rfl
  | cons record rest ih => rw [List.cons_append, mergeAll, mergeAll, ih, merge_assoc]

theorem lookup_mergeAll (records : List Rows) (key : Key) :
    (mergeAll records).lookup key = records.reverse.findSome? fun record => record.lookup key := by
  induction records with
  | nil => rfl
  | cons record rest ih =>
    have last : [record].findSome? (fun record => record.lookup key) = record.lookup key := by
      cases found : record.lookup key <;> simp [found]
    rw [mergeAll, lookup_merge, List.reverse_cons, List.findSome?_append, last, ← ih, or_lookup]

end Rows

theorem merge?_eq_concat_omit (t u : Rows) :
    ∃ merged : Rows,
      merged = t.without u.keys ++ u ∧
      merge? (ofRows t) (ofRows u) = some (ofRows merged) ∧
      (do Ty.concat? (← omit? (ofRows t) (← keys? (ofRows u))) (ofRows u)) =
        some (ofRows merged) ∧
      (∀ key : Key, (get? (ofRows merged) key.ty).isSome ↔ key ∈ t.keys ∨ key ∈ u.keys) ∧
      (∀ key : Key, get? (ofRows merged) key.ty =
        if key ∈ u.keys then get? (ofRows u) key.ty else get? (ofRows t) key.ty) ∧
      (do LabelSet.equal? (← keys? (ofRows merged)) (← allKeys? (ofRows t) (ofRows u))) =
        some true ∧
      ∀ row ∈ merged, row ∈ t ∨ row ∈ u := by
  refine ⟨t.merge u, rfl, merge?_ofRows t u, ?_, ?_, ?_, ?_, ?_⟩
  · simp [Rows.merge]
  · intro key
    rw [get?_ofRows, Rows.lookup_isSome_iff, Rows.mem_keys_merge]
  · intro key
    rw [get?_ofRows, get?_ofRows, get?_ofRows, Rows.lookup_merge]
  · simp only [keys?_ofRows, allKeys?_ofRows, Option.bind_eq_bind, Option.bind_some,
      LabelSet.equal?_ofKeys_iff, Rows.mem_keys_merge]
    intro key
    by_cases first : key ∈ t.keys <;> simp [first]
  · intro row member
    exact Rows.mem_of_mem_merge member

theorem merge?_eq_concat_omit_shared_key :
    ∃ merged : Rows,
      merge? (ofRows [(.ofText "a", .nil), (.ofText "b", .nil)])
        (ofRows [(.ofText "b", .both .nil .nil)]) = some (ofRows merged) ∧
      get? (ofRows merged) (Label.ofText "b") = some (.both .nil .nil) ∧
      (Key.ofText "b", .both .nil .nil) ∈ merged ∧
      ((Key.ofText "b", .both .nil .nil) ∈ [(Key.ofText "a", Ty.nil), (.ofText "b", .nil)] ∨
        (Key.ofText "b", .both .nil .nil) ∈ [(Key.ofText "b", Ty.both .nil .nil)]) := by
  obtain ⟨merged, rows, resolved, _, _, value, _, each⟩ := merge?_eq_concat_omit
    [(.ofText "a", .nil), (.ofText "b", .nil)] [(.ofText "b", .both .nil .nil)]
  have member : (Key.ofText "b", Ty.both .nil .nil) ∈ merged := by
    subst rows
    decide
  refine ⟨merged, resolved, ?_, member, each _ member⟩
  exact (value (.ofText "b")).trans (by decide)

-- Expressions that merge the given records in this order, with any brackets. What stands for a
-- record may be any expression of it, and empty records may stand anywhere.
inductive Brackets (scope : Scope) : List Rows → Expr → Prop where
  | empty : Brackets scope [] (.type .nil)
  | one {record : Rows} {e : Expr} (found : e.evaluate scope = .ok (ofRows record)) :
      Brackets scope [record] e
  | join {before after : List Rows} {d e : Expr} (left : Brackets scope before d)
      (right : Brackets scope after e) : Brackets scope (before ++ after) (.apply .merge [d, e])

theorem evaluate_brackets {scope : Scope} {records : List Rows} {e : Expr}
    (shape : Brackets scope records e) :
    e.evaluate scope = .ok (ofRows (Rows.mergeAll records)) := by
  induction shape with
  | empty => exact Expr.evaluate_type .nil
  | one found => rw [found, Rows.mergeAll, Rows.mergeAll, Rows.merge_nil]
  | @join before after d e _ _ left right =>
    have merged : Operator.result? .merge
        [ofRows (Rows.mergeAll before), ofRows (Rows.mergeAll after)] =
          some (ofRows (Rows.mergeAll (before ++ after))) := by
      rw [Rows.mergeAll_append]
      exact merge?_ofRows _ _
    exact Expr.evaluate_apply (.cons left (.cons right .nil)) merged

theorem exists_brackets (scope : Scope) (records : List Rows) :
    ∃ e, Brackets scope records e := by
  induction records with
  | nil => exact ⟨_, .empty⟩
  | cons record rest ih =>
    obtain ⟨e, shape⟩ := ih
    exact ⟨_, .join (.one (Expr.evaluate_type (ofRows record))) shape⟩

theorem merge?_monoid :
    (∀ a b c : Rows, ∃ merged,
      (do merge? (← merge? (ofRows a) (ofRows b)) (ofRows c)) = some merged ∧
      (do merge? (ofRows a) (← merge? (ofRows b) (ofRows c))) = some merged) ∧
    (∀ a : Rows,
      merge? .nil (ofRows a) = some (ofRows a) ∧
      merge? (ofRows a) .nil = some (ofRows a) ∧
      merge? (ofRows a) (ofRows a) = some (ofRows a)) ∧
    ∀ (scope : Scope) (records : List Rows), ∃ merged,
      (∃ e, Brackets scope records e) ∧
      (∀ e, Brackets scope records e → e.evaluate scope = .ok merged) ∧
      ∀ key : Key, get? merged key.ty =
        records.reverse.findSome? fun record => get? (ofRows record) key.ty := by
  refine ⟨?_, ?_, ?_⟩
  · intro a b c
    refine ⟨ofRows ((a.merge b).merge c), ?_, ?_⟩
    · simp
    · simp [Rows.merge_assoc]
  · intro a
    rw [← ofRows_nil, merge?_ofRows, merge?_ofRows, merge?_ofRows]
    exact ⟨by rw [Rows.nil_merge], by rw [Rows.merge_nil], by rw [Rows.merge_self]⟩
  · intro scope records
    refine ⟨ofRows (Rows.mergeAll records), exists_brackets scope records, ?_, ?_⟩
    · intro e shape
      exact evaluate_brackets shape
    · intro key
      simp only [get?_ofRows, Rows.lookup_mergeAll]

theorem merge?_monoid_three_records :
    ∃ merged,
      Expr.evaluate [] (.apply .merge [.type (ofRows [(.ofText "a", .nil), (.ofText "b", .nil)]),
        .apply .merge [.record [("b", .type (.leaf .u8))], .record [("c", .type (.leaf .char))]]]) =
          .ok merged ∧
      Expr.evaluate [] (.apply .merge [.apply .merge
        [.type (ofRows [(.ofText "a", .nil), (.ofText "b", .nil)]),
          .record [("b", .type (.leaf .u8))]], .record [("c", .type (.leaf .char))]]) =
          .ok merged ∧
      get? merged (Label.ofText "b") = some (.leaf .u8) := by
  obtain ⟨merged, _, same, value⟩ := merge?_monoid.2.2 []
    [[(.ofText "a", .nil), (.ofText "b", .nil)], [(.ofText "b", .leaf .u8)],
      [(.ofText "c", .leaf .char)]]
  have first : Brackets [] [[(.ofText "a", .nil), (.ofText "b", .nil)]]
      (.type (ofRows [(.ofText "a", .nil), (.ofText "b", .nil)])) := .one rfl
  have second : Brackets [] [[(.ofText "b", .leaf .u8)]]
      (.record [("b", .type (.leaf .u8))]) := .one rfl
  have third : Brackets [] [[(.ofText "c", .leaf .char)]]
      (.record [("c", .type (.leaf .char))]) := .one rfl
  refine ⟨merged, same _ (.join first (.join second third)),
    same _ (.join (.join first second) third), ?_⟩
  exact (value (.ofText "b")).trans (by decide)

end TypeCalculus.Record
