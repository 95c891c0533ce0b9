import TypeCalculus.Proofs.Combination
import TypeCalculus.Proofs.Evaluation

namespace TypeCalculus

def LabelSet.IsDistinct (t : Ty) : Prop :=
  ∃ keys : List Key, keys.Nodup ∧ t = ofKeys keys

def Record.IsDistinct (t : Ty) : Prop :=
  ∃ rows : Rows, rows.keys.Nodup ∧ t = ofRows rows

inductive Kind where
  | any
  | labels
  | record

def Kind.Holds : Kind → Ty → Prop
  | .any, _ => True
  | .labels, t => LabelSet.IsDistinct t
  | .record, t => Record.IsDistinct t

inductive Operator.Unary : Operator → Kind → Kind → Prop where
  | dedup : Unary .dedup .labels .labels
  | keys : Unary .keys .record .labels

inductive Operator.Binary : Operator → Kind → Kind → Kind → Prop where
  | diff : Binary .diff .labels .labels .labels
  | union : Binary .union .labels .labels .labels
  | intersectSets : Binary .intersectSets .labels .labels .labels
  | sharedKeys : Binary .sharedKeys .record .record .labels
  | diffKeys : Binary .diffKeys .record .record .labels
  | allKeys : Binary .allKeys .record .record .labels
  | pick : Binary .pick .record .labels .record
  | omit : Binary .omit .record .labels .record
  | intersect : Binary .intersect .record .record .record
  | merge : Binary .merge .record .record .record
  | overwrite : Binary .overwrite .record .record .record
  | combine : Binary .combine .record .record .record

-- Expressions over literals and bound names whose operators stand on operands of the right kinds.
-- A difference of a subset and a partial form may have no result; they belong here where they
-- have one.
inductive Kinded (scope : Scope) : Expr → Kind → Prop where
  | type {t : Ty} {kind : Kind} (holds : kind.Holds t) : Kinded scope (.type t) kind
  | var {name : String} {t : Ty} {kind : Kind} (bound : scope.lookup name = some (some t))
      (holds : kind.Holds t) : Kinded scope (.var name) kind
  | labels {texts : List String} (distinct : (texts.map Key.ofText).Nodup) :
      Kinded scope (.labels texts) .labels
  | record {entries : List (String × Expr)}
      (distinct : ((entries.map Prod.fst).map Key.ofText).Nodup)
      (values : ∀ entry ∈ entries, Kinded scope entry.2 .any) :
      Kinded scope (.record entries) .record
  | unary {operator : Operator} {a kind : Kind} {e : Expr} (rule : operator.Unary a kind)
      (operand : Kinded scope e a) : Kinded scope (.apply operator [e]) kind
  | binary {operator : Operator} {a b kind : Kind} {d e : Expr} (rule : operator.Binary a b kind)
      (left : Kinded scope d a) (right : Kinded scope e b) :
      Kinded scope (.apply operator [d, e]) kind
  | drop {d e : Expr} (left : Kinded scope d .labels) (right : Kinded scope e .any)
      (resolves : ((Expr.apply .drop [d, e]).resolve? scope).isSome) :
      Kinded scope (.apply .drop [d, e]) .labels
  | deepPartial {e : Expr} (operand : Kinded scope e .record)
      (resolves : ((Expr.apply .deepPartial [e]).resolve? scope).isSome) :
      Kinded scope (.apply .deepPartial [e]) .record
  | any {e : Expr} {kind : Kind} (known : Kinded scope e kind) : Kinded scope e .any

inductive Part : Expr → Expr → Prop where
  | whole {e : Expr} : Part e e
  | former {p e : Expr} {former : Former} {es : List Expr} (inside : Part p e)
      (member : e ∈ es) : Part p (.form former es)
  | operand {p e : Expr} {operator : Operator} {es : List Expr} (inside : Part p e)
      (member : e ∈ es) : Part p (.apply operator es)
  | value {p : Expr} {entry : String × Expr} {entries : List (String × Expr)}
      (inside : Part p entry.2) (member : entry ∈ entries) : Part p (.record entries)

namespace Operator

theorem Unary.resolves {operator : Operator} {a kind : Kind} {t : Ty}
    (rule : operator.Unary a kind) (holds : a.Holds t) :
    ∃ result, operator.result? [t] = some result ∧ kind.Holds result := by
  cases rule with
  | dedup =>
    obtain ⟨keys, _, rfl⟩ := holds
    exact ⟨_, LabelSet.dedup?_ofKeys keys, _, List.nodup_dedup keys, rfl⟩
  | keys =>
    obtain ⟨rows, distinct, rfl⟩ := holds
    exact ⟨_, Record.keys?_ofRows rows, _, distinct, rfl⟩

theorem Binary.resolves {operator : Operator} {a b kind : Kind} {t u : Ty}
    (rule : operator.Binary a b kind) (left : a.Holds t) (right : b.Holds u) :
    ∃ result, operator.result? [t, u] = some result ∧ kind.Holds result := by
  cases rule <;> obtain ⟨first, distinct, rfl⟩ := left <;> obtain ⟨second, other, rfl⟩ := right
  case diff => exact ⟨_, LabelSet.diff?_ofKeys first second, _, distinct.filter _, rfl⟩
  case union =>
    exact ⟨_, LabelSet.union?_ofKeys first second, _,
      LabelSet.nodup_append_filter distinct other, rfl⟩
  case intersectSets =>
    exact ⟨_, LabelSet.intersect?_ofKeys first second, _, distinct.filter _, rfl⟩
  case sharedKeys => exact ⟨_, Record.sharedKeys?_ofRows first second, _, distinct.filter _, rfl⟩
  case diffKeys => exact ⟨_, Record.diffKeys?_ofRows first second, _, distinct.filter _, rfl⟩
  case allKeys =>
    exact ⟨_, Record.allKeys?_ofRows first second, _,
      LabelSet.nodup_append_filter distinct other, rfl⟩
  case pick =>
    exact ⟨_, Record.pick?_ofRows first second, _, Record.Rows.nodup_keys_only distinct, rfl⟩
  case «omit» =>
    exact ⟨_, Record.omit?_ofRows first second, _, Record.Rows.nodup_keys_without distinct, rfl⟩
  case intersect =>
    exact ⟨_, Record.intersect?_ofRows first second, _, Record.Rows.nodup_keys_only other, rfl⟩
  case merge =>
    exact ⟨_, Record.merge?_ofRows first second, _,
      Record.Rows.nodup_keys_merge distinct other, rfl⟩
  case overwrite =>
    exact ⟨_, Record.overwrite?_ofRows first second, _,
      Record.Rows.nodup_keys_overwrite distinct other, rfl⟩
  case combine =>
    exact ⟨_, Record.combine?_ofRows first second, _,
      Record.Rows.nodup_keys_combine distinct other, rfl⟩

end Operator

theorem LabelSet.isDistinct_of_drop? {t u result : Ty} (distinct : IsDistinct t)
    (resolved : drop? t u = some result) : IsDistinct result := by
  obtain ⟨keys, once, rfl⟩ := distinct
  obtain ⟨kept, inside, rfl⟩ := diff?_sublist (drop?_eq_some resolved)
  exact ⟨kept, once.sublist inside, rfl⟩

theorem Record.isDistinct_of_deepPartial? {t result : Ty} (distinct : IsDistinct t)
    (resolved : deepPartial? t = some result) : IsDistinct result := by
  obtain ⟨rows, once, rfl⟩ := distinct
  rw [deepPartial?_ofRows, Option.map_eq_some_iff] at resolved
  obtain ⟨partials, found, rfl⟩ := resolved
  exact ⟨partials, by rwa [keys_mapM_partialRow? found], rfl⟩

namespace Kinded

variable {scope : Scope}

-- By the rules of the kinds: no part is left without a type, and its kind holds of it.
theorem evaluates {e : Expr} {kind : Kind} (known : Kinded scope e kind) :
    ∃ t, e.evaluate scope = .ok t ∧ kind.Holds t := by
  induction known with
  | @type t _ holds => exact ⟨t, Expr.evaluate_type t, holds⟩
  | @var _ t _ bound holds => exact ⟨t, Expr.evaluate_var bound, holds⟩
  | @labels texts distinct =>
    exact ⟨_, Expr.evaluate_labels (.of_map _ distinct), _, distinct, LabelSet.ofTexts_eq texts⟩
  | @record entries distinct values each =>
    obtain ⟨found, evaluated⟩ := Expr.exists_fieldsEvaluate fun entry member =>
      (each entry member).imp fun _ => And.left
    refine ⟨_, Expr.evaluate_record (.of_map _ distinct) evaluated, _, ?_,
      Record.ofTexts_eq found⟩
    rwa [Record.keys_textRows, Expr.fieldsEvaluate_keys evaluated]
  | unary rule _ operand =>
    obtain ⟨t, found, holds⟩ := operand
    obtain ⟨result, resolved, kept⟩ := rule.resolves holds
    exact ⟨result, Expr.evaluate_apply (.cons found .nil) resolved, kept⟩
  | binary rule _ _ left right =>
    obtain ⟨t, foundLeft, holdsLeft⟩ := left
    obtain ⟨u, foundRight, holdsRight⟩ := right
    obtain ⟨result, resolved, kept⟩ := rule.resolves holdsLeft holdsRight
    exact ⟨result, Expr.evaluate_apply (.cons foundLeft (.cons foundRight .nil)) resolved, kept⟩
  | @drop d e _ _ resolves left right =>
    obtain ⟨t, foundLeft, holds⟩ := left
    obtain ⟨u, foundRight, _⟩ := right
    have operands : Expr.AllEvaluate scope [d, e] [t, u] := .cons foundLeft (.cons foundRight .nil)
    rw [Expr.resolve?_apply operands] at resolves
    obtain ⟨result, resolved⟩ := Option.isSome_iff_exists.mp resolves
    exact ⟨result, Expr.evaluate_apply operands resolved,
      LabelSet.isDistinct_of_drop? holds resolved⟩
  | @deepPartial e _ resolves operand =>
    obtain ⟨t, found, holds⟩ := operand
    have operands : Expr.AllEvaluate scope [e] [t] := .cons found .nil
    rw [Expr.resolve?_apply operands] at resolves
    obtain ⟨result, resolved⟩ := Option.isSome_iff_exists.mp resolves
    exact ⟨result, Expr.evaluate_apply operands resolved,
      Record.isDistinct_of_deepPartial? holds resolved⟩
  | any _ known =>
    obtain ⟨t, found, _⟩ := known
    exact ⟨t, found, trivial⟩

theorem part {e p : Expr} {kind : Kind} (known : Kinded scope e kind) (inside : Part p e) :
    ∃ k, Kinded scope p k := by
  induction known with
  | type holds => cases inside; exact ⟨_, .type holds⟩
  | var bound holds => cases inside; exact ⟨_, .var bound holds⟩
  | labels distinct => cases inside; exact ⟨_, .labels distinct⟩
  | record distinct values each =>
    cases inside with
    | whole => exact ⟨_, .record distinct values⟩
    | value inside member => exact each _ member inside
  | unary rule known operand =>
    cases inside with
    | whole => exact ⟨_, .unary rule known⟩
    | operand inside member =>
      cases List.mem_singleton.mp member
      exact operand inside
  | binary rule knownLeft knownRight left right =>
    cases inside with
    | whole => exact ⟨_, .binary rule knownLeft knownRight⟩
    | operand inside member =>
      rcases List.mem_pair.mp member with rfl | rfl
      · exact left inside
      · exact right inside
  | drop knownLeft knownRight resolves left right =>
    cases inside with
    | whole => exact ⟨_, .drop knownLeft knownRight resolves⟩
    | operand inside member =>
      rcases List.mem_pair.mp member with rfl | rfl
      · exact left inside
      · exact right inside
  | deepPartial known resolves operand =>
    cases inside with
    | whole => exact ⟨_, .deepPartial known resolves⟩
    | operand inside member =>
      cases List.mem_singleton.mp member
      exact operand inside
  | any _ known => exact known inside

end Kinded

theorem part_evaluates_to_kind :
    (∀ (scope : Scope) (e p : Expr) (kind : Kind), Kinded scope e kind → Part p e →
      ∃ t, p.evaluate scope = .ok t ∧ (∃ k, Kinded scope p k) ∧
        ∀ k, Kinded scope p k → k.Holds t) ∧
    (∀ t u result : Ty, LabelSet.IsDistinct t → LabelSet.drop? t u = some result →
      LabelSet.IsDistinct result) ∧
    ∀ t result : Ty, Record.IsDistinct t → Record.deepPartial? t = some result →
      Record.IsDistinct result := by
  refine ⟨?_, ?_, ?_⟩
  · intro scope e p kind known inside
    obtain ⟨k, knownPart⟩ := known.part inside
    obtain ⟨t, found, _⟩ := knownPart.evaluates
    refine ⟨t, found, ⟨k, knownPart⟩, ?_⟩
    intro other knownOther
    obtain ⟨u, foundOther, holds⟩ := knownOther.evaluates
    cases found.symm.trans foundOther
    exact holds
  · intro t u result distinct resolved
    exact LabelSet.isDistinct_of_drop? distinct resolved
  · intro t result distinct resolved
    exact Record.isDistinct_of_deepPartial? distinct resolved

theorem part_evaluates_to_kind_bound_name :
    Kinded [("r", some (Record.ofRows [(.ofText "b", .nil)]))]
      (.apply .overwrite [.record [("a", .type (.leaf .u8)), ("b", .labels ["x"])],
        .apply .pick [.var "r", .apply .keys [.var "r"]]]) .record ∧
    (∃ t, Expr.evaluate [("r", some (Record.ofRows [(.ofText "b", .nil)]))]
      (.apply .keys [.var "r"]) = .ok t ∧ LabelSet.IsDistinct t) ∧
    LabelSet.drop? (LabelSet.ofTexts ["a", "b"]) (LabelSet.ofTexts ["b", "b"]) =
      some (LabelSet.ofTexts ["a"]) ∧
    LabelSet.IsDistinct (LabelSet.ofTexts ["a"]) ∧
    Record.deepPartial? (Record.ofTexts [("a", .leaf .u8)]) =
      some (Record.ofTexts [("a", .optional (.leaf .u8))]) ∧
    Record.IsDistinct (Record.ofTexts [("a", .optional (.leaf .u8))]) := by
  obtain ⟨parts, dropped, partial_form⟩ := part_evaluates_to_kind
  have bound : Record.IsDistinct (Record.ofRows [(.ofText "b", .nil)]) := ⟨_, by decide, rfl⟩
  have name : Kinded [("r", some (Record.ofRows [(.ofText "b", .nil)]))] (.var "r") .record :=
    .var rfl bound
  have keys : Kinded [("r", some (Record.ofRows [(.ofText "b", .nil)]))]
      (.apply .keys [.var "r"]) .labels := .unary .keys name
  have literal : Kinded [("r", some (Record.ofRows [(.ofText "b", .nil)]))]
      (.record [("a", .type (.leaf .u8)), ("b", .labels ["x"])]) .record := by
    refine .record (by decide) ?_
    intro entry member
    rcases List.mem_pair.mp member with rfl | rfl
    · exact .type trivial
    · exact .any (.labels (by decide))
  have whole := Kinded.binary .overwrite literal (.binary .pick name keys)
  have inside : Part (.apply .keys [.var "r"]) (.apply .pick [.var "r", .apply .keys [.var "r"]]) :=
    .operand .whole (by simp)
  obtain ⟨t, found, _, holds⟩ := parts _ _ _ _ whole (.operand inside (by simp))
  have resolvedDrop : LabelSet.drop? (LabelSet.ofTexts ["a", "b"]) (LabelSet.ofTexts ["b", "b"]) =
      some (LabelSet.ofTexts ["a"]) := by decide
  have resolvedPartial : Record.deepPartial? (Record.ofTexts [("a", .leaf .u8)]) =
      some (Record.ofTexts [("a", .optional (.leaf .u8))]) := by decide
  refine ⟨whole, ⟨t, found, holds _ keys⟩, resolvedDrop, ?_, resolvedPartial, ?_⟩
  · exact dropped _ _ _ ⟨[.ofText "a", .ofText "b"], by decide, rfl⟩ resolvedDrop
  · exact partial_form _ _ ⟨[(.ofText "a", .leaf .u8)], by decide, rfl⟩ resolvedPartial

end TypeCalculus
