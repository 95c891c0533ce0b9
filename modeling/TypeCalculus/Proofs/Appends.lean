import TypeCalculus.Proofs.Lookup
import TypeCalculus.Proofs.OnePass
import TypeCalculus.Proofs.Shapes

namespace TypeCalculus

namespace Ty

variable {operator : Ty → Option Ty} {item? : Ty → Option (List Ty)}

-- Both sides have a result or neither has one: the whole may not fail where the parts resolve.
def Distributes (operator : Ty → Option Ty) : Prop :=
  ∀ a b : Ty, (do operator (← concat? a b)) = (do concat? (← operator a) (← operator b))

-- What stands at the end of a chain in place of `nil` may have a result, to which nothing can be
-- appended, though.
structure ByElement (operator : Ty → Option Ty) (item? : Ty → Option (List Ty)) : Prop where
  nil : operator .nil = some .nil
  cons : ∀ head tail, operator (.cons head tail) =
    (item? head).bind fun item => (operator tail).map fun rest => item.foldr .cons rest
  other : ∀ t, t ≠ .nil → (∀ head tail, t ≠ .cons head tail) →
    ∀ form, operator t = some form → ∀ u, concat? form u = none

theorem concat?_foldr_cons (front : List Ty) (a b : Ty) :
    concat? (front.foldr .cons a) b = (concat? a b).map fun rest => front.foldr .cons rest := by
  induction front with
  | nil => simp
  | cons t front rest => simp [concat?, rest, Function.comp_def]

-- By induction on the first list: what its first element makes stands in front of either result.
theorem ByElement.distributes (walk : ByElement operator item?) : Distributes operator := by
  intro a b
  have unappended : ∀ t, t ≠ .nil → (∀ head tail, t ≠ .cons head tail) →
      (do concat? (← operator t) (← operator b)) = none := by
    intro t notNil notCons
    cases found : operator t with
    | none => rfl
    | some form => simp [walk.other t notNil notCons form found]
  induction a with
  | nil => simp [concat?, walk.nil]
  | cons head tail _ rest =>
    simp only [Option.bind_eq_bind] at rest
    simp only [concat?, walk.cons, Option.bind_eq_bind, Option.bind_map, Function.comp_def]
    cases item? head with
    | none => simp
    | some item =>
      let front := fun rest => item.foldr Ty.cons rest
      calc (concat? tail b).bind (fun whole => (operator whole).map front)
          = ((concat? tail b).bind operator).map front := Option.map_bind.symm
        _ = ((operator tail).bind fun first =>
              (operator b).bind fun second => concat? first second).map front := by rw [rest]
        _ = (operator tail).bind fun first =>
              (operator b).bind fun second => (concat? first second).map front := by
            simp only [Option.map_bind, Function.comp_def]
        _ = ((operator tail).map front).bind fun first =>
              (operator b).bind fun second => concat? first second := by
            simp only [Option.bind_map, Function.comp_def, front, concat?_foldr_cons]
  | _ => exact (unappended _ (by simp) (by simp)).symm

theorem concat?_assoc (a b c : Ty) :
    (do concat? (← concat? a b) c) = (do concat? a (← concat? b c)) := by
  induction a with
  | nil => simp [concat?]
  | cons head tail _ rest =>
    simp only [Option.bind_eq_bind] at rest
    simp only [concat?, Option.bind_eq_bind, Option.bind_map, Function.comp_def]
    calc (concat? tail b).bind (fun whole => (concat? whole c).map (Ty.cons head))
        = ((concat? tail b).bind fun whole => concat? whole c).map (Ty.cons head) :=
          Option.map_bind.symm
      _ = ((concat? b c).bind fun other => concat? tail other).map (Ty.cons head) := by rw [rest]
      _ = (concat? b c).bind fun other => (concat? tail other).map (Ty.cons head) := Option.map_bind
  | _ => simp [concat?]

theorem concat?_isSome_iff {a b : Ty} : (concat? a b).isSome ↔ ∃ ts, a = .ofList ts := by
  constructor
  · intro resolved
    induction a with
    | nil => exact ⟨[], rfl⟩
    | cons head tail _ ended =>
      rw [concat?, Option.isSome_map] at resolved
      obtain ⟨ts, rfl⟩ := ended resolved
      exact ⟨head :: ts, rfl⟩
    | _ => cases resolved
  · intro listed
    obtain ⟨ts, rfl⟩ := listed
    rw [concat?_ofList, Option.isSome_some]

theorem concat?_concat?_isSome_iff {a b c : Ty} :
    (do concat? (← concat? a b) c).isSome ↔ ∃ ts us, a = .ofList ts ∧ b = .ofList us := by
  rw [concat?_assoc]
  constructor
  · intro resolved
    obtain ⟨whole, found⟩ := Option.isSome_iff_exists.mp resolved
    obtain ⟨rest, later, first⟩ := Option.bind_eq_some_iff.mp found
    obtain ⟨ts, rfl⟩ := concat?_isSome_iff.mp (Option.isSome_of_eq_some first)
    obtain ⟨us, rfl⟩ := concat?_isSome_iff.mp (Option.isSome_of_eq_some later)
    exact ⟨ts, us, rfl, rfl⟩
  · intro listed
    obtain ⟨ts, us, rfl, rfl⟩ := listed
    rw [concat?_ofList, Option.bind_eq_bind, Option.bind_some, concat?_ofList, Option.isSome_some]

end Ty

namespace LabelSet

theorem diff?_byElement (other : Ty) : Ty.ByElement (diff? · other) fun element =>
    (contains? other element).map fun shared => if shared then [] else [element] where
  nil := rfl
  cons head tail := by
    rw [diff?]
    cases contains? other head with
    | none => rfl
    | some shared => cases shared <;> cases diff? tail other <;> rfl
  other t notNil notCons form found := by
    cases t with
    | nil => exact absurd rfl notNil
    | cons head tail => exact absurd rfl (notCons head tail)
    | _ => cases found

theorem contains?_concat? (a b label : Ty) :
    (do contains? (← Ty.concat? a b) label) =
      (do
        let first ← contains? a label
        let second ← contains? b label
        return first || second) := by
  induction a with
  | nil => simp [Ty.concat?, contains?]
  | cons head tail _ rest =>
    simp only [Option.bind_eq_bind, Option.pure_def] at rest
    simp only [Ty.concat?, contains?, Option.bind_eq_bind, Option.bind_map, Function.comp_def,
      Option.pure_def]
    cases Label.equal? head label with
    | none => simp
    | some here =>
      simp only [Option.bind_some, ← Option.bind_assoc, rest]
      simp only [Option.bind_assoc, Option.bind_some, Bool.or_assoc]
  | _ => simp [Ty.concat?, contains?]

end LabelSet

namespace Record

open LabelSet (contains?)

def ofField (item? : Ty → Ty → Option (List Ty)) : Ty → Option (List Ty)
  | .field key value => item? key value
  | _ => none

theorem byElement_ofField {operator : Ty → Option Ty} {item? : Ty → Ty → Option (List Ty)}
    (nil : operator .nil = some .nil)
    (field : ∀ key value tail, operator (.cons (.field key value) tail) =
      (item? key value).bind fun item => (operator tail).map fun rest => item.foldr .cons rest)
    (other : ∀ t, t ≠ .nil → (∀ key value tail, t ≠ .cons (.field key value) tail) →
      operator t = none) : Ty.ByElement operator (ofField item?) where
  nil := nil
  cons head tail := by
    cases head with
    | field key value => exact field key value tail
    | _ => exact other _ (by simp) (by simp)
  other t notNil notCons form found := by
    rw [other t notNil fun key value tail => notCons _ tail] at found
    cases found

theorem keys?_byElement : Ty.ByElement keys? (ofField fun key _ => some [key]) := by
  refine byElement_ofField rfl ?_ ?_
  · intro key value tail
    rfl
  · intro t notNil notField
    exact keys?.eq_3 t notNil notField

theorem pick?_byElement (chosen : Ty) : Ty.ByElement (pick? · chosen) (ofField fun key value =>
    (contains? chosen key).map fun kept => if kept then [.field key value] else []) := by
  refine byElement_ofField rfl ?_ ?_
  · intro key value tail
    rw [pick?]
    cases contains? chosen key with
    | none => rfl
    | some kept => cases kept <;> cases pick? tail chosen <;> rfl
  · intro t notNil notField
    exact pick?.eq_3 t chosen notNil notField

-- Both compute what is left; only the one that looks the keys up in it asks for labels.
theorem omit?_eq (t dropped : Ty) : omit? t dropped = (size? t).bind fun _ => spare? t dropped := by
  apply Option.ext
  intro kept
  rw [omit?_eq_some_iff, ← size?_isSome_iff, Option.isSome_iff_exists, Option.bind_eq_some_iff,
    exists_and_right]

theorem omit?_byElement (dropped : Ty) : Ty.ByElement (omit? · dropped) (ofField fun key value =>
    (Label.size? key).bind fun _ => (contains? dropped key).map fun listed =>
      if listed then [] else [.field key value]) := by
  refine byElement_ofField rfl ?_ ?_
  · intro key value tail
    rw [omit?_eq, omit?_eq, size?, spare?]
    cases Label.size? key with
    | none => rfl
    | some _ =>
      cases size? tail with
      | none => cases contains? dropped key <;> rfl
      | some _ =>
        cases contains? dropped key with
        | none => rfl
        | some listed => cases listed <;> cases spare? tail dropped <;> rfl
  · intro t notNil notField
    rw [omit?_eq, size?.eq_3 t notNil notField, Option.bind_none]

theorem combineLeft?_byElement (other : Ty) :
    Ty.ByElement (combineLeft? · other) (ofField fun key value =>
      (keys? other).bind fun keys => (contains? keys key).bind fun shared =>
        (combineField? (.truth shared) key value other).map fun first => [first]) := by
  refine byElement_ofField rfl ?_ ?_
  · intro key value tail
    rw [combineLeft?]
    cases keys? other with
    | none => rfl
    | some keys =>
      rw [Option.bind_eq_bind, Option.bind_some, Option.bind_some]
      cases contains? keys key with
      | none => rfl
      | some shared =>
        rw [Option.bind_eq_bind, Option.bind_some, Option.bind_some]
        cases combineField? (.truth shared) key value other with
        | none => rfl
        | some first => cases combineLeft? tail other <;> rfl
  · intro t notNil notField
    exact combineLeft?.eq_3 t other notNil notField

theorem deepPartial?_byElement : Ty.ByElement deepPartial? (ofField fun key value =>
    (deepPartial? value).map fun form => [.field key (.optional form)]) where
  nil := rfl
  cons head tail := by
    cases head with
    | field key value =>
      rw [deepPartial?, ofField]
      cases deepPartial? value with
      | none => rfl
      | some form => cases deepPartial? tail <;> rfl
    | _ => rfl
  other t notNil notCons form found u := by
    have related := partialForm_of_deepPartial? found
    cases related with
    | whole kept => cases kept <;> rfl
    | optional => rfl
    | nil => exact absurd rfl notNil
    | field => exact absurd rfl (notCons _ _)

theorem isLabel_of_get? {t wanted value : Ty} (found : get? t wanted = some value) :
    Label.IsLabel wanted := by
  obtain ⟨_, key, _, _, _, equal⟩ := get?_eq_some_iff.mp found
  have same : key = wanted := (Label.equal?_eq_some equal).mp rfl
  rw [same] at equal
  exact Label.equal?_self_isSome_iff.mp (Option.isSome_of_eq_some equal)

-- Nothing is found under a type that is no label, in neither part. A label is compared with every
-- key of a record, so the lookup gets past the first part if it finds nothing there.
theorem get?_concat? (rows : Rows) (t wanted : Ty) :
    (do get? (← Ty.concat? (ofRows rows) t) wanted) =
      (get? (ofRows rows) wanted).or (get? t wanted) := by
  by_cases labelled : Label.IsLabel wanted
  · induction rows with
    | nil => simp [ofRows_nil, Ty.concat?, get?]
    | cons row rows rest =>
      have compared := Label.equal?_of_isLabel row.1.isLabel labelled
      have listed : ∃ ts, ofRows rows = .ofList ts := ⟨_, rfl⟩
      obtain ⟨whole, appended⟩ : ∃ whole, Ty.concat? (ofRows rows) t = some whole :=
        Option.isSome_iff_exists.mp (Ty.concat?_isSome_iff.mpr listed)
      rw [appended, Option.bind_eq_bind, Option.bind_some] at rest
      rw [ofRows_cons, Ty.concat?, appended, Option.map_some, Option.bind_eq_bind, Option.bind_some]
      by_cases here : row.1.ty = wanted
      · rw [decide_eq_true here] at compared
        rw [get?_here compared, get?_here compared, Option.some_or]
      · rw [decide_eq_false here] at compared
        rw [get?_later compared, get?_later compared, rest]
  · have unfound : ∀ u, get? u wanted = none := by
      intro u
      rw [Option.eq_none_iff_forall_ne_some]
      intro value found
      exact labelled (isLabel_of_get? found)
    simp [unfound]

end Record

open Record LabelSet

-- The laws hold of any types, of which both sides may have no result. Of records and of label lists
-- both have one, as the last two parts say.
theorem operators_distribute_over_concat :
    (∀ a b c : Ty,
      (do Ty.concat? (← Ty.concat? a b) c) = (do Ty.concat? a (← Ty.concat? b c)) ∧
      ((do Ty.concat? (← Ty.concat? a b) c).isSome ↔
        ∃ ts us, a = .ofList ts ∧ b = .ofList us)) ∧
    Ty.Distributes keys? ∧
    (∀ chosen, Ty.Distributes (pick? · chosen)) ∧
    (∀ dropped, Ty.Distributes (omit? · dropped)) ∧
    (∀ other, Ty.Distributes (combineLeft? · other)) ∧
    Ty.Distributes deepPartial? ∧
    (∀ other, Ty.Distributes (diff? · other)) ∧
    (∀ a b label : Ty, (do contains? (← Ty.concat? a b) label) =
      (do
        let first ← contains? a label
        let second ← contains? b label
        return first || second)) ∧
    (∀ (rows : Rows) (t wanted : Ty), (do get? (← Ty.concat? (ofRows rows) t) wanted) =
      (get? (ofRows rows) wanted).or (get? t wanted)) ∧
    (∀ (r s u : Rows) (chosen : List Key), ∃ whole,
      Ty.concat? (ofRows r) (ofRows s) = some whole ∧
      (keys? whole).isSome ∧ (pick? whole (ofKeys chosen)).isSome ∧
      (omit? whole (ofKeys chosen)).isSome ∧ (combineLeft? whole (ofRows u)).isSome) ∧
    ∀ (a b c : List Key) (key : Key), ∃ whole,
      Ty.concat? (ofKeys a) (ofKeys b) = some whole ∧
      (diff? whole (ofKeys c)).isSome ∧ (contains? whole key.ty).isSome := by
  refine ⟨fun a b c => ⟨Ty.concat?_assoc a b c, Ty.concat?_concat?_isSome_iff⟩,
    keys?_byElement.distributes, fun chosen => (pick?_byElement chosen).distributes,
    fun dropped => (omit?_byElement dropped).distributes,
    fun other => (combineLeft?_byElement other).distributes, deepPartial?_byElement.distributes,
    fun other => (diff?_byElement other).distributes, contains?_concat?, get?_concat?, ?_, ?_⟩
  · intro r s u chosen
    refine ⟨ofRows (r ++ s), concat?_ofRows r s, ?_⟩
    simp only [keys?_ofRows, pick?_ofRows, omit?_ofRows, combineLeft?_ofRows, Option.isSome_some,
      and_self]
  · intro a b c key
    refine ⟨ofKeys (a ++ b), concat?_ofKeys a b, ?_⟩
    simp only [diff?_ofKeys, contains?_ofKeys, Option.isSome_some, and_self]

end TypeCalculus
