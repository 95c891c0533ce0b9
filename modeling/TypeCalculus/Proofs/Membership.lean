import TypeCalculus.Proofs.Identity
import TypeCalculus.Proofs.Keys

namespace TypeCalculus

namespace Ty

def heads : Ty → List Ty
  | .cons head tail => head :: tail.heads
  | _ => []

end Ty

namespace LabelSet

theorem contains?_eq_some {t label : Ty} {found : Bool}
    (resolved : contains? t label = some found) :
    t = .ofList t.heads ∧ (found = true ↔ label ∈ t.heads) := by
  induction t generalizing found with
  | nil => cases resolved; simp [Ty.heads, Ty.ofList]
  | cons head tail _ rest =>
    simp only [contains?, Option.bind_eq_bind, Option.bind_eq_some_iff] at resolved
    obtain ⟨here, compared, later, searched, same⟩ := resolved
    cases same
    obtain ⟨listed, member⟩ := rest searched
    refine ⟨by rw [Ty.heads, Ty.ofList, ← listed], ?_⟩
    rw [Bool.or_eq_true, Label.equal?_eq_some compared, member, Ty.heads, List.mem_cons, eq_comm]
  | _ => cases resolved

theorem contains?_eq_decide {t label : Ty} {found : Bool}
    (resolved : contains? t label = some found) : found = decide (label ∈ t.heads) := by
  rw [Bool.eq_iff_iff, decide_eq_true_eq]
  exact (contains?_eq_some resolved).2

-- The empty list compares nothing, so of the second operand nothing is known there.
theorem diff?_eq_some {t u left : Ty} (resolved : diff? t u = some left) :
    t = .ofList t.heads ∧ left = .ofList (t.heads.filter fun element => element ∉ u.heads) := by
  induction t generalizing left with
  | nil => cases resolved; exact ⟨rfl, rfl⟩
  | cons head tail _ rest =>
    simp only [diff?, Option.bind_eq_bind, Option.bind_eq_some_iff] at resolved
    obtain ⟨shared, searched, kept, found, same⟩ := resolved
    cases same
    obtain ⟨listed, rfl⟩ := rest found
    refine ⟨by rw [Ty.heads, Ty.ofList, ← listed], ?_⟩
    rw [contains?_eq_decide searched]
    by_cases inside : head ∈ u.heads <;> simp [inside, Ty.heads, Ty.ofList]
  | _ => cases resolved

theorem contains?_boolean_algebra :
    (∀ (t label : Ty) (found : Bool), contains? t label = some found →
      t = .ofList t.heads ∧ (found = true ↔ label ∈ t.heads)) ∧
    (∀ t u left : Ty, diff? t u = some left →
      t = .ofList t.heads ∧ left = .ofList (t.heads.filter fun element => element ∉ u.heads)) ∧
    ∀ (keys others : List Key) (key : Key),
      (∃ first second : Bool,
        contains? (ofKeys keys) key.ty = some first ∧
        contains? (ofKeys others) key.ty = some second ∧
        (do contains? (← union? (ofKeys keys) (ofKeys others)) key.ty) = some (first || second) ∧
        (do contains? (← intersect? (ofKeys keys) (ofKeys others)) key.ty) =
          some (first && second) ∧
        (do contains? (← diff? (ofKeys keys) (ofKeys others)) key.ty) = some (first && !second)) ∧
      (∃ covered, subset? (ofKeys keys) (ofKeys others) = some covered ∧
        (covered = true ↔ ∀ k ∈ keys, k ∈ others)) ∧
      ∃ same, equal? (ofKeys keys) (ofKeys others) = some same ∧
        (same = true ↔ ∀ k, k ∈ keys ↔ k ∈ others) := by
  refine ⟨fun _ _ _ => contains?_eq_some, fun _ _ _ => diff?_eq_some, ?_⟩
  intro keys others key
  refine ⟨⟨_, _, contains?_ofKeys keys key, contains?_ofKeys others key, ?_, ?_, ?_⟩,
    ⟨_, subset?_ofKeys keys others, by simp⟩, ⟨_, equal?_ofKeys keys others, ?_⟩⟩
  · by_cases first : key ∈ keys <;> simp [first]
  · simp [Bool.decide_and]
  · simp [Bool.decide_and]
  · rw [← equal?_ofKeys_iff, equal?_ofKeys, Option.some.injEq]

-- One element is no label: its digits are none, and they do not end. It differs from the empty
-- label at the first place, so nothing more of it is read.
theorem contains?_boolean_algebra_no_label :
    contains? (.ofList [.label .nibbleNil]) (.label (.nibbleCons .unregistered .nil)) =
      some false ∧
    .label (.nibbleCons .unregistered .nil) ∉ Ty.heads (.ofList [.label .nibbleNil]) ∧
    diff? (.ofList [.label (.nibbleCons .unregistered .nil), .label .nibbleNil])
      (.ofList [.label .nibbleNil]) = some (.ofList [.label (.nibbleCons .unregistered .nil)]) ∧
    Ty.ofList [.label (.nibbleCons .unregistered .nil)] =
      .ofList
        ((Ty.heads (.ofList [.label (.nibbleCons .unregistered .nil), .label .nibbleNil])).filter
          fun element => element ∉ Ty.heads (.ofList [.label .nibbleNil])) := by
  obtain ⟨members, differences, _⟩ := contains?_boolean_algebra
  have absent : contains? (.ofList [.label .nibbleNil]) (.label (.nibbleCons .unregistered .nil)) =
      some false := by decide
  have cut : diff? (.ofList [.label (.nibbleCons .unregistered .nil), .label .nibbleNil])
      (.ofList [.label .nibbleNil]) = some (.ofList [.label (.nibbleCons .unregistered .nil)]) := by
    decide
  refine ⟨absent, ?_, cut, (differences _ _ _ cut).2⟩
  intro inside
  exact Bool.false_ne_true ((members _ _ _ absent).2.mpr inside)

end LabelSet

end TypeCalculus
