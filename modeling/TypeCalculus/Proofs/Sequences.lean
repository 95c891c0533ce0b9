import TypeCalculus.Proofs.Lengths

namespace TypeCalculus

open Number (Table Count)

namespace Sequence

theorem length?_concat? (as bs : List Ty) :
    (do length? (← Ty.concat? (.ofList as) (.ofList bs))) =
      if as.length + bs.length ≤ 64 then some (.number (as.length + bs.length : Nat))
      else none := by
  rw [Ty.concat?_ofList, Ty.foldr_cons_ofList, Option.bind_eq_bind, Option.bind_some,
    length?_ofList, List.length_append]

-- Both lists may have a length and their sum none: the lengths are counted apart.
theorem add?_length? (as bs : List Ty) :
    (do Table.standard.add? (← length? (.ofList as)) (← length? (.ofList bs))) =
      if as.length + bs.length ≤ 63 then some (.number (as.length + bs.length : Nat))
      else none := by
  rw [length?_ofList, length?_ofList]
  by_cases first : as.length ≤ 64
  · by_cases second : bs.length ≤ 64
    · rw [if_pos first, if_pos second, Option.bind_eq_bind, Option.bind_some, Option.bind_some]
      by_cases short : as.length + bs.length ≤ 63
      · rw [if_pos short, Table.add?_number short]
      · rw [if_neg short, Table.add?_number_eq_none (Nat.lt_of_not_le short)]
    · rw [if_pos first, if_neg second, if_neg (by omega)]
      rfl
  · have long : ¬ as.length + bs.length ≤ 63 := by omega
    rw [if_neg first, if_neg long]
    rfl

theorem length?_concat?_iff (as bs : List Ty) :
    (∀ total, (do length? (← Ty.concat? (.ofList as) (.ofList bs))) = some total ↔
      as.length + bs.length ≤ 64 ∧ total = .number (as.length + bs.length : Nat)) ∧
    (∀ total, (do Table.standard.add? (← length? (.ofList as)) (← length? (.ofList bs))) =
        some total ↔
      as.length + bs.length ≤ 63 ∧
        (do length? (← Ty.concat? (.ofList as) (.ofList bs))) = some total) ∧
    ∀ t : Ty,
      Table.standard.add? (.number 64) t = none ∧ Table.standard.add? t (.number 64) = none ∧
      Table.standard.sub? (.number 64) t = none ∧ Table.standard.sub? t (.number 64) = none ∧
      Table.standard.equal? (.number 64) t = none ∧
      Table.standard.equal? t (.number 64) = none := by
  have whole : ∀ total, (do length? (← Ty.concat? (.ofList as) (.ofList bs))) = some total ↔
      as.length + bs.length ≤ 64 ∧ total = .number (as.length + bs.length : Nat) := by
    intro total
    rw [length?_concat?]
    by_cases short : as.length + bs.length ≤ 64 <;> simp [short, eq_comm]
  refine ⟨whole, ?_, ?_⟩
  · intro total
    rw [whole, add?_length?]
    constructor
    · intro summed
      split at summed
      · rename_i short
        exact ⟨short, by omega, (Option.some.inj summed).symm⟩
      · cases summed
    · intro counted
      obtain ⟨short, _, rfl⟩ := counted
      rw [if_pos short]
  · intro t
    have uncovered : Table.standard.covers (.number 64) = false := by decide
    have left : ¬ (Table.standard.covers (.number 64) ∧ Table.standard.covers t) := by
      simp [uncovered]
    have right : ¬ (Table.standard.covers t ∧ Table.standard.covers (.number 64)) := by
      simp [uncovered]
    exact ⟨Count.sum.result?_eq_none left, Count.sum.result?_eq_none right,
      Count.difference.result?_eq_none left, Count.difference.result?_eq_none right,
      Table.equal?_eq_none left, Table.equal?_eq_none right⟩

inductive HasElements : Ty → Nat → Prop
  | tuple (elements : List Ty) (short : elements.length ≤ 12) :
      HasElements (.tuple elements) elements.length
  | list (elements : List Ty) : HasElements (.ofList elements) elements.length

inductive EndsInTuple : Ty → Nat → Prop
  | intro (front last : List Ty) (nonempty : front ≠ []) (short : last.length ≤ 12) :
      EndsInTuple (front.foldr .cons (.tuple last)) (front.length + last.length)

section

variable {s : Ty} {m n : Nat}

theorem length?_tuple {elements : List Ty} (short : elements.length ≤ 12) :
    length? (.tuple elements) = some (.number elements.length) := by
  rw [length?, maxTuple, if_pos short]

theorem length?_of_hasElements (sequence : HasElements s n) (bound : n ≤ 64) :
    length? s = some (.number n) := by
  cases sequence with
  | tuple elements short => exact length?_tuple short
  | list elements => rw [length?_ofList, if_pos bound]

theorem length?_of_endsInTuple (ended : EndsInTuple s n) (bound : n ≤ 64) :
    length? s = some (.number n) := by
  cases ended with
  | intro front last _ short =>
    rw [length?_foldr_cons (length?_tuple short) (by omega), if_pos bound]

-- An element more in front: of a list it makes a list, of a tuple it makes none.
theorem hasElements_or_endsInTuple_cons (head : Ty) (tail : HasElements s n ∨ EndsInTuple s n) :
    HasElements (.cons head s) (n + 1) ∨ EndsInTuple (.cons head s) (n + 1) := by
  rcases tail with sequence | ended
  · cases sequence with
    | tuple elements short =>
      have one := EndsInTuple.intro [head] elements (List.cons_ne_nil _ _) short
      rw [List.length_singleton, Nat.add_comm] at one
      exact .inr one
    | list elements => exact .inl (.list (head :: elements))
  · cases ended with
    | intro front last _ short =>
      have more := EndsInTuple.intro (head :: front) last (List.cons_ne_nil _ _) short
      rw [List.length_cons, Nat.add_right_comm] at more
      exact .inr more

theorem length?_eq_some_iff {total : Ty} :
    length? s = some total ↔
      ∃ n, n ≤ 64 ∧ (HasElements s n ∨ EndsInTuple s n) ∧ total = .number n := by
  constructor
  · intro counted
    induction s generalizing total with
    | nil =>
      cases counted
      exact ⟨0, Nat.zero_le _, .inl (.list []), rfl⟩
    | cons head tail _ ended =>
      obtain ⟨before, found, stepped⟩ := Option.bind_eq_some_iff.mp counted
      obtain ⟨n, _, shape, rfl⟩ := ended found
      rw [next?_number] at stepped
      split at stepped
      · rename_i bound
        cases stepped
        exact ⟨n + 1, bound, hasElements_or_endsInTuple_cons head shape, rfl⟩
      · cases stepped
    | tuple elements =>
      rw [length?, maxTuple] at counted
      split at counted
      · rename_i short
        cases counted
        exact ⟨elements.length, by omega, .inl (.tuple elements short), rfl⟩
      · cases counted
    | _ => cases counted
  · intro shaped
    obtain ⟨n, bound, shape, rfl⟩ := shaped
    rcases shape with sequence | ended
    · exact length?_of_hasElements sequence bound
    · exact length?_of_endsInTuple ended bound

theorem EndsInTuple.not_hasElements (ended : EndsInTuple s m) : ¬ HasElements s n := by
  intro sequence
  cases ended with
  | intro front last nonempty _ =>
    obtain ⟨head, rest, rfl⟩ := List.exists_cons_of_ne_nil nonempty
    generalize written : (head :: rest).foldr Ty.cons (.tuple last) = s at sequence
    cases sequence with
    | tuple elements _ => cases written
    | list elements =>
      have noList : (Ty.tuple last).elements? = none := rfl
      have unlisted := Ty.elements?_foldr_cons noList (head :: rest)
      rw [written, Ty.elements?_ofList] at unlisted
      cases unlisted

end

theorem length?_toList? (s : Ty) : (do length? (← toList? s)) = length? s := by
  cases s with
  | tuple elements =>
    rw [toList?, length?]
    by_cases short : elements.length ≤ maxTuple
    · have bound : elements.length ≤ 64 := Nat.le_trans short (by decide)
      rw [if_pos short, if_pos short, Option.bind_eq_bind, Option.bind_some, length?_ofList,
        if_pos bound]
    · rw [if_neg short, if_neg short]
      rfl
  | _ => rfl

theorem length?_accepted (s : Ty) :
    (∀ total : Ty, length? s = some total ↔
      ∃ n, n ≤ 64 ∧ (HasElements s n ∨ EndsInTuple s n) ∧ total = .number n) ∧
    (((length? s).isSome ↔ ∃ n, n ≤ 64 ∧ HasElements s n) ↔
      ¬ ∃ n, n ≤ 64 ∧ EndsInTuple s n) ∧
    (do length? (← toList? s)) = length? s := by
  refine ⟨fun _ => length?_eq_some_iff, ?_, length?_toList? s⟩
  constructor
  · intro sequences ended
    obtain ⟨n, bound, ended⟩ := ended
    have counted := length?_of_endsInTuple ended bound
    obtain ⟨_, _, sequence⟩ := sequences.mp (Option.isSome_of_eq_some counted)
    exact ended.not_hasElements sequence
  · intro apart
    rw [Option.isSome_iff_exists]
    constructor
    · intro resolved
      obtain ⟨total, counted⟩ := resolved
      obtain ⟨n, bound, shape, _⟩ := length?_eq_some_iff.mp counted
      rcases shape with sequence | ended
      · exact ⟨n, bound, sequence⟩
      · exact absurd ⟨n, bound, ended⟩ apart
    · intro listed
      obtain ⟨n, bound, sequence⟩ := listed
      exact ⟨_, length?_of_hasElements sequence bound⟩

-- An element in front of a tuple of one is no sequence, and has the length two.
theorem length?_accepted_tuple_end :
    length? (.cons (.leaf .u8) (.tuple [.leaf .u8])) = some (.number 2) ∧
    ∀ n, ¬ HasElements (.cons (.leaf .u8) (.tuple [.leaf .u8])) n := by
  refine ⟨by decide, ?_⟩
  intro n
  have ended : EndsInTuple (.cons (.leaf .u8) (.tuple [.leaf .u8])) 2 :=
    .intro [.leaf .u8] [.leaf .u8] (by simp) (by decide)
  exact ended.not_hasElements

end Sequence

end TypeCalculus
