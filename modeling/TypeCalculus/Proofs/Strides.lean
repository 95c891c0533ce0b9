import TypeCalculus.Proofs.Entries

namespace TypeCalculus.Number

-- A round that does not end the count, of either stride; whether the second operand has that stride
-- is not asked.
inductive AnyRound (table : Table) (count : Count) : Ty × Ty → Ty × Ty → Prop where
  | unit {a b first second : Ty} (moved : count.unit? table a = some first)
      (counted : table.prev? b = some second) : AnyRound table count (a, b) (first, second)
  | leap {a b first second : Ty} (moved : count.leap? table a = some first)
      (counted : table.down? b = some second) : AnyRound table count (a, b) (first, second)

theorem Count.result?_number_eq_some_iff {table : Table} {count : Count} {first second : Int}
    {c : Ty} :
    count.result? table (.number first) (.number second) = some c ↔
      (0 ≤ first ∧ first ≤ table.max) ∧ (0 ≤ second ∧ second ≤ table.max) ∧
        (0 ≤ count.after first second ∧ count.after first second ≤ table.max) ∧
        c = .number (count.after first second) := by
  rw [(count.counts_result? table).eq_some_iff]
  constructor
  · intro counted
    obtain ⟨m, n, left, right, one, other, low, high, rfl⟩ := counted
    rw [Ty.number.inj one, Ty.number.inj other]
    exact ⟨⟨by omega, by omega⟩, ⟨by omega, by omega⟩, ⟨low, high⟩, rfl⟩
  · intro inside
    obtain ⟨left, right, reached, rfl⟩ := inside
    obtain ⟨m, rfl⟩ := Int.eq_ofNat_of_zero_le left.1
    obtain ⟨n, rfl⟩ := Int.eq_ofNat_of_zero_le right.1
    exact ⟨m, n, by omega, by omega, rfl, rfl, reached.1, reached.2, rfl⟩

namespace Moves

variable {table : Table} {count : Count} {units : Nat} {step back : Ty → Option Ty}
  {a b c first second : Ty}

-- Both operands moved by the same units, which the second one has. A first operand that has left
-- the table does not come back: what is left to be counted moves it the same way.
theorem result?_eq (moves : Moves table count units step)
    (falls : Moves table .difference units back) (moved : step a = some first)
    (counted : back b = some second) (enough : table.covers second = true) :
    count.result? table a b = count.result? table first second := by
  obtain ⟨m, rfl, left, rfl⟩ := moves.eq_some_iff.mp moved
  obtain ⟨n, rfl, right, rfl⟩ := falls.eq_some_iff.mp counted
  rw [Table.covers_number_iff] at left right enough
  have rest : count.after (count.after m units) (Count.difference.after n units) =
      count.after m n := by
    rw [count.after_after, Count.after, Int.add_comm, Int.sub_add_cancel]
  apply Option.ext
  intro c
  rw [Count.result?_number_eq_some_iff, Count.result?_number_eq_some_iff, rest]
  constructor
  · intro within
    obtain ⟨_, _, reached, same⟩ := within
    refine ⟨?_, enough, reached, same⟩
    cases count <;> simp only [Count.after] at reached enough ⊢ <;> omega
  · intro within
    obtain ⟨_, _, reached, same⟩ := within
    exact ⟨left, right, reached, same⟩

theorem round_eq_some_iff (moves : Moves table count units step)
    (falls : Moves table .difference units back) :
    ((step a).bind fun first => (back b).bind fun second => count.result? table first second) =
        some c ↔
      (∃ n : Nat, b = .number n ∧ units ≤ n) ∧ count.result? table a b = some c := by
  constructor
  · intro resolved
    obtain ⟨first, moved, resolved⟩ := Option.bind_eq_some_iff.mp resolved
    obtain ⟨second, counted, resolved⟩ := Option.bind_eq_some_iff.mp resolved
    obtain ⟨_, enough⟩ := (count.counts_result? table).covered _ _ _ resolved
    refine ⟨?_, (moves.result?_eq falls moved counted enough).trans resolved⟩
    obtain ⟨value, rfl, right, rfl⟩ := falls.eq_some_iff.mp counted
    rw [Table.covers_number_iff] at enough right
    obtain ⟨n, rfl⟩ := Int.eq_ofNat_of_zero_le right.1
    simp only [Count.after] at enough
    exact ⟨n, rfl, by omega⟩
  · intro counted
    obtain ⟨⟨n, rfl, long⟩, resolved⟩ := counted
    obtain ⟨left, right⟩ := (count.counts_result? table).covered _ _ _ resolved
    obtain ⟨first, moved⟩ := Option.isSome_iff_exists.mp ((moves.covered a).trans left)
    have fallen : back (.number n) = some (.number (n - units)) :=
      falls.eq_some_iff.mpr ⟨n, rfl, right, rfl⟩
    have enough : table.covers (.number (n - units)) = true := by
      rw [Table.covers_number_iff] at right ⊢
      omega
    rw [moved, Option.bind_some, fallen, Option.bind_some,
      ← moves.result?_eq falls moved fallen enough, resolved]

end Moves

namespace AnyRound

variable {table : Table} {count : Count} {earlier later : Ty × Ty}

theorem of_round (round : Round table count earlier later) :
    AnyRound table count earlier later := by
  cases round with
  | unit _ moved counted => exact .unit moved counted
  | leap _ moved counted => exact .leap moved counted

theorem result?_eq (round : AnyRound table count earlier later)
    (enough : table.covers later.2 = true) :
    count.result? table earlier.1 earlier.2 = count.result? table later.1 later.2 := by
  cases round with
  | unit moved counted =>
    have one : Moves table count (1 : Nat) (count.unit? table) := count.moves_unit? table
    exact one.result?_eq (Count.difference.moves_unit? table) moved counted enough
  | leap moved counted =>
    exact (count.moves_leap? table).result?_eq (Count.difference.moves_leap? table) moved counted
      enough

-- By induction on the rounds, from the last one: after each of them there is a result, so its
-- second operand is in the table.
theorem result?_of_rounds {operands : Ty × Ty} {c : Ty} (covered : table.covers c = true)
    (rounds : Relation.ReflTransGen (AnyRound table count) operands (c, .number 0)) :
    count.result? table operands.1 operands.2 = some c := by
  induction rounds using Relation.ReflTransGen.head_induction_on with
  | refl =>
    obtain ⟨m, inside, rfl⟩ := Table.covers_iff.mp covered
    exact (count.counts_result? table).ended m inside
  | head round _ resolved =>
    obtain ⟨_, enough⟩ := (count.counts_result? table).covered _ _ _ resolved
    exact (round.result?_eq enough).trans resolved

end AnyRound

namespace Count

variable {table : Table} {a b c : Ty} (count : Count)

theorem result?_eq_some_iff_anyRounds :
    count.result? table a b = some c ↔ table.covers c = true ∧
      Relation.ReflTransGen (AnyRound table count) (a, b) (c, .number 0) := by
  constructor
  · intro resolved
    obtain ⟨covered, rounds⟩ := result?_eq_some_iff_rounds.mp resolved
    exact ⟨covered, Relation.ReflTransGen.mono (fun _ _ => AnyRound.of_round) _ _ rounds⟩
  · intro counted
    exact AnyRound.result?_of_rounds counted.1 counted.2

theorem round?_halt_eq_some_iff : count.round? table .halt a b = some c ↔
    (∃ m : Nat, m ≤ table.max ∧ a = .number m) ∧ c = a := by
  rw [count.round?_halt, ← Table.covers_iff]
  by_cases covered : table.covers a = true <;> simp [covered, eq_comm]

theorem round?_unit_eq_some_iff : count.round? table .unit a b = some c ↔
    (∃ n : Nat, b = .number n ∧ 1 ≤ n) ∧ count.result? table a b = some c := by
  have one : Moves table count (1 : Nat) (count.unit? table) := count.moves_unit? table
  rw [count.round?_unit]
  exact one.round_eq_some_iff (Count.difference.moves_unit? table)

theorem round?_leap_eq_some_iff : count.round? table .leap a b = some c ↔
    (∃ n : Nat, b = .number n ∧ table.leap ≤ n) ∧ count.result? table a b = some c := by
  rw [count.round?_leap]
  exact (count.moves_leap? table).round_eq_some_iff (Count.difference.moves_leap? table)

theorem sum_eq_some_iff_of_units {units : Nat} :
    (∃ n : Nat, b = .number n ∧ units ≤ n) ∧ Count.sum.result? table a b = some c ↔
      ∃ m n : Nat, a = .number m ∧ b = .number n ∧ units ≤ n ∧ n ≤ table.max ∧
        m + n ≤ table.max ∧ c = .number (m + n) := by
  rw [(Count.sum.counts_result? table).eq_some_iff]
  constructor
  · intro counted
    obtain ⟨⟨k, written, long⟩, m, n, _, second, rfl, rfl, _, high, rfl⟩ := counted
    have same : (n : Int) = k := Ty.number.inj written
    simp only [Count.after] at high
    exact ⟨m, n, rfl, rfl, by omega, second, by omega, rfl⟩
  · intro summed
    obtain ⟨m, n, rfl, rfl, long, second, inside, rfl⟩ := summed
    refine ⟨⟨n, rfl, long⟩, m, n, by omega, second, rfl, rfl, ?_, ?_, rfl⟩
    · simp only [Count.after]; omega
    · simp only [Count.after]; omega

theorem difference_eq_some_iff_of_units {units : Nat} :
    (∃ n : Nat, b = .number n ∧ units ≤ n) ∧ Count.difference.result? table a b = some c ↔
      ∃ m n : Nat, a = .number m ∧ b = .number n ∧ units ≤ n ∧ n ≤ m ∧ m ≤ table.max ∧
        c = .number (m - n) := by
  rw [(Count.difference.counts_result? table).eq_some_iff]
  constructor
  · intro counted
    obtain ⟨⟨k, written, long⟩, m, n, first, _, rfl, rfl, low, _, rfl⟩ := counted
    have same : (n : Int) = k := Ty.number.inj written
    simp only [Count.after] at low
    exact ⟨m, n, rfl, rfl, by omega, by omega, first, rfl⟩
  · intro taken
    obtain ⟨m, n, rfl, rfl, long, below, first, rfl⟩ := taken
    refine ⟨⟨n, rfl, long⟩, m, n, first, by omega, rfl, rfl, ?_, ?_, rfl⟩
    · simp only [Count.after]; omega
    · simp only [Count.after]; omega

end Count

-- A leap has at least one unit, so of the second operand `table.leap ≤ n` says `1 ≤ n` too.
theorem Table.addRound?_subRound?_exact (table : Table) :
    (∀ a b c : Ty, table.addRound? .unit a b = some c ↔
      ∃ m n : Nat, a = .number m ∧ b = .number n ∧ 1 ≤ n ∧ n ≤ table.max ∧ m + n ≤ table.max ∧
        c = .number (m + n)) ∧
    (∀ a b c : Ty, table.addRound? .leap a b = some c ↔
      ∃ m n : Nat, a = .number m ∧ b = .number n ∧ table.leap ≤ n ∧ n ≤ table.max ∧
        m + n ≤ table.max ∧ c = .number (m + n)) ∧
    (∀ a b c : Ty, table.subRound? .unit a b = some c ↔
      ∃ m n : Nat, a = .number m ∧ b = .number n ∧ 1 ≤ n ∧ n ≤ m ∧ m ≤ table.max ∧
        c = .number (m - n)) ∧
    (∀ a b c : Ty, table.subRound? .leap a b = some c ↔
      ∃ m n : Nat, a = .number m ∧ b = .number n ∧ table.leap ≤ n ∧ n ≤ m ∧ m ≤ table.max ∧
        c = .number (m - n)) ∧
    ∀ (count : Count) (a b c : Ty),
      (count.round? table .halt a b = some c ↔
        (∃ m : Nat, m ≤ table.max ∧ a = .number m) ∧ c = a) ∧
      (count.round? table .unit a b = some c ↔
        (∃ n : Nat, b = .number n ∧ 1 ≤ n) ∧ count.result? table a b = some c) ∧
      (count.round? table .leap a b = some c ↔
        (∃ n : Nat, b = .number n ∧ table.leap ≤ n) ∧ count.result? table a b = some c) ∧
      (count.result? table a b = some c ↔ table.covers c = true ∧
        Relation.ReflTransGen (AnyRound table count) (a, b) (c, .number 0)) := by
  refine ⟨?_, ?_, ?_, ?_, ?_⟩
  · intro a b c
    exact (Count.round?_unit_eq_some_iff .sum).trans Count.sum_eq_some_iff_of_units
  · intro a b c
    exact (Count.round?_leap_eq_some_iff .sum).trans Count.sum_eq_some_iff_of_units
  · intro a b c
    exact (Count.round?_unit_eq_some_iff .difference).trans
      Count.difference_eq_some_iff_of_units
  · intro a b c
    exact (Count.round?_leap_eq_some_iff .difference).trans
      Count.difference_eq_some_iff_of_units
  · intro count a b c
    exact ⟨count.round?_halt_eq_some_iff, count.round?_unit_eq_some_iff,
      count.round?_leap_eq_some_iff, count.result?_eq_some_iff_anyRounds⟩

end TypeCalculus.Number
