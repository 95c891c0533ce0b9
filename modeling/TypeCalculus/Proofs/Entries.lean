import TypeCalculus.Proofs.Rounds

namespace TypeCalculus.Number

inductive Entry where
  | value
  | label
  | next
  | prev
  | isZero
  | isOne
  | up
  | down
  | stride

def moved? (step : Ty → Option Ty) : Nat → Ty → Option Ty
  | 0, t => some t
  | n + 1, t => do step (← moved? step n t)

namespace Table

variable {table : Table}

def lists (table : Table) : Entry → Ty → Bool
  | .value, t => (table.value? t).isSome
  | .label, t => (table.label? t).isSome
  | .next, t => (table.next? t).isSome
  | .prev, t => (table.prev? t).isSome
  | .isZero, t => (table.isZero? t).isSome
  | .isOne, t => (table.isOne? t).isSome
  | .up, t => (table.up? t).isSome
  | .down, t => (table.down? t).isSome
  | .stride, t => (table.stride? t).isSome

theorem lists_eq_covers (entry : Entry) (t : Ty) : table.lists entry t = table.covers t := by
  cases entry <;> exact Option.isSome_map

theorem lists_iff {entry : Entry} {t : Ty} :
    table.lists entry t = true ↔ ∃ n : Nat, n ≤ table.max ∧ t = .number n := by
  rw [lists_eq_covers, covers_iff]

theorem covers_number_iff {value : Int} :
    table.covers (.number value) = true ↔ 0 ≤ value ∧ value ≤ table.max := by
  rw [covers_iff]
  constructor
  · intro covered
    obtain ⟨n, inside, same⟩ := covered
    have written : value = n := Ty.number.inj same
    omega
  · intro inside
    exact ⟨value.toNat, by omega, by rw [Int.toNat_of_nonneg inside.1]⟩

theorem lists_eq_false {value : Int} (outside : value < 0 ∨ table.max < value) (entry : Entry) :
    table.lists entry (.number value) = false := by
  rw [lists_eq_covers, covers, row?_eq_none outside]
  rfl

end Table

namespace Count

def opposite : Count → Count
  | .sum => .difference
  | .difference => .sum

theorem opposite_after (count : Count) (first units : Int) :
    count.opposite.after (count.after first units) units = first := by
  cases count <;> simp only [opposite, after] <;> omega

end Count

-- A step that counts some units from each number of a table, and from no other type.
structure Moves (table : Table) (count : Count) (units : Int) (step : Ty → Option Ty) : Prop where
  covered : ∀ t, (step t).isSome = table.covers t
  number : ∀ n : Nat, n ≤ table.max → step (.number n) = some (.number (count.after n units))

theorem Count.moves_unit? (count : Count) (table : Table) :
    Moves table count 1 (count.unit? table) :=
  ⟨count.isSome_unit? table, fun _ => count.unit?_number⟩

theorem Count.moves_leap? (count : Count) (table : Table) :
    Moves table count table.leap (count.leap? table) :=
  ⟨count.isSome_leap? table, fun _ => count.leap?_number⟩

namespace Moves

variable {table : Table} {count : Count} {units : Int} {step back : Ty → Option Ty} {t u : Ty}

theorem eq_some_iff (moves : Moves table count units step) :
    step t = some u ↔
      ∃ value : Int, t = .number value ∧ table.covers t = true ∧
        u = .number (count.after value units) := by
  constructor
  · intro moved
    have covered : table.covers t = true := by rw [← moves.covered, moved, Option.isSome_some]
    obtain ⟨n, inside, rfl⟩ := Table.covers_iff.mp covered
    rw [moves.number n inside] at moved
    exact ⟨n, rfl, covered, (Option.some.inj moved).symm⟩
  · intro written
    obtain ⟨value, same, covered, rfl⟩ := written
    obtain ⟨n, inside, rfl⟩ := Table.covers_iff.mp covered
    rw [moves.number n inside, Ty.number.inj same]

theorem undone (moves : Moves table count units step)
    (returns : Moves table count.opposite units back) (moved : step t = some u)
    (ended : table.covers u = true) : back u = some t := by
  obtain ⟨value, rfl, _, rfl⟩ := moves.eq_some_iff.mp moved
  exact returns.eq_some_iff.mpr ⟨_, rfl, ended, by rw [count.opposite_after]⟩

-- By induction on the units. All steps but the last have to end in the table, and they do when the
-- last of them does: the count goes one way.
theorem moved?_eq_some_iff (moves : Moves table count 1 step) {n : Nat} (inside : n ≤ table.max)
    (k : Nat) :
    moved? step (k + 1) (.number n) = some u ↔
      table.covers (.number (count.after n k)) = true ∧
        u = .number (count.after n (k + 1 : Nat)) := by
  induction k generalizing u with
  | zero =>
    have start : count.after n (0 : Nat) = n := by cases count <;> simp [Count.after]
    rw [moved?, moved?, Option.bind_eq_bind, Option.bind_some, moves.eq_some_iff, start]
    constructor
    · intro moved
      obtain ⟨value, same, covered, rfl⟩ := moved
      rw [← Ty.number.inj same]
      exact ⟨covered, rfl⟩
    · intro moved
      exact ⟨n, rfl, moved.1, moved.2⟩
  | succ k run =>
    have next : count.after (count.after n (k + 1 : Nat)) 1 =
        count.after n (k + 1 + 1 : Nat) := count.after_after _ _ _
    rw [moved?, Option.bind_eq_bind, Option.bind_eq_some_iff]
    constructor
    · intro moved
      obtain ⟨before, reached, stepped⟩ := moved
      obtain ⟨_, rfl⟩ := run.mp reached
      obtain ⟨value, same, covered, rfl⟩ := moves.eq_some_iff.mp stepped
      rw [← Ty.number.inj same, next]
      exact ⟨covered, rfl⟩
    · intro ended
      obtain ⟨covered, rfl⟩ := ended
      have earlier : table.covers (.number (count.after n k)) = true := by
        rw [Table.covers_number_iff] at covered ⊢
        cases count <;> simp only [Count.after] at covered ⊢ <;> omega
      exact ⟨_, run.mpr ⟨earlier, rfl⟩,
        moves.eq_some_iff.mpr ⟨_, rfl, covered, by rw [next]⟩⟩

end Moves

namespace Count

variable {table : Table} {n : Nat} {u : Ty}

-- A leap has at least one unit, so its last one is taken from a number of the table.
theorem moved?_leap_eq_some_iff (count : Count) (inside : n ≤ table.max) :
    moved? (count.unit? table) table.leap (.number n) = some u ↔
      table.covers (.number (count.after n (table.leap - 1))) = true ∧
        count.leap? table (.number n) = some u := by
  obtain ⟨k, length⟩ := Nat.exists_eq_add_of_lt table.leap_pos
  rw [Nat.zero_add] at length
  have last : (table.leap : Int) - 1 = k := by omega
  rw [last, count.leap?_number inside, length, (count.moves_unit? table).moved?_eq_some_iff inside,
    Option.some.injEq, eq_comm (a := u)]

theorem moved?_leap_isSome_iff (count : Count) (inside : n ≤ table.max) :
    (moved? (count.unit? table) table.leap (.number n)).isSome ↔
      table.covers (.number (count.after n (table.leap - 1))) = true := by
  rw [Option.isSome_iff_exists]
  constructor
  · intro resolved
    obtain ⟨u, moved⟩ := resolved
    exact ((count.moved?_leap_eq_some_iff inside).mp moved).1
  · intro covered
    exact ⟨_, (count.moved?_leap_eq_some_iff inside).mpr ⟨covered, count.leap?_number inside⟩⟩

end Count

-- What the entries for one number say of each other; a type is a natural if the table covers it.
structure EntriesAgree (table : Table) (n : Nat) : Prop where
  -- A leap is as many units in a row as it is long, when there are these. The last of them may end
  -- next to the table.
  up_of_next : ∀ t, moved? table.next? table.leap (.number n) = some t →
    table.up? (.number n) = some t
  moved_next : (moved? table.next? table.leap (.number n)).isSome ↔
    n + table.leap ≤ table.max + 1
  down_of_prev : ∀ t, moved? table.prev? table.leap (.number n) = some t →
    table.down? (.number n) = some t
  moved_prev : (moved? table.prev? table.leap (.number n)).isSome ↔ table.leap ≤ n + 1
  up : ∃ above, table.up? (.number n) = some above ∧
    (table.covers above = true ↔ n + table.leap ≤ table.max) ∧
    (table.covers above = true → table.down? above = some (.number n))
  down : ∃ below, table.down? (.number n) = some below ∧
    (table.covers below = true ↔ table.leap ≤ n) ∧
    (table.covers below = true → table.up? below = some (.number n))
  prev : ∃ below, table.prev? (.number n) = some below ∧
    (table.covers below = true → table.next? below = some (.number n))
  next : ∃ above, table.next? (.number n) = some above ∧
    (table.covers above = true → table.prev? above = some (.number n))
  halt : table.stride? (.number n) = some .halt ↔ table.isZero? (.number n) = some true
  leap : table.stride? (.number n) = some .leap ↔
    ∃ below, table.down? (.number n) = some below ∧ table.covers below = true
  unit : table.stride? (.number n) = some .unit ↔
    table.isZero? (.number n) = some false ∧
      ∃ below, table.down? (.number n) = some below ∧ table.covers below = false

namespace Table

variable {table : Table} {n : Nat}

theorem down?_covers_iff (inside : n ≤ table.max) {found : Bool} :
    (∃ below, table.down? (.number n) = some below ∧ table.covers below = found) ↔
      found = decide (table.leap ≤ n) := by
  have moved : table.down? (.number n) = some (.number (n - table.leap)) :=
    Count.difference.leap?_number inside
  have covered : table.covers (.number (n - table.leap)) = decide (table.leap ≤ n) := by
    rw [Bool.eq_iff_iff, covers_number_iff, decide_eq_true_eq]
    omega
  simp [moved, covered, eq_comm]

theorem entriesAgree (inside : n ≤ table.max) : EntriesAgree table n where
  up_of_next _ moved := ((Count.sum.moved?_leap_eq_some_iff inside).mp moved).2
  moved_next := by
    refine (Count.sum.moved?_leap_isSome_iff inside).trans ?_
    have positive := table.leap_pos
    rw [covers_number_iff, Count.after]
    omega
  down_of_prev _ moved := ((Count.difference.moved?_leap_eq_some_iff inside).mp moved).2
  moved_prev := by
    refine (Count.difference.moved?_leap_isSome_iff inside).trans ?_
    have positive := table.leap_pos
    rw [covers_number_iff, Count.after]
    omega
  up := by
    have moved := Count.sum.leap?_number inside
    refine ⟨_, moved, ?_, ?_⟩
    · rw [covers_number_iff, Count.after]
      omega
    · exact (Count.sum.moves_leap? table).undone (Count.difference.moves_leap? table) moved
  down := by
    have moved := Count.difference.leap?_number inside
    refine ⟨_, moved, ?_, ?_⟩
    · rw [covers_number_iff, Count.after]
      omega
    · exact (Count.difference.moves_leap? table).undone (Count.sum.moves_leap? table) moved
  prev := by
    have moved := Count.difference.unit?_number inside
    exact ⟨_, moved, (Count.difference.moves_unit? table).undone (Count.sum.moves_unit? table) moved⟩
  next := by
    have moved := Count.sum.unit?_number inside
    exact ⟨_, moved, (Count.sum.moves_unit? table).undone (Count.difference.moves_unit? table) moved⟩
  halt := by
    rw [stride?_number inside, isZero?_number inside]
    by_cases zero : n = 0
    · simp [zero]
    · by_cases short : n < table.leap <;> simp [zero, short]
  leap := by
    have nonzero : table.leap ≠ 0 := Nat.ne_of_gt table.leap_pos
    rw [stride?_number inside, down?_covers_iff inside]
    by_cases short : n < table.leap
    · by_cases zero : n = 0 <;> simp [zero, short, nonzero]
    · have zero : n ≠ 0 := by omega
      simp [zero, short, Nat.le_of_not_lt short]
  unit := by
    rw [stride?_number inside, isZero?_number inside, down?_covers_iff inside]
    by_cases zero : n = 0
    · simp [zero]
    · by_cases short : n < table.leap <;> simp [zero, short]

theorem entries_consistent (table : Table) :
    table.rows.map (·.value) = List.range (table.max + 1) ∧
    (∀ (entry : Entry) (t : Ty), table.lists entry t = true ↔
      ∃ n : Nat, n ≤ table.max ∧ t = .number n) ∧
    (∀ n : Nat, n ≤ table.max → EntriesAgree table n) ∧
    ∀ (entry : Entry) (value : Int), value < 0 ∨ table.max < value →
      table.lists entry (.number value) = false := by
  refine ⟨table.map_value_rows, fun _ _ => lists_iff, fun _ => entriesAgree, ?_⟩
  intro entry value outside
  exact lists_eq_false outside entry

theorem entries_consistent_last_leap :
    (56 : Nat) ≤ standard.max ∧
    moved? standard.next? standard.leap (.number 56) = some (.number 64) ∧
    standard.up? (.number 56) = some (.number 64) ∧
    (standard.max : Int) < 64 ∧ standard.lists .down (.number 64) = false ∧
    ∃ below, standard.down? (.number 56) = some below ∧ standard.covers below = true ∧
      standard.up? below = some (.number 56) := by
  obtain ⟨_, _, agree, absent⟩ := standard.entries_consistent
  have inside : (56 : Nat) ≤ standard.max := by decide
  have moved : moved? standard.next? standard.leap (.number 56) = some (.number 64) := by decide
  have outside : (standard.max : Int) < 64 := by decide
  obtain ⟨below, leapt, within, back⟩ := (agree 56 inside).down
  have covered : standard.covers below = true := within.mpr (by decide)
  exact ⟨inside, moved, (agree 56 inside).up_of_next _ moved, outside,
    absent .down 64 (.inr outside), below, leapt, covered, back covered⟩

end Table

end TypeCalculus.Number
