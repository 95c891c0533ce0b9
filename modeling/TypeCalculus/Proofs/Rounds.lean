import Mathlib.Logic.Relation
import TypeCalculus.Number.Arithmetic

namespace TypeCalculus.Number

inductive Count where
  | sum
  | difference

namespace Count

def after : Count → Int → Int → Int
  | .sum, first, units => first + units
  | .difference, first, units => first - units

def result? : Count → Table → Ty → Ty → Option Ty
  | .sum => Table.add?
  | .difference => Table.sub?

def round? : Count → Table → Stride → Ty → Ty → Option Ty
  | .sum => Table.addRound?
  | .difference => Table.subRound?

def unit? : Count → Table → Ty → Option Ty
  | .sum => Table.next?
  | .difference => Table.prev?

def leap? : Count → Table → Ty → Option Ty
  | .sum => Table.up?
  | .difference => Table.down?

variable (count : Count) (table : Table)

theorem result?_eq (a b : Ty) : count.result? table a b =
    (table.row? a).bind fun _ =>
      (table.stride? b).bind fun step => count.round? table step a b := by
  cases count with
  | sum => exact table.add?_eq a b
  | difference => exact table.sub?_eq a b

theorem round?_halt (a b : Ty) :
    count.round? table .halt a b = if table.covers a then some a else none := by
  cases count with
  | sum => exact table.addRound?_halt a b
  | difference => exact table.subRound?_halt a b

theorem round?_unit (a b : Ty) : count.round? table .unit a b =
    (count.unit? table a).bind fun first =>
      (table.prev? b).bind fun second => count.result? table first second := by
  cases count with
  | sum => exact table.addRound?_unit a b
  | difference => exact table.subRound?_unit a b

theorem round?_leap (a b : Ty) : count.round? table .leap a b =
    (count.leap? table a).bind fun first =>
      (table.down? b).bind fun second => count.result? table first second := by
  cases count with
  | sum => exact table.addRound?_leap a b
  | difference => exact table.subRound?_leap a b

theorem isSome_unit? (a : Ty) : (count.unit? table a).isSome = table.covers a := by
  cases count <;> simp [unit?, Table.next?, Table.prev?, Table.covers]

theorem isSome_leap? (a : Ty) : (count.leap? table a).isSome = table.covers a := by
  cases count <;> simp [leap?, Table.up?, Table.down?, Table.covers]

variable {table}

theorem unit?_number {n : Nat} (inside : n ≤ table.max) :
    count.unit? table (.number n) = some (.number (count.after n 1)) := by
  cases count <;>
    simp [unit?, after, Table.next?, Table.prev?, Table.row?_number inside, Table.row]

theorem leap?_number {n : Nat} (inside : n ≤ table.max) :
    count.leap? table (.number n) = some (.number (count.after n table.leap)) := by
  cases count <;>
    simp [leap?, after, Table.up?, Table.down?, Table.row?_number inside, Table.row]

theorem after_after (first units more : Int) :
    count.after (count.after first units) more = count.after first (units + more) := by
  cases count <;> simp only [after] <;> omega

end Count

namespace Table

variable {table : Table}

theorem covers_iff {t : Ty} : table.covers t = true ↔ ∃ n : Nat, n ≤ table.max ∧ t = .number n := by
  rw [covers, Option.isSome_iff_exists]
  constructor
  · rintro ⟨row, found⟩
    obtain ⟨n, inside, written, _⟩ := row?_eq_some_iff.mp found
    exact ⟨n, inside, written⟩
  · rintro ⟨n, inside, rfl⟩
    exact ⟨_, row?_number inside⟩

theorem stride?_number {n : Nat} (inside : n ≤ table.max) : table.stride? (.number n) =
    some (if n = 0 then .halt else if n < table.leap then .unit else .leap) := by
  simp [stride?, row?_number inside, row]

theorem isZero?_number {n : Nat} (inside : n ≤ table.max) :
    table.isZero? (.number n) = some (n == 0) := by
  simp [isZero?, row?_number inside, row]

theorem countdown_prev? {b next : Ty} (found : table.prev? b = some next) :
    countdown next < countdown b := by
  obtain ⟨row, held, rfl⟩ := Option.map_eq_some_iff.mp found
  exact countdown_prev held

theorem countdown_down? {b next : Ty} (found : table.down? b = some next) :
    countdown next < countdown b := by
  obtain ⟨row, held, rfl⟩ := Option.map_eq_some_iff.mp found
  exact countdown_down held

-- Counting by units alone: the first operand if the second is zero, or else the count of the
-- neighbours of both. An operand of any round that has no entry is refused.
def countByUnits? (table : Table) (count : Count) (a b : Ty) : Option Ty :=
  match table.isZero? b, count.unit? table a, _found : table.prev? b with
  | some true, some _, _ => some a
  | some false, some first, some second => countByUnits? table count first second
  | _, _, _ => none
termination_by countdown b
decreasing_by exact countdown_prev? _found

theorem countByUnits?_eq (table : Table) (count : Count) (a b : Ty) :
    table.countByUnits? count a b =
      (table.isZero? b).bind fun zero => (count.unit? table a).bind fun first =>
        if zero then some a
        else (table.prev? b).bind fun second => table.countByUnits? count first second := by
  rw [countByUnits?]
  rcases table.isZero? b with _ | zero
  · rfl
  · cases zero <;> cases count.unit? table a <;> cases table.prev? b <;> rfl

end Table

inductive Round (table : Table) (count : Count) : Ty × Ty → Ty × Ty → Prop where
  | unit {a b first second : Ty} (stride : table.stride? b = some .unit)
      (moved : count.unit? table a = some first) (counted : table.prev? b = some second) :
      Round table count (a, b) (first, second)
  | leap {a b first second : Ty} (stride : table.stride? b = some .leap)
      (moved : count.leap? table a = some first) (counted : table.down? b = some second) :
      Round table count (a, b) (first, second)

namespace Round

variable {table : Table} {count : Count}

theorem countdown_lt {earlier later : Ty × Ty} (round : Round table count earlier later) :
    Table.countdown later.2 < Table.countdown earlier.2 := by
  cases round with
  | unit _ _ counted => exact Table.countdown_prev? counted
  | leap _ _ counted => exact Table.countdown_down? counted

theorem wellFounded (table : Table) (count : Count) :
    WellFounded fun later earlier => Round table count earlier later :=
  Subrelation.wf (fun round => round.countdown_lt)
    (InvImage.wf (fun operands : Ty × Ty => Table.countdown operands.2) Nat.lt_wfRel.wf)

theorem result?_eq {earlier later : Ty × Ty} (round : Round table count earlier later) :
    count.result? table earlier.1 earlier.2 = count.result? table later.1 later.2 := by
  cases round with
  | @unit a b first second stride moved counted =>
    have covered : (table.row? a).isSome := by
      rw [← Table.covers, ← count.isSome_unit? table a, moved, Option.isSome_some]
    obtain ⟨row, held⟩ := Option.isSome_iff_exists.mp covered
    rw [count.result?_eq, held, Option.bind_some, stride, Option.bind_some, count.round?_unit,
      moved, Option.bind_some, counted, Option.bind_some]
  | @leap a b first second stride moved counted =>
    have covered : (table.row? a).isSome := by
      rw [← Table.covers, ← count.isSome_leap? table a, moved, Option.isSome_some]
    obtain ⟨row, held⟩ := Option.isSome_iff_exists.mp covered
    rw [count.result?_eq, held, Option.bind_some, stride, Option.bind_some, count.round?_leap,
      moved, Option.bind_some, counted, Option.bind_some]

theorem result?_eq_of_rounds {earlier later : Ty × Ty}
    (rounds : Relation.ReflTransGen (Round table count) earlier later) :
    count.result? table earlier.1 earlier.2 = count.result? table later.1 later.2 := by
  induction rounds with
  | refl => rfl
  | tail _ round before => exact before.trans round.result?_eq

theorem exists_round (count : Count) {m n : Nat} (first : m ≤ table.max) (positive : 0 < n)
    (second : n ≤ table.max) :
    ∃ units : Nat, 0 < units ∧ units ≤ n ∧
      Round table count (.number m, .number n)
        (.number (count.after m units), .number (n - units : Nat)) := by
  have stride := Table.stride?_number second
  rw [if_neg (by omega)] at stride
  by_cases short : n < table.leap
  · rw [if_pos short] at stride
    refine ⟨1, Nat.one_pos, positive, .unit stride (count.unit?_number first) ?_⟩
    rw [Int.ofNat_sub positive]
    exact Count.difference.unit?_number second
  · rw [if_neg short] at stride
    have enough : table.leap ≤ n := Nat.le_of_not_lt short
    refine ⟨table.leap, table.leap_pos, enough, .leap stride (count.leap?_number first) ?_⟩
    rw [Int.ofNat_sub enough]
    exact Count.difference.leap?_number second

end Round

structure Counts (table : Table) (count : Count) (result? : Ty → Ty → Option Ty) : Prop where
  covered : ∀ a b c, result? a b = some c → table.covers a ∧ table.covers b
  ended : ∀ m : Nat, m ≤ table.max → result? (.number m) (.number 0) = some (.number m)
  moved : ∀ m n : Nat, m ≤ table.max → 0 < n → n ≤ table.max →
    ∃ units : Nat, 0 < units ∧ units ≤ n ∧ result? (.number m) (.number n) =
      result? (.number (count.after m units)) (.number (n - units : Nat))

namespace Counts

variable {table : Table} {count : Count} {result? other? : Ty → Ty → Option Ty}

-- By strong induction on the second operand. A first operand that has left the table does not come
-- back: the units that are left move it the same way.
theorem result?_number (counts : Counts table count result?) {m n : Nat} (first : m ≤ table.max)
    (second : n ≤ table.max) : result? (.number m) (.number n) =
      if 0 ≤ count.after m n ∧ count.after m n ≤ table.max then some (.number (count.after m n))
      else none := by
  induction n using Nat.strongRecOn generalizing m with
  | ind n shorter =>
    rcases Nat.eq_zero_or_pos n with rfl | positive
    · have unmoved : count.after m (0 : Nat) = m := by cases count <;> simp [Count.after]
      rw [unmoved, if_pos (by omega)]
      exact counts.ended m first
    · obtain ⟨units, nonzero, enough, same⟩ := counts.moved m n first positive second
      have parts : count.after (count.after m units) (n - units : Nat) = count.after m n := by
        rw [count.after_after, Int.ofNat_sub enough, Int.add_comm, Int.sub_add_cancel]
      rw [same]
      by_cases inside : 0 ≤ count.after m units ∧ count.after m units ≤ table.max
      · obtain ⟨reached, written⟩ := Int.eq_ofNat_of_zero_le inside.1
        rw [written] at inside parts ⊢
        rw [shorter (n - units) (by omega) (by omega) (by omega), parts]
      · have lost : result? (.number (count.after m units)) (.number (n - units : Nat)) = none := by
          rw [Option.eq_none_iff_forall_ne_some]
          intro c resolved
          obtain ⟨reached, bound, written⟩ := Table.covers_iff.mp (counts.covered _ _ _ resolved).1
          have value : count.after m units = reached := Ty.number.inj written
          exact inside ⟨by omega, by omega⟩
        rw [lost, if_neg]
        cases count <;> simp only [Count.after] at inside ⊢ <;> omega

theorem eq_some_iff (counts : Counts table count result?) {a b c : Ty} :
    result? a b = some c ↔
      ∃ m n : Nat, m ≤ table.max ∧ n ≤ table.max ∧ a = .number m ∧ b = .number n ∧
        0 ≤ count.after m n ∧ count.after m n ≤ table.max ∧ c = .number (count.after m n) := by
  constructor
  · intro resolved
    obtain ⟨left, right⟩ := counts.covered a b c resolved
    obtain ⟨m, first, rfl⟩ := Table.covers_iff.mp left
    obtain ⟨n, second, rfl⟩ := Table.covers_iff.mp right
    rw [counts.result?_number first second] at resolved
    split at resolved
    · rename_i inside
      cases Option.some.inj resolved
      exact ⟨m, n, first, second, rfl, rfl, inside.1, inside.2, rfl⟩
    · cases resolved
  · rintro ⟨m, n, first, second, rfl, rfl, low, high, rfl⟩
    rw [counts.result?_number first second, if_pos ⟨low, high⟩]

theorem unique (counts : Counts table count result?) (others : Counts table count other?)
    (a b : Ty) : result? a b = other? a b := by
  apply Option.ext
  intro c
  rw [counts.eq_some_iff, others.eq_some_iff]

end Counts

theorem Count.counts_result? (count : Count) (table : Table) :
    Counts table count (count.result? table) where
  covered a b c resolved := by
    rw [count.result?_eq] at resolved
    obtain ⟨_, left, resolved⟩ := Option.bind_eq_some_iff.mp resolved
    obtain ⟨_, stride, _⟩ := Option.bind_eq_some_iff.mp resolved
    obtain ⟨_, right, _⟩ := Option.map_eq_some_iff.mp stride
    exact ⟨Option.isSome_of_eq_some left, Option.isSome_of_eq_some right⟩
  ended m first := by
    have zero : table.stride? (.number 0) = some .halt :=
      Table.stride?_number (n := 0) (Nat.zero_le _)
    rw [count.result?_eq, Table.row?_number first, Option.bind_some, zero, Option.bind_some,
      count.round?_halt, if_pos (Table.covers_iff.mpr ⟨m, first, rfl⟩)]
  moved m n first positive second := by
    obtain ⟨units, nonzero, enough, round⟩ := Round.exists_round count first positive second
    exact ⟨units, nonzero, enough, round.result?_eq⟩

theorem Count.result?_eq_none {table : Table} {a b : Ty} (count : Count)
    (outside : ¬ (table.covers a = true ∧ table.covers b = true)) :
    count.result? table a b = none := by
  rw [Option.eq_none_iff_forall_ne_some]
  intro c resolved
  exact outside ((count.counts_result? table).covered a b c resolved)

theorem Table.add?_number {table : Table} {m n : Nat} (inside : m + n ≤ table.max) :
    table.add? (.number m) (.number n) = some (.number (m + n : Nat)) := by
  refine (Count.sum.counts_result? table).eq_some_iff.mpr
    ⟨m, n, by omega, by omega, rfl, rfl, ?_, ?_, ?_⟩
  · simp only [Count.after]; omega
  · simp only [Count.after]; omega
  · rw [Count.after, Int.natCast_add]

theorem Table.add?_number_eq_none {table : Table} {m n : Nat} (outside : table.max < m + n) :
    table.add? (.number m) (.number n) = none := by
  rw [Option.eq_none_iff_forall_ne_some]
  intro c resolved
  obtain ⟨_, _, _, _, first, second, _, inside, _⟩ :=
    (Count.sum.counts_result? table).eq_some_iff.mp resolved
  have left := Ty.number.inj first
  have right := Ty.number.inj second
  simp only [Count.after] at inside
  omega

theorem Table.sub?_number {table : Table} {m n : Nat} (inside : m ≤ table.max) (below : n ≤ m) :
    table.sub? (.number m) (.number n) = some (.number (m - n : Nat)) := by
  refine (Count.difference.counts_result? table).eq_some_iff.mpr
    ⟨m, n, inside, by omega, rfl, rfl, ?_, ?_, ?_⟩
  · simp only [Count.after]; omega
  · simp only [Count.after]; omega
  · rw [Count.after, Int.ofNat_sub below]

theorem Table.counts_countByUnits? (table : Table) (count : Count) :
    Counts table count (table.countByUnits? count) where
  covered a b c resolved := by
    rw [countByUnits?_eq] at resolved
    obtain ⟨_, zero, resolved⟩ := Option.bind_eq_some_iff.mp resolved
    obtain ⟨_, moved, _⟩ := Option.bind_eq_some_iff.mp resolved
    obtain ⟨_, right, _⟩ := Option.map_eq_some_iff.mp zero
    refine ⟨?_, Option.isSome_of_eq_some right⟩
    rw [← count.isSome_unit? table a, moved, Option.isSome_some]
  ended m first := by
    have zero : table.isZero? (.number 0) = some true := isZero?_number (n := 0) (Nat.zero_le _)
    rw [countByUnits?_eq, zero, Option.bind_some, count.unit?_number first, Option.bind_some,
      if_pos rfl]
  moved m n first positive second := by
    have more : table.isZero? (.number n) = some false := by
      rw [isZero?_number second, beq_eq_false_iff_ne.mpr (Nat.ne_of_gt positive)]
    have counted : table.prev? (.number n) = some (.number (n - 1 : Nat)) := by
      rw [Int.ofNat_sub positive]
      exact Count.difference.unit?_number second
    refine ⟨1, Nat.one_pos, positive, ?_⟩
    rw [countByUnits?_eq, more, Option.bind_some, count.unit?_number first, Option.bind_some,
      if_neg Bool.false_ne_true, counted, Option.bind_some, Int.natCast_one]

namespace Count

variable {table : Table} {count : Count}

-- By induction on the rounds, which are well-founded: operands with a result have a next round
-- until the second one is zero, and then the first one is the result.
theorem rounds_of_result? (operands : Ty × Ty) {c : Ty}
    (resolved : count.result? table operands.1 operands.2 = some c) :
    Relation.ReflTransGen (Round table count) operands (c, .number 0) := by
  induction operands using (Round.wellFounded table count).induction with
  | _ operands later =>
    obtain ⟨a, b⟩ := operands
    obtain ⟨left, right⟩ := (count.counts_result? table).covered _ _ _ resolved
    obtain ⟨m, first, rfl⟩ := Table.covers_iff.mp left
    obtain ⟨n, second, rfl⟩ := Table.covers_iff.mp right
    rcases Nat.eq_zero_or_pos n with rfl | positive
    · cases resolved.symm.trans ((count.counts_result? table).ended m first)
      exact .refl
    · obtain ⟨units, _, _, round⟩ := Round.exists_round count first positive second
      rw [round.result?_eq] at resolved
      exact .head round (later _ round resolved)

theorem result?_eq_some_iff_rounds {a b c : Ty} :
    count.result? table a b = some c ↔
      table.covers c = true ∧ Relation.ReflTransGen (Round table count) (a, b) (c, .number 0) := by
  constructor
  · intro resolved
    have rounds := rounds_of_result? (a, b) resolved
    refine ⟨?_, rounds⟩
    have ended := (Round.result?_eq_of_rounds rounds).symm.trans resolved
    exact ((count.counts_result? table).covered _ _ _ ended).1
  · rintro ⟨covered, rounds⟩
    obtain ⟨m, inside, rfl⟩ := Table.covers_iff.mp covered
    exact (Round.result?_eq_of_rounds rounds).trans ((count.counts_result? table).ended m inside)

end Count

theorem Table.add?_sub?_exact (table : Table) :
    (∀ a b c : Ty, table.add? a b = some c ↔
      ∃ m n : Nat, a = .number m ∧ b = .number n ∧ m + n ≤ table.max ∧ c = .number (m + n)) ∧
    (∀ a b c : Ty, table.sub? a b = some c ↔
      ∃ m n : Nat, a = .number m ∧ b = .number n ∧ n ≤ m ∧ m ≤ table.max ∧ c = .number (m - n)) ∧
    (∀ a b : Ty, table.add? a b = table.countByUnits? .sum a b ∧
      table.sub? a b = table.countByUnits? .difference a b) ∧
    ∀ count : Count,
      (WellFounded fun later earlier => Round table count earlier later) ∧
      (∀ a b c : Ty, count.result? table a b = some c ↔ table.covers c = true ∧
        Relation.ReflTransGen (Round table count) (a, b) (c, .number 0)) ∧
      ∀ a b c first second : Ty, count.result? table a b = some c →
        Relation.ReflTransGen (Round table count) (a, b) (first, second) →
        table.covers first = true ∧ table.covers second = true := by
  refine ⟨?_, ?_, ?_, ?_⟩
  · intro a b c
    refine (Count.sum.counts_result? table).eq_some_iff.trans ?_
    constructor
    · rintro ⟨m, n, _, _, rfl, rfl, _, high, rfl⟩
      exact ⟨m, n, rfl, rfl, by simp only [Count.after] at high; omega, rfl⟩
    · rintro ⟨m, n, rfl, rfl, inside, rfl⟩
      exact ⟨m, n, by omega, by omega, rfl, rfl, by simp only [Count.after]; omega,
        by simp only [Count.after]; omega, rfl⟩
  · intro a b c
    refine (Count.difference.counts_result? table).eq_some_iff.trans ?_
    constructor
    · rintro ⟨m, n, first, _, rfl, rfl, low, _, rfl⟩
      exact ⟨m, n, rfl, rfl, by simp only [Count.after] at low; omega, first, rfl⟩
    · rintro ⟨m, n, rfl, rfl, below, first, rfl⟩
      exact ⟨m, n, first, by omega, rfl, rfl, by simp only [Count.after]; omega,
        by simp only [Count.after]; omega, rfl⟩
  · intro a b
    exact ⟨(Count.sum.counts_result? table).unique (table.counts_countByUnits? .sum) a b,
      (Count.difference.counts_result? table).unique (table.counts_countByUnits? .difference) a b⟩
  · intro count
    refine ⟨Round.wellFounded table count, fun a b c => Count.result?_eq_some_iff_rounds, ?_⟩
    intro a b c first second resolved rounds
    have later : count.result? table first second = some c :=
      (Round.result?_eq_of_rounds rounds).symm.trans resolved
    exact (count.counts_result? table).covered _ _ _ later

-- Twenty is counted by two leaps and four units; the first leap goes to 13 and 12.
theorem Table.add?_sub?_exact_first_leap :
    Table.standard.add? (.number 5) (.number 20) = some (.number 25) ∧
    Relation.ReflTransGen (Round Table.standard .sum) (.number 5, .number 20)
      (.number 13, .number 12) ∧
    Table.standard.covers (.number 13) = true ∧ Table.standard.covers (.number 12) = true := by
  obtain ⟨sums, _, _, counted⟩ := Table.standard.add?_sub?_exact
  have resolved : Table.standard.add? (.number 5) (.number 20) = some (.number 25) :=
    (sums _ _ _).mpr ⟨5, 20, rfl, rfl, by decide, rfl⟩
  have leap : Round Table.standard .sum (.number 5, .number 20) (.number 13, .number 12) :=
    .leap (by decide) (by decide) (by decide)
  obtain ⟨_, _, inside⟩ := counted .sum
  exact ⟨resolved, .single leap, inside _ _ _ _ _ resolved (.single leap)⟩

end TypeCalculus.Number
