import TypeCalculus.Label.Basic

namespace TypeCalculus.Number

structure Row where
  value : Nat
  text : String
  next : Int
  prev : Int
  isZero : Bool
  isOne : Bool
  up : Int
  down : Int
  -- The longest round that counts the number down without passing zero.
  step : Stride
deriving DecidableEq, Repr

-- The bounds of a table: every value that a row names lies in `-128 … 127`.
structure Table where
  max : Nat
  leap : Nat
  leap_pos : 0 < leap
  leap_le_max : leap ≤ max
  max_add_leap_le : max + leap ≤ 127

inductive DeclarationFault where
  | overflow
  | outOfRange
deriving DecidableEq, Repr

namespace Table

def wordMax : Int := 32767

-- The table of two integers. The sum is taken only of a `max` and a `leap` that have the right
-- signs, and before the two are compared.
def declare (max leap : Int) : Except DeclarationFault Table :=
  if max < 0 ∨ leap < 1 then .error .outOfRange
  else if wordMax < max + leap then .error .overflow
  else if valid : 0 < leap.toNat ∧ leap.toNat ≤ max.toNat ∧ max.toNat + leap.toNat ≤ 127 then
    .ok ⟨max.toNat, leap.toNat, valid.1, valid.2.1, valid.2.2⟩
  else .error .outOfRange

def standard : Table where
  max := 63
  leap := 8
  leap_pos := by decide
  leap_le_max := by decide
  max_add_leap_le := by decide

def row (table : Table) (n : Nat) : Row where
  value := n
  text := n.repr
  next := n + 1
  prev := n - 1
  isZero := n == 0
  isOne := n == 1
  up := n + table.leap
  down := n - table.leap
  step := if n = 0 then .halt else if n < table.leap then .unit else .leap

def rows (table : Table) : List Row :=
  (List.range (table.max + 1)).map table.row

theorem map_value_rows (table : Table) :
    table.rows.map (·.value) = List.range (table.max + 1) := by
  simp only [rows, List.map_map, Function.comp_def, row, List.map_id']

def row? (table : Table) : Ty → Option Row
  | .number n => table.rows.find? fun row => row.value == n
  | _ => none

theorem row?_eq_some_iff {table : Table} {t : Ty} {row : Row} :
    table.row? t = some row ↔ ∃ n : Nat, n ≤ table.max ∧ t = .number n ∧ row = table.row n := by
  constructor
  · intro found
    cases t with
    | number value =>
      simp only [row?, rows, List.find?_map, Option.map_eq_some_iff] at found
      obtain ⟨n, hit, rfl⟩ := found
      have inside := List.mem_of_find?_eq_some hit
      have agrees := List.find?_some hit
      simp only [List.mem_range] at inside
      simp only [Function.comp_apply, Table.row, beq_iff_eq] at agrees
      exact ⟨n, by omega, by rw [agrees], rfl⟩
    | _ => simp [row?] at found
  · rintro ⟨n, inside, rfl, rfl⟩
    simp only [row?, rows, List.find?_map, Option.map_eq_some_iff]
    refine ⟨n, ?_, rfl⟩
    rw [List.find?_range_eq_some]
    refine ⟨by simp [Table.row], by simp; omega, fun m below => ?_⟩
    simp only [Function.comp_apply, Table.row, Bool.not_eq_true', beq_eq_false_iff_ne]
    omega

theorem row?_number {table : Table} {n : Nat} (inside : n ≤ table.max) :
    table.row? (.number n) = some (table.row n) :=
  row?_eq_some_iff.mpr ⟨n, inside, rfl, rfl⟩

theorem map_row?_eq_some_iff {α : Type} {table : Table} {t : Ty} {entry : Row → α} {found : α} :
    (table.row? t).map entry = some found ↔
      ∃ n : Nat, n ≤ table.max ∧ t = .number n ∧ found = entry (table.row n) := by
  rw [Option.map_eq_some_iff]
  constructor
  · intro read
    obtain ⟨row, held, rfl⟩ := read
    obtain ⟨n, inside, rfl, rfl⟩ := row?_eq_some_iff.mp held
    exact ⟨n, inside, rfl, rfl⟩
  · intro listed
    obtain ⟨n, inside, rfl, rfl⟩ := listed
    exact ⟨table.row n, row?_number inside, rfl⟩

theorem row?_eq_none {table : Table} {n : Int} (outside : n < 0 ∨ table.max < n) :
    table.row? (.number n) = none := by
  cases found : table.row? (.number n) with
  | none => rfl
  | some row =>
    obtain ⟨m, inside, same, _⟩ := row?_eq_some_iff.mp found
    cases same
    omega

def covers (table : Table) (t : Ty) : Bool :=
  (table.row? t).isSome

def value? (table : Table) (t : Ty) : Option Nat :=
  (table.row? t).map (·.value)

def label? (table : Table) (t : Ty) : Option Ty :=
  (table.row? t).map fun row => Label.ofText row.text

def next? (table : Table) (t : Ty) : Option Ty :=
  (table.row? t).map fun row => .number row.next

def prev? (table : Table) (t : Ty) : Option Ty :=
  (table.row? t).map fun row => .number row.prev

def isZero? (table : Table) (t : Ty) : Option Bool :=
  (table.row? t).map (·.isZero)

def isOne? (table : Table) (t : Ty) : Option Bool :=
  (table.row? t).map (·.isOne)

def up? (table : Table) (t : Ty) : Option Ty :=
  (table.row? t).map fun row => .number row.up

def down? (table : Table) (t : Ty) : Option Ty :=
  (table.row? t).map fun row => .number row.down

def stride? (table : Table) (t : Ty) : Option Stride :=
  (table.row? t).map (·.step)

end Table

end TypeCalculus.Number
