import TypeCalculus.Number.Table
import TypeCalculus.LabelSet

namespace TypeCalculus.Number.Table

-- The rounds of one that are left until a number is below zero.
def countdown : Ty → Nat
  | .number n => (n + 1).toNat
  | _ => 0

theorem countdown_prev {table : Table} {t : Ty} {row : Row} (found : table.row? t = some row) :
    countdown (.number row.prev) < countdown t := by
  obtain ⟨n, _, rfl, rfl⟩ := row?_eq_some_iff.mp found
  simp only [countdown, Table.row]
  omega

theorem countdown_down {table : Table} {t : Ty} {row : Row} (found : table.row? t = some row) :
    countdown (.number row.down) < countdown t := by
  obtain ⟨n, _, rfl, rfl⟩ := row?_eq_some_iff.mp found
  have := table.leap_pos
  simp only [countdown, Table.row]
  omega

mutual

def add? (table : Table) (a b : Ty) : Option Ty :=
  match table.row? a, table.row? b with
  | some _, some count => addRound? table count.step a b
  | _, _ => none
termination_by (countdown b, 1)

def addRound? (table : Table) (stride : Stride) (a b : Ty) : Option Ty :=
  match stride with
  | .halt => if table.covers a then some a else none
  | .unit =>
    match table.row? a, _found : table.row? b with
    | some sum, some count => add? table (.number sum.next) (.number count.prev)
    | _, _ => none
  | .leap =>
    match table.row? a, _found : table.row? b with
    | some sum, some count => add? table (.number sum.up) (.number count.down)
    | _, _ => none
termination_by (countdown b, 0)
decreasing_by
  · exact Prod.Lex.left _ _ (countdown_prev _found)
  · exact Prod.Lex.left _ _ (countdown_down _found)

end

mutual

def sub? (table : Table) (a b : Ty) : Option Ty :=
  match table.row? a, table.row? b with
  | some _, some count => subRound? table count.step a b
  | _, _ => none
termination_by (countdown b, 1)

def subRound? (table : Table) (stride : Stride) (a b : Ty) : Option Ty :=
  match stride with
  | .halt => if table.covers a then some a else none
  | .unit =>
    match table.row? a, _found : table.row? b with
    | some rest, some count => sub? table (.number rest.prev) (.number count.prev)
    | _, _ => none
  | .leap =>
    match table.row? a, _found : table.row? b with
    | some rest, some count => sub? table (.number rest.down) (.number count.down)
    | _, _ => none
termination_by (countdown b, 0)
decreasing_by
  · exact Prod.Lex.left _ _ (countdown_prev _found)
  · exact Prod.Lex.left _ _ (countdown_down _found)

end

theorem add?_eq (table : Table) (a b : Ty) : add? table a b =
    (table.row? a).bind fun _ => (table.stride? b).bind fun step => addRound? table step a b := by
  rw [add?, stride?]
  cases table.row? a <;> cases table.row? b <;> rfl

theorem addRound?_halt (table : Table) (a b : Ty) :
    addRound? table .halt a b = if table.covers a then some a else none := by
  rw [addRound?]

theorem addRound?_unit (table : Table) (a b : Ty) : addRound? table .unit a b =
    (table.next? a).bind fun sum => (table.prev? b).bind fun count => add? table sum count := by
  rw [addRound?, next?, prev?]
  cases table.row? a <;> cases table.row? b <;> rfl

theorem addRound?_leap (table : Table) (a b : Ty) : addRound? table .leap a b =
    (table.up? a).bind fun sum => (table.down? b).bind fun count => add? table sum count := by
  rw [addRound?, up?, down?]
  cases table.row? a <;> cases table.row? b <;> rfl

theorem sub?_eq (table : Table) (a b : Ty) : sub? table a b =
    (table.row? a).bind fun _ => (table.stride? b).bind fun step => subRound? table step a b := by
  rw [sub?, stride?]
  cases table.row? a <;> cases table.row? b <;> rfl

theorem subRound?_halt (table : Table) (a b : Ty) :
    subRound? table .halt a b = if table.covers a then some a else none := by
  rw [subRound?]

theorem subRound?_unit (table : Table) (a b : Ty) : subRound? table .unit a b =
    (table.prev? a).bind fun rest => (table.prev? b).bind fun count => sub? table rest count := by
  rw [subRound?, prev?, prev?]
  cases table.row? a <;> cases table.row? b <;> rfl

theorem subRound?_leap (table : Table) (a b : Ty) : subRound? table .leap a b =
    (table.down? a).bind fun rest => (table.down? b).bind fun count => sub? table rest count := by
  rw [subRound?, down?, down?]
  cases table.row? a <;> cases table.row? b <;> rfl

-- Whether two numbers are equal: they are when their numerals are, as one-element sets.
def equal? (table : Table) (a b : Ty) : Option Bool := do
  let left ← table.label? a
  let right ← table.label? b
  LabelSet.equal? (.ofList [left]) (.ofList [right])

theorem equal?_eq_none {table : Table} {a b : Ty}
    (outside : ¬ (table.covers a = true ∧ table.covers b = true)) : table.equal? a b = none := by
  rw [Option.eq_none_iff_forall_ne_some]
  intro found resolved
  simp only [equal?, Option.bind_eq_bind, Option.bind_eq_some_iff] at resolved
  obtain ⟨_, left, _, right, _⟩ := resolved
  obtain ⟨_, first, _⟩ := Option.map_eq_some_iff.mp left
  obtain ⟨_, second, _⟩ := Option.map_eq_some_iff.mp right
  exact outside ⟨Option.isSome_of_eq_some first, Option.isSome_of_eq_some second⟩

end TypeCalculus.Number.Table
