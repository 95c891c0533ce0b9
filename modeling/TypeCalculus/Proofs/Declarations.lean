import TypeCalculus.Phrase.Expansion
import TypeCalculus.Proofs.Separated

namespace TypeCalculus

namespace Number

def Declarable (max leap : Int) : Prop :=
  1 ≤ leap ∧ leap ≤ max ∧ max + leap ≤ 127

-- The signs are right, so the sum is taken, and it is too large for a word.
def SumOverflows (max leap : Int) : Prop :=
  0 ≤ max ∧ 1 ≤ leap ∧ Table.wordMax < max + leap

def IsWord (value : Int) : Prop :=
  -Table.wordMax - 1 ≤ value ∧ value ≤ Table.wordMax

instance (max leap : Int) : Decidable (Declarable max leap) :=
  inferInstanceAs (Decidable (_ ∧ _ ∧ _))

instance (max leap : Int) : Decidable (SumOverflows max leap) :=
  inferInstanceAs (Decidable (_ ∧ _ ∧ _))

instance (value : Int) : Decidable (IsWord value) :=
  inferInstanceAs (Decidable (_ ∧ _))

def IsSignedOctet (value : Int) : Prop :=
  -128 ≤ value ∧ value ≤ 127

-- The numbers of a row are the exact ones and all of them are signed octets; the row's own is an
-- octet without a sign as well.
structure Row.Exact (row : Row) (leap : Int) : Prop where
  value : row.value ≤ 255 ∧ IsSignedOctet row.value
  next : row.next = row.value + 1 ∧ IsSignedOctet row.next
  prev : row.prev = row.value - 1 ∧ IsSignedOctet row.prev
  up : row.up = row.value + leap ∧ IsSignedOctet row.up
  down : row.down = row.value - leap ∧ IsSignedOctet row.down

namespace Table

variable {max leap : Int}

theorem eq_of_bounds {first second : Table} (greatest : first.max = second.max)
    (length : first.leap = second.leap) : first = second := by
  cases first
  cases second
  cases greatest
  cases length
  rfl

theorem declare_of_declarable (bounds : Declarable max leap) :
    ∃ table, declare max leap = .ok table ∧
      (table.max : Int) = max ∧ (table.leap : Int) = leap := by
  obtain ⟨positive, below, sum⟩ := bounds
  have signs : ¬ (max < 0 ∨ leap < 1) := by omega
  have small : ¬ wordMax < max + leap := by unfold wordMax; omega
  have valid : 0 < leap.toNat ∧ leap.toNat ≤ max.toNat ∧ max.toNat + leap.toNat ≤ 127 := by omega
  refine ⟨⟨max.toNat, leap.toNat, valid.1, valid.2.1, valid.2.2⟩, ?_, ?_, ?_⟩
  · rw [declare, if_neg signs, if_neg small, dif_pos valid]
  · exact Int.toNat_of_nonneg (by omega)
  · exact Int.toNat_of_nonneg (by omega)

theorem declare_of_sumOverflows (overflow : SumOverflows max leap) :
    declare max leap = .error .overflow := by
  obtain ⟨natural, positive, large⟩ := overflow
  have signs : ¬ (max < 0 ∨ leap < 1) := by omega
  rw [declare, if_neg signs, if_pos large]

theorem declare_of_neither (outside : ¬ Declarable max leap) (taken : ¬ SumOverflows max leap) :
    declare max leap = .error .outOfRange := by
  unfold declare
  by_cases signs : max < 0 ∨ leap < 1
  · rw [if_pos signs]
  · have small : ¬ wordMax < max + leap := by
      intro large
      exact taken ⟨by omega, by omega, large⟩
    have invalid : ¬ (0 < leap.toNat ∧ leap.toNat ≤ max.toNat ∧
        max.toNat + leap.toNat ≤ 127) := by
      intro valid
      exact outside ⟨by omega, by omega, by omega⟩
    rw [if_neg signs, if_neg small, dif_neg invalid]

theorem not_sumOverflows (bounds : Declarable max leap) : ¬ SumOverflows max leap := by
  intro overflow
  have sum : max + leap ≤ 127 := bounds.2.2
  have large : wordMax < max + leap := overflow.2.2
  unfold wordMax at large
  omega

theorem exact_of_mem_rows {table : Table} {row : Row} (member : row ∈ table.rows) :
    row.Exact table.leap := by
  obtain ⟨n, inside, rfl⟩ := List.mem_map.mp member
  have bound : n < table.max + 1 := List.mem_range.mp inside
  have positive := table.leap_pos
  have below := table.leap_le_max
  have sum := table.max_add_leap_le
  have octet : ∀ value : Int, (n : Int) - table.leap ≤ value → value ≤ n + table.leap →
      IsSignedOctet value := by
    intro value low high
    exact ⟨by omega, by omega⟩
  constructor
  case value => exact ⟨show n ≤ 255 by omega, octet n (by omega) (by omega)⟩
  case next => exact ⟨rfl, octet (n + 1) (by omega) (by omega)⟩
  case prev => exact ⟨rfl, octet (n - 1) (by omega) (by omega)⟩
  case up => exact ⟨rfl, octet (n + table.leap) (by omega) (by omega)⟩
  case down => exact ⟨rfl, octet (n - table.leap) (by omega) (by omega)⟩

end Table

end Number

namespace Phrase

open Number (Table Declarable SumOverflows IsWord)

inductive SpellsInteger : List TokenTree → Int → Prop
  | plain (value : Nat) (source : String) :
      SpellsInteger [.token (.literal (.integer value source))] value
  | negated (value : Nat) (source : String) (joint : Bool) :
      SpellsInteger [.token (.mark '-' joint), .token (.literal (.integer value source))] (-value)

inductive DeclarationOf : List TokenTree → Int → Int → Prop
  | intro {first second : List TokenTree} {max leap : Int} {comma equals : Bool}
      (greatest : SpellsInteger first max) (length : SpellsInteger second leap) :
      DeclarationOf (first ++ .token (.mark ',' comma) :: .token (.word "leap" false) ::
        .token (.mark '=' equals) :: second) max leap

theorem readInteger_of_spellsInteger {trees more whole : List TokenTree} {value : Int}
    (written : SpellsInteger trees value) (split : whole = trees ++ more) :
    ∃ shorter, readInteger whole = .ok (value, ⟨more, shorter⟩) := by
  subst split
  cases written with
  | plain value source => exact ⟨_, rfl⟩
  | negated value source joint => exact ⟨_, rfl⟩

theorem shortWord_of_isWord {value : Int} (word : IsWord value) :
    shortWord value = .ok value := by
  obtain ⟨above, below⟩ := word
  rw [shortWord, if_neg (by omega), if_neg (by omega)]

theorem readName_leap (more : List TokenTree) :
    readName (.token (.word "leap" false) :: more) = .ok (("leap", false), .afterToken) :=
  rfl

-- The two integers are read as they are, and their declaration is all that is left to judge.
theorem read_table {trees : List TokenTree} {max leap : Int}
    (written : DeclarationOf trees max leap) (first : IsWord max) (second : IsWord leap) :
    read .table trees = (declared max leap).map .table := by
  cases written with
  | intro greatest length =>
    obtain ⟨_, readGreatest⟩ := readInteger_of_spellsInteger greatest rfl
    obtain ⟨_, readLength⟩ := readInteger_of_spellsInteger length (List.append_nil _).symm
    rw [read, readTable, readGreatest, ok_bind]
    simp only [shortWord_of_isWord first, ok_bind, readMark_mark, readName_leap,
      TokenTree.Rest.afterToken, readLength, shortWord_of_isWord second]
    cases declared max leap <;> rfl

theorem declared_eq_ok_iff {max leap : Int} {table : Table} :
    declared max leap = .ok table ↔
      Declarable max leap ∧ (table.max : Int) = max ∧ (table.leap : Int) = leap := by
  by_cases bounds : Declarable max leap
  · obtain ⟨found, accepted, greatest, length⟩ := Table.declare_of_declarable bounds
    rw [declared, accepted, Except.ok.injEq]
    constructor
    · intro same
      subst same
      exact ⟨bounds, greatest, length⟩
    · intro described
      obtain ⟨_, sameGreatest, sameLength⟩ := described
      exact Table.eq_of_bounds (by omega) (by omega)
  · by_cases overflow : SumOverflows max leap
    · rw [declared, Table.declare_of_sumOverflows overflow]
      simp [bounds]
    · rw [declared, Table.declare_of_neither bounds overflow]
      simp [bounds]

theorem declared_eq_error_iff {max leap : Int} {fault : Fault} :
    declared max leap = .error fault ↔
      (SumOverflows max leap ∧ fault = .tableOverflow) ∨
      (¬ Declarable max leap ∧ ¬ SumOverflows max leap ∧ fault = .tableBounds) := by
  by_cases bounds : Declarable max leap
  · obtain ⟨found, accepted, _⟩ := Table.declare_of_declarable bounds
    rw [declared, accepted]
    simp [bounds, Table.not_sumOverflows bounds]
  · by_cases overflow : SumOverflows max leap
    · rw [declared, Table.declare_of_sumOverflows overflow]
      simp [overflow, eq_comm]
    · rw [declared, Table.declare_of_neither bounds overflow]
      simp [bounds, overflow, eq_comm]

theorem read_table_iff_declarable {trees : List TokenTree} {max leap : Int}
    (written : DeclarationOf trees max leap) (first : IsWord max) (second : IsWord leap) :
    (∀ phrase, read .table trees = .ok phrase ↔
      ∃ table : Table, phrase = .table table ∧ Declarable max leap ∧
        (table.max : Int) = max ∧ (table.leap : Int) = leap) ∧
    (∀ fault, read .table trees = .error fault ↔
      (SumOverflows max leap ∧ fault = .tableOverflow) ∨
      (¬ Declarable max leap ∧ ¬ SumOverflows max leap ∧ fault = .tableBounds)) ∧
    Fault.message .tableBounds = "natural table needs 0 < leap <= max and max + leap <= 127" ∧
    ∀ table, read .table trees = .ok (.table table) →
      (Phrase.table table).expansion = String.join (table.rows.map rowExpansion) ∧
      table.rows.map (·.value) = List.range (max.toNat + 1) ∧
      ∀ row ∈ table.rows, row.Exact leap := by
  have outcome := read_table written first second
  have accepted : ∀ phrase, read .table trees = .ok phrase ↔
      ∃ table, phrase = .table table ∧ declared max leap = .ok table := by
    intro phrase
    rw [outcome]
    cases declared max leap <;> simp [Except.map, eq_comm]
  have refused : ∀ fault, read .table trees = .error fault ↔ declared max leap = .error fault := by
    intro fault
    rw [outcome]
    cases declared max leap <;> simp [Except.map]
  simp only [declared_eq_ok_iff] at accepted
  simp only [declared_eq_error_iff] at refused
  refine ⟨accepted, refused, rfl, ?_⟩
  intro table found
  obtain ⟨_, same, _, greatest, length⟩ := (accepted _).mp found
  cases same
  subst greatest length
  exact ⟨rfl, Table.map_value_rows table, fun row member => Table.exact_of_mem_rows member⟩

theorem read_table_iff_declarable_greatest_sum :
    DeclarationOf [.token (.literal (.integer 126 "0x7e")), .token (.mark ',' false),
      .token (.word "leap" false), .token (.mark '=' false),
      .token (.literal (.integer 1 "1_i16"))] 126 1 ∧
    IsWord 126 ∧ IsWord 1 ∧
    ∃ table : Table, read .table [.token (.literal (.integer 126 "0x7e")),
      .token (.mark ',' false), .token (.word "leap" false), .token (.mark '=' false),
      .token (.literal (.integer 1 "1_i16"))] = .ok (.table table) ∧
      table.rows.map (·.value) = List.range 127 ∧ (table.row 126).Exact 1 := by
  have written : DeclarationOf [.token (.literal (.integer 126 "0x7e")), .token (.mark ',' false),
      .token (.word "leap" false), .token (.mark '=' false),
      .token (.literal (.integer 1 "1_i16"))] 126 1 :=
    .intro (.plain 126 "0x7e") (.plain 1 "1_i16")
  have first : IsWord 126 := by decide
  have second : IsWord 1 := by decide
  obtain ⟨accepted, _, _, rowsOf⟩ := read_table_iff_declarable written first second
  have found := (accepted (.table ⟨126, 1, by decide, by decide, by decide⟩)).mpr
    ⟨_, rfl, by decide, rfl, rfl⟩
  obtain ⟨_, listed, each⟩ := rowsOf _ found
  have last : (126 : Nat) ∈ List.range 127 := by decide
  exact ⟨written, first, second, _, found, listed, each _ (List.mem_map_of_mem last)⟩

-- The sum of the two is the least number that is too large for a word. They have no table, but the
-- fault is not the one that says so.
theorem read_table_iff_declarable_overflow :
    DeclarationOf [.token (.literal (.integer 32767 "32767")), .token (.mark ',' false),
      .token (.word "leap" false), .token (.mark '=' false),
      .token (.literal (.integer 1 "1"))] 32767 1 ∧
    IsWord 32767 ∧ IsWord 1 ∧ ¬ Declarable 32767 1 ∧
    read .table [.token (.literal (.integer 32767 "32767")), .token (.mark ',' false),
      .token (.word "leap" false), .token (.mark '=' false),
      .token (.literal (.integer 1 "1"))] = .error .tableOverflow ∧
    Fault.message .tableOverflow = "attempt to add with overflow" := by
  refine ⟨.intro (.plain 32767 "32767") (.plain 1 "1"), ?_, ?_, ?_, rfl, rfl⟩
  · decide
  · decide
  · decide

end Phrase

end TypeCalculus
