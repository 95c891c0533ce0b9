import Mathlib
import TypeCalculus.Proofs.Encoding
import TypeCalculus.Proofs.Keys
import TypeCalculus.Proofs.Rounds

namespace TypeCalculus

theorem LabelSet.equal?_one_text (s t : String) :
    equal? (.ofList [Label.ofText s]) (.ofList [Label.ofText t]) = some (decide (s = t)) := by
  have same : Key.ofText s = Key.ofText t ↔ s = t := by
    rw [← Key.ty_inj]
    exact Label.ofText_injective.eq_iff
  refine (equal?_ofKeys [Key.ofText s] [Key.ofText t]).trans ?_
  simp [same, eq_comm]

namespace Number

structure IsNumeral (text : String) (n : Nat) : Prop where
  digits : ∀ c ∈ text.toList, c.isDigit
  -- No numeral but that of zero begins with a zero.
  first : text.toList.head? = some '0' → text = "0"
  read : text.toNat? = some n

theorem digitChar_of_isDigit {c : Char} (digit : c.isDigit) :
    c.toNat - '0'.toNat < 10 ∧ Nat.digitChar (c.toNat - '0'.toNat) = c := by
  obtain ⟨low, high⟩ := Char.isDigit_iff_toNat.mp digit
  have nine : '9'.toNat = '0'.toNat + 9 := rfl
  have small : c.toNat - '0'.toNat < 10 := by omega
  refine ⟨small, Char.toNat_inj.mp ?_⟩
  rw [Nat.toNat_digitChar_of_lt_ten small]
  exact Nat.add_sub_cancel' low

-- What was read so far is positive: a digit after a zero would not go on with its numeral.
theorem toDigits_append {digits : List Char} (each : ∀ c ∈ digits, c.isDigit) {value : Nat}
    (positive : 0 < value) :
    Nat.toDigits 10 value ++ digits = Nat.toDigits 10 (Nat.ofDigitChars 10 digits value) := by
  induction digits generalizing value with
  | nil => rw [List.append_nil, Nat.ofDigitChars_nil]
  | cons c digits rest =>
    obtain ⟨first, others⟩ := List.forall_mem_cons.mp each
    obtain ⟨small, same⟩ := digitChar_of_isDigit first
    have longer := Nat.toDigits_append_toDigits (by decide) positive small
    rw [Nat.toDigits_of_lt_base small, same] at longer
    rw [Nat.ofDigitChars_cons, ← rest others (by omega), ← longer, List.append_assoc,
      List.singleton_append]

theorem head?_toDigits_ne_zero {n : Nat} (positive : 0 < n) :
    (Nat.toDigits 10 n).head? ≠ some '0' := by
  induction n using Nat.strongRecOn with
  | ind n shorter =>
    by_cases short : n < 10
    · rw [Nat.toDigits_of_lt_base short, List.head?_cons]
      intro zero
      have least : n = 0 := Nat.digitChar_eq_zero.mp (Option.some.inj zero)
      omega
    · rw [Nat.toDigits_of_base_le (by decide) (Nat.le_of_not_lt short),
        List.head?_append_of_ne_nil _ Nat.toDigits_ne_nil]
      exact shorter (n / 10) (by omega) (by omega)

namespace IsNumeral

variable {text : String} {n : Nat}

theorem ofDigitChars_eq (numeral : IsNumeral text n) :
    Nat.ofDigitChars 10 text.toList 0 = n := by
  have kept : text.toList.filter (fun c => c != '_') = text.toList := by
    apply List.filter_eq_self.mpr
    intro c member
    have digit := numeral.digits c member
    rw [bne_iff_ne]
    intro underscore
    subst underscore
    cases digit
  have read := numeral.read
  rw [String.toNat?_eq_some_ofDigitChars (String.isNat_of_toNat?_eq_some read), kept] at read
  exact Option.some.inj read

theorem ne_nil (numeral : IsNumeral text n) : text.toList ≠ [] := by
  have nonempty : text ≠ "" :=
    (String.isNat_iff.mp (String.isNat_of_toNat?_eq_some numeral.read)).1
  intro empty
  exact nonempty (String.toList_injective empty)

-- After a first digit that is not zero the numeral goes on to the end of the text.
theorem eq_repr (numeral : IsNumeral text n) : text = n.repr := by
  have value := numeral.ofDigitChars_eq
  by_cases zero : text = "0"
  · subst zero
    rw [← value]
    rfl
  · obtain ⟨c, digits, chars⟩ := List.exists_cons_of_ne_nil numeral.ne_nil
    have each := numeral.digits
    rw [chars] at value each
    obtain ⟨first, others⟩ := List.forall_mem_cons.mp each
    obtain ⟨small, same⟩ := digitChar_of_isDigit first
    have positive : 0 < c.toNat - '0'.toNat := by
      apply Nat.pos_of_ne_zero
      intro vanished
      rw [vanished] at same
      exact zero (numeral.first (by rw [chars, ← same]; rfl))
    rw [Nat.ofDigitChars_cons, Nat.mul_zero, Nat.zero_add] at value
    apply String.toList_injective
    rw [Nat.toList_repr, chars, ← value, ← toDigits_append others positive,
      Nat.toDigits_of_lt_base small, same, List.singleton_append]

end IsNumeral

theorem isNumeral_repr (n : Nat) : IsNumeral n.repr n where
  digits c member := by
    rw [Nat.toList_repr] at member
    exact Nat.isDigit_of_mem_toDigits (by decide) (by decide) member
  first leading := by
    rw [Nat.toList_repr] at leading
    rcases Nat.eq_zero_or_pos n with rfl | positive
    · rfl
    · exact absurd leading (head?_toDigits_ne_zero positive)
  read := Nat.toNat?_repr n

namespace Table

variable {table : Table}

theorem label?_eq_some_iff {t label : Ty} :
    table.label? t = some label ↔
      ∃ n : Nat, n ≤ table.max ∧ t = .number n ∧ label = Label.ofText n.repr :=
  map_row?_eq_some_iff

theorem equal?_eq_some_iff {a b : Ty} {found : Bool} :
    table.equal? a b = some found ↔
      ∃ m n : Nat, m ≤ table.max ∧ n ≤ table.max ∧ a = .number m ∧ b = .number n ∧
        found = decide (m = n) := by
  simp only [equal?, Option.bind_eq_bind, Option.bind_eq_some_iff, label?_eq_some_iff]
  constructor
  · intro resolved
    obtain ⟨_, ⟨m, first, rfl, rfl⟩, _, ⟨n, second, rfl, rfl⟩, compared⟩ := resolved
    rw [LabelSet.equal?_one_text, Option.some.injEq] at compared
    simp only [Nat.repr_inj] at compared
    exact ⟨m, n, first, second, rfl, rfl, compared.symm⟩
  · intro covered
    obtain ⟨m, n, first, second, rfl, rfl, rfl⟩ := covered
    refine ⟨_, ⟨m, first, rfl, rfl⟩, _, ⟨n, second, rfl, rfl⟩, ?_⟩
    rw [LabelSet.equal?_one_text]
    simp only [Nat.repr_inj]

theorem name?_label? {n : Nat} (inside : n ≤ table.max) :
    (do Label.name? (← table.label? (.number n))) = some n.repr := by
  rw [label?_eq_some_iff.mpr ⟨n, inside, rfl, rfl⟩, Option.bind_eq_bind, Option.bind_some,
    Label.name?_ofText]

theorem equal?_by_numerals (table : Table) :
    (∀ (a b : Ty) (found : Bool), table.equal? a b = some found ↔
      ∃ m n : Nat, m ≤ table.max ∧ n ≤ table.max ∧ a = .number m ∧ b = .number n ∧
        found = decide (m = n)) ∧
    ∀ n : Nat, n ≤ table.max → ∃ text,
      (do Label.name? (← table.label? (.number n))) = some text ∧
      IsNumeral text n ∧ (∀ other, IsNumeral other n → other = text) ∧
      text.toNat? = table.value? (.number n) := by
  refine ⟨fun _ _ _ => equal?_eq_some_iff, ?_⟩
  intro n inside
  have numeral := isNumeral_repr n
  refine ⟨n.repr, name?_label? inside, numeral, fun other => IsNumeral.eq_repr, ?_⟩
  rw [numeral.read, value?, row?_number inside]
  rfl

theorem equal?_by_numerals_three_digits :
    ∃ table : Table, table.max = 121 ∧
      table.equal? (.number 112) (.number 121) = some false ∧
      table.equal? (.number 1) (.number 11) = some false ∧
      121 ≤ table.max ∧
      (do Label.name? (← table.label? (.number 121))) = some "121" ∧ IsNumeral "121" 121 := by
  obtain ⟨equals, names⟩ :=
    equal?_by_numerals ⟨121, 6, by decide, by decide, by decide⟩
  have inside : (121 : Nat) ≤ 121 := by decide
  obtain ⟨text, named, numeral, _⟩ := names 121 inside
  have written : text = "121" := numeral.eq_repr
  subst written
  exact ⟨_, rfl, (equals _ _ _).mpr ⟨112, 121, by decide, inside, rfl, rfl, rfl⟩,
    (equals _ _ _).mpr ⟨1, 11, by decide, by decide, rfl, rfl, rfl⟩, inside, named, numeral⟩

end Table

end Number

end TypeCalculus
