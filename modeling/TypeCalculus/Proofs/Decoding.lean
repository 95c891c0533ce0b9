import Mathlib.Data.List.Induction
import TypeCalculus.Proofs.Encoding
import TypeCalculus.Proofs.Identity

namespace TypeCalculus

namespace Utf8

theorem isValidUTF8_iff {octets : List Octet} :
    octets.toByteArray.IsValidUTF8 ↔ ∃ text : List Char, octets = encode text := by
  constructor
  · intro valid
    obtain ⟨text, written⟩ := valid
    have read := congrArg (fun array => array.data.toList) written
    rw [List.utf8Encode, List.toList_data_toByteArray, List.toList_data_toByteArray] at read
    exact ⟨text, read⟩
  · intro written
    obtain ⟨text, rfl⟩ := written
    exact ⟨text, rfl⟩

end Utf8

namespace Label

open Utf8 (Octet)

-- One step of the writer of octets, which sees one digit at a time: the digit that waits for its
-- partner, and the octets written so far.
def feed : Option Nibble × List Octet → Nibble → Option Nibble × List Octet
  | (none, written), high => (some high, written)
  | (some high, written), low => (none, written ++ [join high low])

-- Between two pairs no digit waits, so the induction goes pair by pair.
theorem foldl_feed (ds : List Nibble) (written : List Octet) :
    ds.foldl feed (none, written) =
      (if ds.length % 2 = 0 then none else ds.getLast?, written ++ pairUp ds) := by
  induction ds using List.twoStepInduction generalizing written with
  | nil => simp [pairUp]
  | singleton d => simp [feed, pairUp]
  | cons_cons high low rest ih _ =>
    have parity : (high :: low :: rest).length % 2 = rest.length % 2 := by
      simp only [List.length_cons]
      omega
    rw [List.foldl_cons, List.foldl_cons, feed, feed, ih, parity, pairUp, List.append_assoc,
      List.singleton_append]
    by_cases even : rest.length % 2 = 0
    · rw [if_pos even, if_pos even]
    · have more : rest ≠ [] := by
        intro empty
        rw [empty] at even
        exact even rfl
      rw [if_neg even, if_neg even, List.getLast?_cons_of_ne_nil (List.cons_ne_nil low rest),
        List.getLast?_cons_of_ne_nil more]

theorem toNat_join (high low : Nibble) : (join high low).toNat = 16 * high.val + low.val := by
  rw [join, UInt8.toNat_ofNat']
  omega

theorem getElem?_pairUp {ds : List Nibble} {i : Nat} {high low : Nibble}
    (first : ds[2 * i]? = some high) (second : ds[2 * i + 1]? = some low) :
    (pairUp ds)[i]? = some (join high low) := by
  induction ds using List.twoStepInduction generalizing i with
  | nil => cases first
  | singleton => cases second
  | cons_cons a b rest ih _ =>
    cases i with
    | zero =>
      cases first
      cases second
      rfl
    | succ i => exact ih first second

theorem split_join (high low : Nibble) : split (join high low) = [high, low] := by
  simp only [split, toNat_join, List.cons.injEq, Fin.ext_iff, and_true]
  omega

theorem flatMap_split_pairUp {ds : List Nibble} (even : ds.length % 2 = 0) :
    (pairUp ds).flatMap split = ds := by
  induction ds using List.twoStepInduction with
  | nil => rfl
  | singleton => cases even
  | cons_cons high low rest ih _ =>
    have shorter : rest.length % 2 = 0 := by
      simp only [List.length_cons] at even
      omega
    rw [pairUp, List.flatMap_cons, split_join, ih shorter]
    rfl

def SpellsText (ds : List Nibble) : Prop :=
  ds.length % 2 = 0 ∧ (pairUp ds).toByteArray.IsValidUTF8

theorem spellsText_iff {ds : List Nibble} :
    SpellsText ds ↔ ∃ text : String, ds = digitsOf text := by
  constructor
  · intro spelled
    obtain ⟨even, valid⟩ := spelled
    obtain ⟨text, written⟩ := Utf8.isValidUTF8_iff.mp valid
    refine ⟨.ofList text, ?_⟩
    rw [digitsOf, String.toList_ofList, ← written, flatMap_split_pairUp even]
  · intro written
    obtain ⟨text, rfl⟩ := written
    constructor
    · rw [digitsOf, length_flatMap_split]
      omega
    · rw [digitsOf, pairUp_flatMap_split]
      exact Utf8.isValidUTF8_iff.mpr ⟨_, rfl⟩

theorem restored_iff_spellsText {ds : List Nibble} {name : String}
    (read : name? (.label (ofDigits ds)) = some name) :
    ofText name = .label (ofDigits ds) ↔ SpellsText ds := by
  constructor
  · intro restored
    exact spellsText_iff.mpr ⟨name, (ofDigits_injective (Ty.label.inj restored)).symm⟩
  · intro spelled
    obtain ⟨text, rfl⟩ := spellsText_iff.mp spelled
    cases (name?_ofText text).symm.trans read
    rfl

theorem ofText_name?_iff_spellsText :
    (∀ ds : List Nibble, ∃ octets name,
      octets? (.label (ofDigits ds)) = some octets ∧
      octets = (ds.foldl feed (none, [])).2 ∧
      size? (.label (ofDigits ds)) = some octets.length ∧
      octets.length = ds.length / 2 ∧
      (∀ (i : Nat) (inside : 2 * i + 1 < ds.length), ∃ octet, octets[i]? = some octet ∧
        octet.toNat = 16 * ds[2 * i].val + ds[2 * i + 1].val) ∧
      name? (.label (ofDigits ds)) = some name ∧
      (ofText name = .label (ofDigits ds) ↔
        ds.length % 2 = 0 ∧ octets.toByteArray.IsValidUTF8)) ∧
    ∀ ds es : List Nibble, SpellsText ds → SpellsText es → ∃ first second,
      name? (.label (ofDigits ds)) = some first ∧
      name? (.label (ofDigits es)) = some second ∧
      (first = second ↔ equal? (.label (ofDigits ds)) (.label (ofDigits es)) = some true) := by
  constructor
  · intro ds
    have read : name? (.label (ofDigits ds)) =
        some (.ofList (Utf8.decodeLossy (pairUp ds))) := by
      rw [name?, octets?_ofDigits, Option.map_some]
    refine ⟨_, _, octets?_ofDigits ds, ?_, size?_ofDigits ds, length_pairUp ds, ?_, read,
      restored_iff_spellsText read⟩
    · rw [foldl_feed, List.nil_append]
    · intro i inside
      have high : ds[2 * i]? = some ds[2 * i] := List.getElem?_eq_getElem (by omega)
      have low : ds[2 * i + 1]? = some ds[2 * i + 1] := List.getElem?_eq_getElem inside
      exact ⟨_, getElem?_pairUp high low, toNat_join _ _⟩
  · intro ds es left right
    obtain ⟨s, rfl⟩ := spellsText_iff.mp left
    obtain ⟨t, rfl⟩ := spellsText_iff.mp right
    refine ⟨s, t, name?_ofText s, name?_ofText t, ?_⟩
    change s = t ↔ equal? (ofText s) (ofText t) = some true
    rw [equal?_ofText, Option.some.injEq, decide_eq_true_eq]

-- Three digits spell no text, though their one octet is that of a letter.
theorem ofText_name?_iff_spellsText_odd :
    2 * 0 + 1 < ([6, 1, 7] : List Nibble).length ∧
    (∃ octets octet, octets? (.label (ofDigits [6, 1, 7])) = some octets ∧
      octets[0]? = some octet ∧ octet.toNat = 16 * 6 + 1) ∧
    name? (.label (ofDigits [6, 1, 7])) = some "a" ∧
    ofText "a" ≠ .label (ofDigits [6, 1, 7]) ∧
    SpellsText [0xC, 3, 0xA, 9] ∧ SpellsText [6, 1] ∧
    equal? (.label (ofDigits [0xC, 3, 0xA, 9])) (.label (ofDigits [6, 1])) ≠ some true := by
  obtain ⟨labels, texts⟩ := ofText_name?_iff_spellsText
  have inside : 2 * 0 + 1 < ([6, 1, 7] : List Nibble).length := by decide
  have read : name? (.label (ofDigits [6, 1, 7])) = some "a" := by decide
  have accented : SpellsText [0xC, 3, 0xA, 9] := spellsText_iff.mpr ⟨"é", by decide⟩
  have plain : SpellsText [6, 1] := spellsText_iff.mpr ⟨"a", by decide⟩
  obtain ⟨octets, name, written, _, _, _, each, named, restored⟩ := labels [6, 1, 7]
  obtain ⟨octet, placed, value⟩ := each 0 inside
  obtain ⟨first, second, readFirst, readSecond, same⟩ := texts _ _ accented plain
  refine ⟨inside, ⟨octets, octet, written, placed, value⟩, read, ?_, accented, plain, ?_⟩
  · intro again
    cases named.symm.trans read
    cases (restored.mp again).1
  · intro equal
    have differ : name? (.label (ofDigits [0xC, 3, 0xA, 9])) ≠
        name? (.label (ofDigits [6, 1])) := by decide
    rw [readFirst, readSecond, same.mpr equal] at differ
    exact differ rfl

end Label

end TypeCalculus
