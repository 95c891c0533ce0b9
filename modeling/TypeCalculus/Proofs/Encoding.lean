import TypeCalculus.Label.Basic

namespace TypeCalculus

namespace Utf8

def carry (n : Nat) : Octet :=
  .ofNat (n % 64 + 0x80)

theorem toNat_carry (n : Nat) : (carry n).toNat = n % 64 + 0x80 := by
  rw [carry, UInt8.toNat_ofNat']
  omega

theorem decodeFrom_start (octet : Octet) (rest : List Octet) {pending : Pending}
    (opens : start octet = .opens pending) :
    decodeFrom none (octet :: rest) = decodeFrom (some pending) rest := by
  rw [decodeFrom, step, opens]
  rfl

theorem decodeFrom_carry_last {n low high : Nat} (rest : List Octet)
    (above : low ≤ n % 64 + 0x80) (below : n % 64 + 0x80 ≤ high) :
    decodeFrom (some ⟨1, low, high, n / 64⟩) (carry n :: rest) =
      some (Char.ofNat n) :: decodeFrom none rest := by
  have bits : 64 * (n / 64) + (n % 64 + 0x80 - 0x80) = n := by omega
  rw [decodeFrom]
  simp only [step, toNat_carry, bits]
  rw [if_pos ⟨above, below⟩, if_pos (Nat.le_refl 1)]
  rfl

theorem decodeFrom_carry_more {missing n low high : Nat} (rest : List Octet) (more : 1 < missing)
    (above : low ≤ n % 64 + 0x80) (below : n % 64 + 0x80 ≤ high) :
    decodeFrom (some ⟨missing, low, high, n / 64⟩) (carry n :: rest) =
      decodeFrom (some ⟨missing - 1, 0x80, 0xBF, n⟩) rest := by
  have bits : 64 * (n / 64) + (n % 64 + 0x80 - 0x80) = n := by omega
  rw [decodeFrom]
  simp only [step, toNat_carry, bits]
  rw [if_pos ⟨above, below⟩, if_neg (Nat.not_le.mpr more)]
  rfl

theorem start_whole {v : Nat} (short : v ≤ 0x7F) : start (.ofNat v) = .whole (Char.ofNat v) := by
  have octet : (UInt8.ofNat v).toNat = v := by rw [UInt8.toNat_ofNat']; omega
  simp only [start, octet]
  rw [if_pos short]

theorem start_two {v : Nat} (long : 0x7F < v) (short : v ≤ 0x7FF) :
    start (.ofNat (v / 64 % 0x20 + 0xC0)) = .opens ⟨1, 0x80, 0xBF, v / 64⟩ := by
  have octet : (UInt8.ofNat (v / 64 % 0x20 + 0xC0)).toNat = v / 64 + 0xC0 := by
    rw [UInt8.toNat_ofNat']
    omega
  simp only [start, octet]
  rw [if_neg (by omega), if_pos (by omega), Nat.add_sub_cancel]

-- The range of the second octet leaves out the numbers that two octets can hold, and the
-- surrogates.
theorem start_three {v : Nat} (long : 0x7FF < v) (short : v ≤ 0xFFFF)
    (valid : v < 0xD800 ∨ 0xDFFF < v) :
    ∃ low high, low ≤ v / 64 % 64 + 0x80 ∧ v / 64 % 64 + 0x80 ≤ high ∧
      start (.ofNat (v / 4096 % 0x10 + 0xE0)) = .opens ⟨2, low, high, v / 64 / 64⟩ := by
  have octet : (UInt8.ofNat (v / 4096 % 0x10 + 0xE0)).toNat = v / 64 / 64 + 0xE0 := by
    rw [UInt8.toNat_ofNat']
    omega
  simp only [start, octet]
  rw [if_neg (by omega), if_neg (by omega)]
  by_cases least : v / 64 / 64 = 0
  · rw [least, if_pos rfl]
    exact ⟨_, _, by omega, by omega, rfl⟩
  · rw [if_neg (by omega)]
    by_cases beside : v / 64 / 64 = 0xD
    · rw [beside, if_pos rfl]
      exact ⟨_, _, by omega, by omega, rfl⟩
    · rw [if_neg (by omega), if_pos (by omega), Nat.add_sub_cancel]
      exact ⟨_, _, by omega, by omega, rfl⟩

theorem start_four {v : Nat} (long : 0xFFFF < v) (valid : v < 0x110000) :
    ∃ low high, low ≤ v / 64 / 64 % 64 + 0x80 ∧ v / 64 / 64 % 64 + 0x80 ≤ high ∧
      start (.ofNat (v / 262144 % 0x08 + 0xF0)) = .opens ⟨3, low, high, v / 64 / 64 / 64⟩ := by
  have octet : (UInt8.ofNat (v / 262144 % 0x08 + 0xF0)).toNat = v / 64 / 64 / 64 + 0xF0 := by
    rw [UInt8.toNat_ofNat']
    omega
  simp only [start, octet]
  rw [if_neg (by omega), if_neg (by omega), if_neg (by omega), if_neg (by omega),
    if_neg (by omega)]
  by_cases least : v / 64 / 64 / 64 = 0
  · rw [least, if_pos rfl]
    exact ⟨_, _, by omega, by omega, rfl⟩
  · rw [if_neg (by omega)]
    by_cases greatest : v / 64 / 64 / 64 = 4
    · rw [greatest, if_neg (by omega), if_pos rfl]
      exact ⟨_, _, by omega, by omega, rfl⟩
    · rw [if_pos (by omega), Nat.add_sub_cancel]
      exact ⟨_, _, by omega, by omega, rfl⟩

-- By the number of octets that the character takes.
theorem decodeFrom_utf8EncodeChar (c : Char) (rest : List Octet) :
    decodeFrom none (String.utf8EncodeChar c ++ rest) = some c :: decodeFrom none rest := by
  have valid : c.toNat < 0xD800 ∨ 0xDFFF < c.toNat ∧ c.toNat < 0x110000 := c.valid
  have same : Char.ofNat c.val.toNat = c := Char.ofNat_toNat c
  change c.val.toNat < 0xD800 ∨ 0xDFFF < c.val.toNat ∧ c.val.toNat < 0x110000 at valid
  fun_cases String.utf8EncodeChar c with
  | case1 v one =>
    rw [List.singleton_append, decodeFrom, step, start_whole one, same]
    rfl
  | case2 v one two =>
    change decodeFrom none (.ofNat (v / 64 % 0x20 + 0xC0) :: carry v :: rest) = _
    rw [decodeFrom_start _ _ (start_two (Nat.lt_of_not_le one) two),
      decodeFrom_carry_last rest (by omega) (by omega), same]
  | case3 v one two three =>
    obtain ⟨low, high, above, below, opens⟩ :=
      start_three (Nat.lt_of_not_le two) three (valid.imp_right And.left)
    change decodeFrom none (.ofNat (v / 4096 % 0x10 + 0xE0) ::
      carry (v / 64) :: carry v :: rest) = _
    rw [decodeFrom_start _ _ opens, decodeFrom_carry_more _ (by omega) above below,
      decodeFrom_carry_last rest (by omega) (by omega), same]
  | case4 v one two three =>
    obtain ⟨low, high, above, below, opens⟩ :=
      start_four (v := v) (Nat.lt_of_not_le three) (by omega)
    have second : v / 4096 = v / 64 / 64 := by omega
    change decodeFrom none (.ofNat (v / 262144 % 0x08 + 0xF0) :: carry (v / 4096) ::
      carry (v / 64) :: carry v :: rest) = _
    rw [second, decodeFrom_start _ _ opens, decodeFrom_carry_more _ (by omega) above below,
      decodeFrom_carry_more _ (by omega) (by omega) (by omega),
      decodeFrom_carry_last rest (by omega) (by omega), same]

theorem decode_encode (text : List Char) : decode (encode text) = text.map some := by
  induction text with
  | nil => rfl
  | cons c text rest =>
    rw [decode] at rest ⊢
    rw [encode, List.flatMap_cons, decodeFrom_utf8EncodeChar, ← encode, rest, List.map_cons]

theorem decodeLossy_encode (text : List Char) : decodeLossy (encode text) = text := by
  simp [decodeLossy, decode_encode, Function.comp_def]

theorem encode_toList (text : String) : encode text.toList = text.toByteArray.data.toList := by
  rw [← String.utf8Encode_toList, List.utf8Encode, List.toList_data_toByteArray, encode]

end Utf8

namespace Label

open Utf8 (Octet)

theorem pairUp_flatMap_split (octets : List Octet) : pairUp (octets.flatMap split) = octets := by
  induction octets with
  | nil => rfl
  | cons octet octets rest =>
    have first := join_split octet
    simp only [split, pairUp, List.cons.injEq, and_true] at first
    simp only [List.flatMap_cons, split, List.cons_append, List.nil_append, pairUp, first]
    exact congrArg (octet :: ·) rest

theorem length_flatMap_split (octets : List Octet) :
    (octets.flatMap split).length = 2 * octets.length := by
  induction octets with
  | nil => rfl
  | cons octet octets rest =>
    rw [List.flatMap_cons, List.length_append, rest, List.length_cons, split]
    simp only [List.length_cons, List.length_nil]
    omega

theorem octets?_ofDigits (ds : List Nibble) :
    octets? (.label (ofDigits ds)) = some (pairUp ds) := by
  rw [octets?, digits?_ofDigits, Option.map_some]

theorem size?_ofDigits (ds : List Nibble) :
    size? (.label (ofDigits ds)) = some (pairUp ds).length := by
  rw [size?, digitCount?_ofDigits, Option.map_some, length_pairUp]

theorem octets?_ofText (text : String) :
    octets? (ofText text) = some text.toByteArray.data.toList := by
  rw [ofText, octets?_ofDigits, digitsOf, pairUp_flatMap_split, Utf8.encode_toList]

theorem size?_ofText (text : String) : size? (ofText text) = some text.utf8ByteSize := by
  have octets : (Utf8.encode text.toList).length = text.utf8ByteSize := by
    rw [Utf8.encode_toList, Array.length_toList]
    rfl
  rw [ofText, size?_ofDigits, digitsOf, pairUp_flatMap_split, octets]

theorem name?_ofText (text : String) : name? (ofText text) = some text := by
  rw [name?, octets?_ofText, Option.map_some, ← Utf8.encode_toList, Utf8.decodeLossy_encode,
    String.ofList_toList]

theorem ofText_injective : Function.Injective ofText := by
  intro s t same
  have read := congrArg name? same
  rw [name?_ofText, name?_ofText] at read
  exact Option.some.inj read

theorem ofText_faithful :
    (∀ text : String,
      size? (ofText text) = some text.utf8ByteSize ∧
      octets? (ofText text) = some text.toByteArray.data.toList ∧
      name? (ofText text) = some text) ∧
    Function.Injective ofText := by
  refine ⟨?_, ofText_injective⟩
  intro text
  exact ⟨size?_ofText text, octets?_ofText text, name?_ofText text⟩

end Label

end TypeCalculus
