namespace TypeCalculus.Utf8

abbrev Octet := UInt8

def encode (text : List Char) : List Octet :=
  text.flatMap String.utf8EncodeChar

-- A character of which some octets were read and `missing` are to come; the first of these lies in
-- `low … high`, any later one in `0x80 … 0xBF`.
structure Pending where
  missing : Nat
  low : Nat
  high : Nat
  bits : Nat
deriving DecidableEq, Repr

inductive Start where
  | whole (c : Char)
  | opens (pending : Pending)
  | stray
deriving DecidableEq, Repr

def start (octet : Octet) : Start :=
  let b := octet.toNat
  if b ≤ 0x7F then .whole (Char.ofNat b)
  else if 0xC2 ≤ b ∧ b ≤ 0xDF then .opens ⟨1, 0x80, 0xBF, b - 0xC0⟩
  else if b = 0xE0 then .opens ⟨2, 0xA0, 0xBF, 0⟩
  else if b = 0xED then .opens ⟨2, 0x80, 0x9F, 0xD⟩
  else if 0xE1 ≤ b ∧ b ≤ 0xEF then .opens ⟨2, 0x80, 0xBF, b - 0xE0⟩
  else if b = 0xF0 then .opens ⟨3, 0x90, 0xBF, 0⟩
  else if 0xF1 ≤ b ∧ b ≤ 0xF3 then .opens ⟨3, 0x80, 0xBF, b - 0xF0⟩
  else if b = 0xF4 then .opens ⟨3, 0x80, 0x8F, 4⟩
  else .stray

-- What is decoded at an octet, and the state after it. An octet that cannot continue a character
-- ends it as ill-formed and is then read as a first octet itself.
def step : Option Pending → Octet → List (Option Char) × Option Pending
  | none, octet =>
    match start octet with
    | .whole c => ([some c], none)
    | .opens pending => ([], some pending)
    | .stray => ([none], none)
  | some pending, octet =>
    let b := octet.toNat
    if pending.low ≤ b ∧ b ≤ pending.high then
      let bits := 64 * pending.bits + (b - 0x80)
      if pending.missing ≤ 1 then ([some (Char.ofNat bits)], none)
      else ([], some ⟨pending.missing - 1, 0x80, 0xBF, bits⟩)
    else
      match start octet with
      | .whole c => ([none, some c], none)
      | .opens next => ([none], some next)
      | .stray => ([none, none], none)

def decodeFrom : Option Pending → List Octet → List (Option Char)
  | none, [] => []
  | some _, [] => [none]
  | state, octet :: rest =>
    let (found, next) := step state octet
    found ++ decodeFrom next rest

-- The characters and, as `none`, the maximal ill-formed parts.
def decode (octets : List Octet) : List (Option Char) :=
  decodeFrom none octets

def decode? (octets : List Octet) : Option (List Char) :=
  (decode octets).mapM id

def decodeLossy (octets : List Octet) : List Char :=
  (decode octets).map (·.getD '\uFFFD')

example : decode (encode ['a', 'é', '日', '🎉']) = [some 'a', some 'é', some '日', some '🎉'] := by
  decide

-- A surrogate is three ill-formed octets, a cut-off character is one part.
example : decode [0xED, 0xA0, 0x80] = [none, none, none] := by decide

example : decode [0xE6, 0x97, 0x41] = [none, some 'A'] := by decide

example : decode [0xF0, 0x9F, 0x8E] = [none] := by decide

end TypeCalculus.Utf8
