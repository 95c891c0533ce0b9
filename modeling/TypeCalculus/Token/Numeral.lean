import TypeCalculus.Text.Identifier

namespace TypeCalculus.Numeral

def digit? (c : Char) : Option Nat :=
  if c.isDigit then some (c.toNat - '0'.toNat)
  else if 'a' ≤ c ∧ c ≤ 'f' then some (c.toNat - 'a'.toNat + 10)
  else if 'A' ≤ c ∧ c ≤ 'F' then some (c.toNat - 'A'.toNat + 10)
  else none

def base : List Char → Nat × List Char
  | '0' :: 'x' :: text => (16, text)
  | '0' :: 'o' :: text => (8, text)
  | '0' :: 'b' :: text => (2, text)
  | text => (10, text)

-- Digits read on from a value, and the text after them; `any` says whether a digit was read. A
-- decimal digit that the base does not have is refused, a letter ends the run.
def digitsFrom? (base : Nat) (value : Nat) (any : Bool) : List Char → Option (Nat × List Char)
  | [] => if any then some (value, []) else none
  | c :: text =>
    if c = '_' then
      if base = 10 ∧ !any then none else digitsFrom? base value any text
    else
      match digit? c with
      | some digit =>
        if digit < base then digitsFrom? base (base * value + digit) true text
        else if c.isDigit then none
        else if any then some (value, c :: text) else none
      | none => if any then some (value, c :: text) else none

def suffixEnd? (text : List Char) : Option (List Char) :=
  match Identifier.dropWord text with
  | [] => some []
  | c :: rest => if Identifier.isContinue c then none else some (c :: rest)

def integer? (text : List Char) : Option (Nat × List Char) := do
  let (base, digits) := base text
  let (value, rest) ← digitsFrom? base 0 false digits
  return (value, ← suffixEnd? rest)

def isDecimal (c : Char) : Bool :=
  c.isDigit || c == '_'

def exponentEnd? (text : List Char) : Option (List Char) :=
  let marks := text.takeWhile fun c => c == '_' || c == '+' || c == '-'
  let sign := text.dropWhile (· == '_')
  let unsigned := match sign with
    | '+' :: rest => rest
    | '-' :: rest => rest
    | rest => rest
  let digits := unsigned.takeWhile isDecimal
  if marks.countP (· != '_') ≤ 1 ∧ digits.any Char.isDigit then some (unsigned.dropWhile isDecimal)
  else none

-- The text after the digits, the point and the exponent of a number that has one of the last two. A
-- point before another point or a word is none of the number's, and then there is no such number.
def fractionEnd? (text : List Char) : Option (List Char) :=
  match text with
  | first :: _ =>
    if first.isDigit then
      match text.dropWhile isDecimal with
      | '.' :: rest =>
        match rest with
        | '.' :: _ => none
        | _ =>
          if rest.head?.any Identifier.isStart then none
          else
            match rest.dropWhile isDecimal with
            | 'e' :: exponent => some ((exponentEnd? exponent).getD ('e' :: exponent))
            | 'E' :: exponent => some ((exponentEnd? exponent).getD ('E' :: exponent))
            | after => some after
      | 'e' :: exponent => exponentEnd? exponent
      | 'E' :: exponent => exponentEnd? exponent
      | _ => none
    else none
  | [] => none

def fraction? (text : List Char) : Option (List Char) := do
  suffixEnd? (← fractionEnd? text)

example : integer? "0x1_f8, 2".toList = some (0x1f8, ", 2".toList) := by decide

example : integer? "007u8".toList = some (7, []) := by decide

example : integer? "0b12".toList = none := by decide

example : fraction? "1.5e3 ".toList = some [' '] := by decide

example : fraction? "1..2".toList = none := by decide

end TypeCalculus.Numeral
