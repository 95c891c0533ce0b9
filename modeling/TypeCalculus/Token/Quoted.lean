import TypeCalculus.Token.Numeral

namespace TypeCalculus.Quoted

inductive Flavour where
  | text
  | octets
  | terminated
deriving DecidableEq, Repr

inductive Mode where
  | plain
  | lineFeed
  | escape
  | high
  | low (high : Nat)
  | opening
  -- A code point in braces, of which `count` digits were read.
  | point (value count : Nat)
  | blanks
  | blanksLineFeed
deriving DecidableEq, Repr

namespace Flavour

def admits : Flavour → Char → Bool
  | .text, _ => true
  | .octets, c => c.toNat < 128
  | .terminated, c => c.toNat != 0

-- Whether an escape may name a value: by two digits, text knows ASCII alone.
def admitsByte : Flavour → Nat → Bool
  | .text, value => value < 128
  | .octets, _ => true
  | .terminated, value => value != 0

def named? (flavour : Flavour) : Char → Option Char
  | 'n' => some '\n'
  | 'r' => some '\r'
  | 't' => some '\t'
  | '\\' => some '\\'
  | '\'' => some '\''
  | '"' => some '"'
  | '0' => if flavour = .terminated then none else some '\x00'
  | _ => none

end Flavour

def plainStep? (flavour : Flavour) (c : Char) : Option (List Char × Mode) :=
  if c = '\r' then some ([], .lineFeed)
  else if c = '\\' then some ([], .escape)
  else if flavour.admits c then some ([c], .plain)
  else none

def step? (flavour : Flavour) : Mode → Char → Option (List Char × Mode)
  | .plain, c => plainStep? flavour c
  | .lineFeed, c => if c = '\n' then some (['\n'], .plain) else none
  | .escape, c =>
    if c = 'x' then some ([], .high)
    else if c = 'u' then if flavour = .octets then none else some ([], .opening)
    else if c = '\n' then some ([], .blanks)
    else if c = '\r' then some ([], .blanksLineFeed)
    else (flavour.named? c).map fun named => ([named], .plain)
  | .high, c => (Numeral.digit? c).map fun digit => ([], .low digit)
  | .low high, c => do
    let value := 16 * high + (← Numeral.digit? c)
    if flavour.admitsByte value then return ([Char.ofNat value], .plain) else none
  | .opening, c => if c = '\x7b' then some ([], .point 0 0) else none
  | .point value count, c =>
    if c = '_' ∧ 0 < count then some ([], .point value count)
    else if c = '\x7d' ∧ 0 < count then
      if value.isValidChar ∧ (flavour = .terminated → value ≠ 0) then
        some ([Char.ofNat value], .plain)
      else none
    else if count < 6 then
      (Numeral.digit? c).map fun digit => ([], .point (16 * value + digit) (count + 1))
    else none
  | .blanks, c =>
    if c = ' ' ∨ c = '\t' ∨ c = '\n' then some ([], .blanks)
    else if c = '\r' then some ([], .blanksLineFeed)
    else plainStep? flavour c
  | .blanksLineFeed, c => if c = '\n' then some ([], .blanks) else none

def Mode.endsAtQuote : Mode → Bool
  | .plain => true
  | .blanks => true
  | _ => false

def body? (flavour : Flavour) : Mode → List Char → Option (List Char × List Char)
  | _, [] => none
  | mode, c :: text =>
    if c = '"' ∧ mode.endsAtQuote then some ([], text)
    else do
      let (found, next) ← step? flavour mode c
      let (value, rest) ← body? flavour next text
      return (found ++ value, rest)

def escapeEnd? (flavour : Flavour) : Mode → List Char → Option (List Char)
  | .plain, text => some text
  | .blanks, _ => none
  | .blanksLineFeed, _ => none
  | _, [] => none
  | mode, c :: text => do
    let (_, next) ← step? flavour mode c
    escapeEnd? flavour next text

def characterEnd? (flavour : Flavour) (text : List Char) : Option (List Char) := do
  let rest ← match text with
    | '\\' :: escaped => escapeEnd? flavour .escape escaped
    | c :: rest => if flavour = .octets ∧ 128 ≤ c.toNat then none else some rest
    | [] => none
  match rest with
  | '\'' :: after => return Identifier.dropWord after
  | _ => none

def rawBody? (flavour : Flavour) (pounds : Nat) : List Char → Option (List Char × List Char)
  | [] => none
  | '\r' :: '\n' :: text =>
    (rawBody? flavour pounds text).map fun (value, rest) => ('\r' :: '\n' :: value, rest)
  | '\r' :: _ => none
  | c :: text =>
    if c = '"' ∧ (text.take pounds).length = pounds ∧ (text.take pounds).all (· == '#') then
      some ([], text.drop pounds)
    else if flavour.admits c then
      (rawBody? flavour pounds text).map fun (value, rest) => (c :: value, rest)
    else none

-- A raw string from behind its `r`. At most 255 `#` may open it.
def raw? (flavour : Flavour) (text : List Char) : Option (List Char × List Char) :=
  let pounds := (text.takeWhile (· == '#')).length
  match text.drop pounds with
  | '"' :: body => if pounds ≤ 255 then rawBody? flavour pounds body else none
  | _ => none

example : body? .text .plain "a\\u{e9}\\x41\\\n  b\"c".toList = some ("aéAb".toList, ['c']) := by
  decide

example : body? .text .plain "\\x80\"".toList = none := by decide

example : raw? .text "#\"a\"b\"#".toList = some ("a\"b".toList, []) := by decide

end TypeCalculus.Quoted
