import TypeCalculus.Token.Basic
import TypeCalculus.Token.Numeral
import TypeCalculus.Token.Quoted

namespace TypeCalculus.Lexer

-- White space by the Unicode property, and the two marks of writing direction.
def isBlank (c : Char) : Bool :=
  let n := c.toNat
  (0x09 ≤ n && n ≤ 0x0D) || (0x2000 ≤ n && n ≤ 0x200A) ||
    [0x20, 0x85, 0xA0, 0x1680, 0x200E, 0x200F, 0x2028, 0x2029, 0x202F, 0x205F, 0x3000].contains n

def markCharacters : List Char :=
  "~!@#$%^&*-=+|;:,<.>/?'".toList

def beginsMark : List Char → Bool
  | '/' :: '/' :: _ => false
  | '/' :: '*' :: _ => false
  | c :: _ => markCharacters.contains c
  | [] => false

def blockComment? : Nat → List Char → Option (List Char × List Char)
  | _, [] => none
  | depth, '/' :: '*' :: text =>
    (blockComment? (depth + 1) text).map fun (inner, rest) => ('/' :: '*' :: inner, rest)
  | 0, '*' :: '/' :: text => some ([], text)
  | depth + 1, '*' :: '/' :: text =>
    (blockComment? depth text).map fun (inner, rest) => ('*' :: '/' :: inner, rest)
  | depth, c :: text => (blockComment? depth text).map fun (inner, rest) => (c :: inner, rest)

def lineComment : List Char → List Char × List Char
  | [] => ([], [])
  | '\n' :: text => ([], '\n' :: text)
  | '\r' :: '\n' :: text => ([], '\n' :: text)
  | c :: text => let (inner, rest) := lineComment text; (c :: inner, rest)

def lineEndsPaired : List Char → Bool
  | [] => true
  | '\r' :: '\n' :: text => lineEndsPaired text
  | '\r' :: _ => false
  | _ :: text => lineEndsPaired text

def quote (value : List Char) : String :=
  let escaped := value.flatMap fun c =>
    if c = '\t' then ['\\', 't']
    else if c = '\n' then ['\\', 'n']
    else if c = '\r' then ['\\', 'r']
    else if c = '"' then ['\\', '"']
    else if c = '\\' then ['\\', '\\']
    else if c = '\x00' then ['\\', '0']
    else if c.toNat < 32 ∨ c.toNat = 127 then
      ['\\', 'u', '\x7b'] ++ Nat.toDigits 16 c.toNat ++ ['\x7d']
    else [c]
  String.ofList ('"' :: escaped ++ ['"'])

def documentation (inner : Bool) (contents : List Char) : List Piece :=
  [.token (.mark '#' false)] ++ (if inner then [.token (.mark '!' false)] else []) ++
    [.opening .bracket, .token (.word "doc" false), .token (.mark '=' false),
      .token (.literal (.string (String.ofList contents) (quote contents))), .closing .bracket]

def documentation? (inner : Bool) (contents rest : List Char) : Option (List Piece × List Char) :=
  if lineEndsPaired contents then some (documentation inner contents, rest) else none

def comment? : List Char → Option (List Piece × List Char)
  | '/' :: '/' :: '/' :: text => some ([], (lineComment text).2)
  | '/' :: '/' :: text =>
    let (contents, rest) := lineComment text
    documentation? false contents rest
  | '/' :: '!' :: text =>
    let (contents, rest) := lineComment text
    documentation? true contents rest
  | '/' :: text => some ([], (lineComment text).2)
  | '*' :: '*' :: '/' :: text => some ([], text)
  | '*' :: '*' :: '*' :: text => do
    let (_, rest) ← blockComment? 0 ('*' :: '*' :: text)
    return ([], rest)
  | '*' :: '*' :: text => do
    let (contents, rest) ← blockComment? 0 ('*' :: text)
    documentation? false (contents.drop 1) rest
  | '*' :: '!' :: text => do
    let (contents, rest) ← blockComment? 0 text
    documentation? true contents rest
  | '*' :: text => do
    let (_, rest) ← blockComment? 0 text
    return ([], rest)
  | _ => none

def firstOf {α : Type} : List (Unit → Option α) → Option α
  | [] => none
  | reading :: others => (reading ()).orElse fun _ => firstOf others

def string? (text : List Char) : Option (List Char × List Char) := do
  let (value, rest) ← match text with
    | '"' :: body => Quoted.body? .text .plain body
    | 'r' :: body => Quoted.raw? .text body
    | _ => none
  return (value, Identifier.dropWord rest)

def quotedEnd? : List Char → Option (List Char)
  | 'b' :: '"' :: body =>
    (Quoted.body? .octets .plain body).map fun (_, rest) => Identifier.dropWord rest
  | 'b' :: 'r' :: body =>
    (Quoted.raw? .octets body).map fun (_, rest) => Identifier.dropWord rest
  | 'c' :: '"' :: body =>
    (Quoted.body? .terminated .plain body).map fun (_, rest) => Identifier.dropWord rest
  | 'c' :: 'r' :: body =>
    (Quoted.raw? .terminated body).map fun (_, rest) => Identifier.dropWord rest
  | 'b' :: '\'' :: body => Quoted.characterEnd? .octets body
  | '\'' :: body => Quoted.characterEnd? .text body
  | _ => none

def upTo (text rest : List Char) : String :=
  String.ofList (text.take (text.length - rest.length))

def literal? (text : List Char) : Option (Literal × List Char) :=
  firstOf [
    fun _ => (string? text).map fun (value, rest) =>
      (.string (String.ofList value) (upTo text rest), rest),
    fun _ => (quotedEnd? text).map fun rest => (.other (upTo text rest), rest),
    fun _ => (Numeral.fraction? text).map fun rest => (.other (upTo text rest), rest),
    fun _ => (Numeral.integer? text).map fun (value, rest) =>
      (.integer value (upTo text rest), rest)]

def quotedOpenings : List String :=
  ["r\"", "r#\"", "r##", "b\"", "b'", "br\"", "br#", "c\"", "cr\"", "cr#"]

def neverRaw : List String :=
  ["_", "super", "self", "Self", "crate"]

def anyWord? (text : List Char) : Option (Token × List Char) :=
  match text with
  | 'r' :: '#' :: name => do
    let (word, rest) ← Identifier.word? name
    if neverRaw.contains (String.ofList word) then none
    else return (.word (String.ofList word) true, rest)
  | _ => do
    let (word, rest) ← Identifier.word? text
    return (.word (String.ofList word) false, rest)

def word? (text : List Char) : Option (Token × List Char) :=
  if quotedOpenings.any fun opening => opening.toList.isPrefixOf text then none else anyWord? text

-- A mark at the start of a text. An apostrophe has to begin a lifetime: a word follows it that no
-- apostrophe ends, and no `#` unless the word is raw.
def mark? (text : List Char) : Option (Token × List Char) :=
  match text with
  | '\'' :: rest => do
    let (word, after) ← anyWord? rest
    let raw := match word with
      | .word _ raw => raw
      | _ => false
    if after.head? = some '\'' ∨ (after.head? = some '#' ∧ !raw) then none
    else return (.mark '\'' true, rest)
  | c :: rest => if beginsMark text then some (.mark c (beginsMark rest), rest) else none
  | [] => none

def token? (text : List Char) : Option (Token × List Char) :=
  firstOf [
    fun _ => (literal? text).map fun (literal, rest) => (.literal literal, rest),
    fun _ => mark? text,
    fun _ => word? text]

def piece? : List Char → Option (List Piece × List Char)
  | [] => none
  | c :: text =>
    if isBlank c then some ([], text)
    else
      match Delimiter.ofOpening? c, Delimiter.ofClosing? c with
      | some d, _ => some ([.opening d], text)
      | _, some d => some ([.closing d], text)
      | none, none =>
        firstOf [
          fun _ => if c = '/' then comment? text else none,
          fun _ => (token? (c :: text)).map fun (token, rest) => ([.token token], rest)]

def pieces? (text : List Char) : Option (List Piece) :=
  if text.isEmpty then some []
  else
    match piece? text with
    | some (found, rest) =>
      if rest.length < text.length then (pieces? rest).map (found ++ ·) else none
    | none => none
termination_by text.length

end TypeCalculus.Lexer

namespace TypeCalculus.TokenTree

-- The token trees of a text; a byte order mark in front of it means nothing.
def ofText? (text : String) : Option (List TokenTree) := do
  let characters := match text.toList with
    | '\uFEFF' :: rest => rest
    | all => all
  ofPieces? (← Lexer.pieces? characters)

end TypeCalculus.TokenTree
