import TypeCalculus.Token.Basic

namespace TypeCalculus.Phrase

inductive Wanted where
  | label
  | integer
  | identifier
  | type
  | delimiter
  | length
deriving DecidableEq, Repr

inductive Keyed where
  | label
  | recordKey
deriving DecidableEq, Repr

inductive Fault where
  | wanted (what : Wanted) (atEnd : Bool)
  | wantedMark (c : Char)
  | reserved (word : String)
  -- Tokens after the end of a phrase, or of what a group inside it holds.
  | surplus (within : Option Delimiter)
  | numberTooLarge
  | numberTooSmall
  | wantedLeap
  | tableBounds
  | tableOverflow
  | duplicate (what : Keyed) (text : String)
deriving DecidableEq, Repr

def Wanted.message : Wanted → String
  | .label => "expected a string literal or identifier label"
  | .integer => "expected integer literal"
  | .identifier => "expected identifier"
  | .type =>
    "expected one of: `for`, parentheses, `fn`, `unsafe`, `extern`, identifier, `::`, `<`, " ++
      "`dyn`, square brackets, `*`, `&`, `!`, `impl`, `_`, lifetime"
  | .delimiter => "expected delimiter"
  | .length => "expected an expression"

def Keyed.message : Keyed → String
  | .label => "label"
  | .recordKey => "record key"

def Fault.message : Fault → String
  | .wanted what atEnd => (if atEnd then "unexpected end of input, " else "") ++ what.message
  | .wantedMark c => "expected `" ++ c.toString ++ "`"
  | .reserved word => "expected identifier, found keyword `" ++ word ++ "`"
  | .surplus none => "unexpected token"
  | .surplus (some d) => "unexpected token, expected `" ++ d.closing.toString ++ "`"
  | .numberTooLarge => "number too large to fit in target type"
  | .numberTooSmall => "number too small to fit in target type"
  | .wantedLeap => "expected `leap = <n>`"
  | .tableBounds => "natural table needs 0 < leap <= max and max + leap <= 127"
  | .tableOverflow => "attempt to add with overflow"
  | .duplicate what text =>
    "duplicate " ++ what.message ++ " `" ++ text ++
      "`\n\nEach label should appear only once."

-- The first text that stands at a later place of a list too, by the place of its second occurrence;
-- the texts of `seen` count as earlier ones.
def firstRepeat? (seen : List String) : List String → Option String
  | [] => none
  | text :: rest => if seen.contains text then some text else firstRepeat? (text :: seen) rest

def distinct (what : Keyed) (texts : List String) : Except Fault Unit :=
  match firstRepeat? [] texts with
  | some text => .error (.duplicate what text)
  | none => .ok ()

end TypeCalculus.Phrase
