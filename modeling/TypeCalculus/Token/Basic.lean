namespace TypeCalculus

inductive Literal where
  | string (value : String) (source : String)
  | integer (value : Nat) (source : String)
  | other (source : String)
deriving DecidableEq, Repr

-- A token; `raw` words are written with `r#` in front. A mark is `joint` when another mark follows
-- with nothing in between.
inductive Token where
  | word (name : String) (raw : Bool)
  | mark (c : Char) (joint : Bool)
  | literal (literal : Literal)
deriving DecidableEq, Repr

inductive Delimiter where
  | parenthesis
  | bracket
  | brace
deriving DecidableEq, Repr

namespace Delimiter

def opening : Delimiter → Char
  | .parenthesis => '('
  | .bracket => '['
  | .brace => '\x7b'

def closing : Delimiter → Char
  | .parenthesis => ')'
  | .bracket => ']'
  | .brace => '\x7d'

def ofOpening? (c : Char) : Option Delimiter :=
  [parenthesis, bracket, brace].find? fun d => d.opening == c

def ofClosing? (c : Char) : Option Delimiter :=
  [parenthesis, bracket, brace].find? fun d => d.closing == c

end Delimiter

def Literal.source : Literal → String
  | .string _ source => source
  | .integer _ source => source
  | .other source => source

def Token.render : Token → String
  | .word name raw => if raw then "r#" ++ name else name
  | .mark c _ => c.toString
  | .literal held => held.source

inductive Piece where
  | token (token : Token)
  | opening (d : Delimiter)
  | closing (d : Delimiter)
deriving DecidableEq, Repr

inductive TokenTree where
  | token (token : Token)
  | group (d : Delimiter) (inner : List TokenTree)
deriving Repr

namespace TokenTree

-- The trees of a sequence of pieces, read on from within the open groups; each of these comes with
-- the trees before it, all of them in reverse order.
def close? : List (Delimiter × List TokenTree) → List TokenTree → List Piece →
    Option (List TokenTree)
  | [], before, [] => some before.reverse
  | _ :: _, _, [] => none
  | outer, before, .token t :: rest => close? outer (.token t :: before) rest
  | outer, before, .opening d :: rest => close? ((d, before) :: outer) [] rest
  | [], _, .closing _ :: _ => none
  | (d, above) :: outer, before, .closing ending :: rest =>
    if d = ending then close? outer (.group d before.reverse :: above) rest else none

def ofPieces? (pieces : List Piece) : Option (List TokenTree) :=
  close? [] [] pieces

mutual

def render : TokenTree → String
  | .token t => t.render
  | .group d inner => d.opening.toString ++ renderAll inner ++ d.closing.toString

def renderAll : List TokenTree → String
  | [] => ""
  | tree :: rest => tree.render ++ renderAll rest

end

mutual

def weight : TokenTree → Nat
  | .token _ => 1
  | .group _ inner => weightAll inner + 2

def weightAll : List TokenTree → Nat
  | [] => 0
  | tree :: rest => tree.weight + weightAll rest

end

@[simp]
theorem weightAll_token (t : Token) (rest : List TokenTree) :
    weightAll (.token t :: rest) = weightAll rest + 1 := by
  simp only [weightAll, weight, Nat.add_comm]

@[simp]
theorem weightAll_group (d : Delimiter) (inner rest : List TokenTree) :
    weightAll (.group d inner :: rest) = weightAll inner + weightAll rest + 2 := by
  rw [weightAll, weight, Nat.add_right_comm]

-- What is left of a sequence of trees after something was read from its start.
abbrev Rest (trees : List TokenTree) : Type :=
  { rest : List TokenTree // weightAll rest < weightAll trees }

namespace Rest

def afterToken {t : Token} {rest : List TokenTree} : Rest (.token t :: rest) :=
  ⟨rest, by rw [weightAll_token]; omega⟩

def afterTokens {t u : Token} {rest : List TokenTree} : Rest (.token t :: .token u :: rest) :=
  ⟨rest, by rw [weightAll_token, weightAll_token]; omega⟩

def afterGroup {d : Delimiter} {inner rest : List TokenTree} : Rest (.group d inner :: rest) :=
  ⟨rest, by rw [weightAll_group]; omega⟩

def inside {d : Delimiter} {inner rest : List TokenTree} : Rest (.group d inner :: rest) :=
  ⟨inner, by rw [weightAll_group]; omega⟩

abbrev trans {trees : List TokenTree} (first : Rest trees) (second : Rest first.val) : Rest trees :=
  ⟨second.val, Nat.lt_trans second.property first.property⟩

end Rest

abbrev AtMost (trees : List TokenTree) : Type :=
  { rest : List TokenTree // weightAll rest ≤ weightAll trees }

namespace AtMost

variable {trees : List TokenTree}

abbrev all : AtMost trees :=
  ⟨trees, Nat.le_refl _⟩

abbrev thenRest (first : AtMost trees) (second : Rest first.val) : Rest trees :=
  ⟨second.val, Nat.lt_of_lt_of_le second.property first.property⟩

abbrev ofRest (first : Rest trees) (second : AtMost first.val) : AtMost trees :=
  ⟨second.val, Nat.le_trans second.property (Nat.le_of_lt first.property)⟩

end AtMost

end TokenTree

end TypeCalculus
