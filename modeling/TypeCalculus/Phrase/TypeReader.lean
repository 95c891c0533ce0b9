import TypeCalculus.Phrase.Entry
import TypeCalculus.Phrase.TypeForm

namespace TypeCalculus.Phrase

open TokenTree (Rest AtMost)

def doubleColon? (trees : List TokenTree) : Option (Rest trees) :=
  match trees with
  | .token (.mark ':' true) :: .token (.mark ':' _) :: _ => some .afterTokens
  | _ => none

def lifetime? (trees : List TokenTree) : Option (String × Rest trees) :=
  match trees with
  | .token (.mark '\'' _) :: .token (.word name _) :: _ => some (name, .afterTokens)
  | _ => none

-- The mark that opens the arguments of a path; it is not the beginning of `<=`.
def opensArguments? (trees : List TokenTree) : Option (Rest trees) :=
  match trees with
  | .token (.mark '<' true) :: .token (.mark '=' _) :: _ => none
  | .token (.mark '<' _) :: _ => some .afterToken
  | _ => none

def opensCall? (trees : List TokenTree) : Option (Rest trees) :=
  match trees with
  | .token (.mark '!' true) :: .token (.mark '=' _) :: _ => none
  | .token (.mark '!' _) :: _ => some .afterToken
  | _ => none

def blockConstant : List TokenTree → TypeForm
  | [.token (.literal (.integer value _))] => .number value
  | [.token (.mark '-' _), .token (.literal (.integer value _))] => .number (-value)
  | _ => .constant

def constantArgument? (trees : List TokenTree) : Option (TypeForm × Rest trees) :=
  match trees with
  | .token (.literal (.integer value _)) :: _ => some (.number value, .afterToken)
  | .token (.literal _) :: _ => some (.constant, .afterToken)
  | .token (.mark '-' _) :: .token (.literal (.integer value _)) :: _ =>
    some (.number (-value), .afterTokens)
  | .token (.mark '-' _) :: .token (.literal (.other _)) :: _ =>
    some (.constant, .afterTokens)
  | .token (.word "true" false) :: _ => some (.constant, .afterToken)
  | .token (.word "false" false) :: _ => some (.constant, .afterToken)
  | .group .brace inner :: _ => some (blockConstant inner, .afterGroup)
  | trees => (lifetime? trees).map fun (_, rest) => (.constant, rest)

def pathWords : List String :=
  ["super", "self", "Self", "crate"]

def pathName (trees : List TokenTree) : Except Fault (String × Rest trees) :=
  match trees with
  | .token (.word text raw) :: _ =>
    if !raw && reservedWords.contains text && !pathWords.contains text then .error (.reserved text)
    else .ok (text, .afterToken)
  | trees => missing .identifier trees

-- The first name of a path that has no colons in front; where none stands no type begins.
def firstName (trees : List TokenTree) : Except Fault (String × Rest trees) :=
  match pathName trees with
  | .ok read => .ok read
  | .error _ => missing .type trees

def within (d : Delimiter) (left : List TokenTree) (form : TypeForm) : TypeForm :=
  if left.isEmpty then form else .surplus d form

def orFaulty : Except Fault TypeForm → TypeForm
  | .ok form => form
  | .error fault => .faulty fault

def beginsArguments? (trees : List TokenTree) : Option (Rest trees) :=
  match opensArguments? trees with
  | some rest => some rest
  | none => do
    let ⟨more, _shorter⟩ ← doubleColon? trees
    let ⟨rest, _less⟩ ← opensArguments? more
    return ⟨rest, by omega⟩

def continuesPath? (trees : List TokenTree) : Option (Rest trees) := do
  let ⟨more, shorter⟩ ← doubleColon? trees
  match more with
  | .group .parenthesis _ :: _ => none
  | _ => return ⟨more, shorter⟩

def closesArguments? (trees : List TokenTree) : Option (Rest trees) :=
  match trees with
  | .token (.mark '>' _) :: _ => some .afterToken
  | _ => none

def enclosed? (trees : List TokenTree) : Option (Rest trees × Rest trees) :=
  match trees with
  | .group _ _ :: _ => some (.inside, .afterGroup)
  | _ => none

def referenceKind (trees : List TokenTree) : (Option String × Bool) × AtMost trees :=
  let ⟨lifetime, ⟨after, shorter⟩⟩ : Option String × AtMost trees :=
    match lifetime? trees with
    | some (name, ⟨rest, less⟩) => (some name, ⟨rest, by omega⟩)
    | none => (none, .all)
  match after, shorter with
  | .token (.word "mut" false) :: rest, shorter =>
    ((lifetime, true), ⟨rest, by rw [TokenTree.weightAll_token] at shorter; omega⟩)
  | rest, shorter => ((lifetime, false), ⟨rest, shorter⟩)

mutual

def readType (trees : List TokenTree) : Except Fault (TypeForm × Rest trees) :=
  match trees with
  | .group .parenthesis inner :: _ => do
    let form ← parenthesized inner
    return (form, .afterGroup)
  | .group .bracket inner :: _ => do
    let form ← bracketed inner
    return (form, .afterGroup)
  | .token (.mark '&' _) :: more => do
    let ((lifetime, mutable), ⟨after, _less⟩) := referenceKind more
    let (form, ⟨rest, _least⟩) ← readType after
    return (.reference lifetime mutable form, ⟨rest, by rw [TokenTree.weightAll_token]; omega⟩)
  | .token (.mark '!' true) :: .token (.mark '=' _) :: _ => missing .type trees
  | .token (.mark '!' _) :: _ => return (.never, .afterToken)
  | .token (.word "_" false) :: _ => return (.inferred, .afterToken)
  | trees =>
    match doubleColon? trees with
    -- Such a path goes by no name in scope; it is kept apart by an empty name in front.
    | some ⟨more, _shorter⟩ => do
      let (name, ⟨after, _less⟩) ← pathName more
      let (form, ⟨rest, _least⟩) ← pathFrom ["", name] [] true after
      return (form, ⟨rest, by omega⟩)
    | none => do
      let (name, ⟨after, _less⟩) ← firstName trees
      let (form, ⟨rest, _least⟩) ← pathFrom [name] [] true after
      return (form, ⟨rest, by omega⟩)
termination_by (TokenTree.weightAll trees, 3)

def parenthesized (inner : List TokenTree) : Except Fault TypeForm :=
  if inner.isEmpty then return .tuple []
  else do
    let (first, ⟨rest, _shorter⟩) ← readType inner
    match readMark ',' rest with
    | .ok ⟨more, _less⟩ => return .tuple (first :: (← readTypes more))
    | .error _ => return within .parenthesis rest (.parenthesized first)
termination_by (TokenTree.weightAll inner, 4)

def bracketed (inner : List TokenTree) : Except Fault TypeForm := do
  let (element, ⟨rest, _shorter⟩) ← readType inner
  match readMark ';' rest with
  | .ok ⟨length, _less⟩ =>
    if length.isEmpty then missing .length length else return .array element
  | .error _ => return within .bracket rest (.slice element)
termination_by (TokenTree.weightAll inner, 4)

-- The rest of a path whose last name was just read; `plain` as long as no name has arguments.
def pathFrom (path : List String) (arguments : List TypeForm) (plain : Bool)
    (trees : List TokenTree) : Except Fault (TypeForm × AtMost trees) :=
  match beginsArguments? trees with
  | some ⟨more, _shorter⟩ => do
    let (found, ⟨after, _less⟩) ← argumentList more
    let (form, ⟨rest, _least⟩) ← pathEnd path (arguments ++ found) false after
    return (form, ⟨rest, by omega⟩)
  | none => pathEnd path arguments plain trees
termination_by (TokenTree.weightAll trees, 2)

def pathEnd (path : List String) (arguments : List TypeForm) (plain : Bool)
    (trees : List TokenTree) : Except Fault (TypeForm × AtMost trees) :=
  match continuesPath? trees with
  | some ⟨more, _shorter⟩ => do
    let (name, ⟨after, _less⟩) ← pathName more
    let (form, ⟨rest, _least⟩) ← pathFrom (path ++ [name]) arguments plain after
    return (form, ⟨rest, by omega⟩)
  | none =>
    match if plain then opensCall? trees else none with
    | some ⟨more, _shorter⟩ =>
      match enclosed? more with
      | some (⟨inner, _inside⟩, ⟨rest, _less⟩) => return (call path inner, ⟨rest, by omega⟩)
      | none => missing .delimiter more
    | none => return (.named path arguments, .all)
termination_by (TokenTree.weightAll trees, 1)

def argumentList (trees : List TokenTree) : Except Fault (List TypeForm × Rest trees) :=
  match closesArguments? trees with
  | some rest => return ([], rest)
  | none => do
    let (first, ⟨after, _shorter⟩) ← argument trees
    match closesArguments? after with
    | some ⟨rest, _less⟩ => return ([first], ⟨rest, by omega⟩)
    | none => do
      let ⟨more, _less⟩ ← readMark ',' after
      let (others, ⟨rest, _least⟩) ← argumentList more
      return (first :: others, ⟨rest, by omega⟩)
termination_by (TokenTree.weightAll trees, 5)

def argument (trees : List TokenTree) : Except Fault (TypeForm × Rest trees) :=
  match constantArgument? trees with
  | some read => return read
  | none => readType trees
termination_by (TokenTree.weightAll trees, 4)

def readTypes (trees : List TokenTree) : Except Fault (List TypeForm) :=
  separated trees fun ⟨left, _within⟩ => readType left
termination_by (TokenTree.weightAll trees, 5)
decreasing_by exact Prod.Lex.right' _ _within (by decide)

def call (path : List String) (inner : List TokenTree) : TypeForm :=
  match path with
  | ["label"] => orFaulty ((readOneLabel inner).map .label)
  | ["labels"] => orFaulty ((readLabels inner).map .labels)
  | ["record"] => orFaulty do
    let entries ← readEntries TypeForm.surplus? inner fun ⟨value, _less⟩ => readType value
    return .record (entries.map fun entry => (entry.key, entry.form))
  | ["hlist"] =>
    match readTypes inner with
    | .ok forms => .list forms
    | .error _ => .unknownCall
  | _ => .unknownCall
termination_by (TokenTree.weightAll inner, 6)

end

def TypeForm.reader : TypeReader TypeForm :=
  ⟨readType, TypeForm.surplus?⟩

end TypeCalculus.Phrase
