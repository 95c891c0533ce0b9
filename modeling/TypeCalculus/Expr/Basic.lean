import TypeCalculus.Expr.Operator
import TypeCalculus.Phrase.Basic

namespace TypeCalculus

-- A type expression. A `hole` is a place where no expression could be read.
inductive Expr where
  | type (t : Ty)
  | var (name : String)
  | labels (texts : List String)
  | record (entries : List (String × Expr))
  | phrase (kind : Phrase.Kind) (text : String)
  | form (former : Former) (parts : List Expr)
  | apply (operator : Operator) (operands : List Expr)
  | hole

-- What the names stand for; a name bound to `none` failed. Later bindings come first.
abbrev Scope := List (String × Option Ty)

inductive ReadFault where
  | malformed
  | unbound
  | notTokens
deriving DecidableEq, Repr

inductive EvaluationFault where
  | unreadable (fault : ReadFault)
  | depends
  | phrase (fault : Phrase.Fault)
  | unsatisfied
deriving DecidableEq, Repr

namespace Expr

def textFault? (kind : Phrase.Kind) (text : String) : Option ReadFault :=
  if Phrase.isOneLine text then
    match Phrase.ofText kind text with
    | .error .notTokens => some .notTokens
    | _ => none
  else some .malformed

mutual

def readFault? (scope : Scope) : Expr → Option ReadFault
  | .type _ => none
  | .var name => if (scope.lookup name).isSome then none else some .unbound
  | .labels _ => none
  | .record entries => readFaultInFields? scope entries
  | .phrase kind text => textFault? kind text
  | .form _ parts => readFaultIn? scope parts
  | .apply _ operands => readFaultIn? scope operands
  | .hole => some .malformed

def readFaultIn? (scope : Scope) : List Expr → Option ReadFault
  | [] => none
  | e :: rest => (e.readFault? scope).or (readFaultIn? scope rest)

def readFaultInFields? (scope : Scope) : List (String × Expr) → Option ReadFault
  | [] => none
  | (_, e) :: rest => (e.readFault? scope).or (readFaultInFields? scope rest)

end

mutual

def depends (scope : Scope) : Expr → Bool
  | .var name => scope.lookup name == some none
  | .record entries => dependsInFields scope entries
  | .form _ parts => dependsIn scope parts
  | .apply _ operands => dependsIn scope operands
  | _ => false

def dependsIn (scope : Scope) : List Expr → Bool
  | [] => false
  | e :: rest => e.depends scope || dependsIn scope rest

def dependsInFields (scope : Scope) : List (String × Expr) → Bool
  | [] => false
  | (_, e) :: rest => e.depends scope || dependsInFields scope rest

end

def repeatFault? (what : Phrase.Keyed) (texts : List String) : Option Phrase.Fault :=
  (Phrase.firstRepeat? [] texts).map (.duplicate what)

mutual

def phraseFault? : Expr → Option Phrase.Fault
  | .labels texts => repeatFault? .label texts
  | .record entries =>
    (repeatFault? .recordKey (entries.map (·.1))).or (phraseFaultInFields? entries)
  | .phrase kind text =>
    match Phrase.ofText kind text with
    | .ok found => found.fault?
    | .error (.fault fault) => some fault
    | .error .notTokens => none
  | .form _ parts => phraseFaultIn? parts
  | .apply _ operands => phraseFaultIn? operands
  | _ => none

def phraseFaultIn? : List Expr → Option Phrase.Fault
  | [] => none
  | e :: rest => e.phraseFault?.or (phraseFaultIn? rest)

def phraseFaultInFields? : List (String × Expr) → Option Phrase.Fault
  | [] => none
  | (_, e) :: rest => e.phraseFault?.or (phraseFaultInFields? rest)

end

mutual

-- The type of an expression. All operands have to resolve, the ones that no rule looks at too.
def resolve? (scope : Scope) : Expr → Option Ty
  | .type t => some t
  | .var name => (scope.lookup name).join
  | .labels texts => some (LabelSet.ofTexts texts)
  | .record entries => (resolveFields? scope entries).map Record.ofTexts
  | .phrase kind text =>
    match Phrase.ofText kind text with
    | .ok found => found.resolve?
    | .error _ => none
  | .form former parts => (resolveAll? scope parts).bind former.build?
  | .apply operator operands => (resolveAll? scope operands).bind operator.result?
  | .hole => none

def resolveAll? (scope : Scope) : List Expr → Option (List Ty)
  | [] => some []
  | e :: rest => do
    let first ← e.resolve? scope
    let others ← resolveAll? scope rest
    return first :: others

def resolveFields? (scope : Scope) : List (String × Expr) → Option (List (String × Ty))
  | [] => some []
  | (key, e) :: rest => do
    let first ← e.resolve? scope
    let others ← resolveFields? scope rest
    return (key, first) :: others

end

-- A result, or the first of the four things that stand against it.
def judge {α : Type} (unreadable : Option ReadFault) (failed : Bool) (fault : Option Phrase.Fault)
    (result : Option α) : Except EvaluationFault α :=
  match unreadable, failed, fault, result with
  | some fault, _, _, _ => .error (.unreadable fault)
  | none, true, _, _ => .error .depends
  | none, false, some fault, _ => .error (.phrase fault)
  | none, false, none, some found => .ok found
  | none, false, none, none => .error .unsatisfied

def evaluate (scope : Scope) (e : Expr) : Except EvaluationFault Ty :=
  judge (e.readFault? scope) (e.depends scope) e.phraseFault? (e.resolve? scope)

end Expr

end TypeCalculus
