import TypeCalculus.Query

namespace TypeCalculus

namespace Script

inductive Action where
  | evaluate (e : Expr)
  | ask (query : Query) (es : List Expr)
  | unreadable

structure Step where
  name : Option String
  action : Action

inductive Outcome where
  | type (t : Ty)
  | value (answer : Answer)
  | fault (fault : EvaluationFault)

def Action.outcome (scope : Scope) : Action → Outcome
  | .evaluate e =>
    match e.evaluate scope with
    | .ok t => .type t
    | .error fault => .fault fault
  | .ask query es =>
    match query.evaluate scope es with
    | .ok answer => .value answer
    | .error fault => .fault fault
  | .unreadable => .fault (.unreadable .malformed)

def Outcome.type? : Outcome → Option Ty
  | .type t => some t
  | _ => none

def Step.bind (step : Step) (outcome : Outcome) (scope : Scope) : Scope :=
  match step.name with
  | some name => (name, outcome.type?) :: scope
  | none => scope

def runFrom (scope : Scope) : List Step → List Outcome
  | [] => []
  | step :: rest =>
    let outcome := step.action.outcome scope
    outcome :: runFrom (step.bind outcome scope) rest

def run (steps : List Step) : List Outcome :=
  runFrom [] steps

end Script

end TypeCalculus
