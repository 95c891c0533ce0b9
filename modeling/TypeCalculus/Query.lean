import TypeCalculus.Expr.Basic
import TypeCalculus.Naming

namespace TypeCalculus

inductive Query where
  | truthValue
  | numberValue
  | digitValue
  | digitCount
  | digits
  | labelSize
  | labelOctets
  | labelName
  | recordSize
  | itemName
  | names
  | same
  | holds
  | fails
  | marker
  | markerFacts
deriving DecidableEq, Repr

inductive Answer where
  | truth (value : Bool)
  | count (value : Nat)
  | counts (values : List Nat)
  | text (value : String)
  | texts (values : List String)
  | facts (facts : MarkerFacts)
deriving DecidableEq, Repr

namespace Query

def arity : Query → Nat
  | .same => 2
  | _ => 1

def provided (condition : Bool) : Option Answer :=
  if condition then some (.truth true) else none

def answer? : Query → List Ty → Option Answer
  | .truthValue, [t] => (Truth.value? t).map .truth
  | .numberValue, [t] => (Number.Table.standard.value? t).map .count
  | .digitValue, [t] => (Label.digit? t).map fun digit => .count digit.val
  | .digitCount, [t] => (Label.digitCount? t).map .count
  | .digits, [t] => (Label.digits? t).map fun digits => .counts (digits.map (·.val))
  | .labelSize, [t] => (Label.size? t).map .count
  | .labelOctets, [t] => (Label.octets? t).map fun octets => .counts (octets.map (·.toNat))
  | .labelName, [t] => (Label.name? t).map .text
  | .recordSize, [t] => (Record.size? t).map .count
  | .itemName, [t] => (Naming.item? t).map .text
  | .names, [t] => (Naming.list? t).map .texts
  | .same, [t, u] => provided (t == u)
  | .holds, [t] => provided (t == .truth true)
  | .fails, [t] => provided (t == .truth false)
  | .marker, [t] => t.markerName?.map .text
  | .markerFacts, [t] => t.markerFacts?.map .facts
  | _, _ => none

-- The value of a query about expressions. A wrong number of them is found after they were read.
def evaluate (scope : Scope) (query : Query) (es : List Expr) : Except EvaluationFault Answer :=
  let unreadable := (Expr.readFaultIn? scope es).or
    (if es.length = query.arity then none else some .malformed)
  Expr.judge unreadable (Expr.dependsIn scope es) (Expr.phraseFaultIn? es)
    ((Expr.resolveAll? scope es).bind query.answer?)

end Query

end TypeCalculus
