import TypeCalculus.Number.Table
import TypeCalculus.LabelSet

namespace TypeCalculus.Sequence

open Number (Table)

def maxTuple : Nat := 12

def length? : Ty → Option Ty
  | .nil => some (.number 0)
  | .cons _ tail => do Table.standard.next? (← length? tail)
  | .tuple elements => if elements.length ≤ maxTuple then some (.number elements.length) else none
  | _ => none

-- A sequence as a list. What begins as a list is left as it is, whatever it ends in.
def toList? : Ty → Option Ty
  | .nil => some .nil
  | .cons head tail => some (.cons head tail)
  | .tuple elements => if elements.length ≤ maxTuple then some (.ofList elements) else none
  | _ => none

def labels? (t : Ty) : Option Ty := do
  LabelSet.dedup? (← toList? t)

end TypeCalculus.Sequence
