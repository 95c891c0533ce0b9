import TypeCalculus.Record.Basic

namespace TypeCalculus.Naming

def item? : Ty → Option String
  | .field key _ => Label.name? key
  | t => Label.name? t

def list? : Ty → Option (List String)
  | .nil => some []
  | .cons head tail => do
    let first ← item? head
    let rest ← list? tail
    return first :: rest
  | _ => none

end TypeCalculus.Naming
