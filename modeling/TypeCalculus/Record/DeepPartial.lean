import TypeCalculus.Record.Basic

namespace TypeCalculus.Record

def deepPartial? : Ty → Option Ty
  | .nil => some .nil
  | .cons (.field key value) tail => do
    let first ← deepPartial? value
    let rest ← deepPartial? tail
    return .cons (.field key (.optional first)) rest
  | .optional payload => (deepPartial? payload).map .optional
  | .leaf kind => some (.leaf kind)
  | .tuple [] => some (.tuple [])
  | .vector element => some (.vector element)
  | .boxed content => some (.boxed content)
  | .label digits => some (.label digits)
  | _ => none

end TypeCalculus.Record
