import TypeCalculus.Ty.Name
import TypeCalculus.Ty.Spine
import TypeCalculus.Label.Basic

namespace TypeCalculus

inductive Written where
  | name (text : String)
  | number (value : Int)
  | labelText (text : String)
  | label (digits : Written)
  | digits (digits : List Nibble)
  | digitLink (head tail : Written)
  | list (elements : List Written)
  | link (head tail : Written)
  | field (key value : Written)
  | both (left right : Written)
  | optional (payload : Written)
  | vector (element : Written)
  | boxed (content : Written)
  | tuple (elements : List Written)
deriving Repr

-- A list with an element in front; in front of anything else, a link.
def Written.push (head : Written) : Written → Written
  | .list elements => .list (head :: elements)
  | tail => .link head tail

namespace Ty

mutual

def written : Ty → Written
  | .truth value => .name (truthName value)
  | .stride step => .name step.name
  | .nibble digit => .name digit.name
  | .leaf kind => .name kind.name
  | .unregistered => .name "Opaque"
  | .number value => .number value
  | .nibbleNil => .digits []
  | .nibbleCons head tail =>
    match Label.digits? (.nibbleCons head tail) with
    | some digits => .digits digits
    | none => .digitLink head.written tail.written
  | .label digits =>
    match Label.text? (.label digits) with
    | some text => .labelText text
    | none => .label digits.written
  | .nil => .list []
  | .cons head tail => head.written.push tail.written
  | .field key value => .field key.written value.written
  | .both left right => .both left.written right.written
  | .optional payload => .optional payload.written
  | .vector element => .vector element.written
  | .boxed content => .boxed content.written
  | .tuple elements => .tuple (writtenAll elements)

def writtenAll : List Ty → List Written
  | [] => []
  | t :: ts => t.written :: writtenAll ts

end

end Ty

end TypeCalculus
