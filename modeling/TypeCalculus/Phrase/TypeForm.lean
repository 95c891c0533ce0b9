import TypeCalculus.Phrase.Fault
import TypeCalculus.LabelSet
import TypeCalculus.Record.Basic
import TypeCalculus.Ty.Name

namespace TypeCalculus.Phrase

-- Not all types of the language have a form here: function types, pointers, `dyn`, `impl`, `for`,
-- qualified paths and bindings of associated types are missing. A record is read with any
-- `TypeReader`, of which the one for these forms is an instance.
inductive TypeForm where
  | named (path : List String) (arguments : List TypeForm)
  | tuple (elements : List TypeForm)
  | parenthesized (inner : TypeForm)
  | reference (lifetime : Option String) (mutable : Bool) (target : TypeForm)
  | slice (element : TypeForm)
  | array (element : TypeForm)
  | never
  | inferred
  | number (value : Int)
  | constant
  | label (text : String)
  | labels (texts : List String)
  | record (fields : List (String × TypeForm))
  | list (elements : List TypeForm)
  | unknownCall
  | faulty (fault : Fault)
  -- A form read from a group that holds more tokens.
  | surplus (within : Delimiter) (form : TypeForm)

namespace TypeForm

mutual

-- The delimiter of the first group to be left with tokens in it; of nested groups the inner one is
-- left first.
def surplus? : TypeForm → Option Delimiter
  | .named _ arguments => surplusIn? arguments
  | .tuple elements => surplusIn? elements
  | .parenthesized inner => inner.surplus?
  | .reference _ _ target => target.surplus?
  | .slice element => element.surplus?
  | .array element => element.surplus?
  | .surplus within form => form.surplus?.or (some within)
  | _ => none

def surplusIn? : List TypeForm → Option Delimiter
  | [] => none
  | form :: rest => form.surplus?.or (surplusIn? rest)

end

mutual

def fault? : TypeForm → Option Fault
  | .named _ arguments => faultIn? arguments
  | .tuple elements => faultIn? elements
  | .parenthesized inner => inner.fault?
  | .reference _ _ target => target.fault?
  | .slice element => element.fault?
  | .array element => element.fault?
  | .record fields => faultInFields? fields
  | .list elements => faultIn? elements
  | .faulty fault => some fault
  | .surplus _ form => form.fault?
  | _ => none

def faultIn? : List TypeForm → Option Fault
  | [] => none
  | form :: rest => form.fault?.or (faultIn? rest)

def faultInFields? : List (String × TypeForm) → Option Fault
  | [] => none
  | (_, form) :: rest => form.fault?.or (faultInFields? rest)

end

def ofPath? : List String → List Ty → Option Ty
  | ["Vec"], [element] => some (.vector element)
  | ["Box"], [content] => some (.boxed content)
  | ["Option"], [payload] => some (.optional payload)
  | ["Both"], [left, right] => some (.both left right)
  | ["HCons"], [head, tail] => some (.cons head tail)
  | [name], [] => Ty.ofName? name
  | _, _ => none

mutual

def resolve? : TypeForm → Option Ty
  | .named ["Nat"] [.number value] =>
    if -128 ≤ value ∧ value ≤ 127 then some (.number value) else none
  | .named path arguments => (resolveAll? arguments).bind (ofPath? path)
  | .tuple elements => (resolveAll? elements).map .tuple
  | .parenthesized inner => inner.resolve?
  | .reference (some "static") false (.named ["str"] []) => some (.leaf .str)
  | .label text => some (Label.ofText text)
  | .labels texts => some (LabelSet.ofTexts texts)
  | .record fields => (resolveFields? fields).map Record.ofTexts
  | .list elements => (resolveAll? elements).map Ty.ofList
  | _ => none

def resolveAll? : List TypeForm → Option (List Ty)
  | [] => some []
  | form :: rest => do
    let first ← form.resolve?
    let others ← resolveAll? rest
    return first :: others

def resolveFields? : List (String × TypeForm) → Option (List (String × Ty))
  | [] => some []
  | (key, form) :: rest => do
    let first ← form.resolve?
    let others ← resolveFields? rest
    return (key, first) :: others

end

end TypeForm

end TypeCalculus.Phrase
