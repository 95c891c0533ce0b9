import TypeCalculus.Ty.Basic

namespace TypeCalculus

def Nibble.name (digit : Nibble) : String :=
  String.ofList ['X', "0123456789ABCDEF".toList.getD digit.val '0']

def Stride.name : Stride → String
  | .halt => "Halt"
  | .unit => "Unit"
  | .leap => "Leap"

def Leaf.name : Leaf → String
  | .bool => "bool"
  | .char => "char"
  | .u8 => "u8"
  | .u16 => "u16"
  | .u32 => "u32"
  | .u64 => "u64"
  | .u128 => "u128"
  | .usize => "usize"
  | .i8 => "i8"
  | .i16 => "i16"
  | .i32 => "i32"
  | .i64 => "i64"
  | .i128 => "i128"
  | .isize => "isize"
  | .f32 => "f32"
  | .f64 => "f64"
  | .str => "&str"
  | .string => "String"
  | .stamp => "Stamp"

def Leaf.all : List Leaf :=
  [.bool, .char, .u8, .u16, .u32, .u64, .u128, .usize, .i8, .i16, .i32, .i64, .i128, .isize, .f32,
    .f64, .str, .string, .stamp]

namespace Ty

def truthName (value : Bool) : String :=
  if value then "True" else "False"

def named : List (String × Ty) :=
  [true, false].map (fun value => (truthName value, .truth value)) ++
    [.halt, .unit, .leap].map (fun step => (Stride.name step, .stride step)) ++
    (List.finRange 16).map (fun digit => (Nibble.name digit, .nibble digit)) ++
    Leaf.all.map (fun kind => (kind.name, .leaf kind)) ++
    [("Opaque", .unregistered), ("HNil", .nil), ("NNil", .nibbleNil)]

def ofName? (name : String) : Option Ty :=
  named.lookup name

-- The type of a short name of a number: an underscore and the numeral, up to 63.
def ofShortName? (name : String) : Option Ty :=
  ((List.range 64).find? fun n => name == "_" ++ n.repr).map fun n => .number n

def markerName? : Ty → Option String
  | .truth value => some (truthName value)
  | .stride step => some step.name
  | .nibble digit => some digit.name
  | .nil => some "HNil"
  | .nibbleNil => some "NNil"
  | .number _ => some "Nat"
  | _ => none

example : named.all (fun entry => ofName? entry.1 == some entry.2) := by decide

end Ty

-- What the value of a marker shows: its text, the outcomes of comparing two such values and a value
-- with its copy, and the octets that it feeds to a hash.
structure MarkerFacts where
  shown : String
  equal : Bool
  unequal : Bool
  equalsCopy : Bool
  hashed : List Nat
deriving DecidableEq, Repr

def Ty.markerFacts? (t : Ty) : Option MarkerFacts :=
  t.markerName?.map fun name => ⟨name, true, false, true, []⟩

end TypeCalculus
