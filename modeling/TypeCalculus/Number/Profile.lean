import TypeCalculus.Number.Arithmetic
import TypeCalculus.Record.Basic
import TypeCalculus.Naming

namespace TypeCalculus.Number

structure Profile where
  value : Option Nat
  label : Option String
  size : Option Nat
  octets : Option (List Utf8.Octet)
  next : Option Ty
  prev : Option Ty
  isZero : Option Bool
  isOne : Option Bool
  up : Option Ty
  down : Option Ty
  stride : Option Stride

def Profile.of? (n : Int) : Option Profile :=
  let t := Ty.number n
  let label := Table.standard.label? t
  if -127 ≤ n ∧ n ≤ 127 then
    some {
      value := Table.standard.value? t
      label := label.bind Label.name?
      size := label.bind Label.size?
      octets := label.bind Label.octets?
      next := Table.standard.next? t
      prev := Table.standard.prev? t
      isZero := Table.standard.isZero? t
      isOne := Table.standard.isOne? t
      up := Table.standard.up? t
      down := Table.standard.down? t
      stride := Table.standard.stride? t }
  else none

def nearTable (n : Int) : Bool :=
  -1 ≤ n && n ≤ 64

-- What arithmetic says about two numbers, and what the record with the two numerals as its keys
-- holds.
structure PairProfile where
  sum : Option Nat
  difference : Option Nat
  equal : Option Bool
  keys : Option (List String)
  names : Option (List String)
  size : Option Nat

def pairRecord? (a b : Ty) : Option Ty := do
  let left ← Table.standard.label? a
  let right ← Table.standard.label? b
  return Record.ofFields [(left, a), (right, b)]

def PairProfile.of? (m n : Int) : Option PairProfile :=
  let a := Ty.number m
  let b := Ty.number n
  let fields := pairRecord? a b
  if nearTable m && nearTable n then
    some {
      sum := (Table.standard.add? a b).bind Table.standard.value?
      difference := (Table.standard.sub? a b).bind Table.standard.value?
      equal := Table.standard.equal? a b
      keys := (fields.bind Record.keys?).bind Naming.list?
      names := fields.bind Naming.list?
      size := fields.bind Record.size? }
  else none

-- Which laws hold of two numbers; a law whose sides do not both resolve does not hold.
structure Laws where
  same : Bool
  commutes : Bool
  undone : Bool

def agree (left right : Option Ty) : Bool :=
  left.isSome && left == right

def Laws.of? (m n : Int) : Option Laws :=
  let a := Ty.number m
  let b := Ty.number n
  if nearTable m && nearTable n then
    some {
      same := agree (some a) (some b)
      commutes := agree (Table.standard.add? a b) (Table.standard.add? b a)
      undone := agree ((Table.standard.sub? a b).bind (Table.standard.add? · b)) (some a) }
  else none

end TypeCalculus.Number
