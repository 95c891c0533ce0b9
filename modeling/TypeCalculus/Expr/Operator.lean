import TypeCalculus.Number.Arithmetic
import TypeCalculus.Record.Combination
import TypeCalculus.Record.DeepPartial
import TypeCalculus.Sequence
import TypeCalculus.Truth

namespace TypeCalculus

open Number (Table)

inductive Former where
  | label
  | nibbleCons
  | cons
  | list
  | field
  | both
  | optional
  | vector
  | boxed
  | tuple
deriving DecidableEq, Repr

namespace Former

def build? : Former → List Ty → Option Ty
  | .label, [digits] => some (.label digits)
  | .nibbleCons, [head, tail] => some (.nibbleCons head tail)
  | .cons, [head, tail] => some (.cons head tail)
  | .list, elements => some (.ofList elements)
  | .field, [key, value] => some (.field key value)
  | .both, [left, right] => some (.both left right)
  | .optional, [payload] => some (.optional payload)
  | .vector, [element] => some (.vector element)
  | .boxed, [content] => some (.boxed content)
  | .tuple, elements => some (.tuple elements)
  | _, _ => none

end Former

inductive Operator where
  | choose
  | decide
  | not
  | and
  | or
  | xor
  | nand
  | lift (value : Bool)
  | digitsAgree
  | digitListsAgree
  | labelsAgree
  | concat
  | contains
  | diff
  | isEmpty
  | subset
  | sameLabels
  | drop
  | union
  | intersectSets
  | dedup
  | next
  | prev
  | isZero
  | isOne
  | numeral
  | up
  | down
  | stride
  | add
  | sub
  | addRound
  | subRound
  | sameNumber
  | length
  | toList
  | toLabels
  | keys
  | sharedKeys
  | diffKeys
  | allKeys
  | pick
  | omit
  | get
  | getStep
  | intersect
  | merge
  | overwrite
  | combine
  | combineLeft
  | combineField
  | deepPartial
deriving DecidableEq, Repr

namespace Operator

def arity : Operator → Nat
  | .lift _ => 0
  | .not | .isEmpty | .dedup | .next | .prev | .isZero | .isOne | .numeral | .up | .down | .stride
  | .length | .toList | .toLabels | .keys | .deepPartial => 1
  | .choose | .decide | .addRound | .subRound => 3
  | .getStep | .combineField => 4
  | _ => 2

def stride? : Ty → Option Stride
  | .stride step => some step
  | _ => none

def asType (outcome : Option Bool) : Option Ty :=
  outcome.map .truth

def result? : Operator → List Ty → Option Ty
  | .choose, [condition, yes, no] => Truth.choose? condition yes no
  | .decide, [condition, yes, no] => asType (Truth.decide? condition yes no)
  | .not, [a] => asType (Truth.not? a)
  | .and, [a, b] => asType (Truth.and? a b)
  | .or, [a, b] => asType (Truth.or? a b)
  | .xor, [a, b] => asType (Truth.xor? a b)
  | .nand, [a, b] => asType (Truth.nand? a b)
  | .lift value, [] => some (.truth value)
  | .digitsAgree, [a, b] => asType (Label.digitsAgree? a b)
  | .digitListsAgree, [a, b] => asType (Label.digitListsAgree? a b)
  | .labelsAgree, [a, b] => asType (Label.equal? a b)
  | .concat, [a, b] => Ty.concat? a b
  | .contains, [set, label] => asType (LabelSet.contains? set label)
  | .diff, [a, b] => LabelSet.diff? a b
  | .isEmpty, [a] => asType (LabelSet.isEmpty? a)
  | .subset, [a, b] => asType (LabelSet.subset? a b)
  | .sameLabels, [a, b] => asType (LabelSet.equal? a b)
  | .drop, [a, b] => LabelSet.drop? a b
  | .union, [a, b] => LabelSet.union? a b
  | .intersectSets, [a, b] => LabelSet.intersect? a b
  | .dedup, [a] => LabelSet.dedup? a
  | .next, [n] => Table.standard.next? n
  | .prev, [n] => Table.standard.prev? n
  | .isZero, [n] => asType (Table.standard.isZero? n)
  | .isOne, [n] => asType (Table.standard.isOne? n)
  | .numeral, [n] => Table.standard.label? n
  | .up, [n] => Table.standard.up? n
  | .down, [n] => Table.standard.down? n
  | .stride, [n] => (Table.standard.stride? n).map .stride
  | .add, [a, b] => Table.standard.add? a b
  | .sub, [a, b] => Table.standard.sub? a b
  | .addRound, [step, a, b] => (stride? step).bind fun step => Table.standard.addRound? step a b
  | .subRound, [step, a, b] => (stride? step).bind fun step => Table.standard.subRound? step a b
  | .sameNumber, [a, b] => asType (Table.standard.equal? a b)
  | .length, [t] => Sequence.length? t
  | .toList, [t] => Sequence.toList? t
  | .toLabels, [t] => Sequence.labels? t
  | .keys, [t] => Record.keys? t
  | .sharedKeys, [t, u] => Record.sharedKeys? t u
  | .diffKeys, [t, u] => Record.diffKeys? t u
  | .allKeys, [t, u] => Record.allKeys? t u
  | .pick, [t, chosen] => Record.pick? t chosen
  | .omit, [t, dropped] => Record.omit? t dropped
  | .get, [t, key] => Record.get? t key
  | .getStep, [found, value, tail, key] => Record.getStep? found value tail key
  | .intersect, [t, u] => Record.intersect? t u
  | .merge, [t, u] => Record.merge? t u
  | .overwrite, [t, u] => Record.overwrite? t u
  | .combine, [t, u] => Record.combine? t u
  | .combineLeft, [t, u] => Record.combineLeft? t u
  | .combineField, [shared, key, value, other] => Record.combineField? shared key value other
  | .deepPartial, [t] => Record.deepPartial? t
  | _, _ => none

end Operator

end TypeCalculus
