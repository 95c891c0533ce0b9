import TypeCalculus.Ty.Basic

namespace TypeCalculus.Truth

def value? : Ty → Option Bool
  | .truth value => some value
  | _ => none

def choose? (condition yes no : Ty) : Option Ty := do
  return if ← value? condition then yes else no

def decide? (condition yes no : Ty) : Option Bool := do
  let chosen ← value? condition
  let yes ← value? yes
  let no ← value? no
  return if chosen then yes else no

def not? (a : Ty) : Option Bool := do
  return !(← value? a)

def and? (a b : Ty) : Option Bool := do
  let left ← value? a
  let right ← value? b
  return left && right

def or? (a b : Ty) : Option Bool := do
  let left ← value? a
  let right ← value? b
  return left || right

def xor? (a b : Ty) : Option Bool := do
  let left ← value? a
  let right ← value? b
  return left ^^ right

def nand? (a b : Ty) : Option Bool := do
  let left ← value? a
  let right ← value? b
  return !(left && right)

end TypeCalculus.Truth
