namespace TypeCalculus

abbrev Nibble := Fin 16

inductive Stride where
  | halt
  | unit
  | leap
deriving DecidableEq, Repr

-- Ground types that a record may hold as they are; `stamp` stands for one that a user registered.
inductive Leaf where
  | bool
  | char
  | u8
  | u16
  | u32
  | u64
  | u128
  | usize
  | i8
  | i16
  | i32
  | i64
  | i128
  | isize
  | f32
  | f64
  | str
  | string
  | stamp
deriving DecidableEq, Repr

-- A type of the calculus. Nothing in the formers restricts their parts: a `cons` may end in a type
-- that is no list, and a `label` may hold a type that is no list of digits.
inductive Ty where
  | truth (value : Bool)
  | stride (step : Stride)
  | nibble (digit : Nibble)
  | leaf (kind : Leaf)
  | unregistered
  | number (value : Int)
  | nibbleNil
  | nibbleCons (head tail : Ty)
  | label (digits : Ty)
  | nil
  | cons (head tail : Ty)
  | field (key value : Ty)
  | both (left right : Ty)
  | optional (payload : Ty)
  | vector (element : Ty)
  | boxed (content : Ty)
  | tuple (elements : List Ty)

namespace Ty

-- Structural induction; the elements of a tuple count as its parts.
@[elab_as_elim, induction_eliminator]
theorem induct {motive : Ty → Prop}
    (truth : ∀ value, motive (.truth value))
    (stride : ∀ step, motive (.stride step))
    (nibble : ∀ digit, motive (.nibble digit))
    (leaf : ∀ kind, motive (.leaf kind))
    (unregistered : motive .unregistered)
    (number : ∀ value, motive (.number value))
    (nibbleNil : motive .nibbleNil)
    (nibbleCons : ∀ head tail, motive head → motive tail → motive (.nibbleCons head tail))
    (label : ∀ digits, motive digits → motive (.label digits))
    (nil : motive .nil)
    (cons : ∀ head tail, motive head → motive tail → motive (.cons head tail))
    (field : ∀ key value, motive key → motive value → motive (.field key value))
    (both : ∀ left right, motive left → motive right → motive (.both left right))
    (optional : ∀ payload, motive payload → motive (.optional payload))
    (vector : ∀ element, motive element → motive (.vector element))
    (boxed : ∀ content, motive content → motive (.boxed content))
    (tuple : ∀ elements, (∀ t ∈ elements, motive t) → motive (.tuple elements)) :
    ∀ t, motive t :=
  @Ty.rec motive (fun elements => ∀ t ∈ elements, motive t)
    truth stride nibble leaf unregistered number nibbleNil nibbleCons label nil cons field both
    optional vector boxed tuple
    (fun _ absent => nomatch absent)
    (fun _ _ headHolds tailHolds t member =>
      (List.mem_cons.mp member).elim (fun same => same ▸ headHolds) (tailHolds t))

mutual

def same : Ty → Ty → Bool
  | .truth a, .truth b => a == b
  | .stride a, .stride b => decide (a = b)
  | .nibble a, .nibble b => a == b
  | .leaf a, .leaf b => decide (a = b)
  | .unregistered, .unregistered => true
  | .number a, .number b => a == b
  | .nibbleNil, .nibbleNil => true
  | .nibbleCons a s, .nibbleCons b t => same a b && same s t
  | .label a, .label b => same a b
  | .nil, .nil => true
  | .cons a s, .cons b t => same a b && same s t
  | .field a v, .field b w => same a b && same v w
  | .both a v, .both b w => same a b && same v w
  | .optional a, .optional b => same a b
  | .vector a, .vector b => same a b
  | .boxed a, .boxed b => same a b
  | .tuple as, .tuple bs => sameAll as bs
  | _, _ => false

def sameAll : List Ty → List Ty → Bool
  | [], [] => true
  | a :: as, b :: bs => same a b && sameAll as bs
  | _, _ => false

end

theorem sameAll_iff {as bs : List Ty}
    (each : ∀ a ∈ as, ∀ b, same a b = true ↔ a = b) : sameAll as bs = true ↔ as = bs := by
  induction as generalizing bs with
  | nil => cases bs <;> simp [sameAll]
  | cons a as rest =>
    cases bs with
    | nil => simp [sameAll]
    | cons b bs =>
      simp [sameAll, each a (by simp) b, rest fun x member => each x (by simp [member])]

theorem same_iff {a b : Ty} : same a b = true ↔ a = b := by
  induction a generalizing b with
  | nibbleCons h t head tail => cases b <;> simp [same, head, tail]
  | label d digits => cases b <;> simp [same, digits]
  | cons h t head tail => cases b <;> simp [same, head, tail]
  | field k v key value => cases b <;> simp [same, key, value]
  | both l r left right => cases b <;> simp [same, left, right]
  | optional p payload => cases b <;> simp [same, payload]
  | vector e element => cases b <;> simp [same, element]
  | boxed c content => cases b <;> simp [same, content]
  | tuple es each =>
    cases b with
    | tuple fs => simpa [same] using sameAll_iff (fun a member b => each a member (b := b))
    | _ => simp [same]
  | _ => cases b <;> simp [same]

instance decEq : DecidableEq Ty := fun _ _ => decidable_of_iff _ same_iff

end Ty

end TypeCalculus
