import TypeCalculus.Ty.Basic

namespace TypeCalculus.Ty

def ofList : List Ty → Ty
  | [] => .nil
  | t :: ts => .cons t (ofList ts)

def elements? : Ty → Option (List Ty)
  | .nil => some []
  | .cons head tail => tail.elements?.map (head :: ·)
  | _ => none

def concat? : Ty → Ty → Option Ty
  | .nil, other => some other
  | .cons head tail, other => (concat? tail other).map (.cons head)
  | _, _ => none

theorem elements?_ofList (ts : List Ty) : (ofList ts).elements? = some ts := by
  induction ts with
  | nil => rfl
  | cons t ts rest => simp [ofList, elements?, rest]

theorem ofList_injective {ts us : List Ty} (written : ofList ts = ofList us) : ts = us := by
  simpa [elements?_ofList] using congrArg elements? written

theorem concat?_ofList (ts : List Ty) (other : Ty) :
    concat? (ofList ts) other = some (ts.foldr .cons other) := by
  induction ts with
  | nil => rfl
  | cons t ts rest => simp [ofList, concat?, rest]

theorem foldr_cons_ofList (ts us : List Ty) : ts.foldr .cons (ofList us) = ofList (ts ++ us) := by
  induction ts with
  | nil => rfl
  | cons t ts rest => simp [ofList, rest]

-- A chain is a list only if what follows its elements is one.
theorem elements?_foldr_cons {last : Ty} (noList : last.elements? = none) (front : List Ty) :
    (front.foldr .cons last).elements? = none := by
  induction front with
  | nil => exact noList
  | cons t front rest => rw [List.foldr_cons, elements?, rest, Option.map_none]

end TypeCalculus.Ty
