import TypeCalculus.Proofs.Rows

namespace TypeCalculus.Record

def fieldsThen (fields : List (Ty × Ty)) (rest : Ty) : Ty :=
  fields.foldr (fun f tail => .cons (.field f.1 f.2) tail) rest

theorem fieldsThen_cons (f : Ty × Ty) (fields : List (Ty × Ty)) (rest : Ty) :
    fieldsThen (f :: fields) rest = .cons (.field f.1 f.2) (fieldsThen fields rest) :=
  rfl

theorem get?_fieldsThen {before : List (Ty × Ty)} {wanted : Ty}
    (differ : ∀ f ∈ before, Label.equal? f.1 wanted = some false) (rest : Ty) :
    get? (fieldsThen before rest) wanted = get? rest wanted := by
  induction before with
  | nil => rfl
  | cons f before ih =>
    obtain ⟨first, others⟩ := List.forall_mem_cons.mp differ
    rw [fieldsThen_cons, get?_later first, ih others]

theorem get?_eq_some_iff {t wanted value : Ty} :
    get? t wanted = some value ↔
      ∃ (before : List (Ty × Ty)) (key tail : Ty),
        t = fieldsThen before (.cons (.field key value) tail) ∧
        (∀ f ∈ before, Label.equal? f.1 wanted = some false) ∧
        Label.equal? key wanted = some true := by
  constructor
  · intro found
    induction t with
    | cons head tail _ searched =>
      cases head with
      | field key first =>
        cases compared : Label.equal? key wanted with
        | none => rw [get?_cons, compared] at found; cases found
        | some equal =>
          cases equal with
          | true =>
            rw [get?_here compared] at found
            cases found
            exact ⟨[], key, tail, rfl, by simp, compared⟩
          | false =>
            rw [get?_later compared] at found
            obtain ⟨before, last, rest, rfl, differ, equal⟩ := searched found
            exact ⟨(key, first) :: before, last, rest, rfl,
              List.forall_mem_cons.mpr ⟨compared, differ⟩, equal⟩
      | _ => cases found
    | _ => cases found
  · intro placed
    obtain ⟨before, key, tail, rfl, differ, equal⟩ := placed
    rw [get?_fieldsThen differ, get?_here equal]

-- A key before the wanted one may be incomparable with it, or equal to it: then both lookups fail,
-- or end there.
theorem get?_tail {key wanted : Ty} (equal : Label.equal? key wanted = some true)
    (before : List (Ty × Ty)) (value tail other : Ty) :
    get? (fieldsThen before (.cons (.field key value) tail)) wanted =
      get? (fieldsThen before (.cons (.field key value) other)) wanted := by
  induction before with
  | nil => simp only [fieldsThen, List.foldr_nil, get?_here equal]
  | cons f before rest =>
    rw [fieldsThen_cons, fieldsThen_cons, get?_cons, get?_cons]
    cases Label.equal? f.1 wanted with
    | none => rfl
    | some found =>
      cases found with
      | true => rfl
      | false => exact rest

theorem get?_stops_at_first :
    (∀ t wanted value : Ty, get? t wanted = some value ↔
      ∃ (before : List (Ty × Ty)) (key tail : Ty),
        t = fieldsThen before (.cons (.field key value) tail) ∧
        (∀ f ∈ before, Label.equal? f.1 wanted = some false) ∧
        Label.equal? key wanted = some true) ∧
    (∀ (before : List (Ty × Ty)) (key value wanted : Ty), Label.equal? key wanted = some true →
      ∀ tail other : Ty, get? (fieldsThen before (.cons (.field key value) tail)) wanted =
        get? (fieldsThen before (.cons (.field key value) other)) wanted) ∧
    ∀ (rows : Rows) (key : Key), (get? (ofRows rows) key.ty).isSome ↔
      (do LabelSet.contains? (← keys? (ofRows rows)) key.ty) = some true := by
  refine ⟨fun _ _ _ => get?_eq_some_iff, ?_, ?_⟩
  · intro before key value wanted equal tail other
    exact get?_tail equal before value tail other
  · intro rows key
    rw [get?_ofRows, Rows.lookup_isSome_iff, keys?_ofRows, Option.bind_eq_bind, Option.bind_some,
      LabelSet.contains?_ofKeys, Option.some.injEq, decide_eq_true_eq]

-- The first key is no label, but it is longer than the wanted one, which is all that is looked at;
-- after the field with the wanted key there is no list at all.
theorem get?_stops_at_first_no_record :
    Label.equal? (Label.ofText "a") (Label.ofText "a") = some true ∧
    get? (fieldsThen [(.label (.nibbleCons (.nibble 6) (.nibbleCons (.nibble 1)
        (.nibbleCons .nil .nil))), .nil)]
      (.cons (.field (Label.ofText "a") (.leaf .u8)) .unregistered)) (Label.ofText "a") =
        some (.leaf .u8) ∧
    get? (fieldsThen [(.label (.nibbleCons (.nibble 6) (.nibbleCons (.nibble 1)
        (.nibbleCons .nil .nil))), .nil)]
      (.cons (.field (Label.ofText "a") (.leaf .u8)) .nil)) (Label.ofText "a") =
        some (.leaf .u8) := by
  obtain ⟨found, tails, _⟩ := get?_stops_at_first
  have equal : Label.equal? (Label.ofText "a") (Label.ofText "a") = some true := by decide
  have first := (found (fieldsThen [(.label (.nibbleCons (.nibble 6) (.nibbleCons (.nibble 1)
        (.nibbleCons .nil .nil))), .nil)]
      (.cons (.field (Label.ofText "a") (.leaf .u8)) .unregistered)) _ _).mpr
    ⟨_, _, _, rfl, by decide, equal⟩
  exact ⟨equal, first, (tails _ _ _ _ equal _ _).symm.trans first⟩

end TypeCalculus.Record
