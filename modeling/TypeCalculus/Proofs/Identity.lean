import TypeCalculus.Proofs.Encoding

namespace TypeCalculus.Label

theorem digitsAgree?_comm (a b : Ty) : digitsAgree? a b = digitsAgree? b a := by
  unfold digitsAgree?
  cases digit? a with
  | none => cases digit? b <;> rfl
  | some d =>
    cases digit? b with
    | none => rfl
    | some e => exact congrArg some BEq.comm

theorem digitListsAgree?_comm (a b : Ty) : digitListsAgree? a b = digitListsAgree? b a := by
  induction a generalizing b with
  | nibbleCons a as _ rest =>
    cases b with
    | nibbleCons b bs => rw [digitListsAgree?, digitListsAgree?, digitsAgree?_comm, rest]
    | _ => rfl
  | _ => cases b <;> rfl

theorem equal?_comm (a b : Ty) : equal? a b = equal? b a := by
  cases a with
  | label a =>
    cases b with
    | label b => exact digitListsAgree?_comm a b
    | _ => rfl
  | _ => cases b <;> rfl

theorem digitsAgree?_eq_some {a b : Ty} {found : Bool} (resolved : digitsAgree? a b = some found) :
    found = true ↔ a = b := by
  cases a with
  | nibble digit =>
    cases b with
    | nibble other =>
      cases resolved
      rw [beq_iff_eq, Ty.nibble.injEq]
    | _ => cases resolved
  | _ => cases resolved

-- Chains of different lengths are told apart where the shorter one ends, unread past that.
theorem digitListsAgree?_eq_some {a b : Ty} {found : Bool}
    (resolved : digitListsAgree? a b = some found) : found = true ↔ a = b := by
  induction a generalizing b found with
  | nibbleNil => cases b <;> simp_all [digitListsAgree?]
  | nibbleCons a as _ rest =>
    cases b with
    | nibbleNil => simp_all [digitListsAgree?]
    | nibbleCons b bs =>
      simp only [digitListsAgree?, Option.bind_eq_bind, Option.bind_eq_some_iff] at resolved
      obtain ⟨first, compared, later, searched, same⟩ := resolved
      cases same
      rw [Bool.and_eq_true, digitsAgree?_eq_some compared, rest searched, Ty.nibbleCons.injEq]
    | _ => cases resolved
  | _ => cases resolved

theorem equal?_eq_some {a b : Ty} {found : Bool} (resolved : equal? a b = some found) :
    found = true ↔ a = b := by
  cases a with
  | label digits =>
    cases b with
    | label others => rw [digitListsAgree?_eq_some resolved, Ty.label.injEq]
    | _ => cases resolved
  | _ => cases resolved

def digitsThen (ds : List Nibble) (rest : Ty) : Ty :=
  ds.foldr (fun d tail => .nibbleCons (.nibble d) tail) rest

inductive Stop : Ty → Ty → Prop
  | both : Stop .nibbleNil .nibbleNil
  | left (head tail : Ty) : Stop .nibbleNil (.nibbleCons head tail)
  | right (head tail : Ty) : Stop (.nibbleCons head tail) .nibbleNil

theorem digitsThen_cons (d : Nibble) (ds : List Nibble) (rest : Ty) :
    digitsThen (d :: ds) rest = .nibbleCons (.nibble d) (digitsThen ds rest) :=
  rfl

theorem digitsAgree?_isSome_iff {a b : Ty} :
    (digitsAgree? a b).isSome ↔ ∃ d e, a = .nibble d ∧ b = .nibble e := by
  cases a <;> cases b <;> simp [digitsAgree?, digit?]

theorem digitListsAgree?_digitsThen {ds es : List Nibble} {s t : Ty}
    (aligned : ds.length = es.length) (stop : Stop s t) :
    (digitListsAgree? (digitsThen ds s) (digitsThen es t)).isSome := by
  induction ds generalizing es with
  | nil =>
    cases es with
    | nil => cases stop <;> rfl
    | cons e es => cases aligned
  | cons d ds rest =>
    cases es with
    | nil => cases aligned
    | cons e es =>
      obtain ⟨found, searched⟩ := Option.isSome_iff_exists.mp (rest (Nat.succ.inj aligned))
      rw [digitsThen_cons, digitsThen_cons, digitListsAgree?, searched]
      rfl

theorem digitListsAgree?_isSome_iff {a b : Ty} :
    (digitListsAgree? a b).isSome ↔
      ∃ (ds es : List Nibble) (s t : Ty), ds.length = es.length ∧
        a = digitsThen ds s ∧ b = digitsThen es t ∧ Stop s t := by
  constructor
  · intro resolved
    induction a generalizing b with
    | nibbleNil =>
      cases b with
      | nibbleNil => exact ⟨[], [], _, _, rfl, rfl, rfl, .both⟩
      | nibbleCons head tail => exact ⟨[], [], _, _, rfl, rfl, rfl, .left head tail⟩
      | _ => cases resolved
    | nibbleCons a as _ rest =>
      cases b with
      | nibbleNil => exact ⟨[], [], _, _, rfl, rfl, rfl, .right a as⟩
      | nibbleCons b bs =>
        obtain ⟨found, answered⟩ := Option.isSome_iff_exists.mp resolved
        simp only [digitListsAgree?, Option.bind_eq_bind, Option.bind_eq_some_iff] at answered
        obtain ⟨_, first, _, others, _⟩ := answered
        obtain ⟨d, e, rfl, rfl⟩ := digitsAgree?_isSome_iff.mp (Option.isSome_of_eq_some first)
        obtain ⟨ds, es, s, t, aligned, rfl, rfl, stop⟩ := rest (Option.isSome_of_eq_some others)
        exact ⟨d :: ds, e :: es, s, t, congrArg Nat.succ aligned, rfl, rfl, stop⟩
      | _ => cases resolved
    | _ => cases resolved
  · intro stopping
    obtain ⟨ds, es, s, t, aligned, rfl, rfl, stop⟩ := stopping
    exact digitListsAgree?_digitsThen aligned stop

theorem equal?_isSome_iff {a b : Ty} :
    (equal? a b).isSome ↔
      ∃ (ds es : List Nibble) (s t : Ty), ds.length = es.length ∧
        a = .label (digitsThen ds s) ∧ b = .label (digitsThen es t) ∧ Stop s t := by
  constructor
  · intro resolved
    cases a with
    | label digits =>
      cases b with
      | label others =>
        obtain ⟨ds, es, s, t, aligned, rfl, rfl, stop⟩ := digitListsAgree?_isSome_iff.mp resolved
        exact ⟨ds, es, s, t, aligned, rfl, rfl, stop⟩
      | _ => cases resolved
    | _ => cases resolved
  · intro stopping
    obtain ⟨ds, es, s, t, aligned, rfl, rfl, stop⟩ := stopping
    exact digitListsAgree?_digitsThen aligned stop

theorem exists_of_digitListsAgree?_self {t : Ty} {found : Bool}
    (resolved : digitListsAgree? t t = some found) : ∃ ds, t = ofDigits ds := by
  induction t generalizing found with
  | nibbleNil => exact ⟨[], rfl⟩
  | nibbleCons head tail _ ended =>
    simp only [digitListsAgree?, Option.bind_eq_bind, Option.bind_eq_some_iff] at resolved
    obtain ⟨_, first, _, others, _⟩ := resolved
    obtain ⟨ds, rfl⟩ := ended others
    cases head with
    | nibble digit => exact ⟨digit :: ds, rfl⟩
    | _ => cases first
  | _ => cases resolved

theorem equal?_self_isSome_iff {t : Ty} : (equal? t t).isSome ↔ IsLabel t := by
  constructor
  · intro compared
    obtain ⟨found, resolved⟩ := Option.isSome_iff_exists.mp compared
    cases t with
    | label digits =>
      obtain ⟨ds, rfl⟩ := exists_of_digitListsAgree?_self resolved
      exact ⟨ds, rfl⟩
    | _ => cases resolved
  · intro one
    rw [equal?_of_isLabel one one, Option.isSome_some]

theorem equal?_ofText (s t : String) :
    equal? (ofText s) (ofText t) = some (decide (s = t)) := by
  rw [equal?_of_isLabel (isLabel_ofText s) (isLabel_ofText t)]
  simp only [ofText_injective.eq_iff]

theorem equal?_decides_identity :
    (∀ a b : Ty, equal? a b = equal? b a) ∧
    (∀ a b : Ty, (equal? a b).isSome ↔
      ∃ (ds es : List Nibble) (s t : Ty), ds.length = es.length ∧
        a = .label (digitsThen ds s) ∧ b = .label (digitsThen es t) ∧ Stop s t) ∧
    (∀ a b : Ty, equal? a b = some true → a = b) ∧
    (∀ a b : Ty, equal? a b = some false → a ≠ b) ∧
    (∀ ds es : List Nibble,
      equal? (.label (ofDigits ds)) (.label (ofDigits es)) = some (decide (ds = es))) ∧
    ∀ s t : String, equal? (ofText s) (ofText t) = some true ↔ s = t := by
  refine ⟨equal?_comm, fun _ _ => equal?_isSome_iff, ?_, ?_, digitListsAgree?_ofDigits, ?_⟩
  · intro a b resolved
    exact (equal?_eq_some resolved).mp rfl
  · intro a b resolved same
    exact Bool.false_ne_true ((equal?_eq_some resolved).mpr same)
  · intro s t
    rw [equal?_ofText, Option.some.injEq, decide_eq_true_eq]

-- The second type is no label: past its first digit it holds none, and it does not end. It differs
-- from the label of one digit where that one ends.
theorem equal?_decides_identity_no_label :
    equal? (.label (ofDigits [6])) (.label (digitsThen [6] (.nibbleCons .unregistered .nil))) =
      some false ∧
    Ty.label (ofDigits [6]) ≠ .label (digitsThen [6] (.nibbleCons .unregistered .nil)) ∧
    equal? (ofText "é") (ofText "é") = some true ∧ ofText "é" = ofText "é" := by
  obtain ⟨_, _, same, differ, _, texts⟩ := equal?_decides_identity
  have apart : equal? (.label (ofDigits [6]))
      (.label (digitsThen [6] (.nibbleCons .unregistered .nil))) = some false := by decide
  have equal : equal? (ofText "é") (ofText "é") = some true := (texts "é" "é").mpr rfl
  exact ⟨apart, differ _ _ apart, equal, same _ _ equal⟩

end TypeCalculus.Label
