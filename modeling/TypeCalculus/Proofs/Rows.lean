import Mathlib.Data.List.Nodup
import TypeCalculus.Proofs.Keys
import TypeCalculus.Record.DeepPartial
import TypeCalculus.Record.Selection

namespace TypeCalculus.Record

abbrev Rows := List (Key × Ty)

namespace Rows

def keys (rows : Rows) : List Key :=
  rows.map Prod.fst

def only (rows : Rows) (chosen : List Key) : Rows :=
  rows.filter fun row => row.1 ∈ chosen

def without (rows : Rows) (dropped : List Key) : Rows :=
  rows.filter fun row => row.1 ∉ dropped

@[simp] theorem keys_nil : keys [] = [] :=
  rfl

@[simp] theorem keys_cons (row : Key × Ty) (rows : Rows) : keys (row :: rows) = row.1 :: keys rows :=
  rfl

@[simp] theorem keys_append (t u : Rows) : keys (t ++ u) = keys t ++ keys u :=
  List.map_append

theorem key_mem {rows : Rows} {row : Key × Ty} (member : row ∈ rows) : row.1 ∈ rows.keys :=
  List.mem_map_of_mem member

theorem keys_only (rows : Rows) (chosen : List Key) :
    (rows.only chosen).keys = rows.keys.filter fun key => key ∈ chosen := by
  simp [keys, only, List.filter_map, Function.comp_def]

theorem keys_without (rows : Rows) (dropped : List Key) :
    (rows.without dropped).keys = rows.keys.filter fun key => key ∉ dropped := by
  simp [keys, without, List.filter_map, Function.comp_def]

theorem mem_keys_only {rows : Rows} {chosen : List Key} {key : Key} :
    key ∈ (rows.only chosen).keys ↔ key ∈ rows.keys ∧ key ∈ chosen := by
  simp [keys_only]

theorem mem_keys_without {rows : Rows} {dropped : List Key} {key : Key} :
    key ∈ (rows.without dropped).keys ↔ key ∈ rows.keys ∧ key ∉ dropped := by
  simp [keys_without]

theorem nodup_keys_only {rows : Rows} {chosen : List Key} (distinct : rows.keys.Nodup) :
    (rows.only chosen).keys.Nodup := by
  rw [keys_only]
  exact distinct.filter _

theorem nodup_keys_without {rows : Rows} {dropped : List Key} (distinct : rows.keys.Nodup) :
    (rows.without dropped).keys.Nodup := by
  rw [keys_without]
  exact distinct.filter _

theorem filter_congr {rows : Rows} {p q : Key → Bool} (same : ∀ key ∈ rows.keys, p key = q key) :
    (rows.filter fun row => p row.1) = rows.filter fun row => q row.1 :=
  List.filter_congr fun _ member => same _ (key_mem member)

theorem only_congr {rows : Rows} {a b : List Key} (same : ∀ key ∈ rows.keys, key ∈ a ↔ key ∈ b) :
    rows.only a = rows.only b :=
  filter_congr (p := fun key => key ∈ a) (q := fun key => key ∈ b) fun key member => by
    simp [same key member]

theorem without_congr {rows : Rows} {a b : List Key}
    (same : ∀ key ∈ rows.keys, key ∈ a ↔ key ∈ b) : rows.without a = rows.without b :=
  filter_congr (p := fun key => key ∉ a) (q := fun key => key ∉ b) fun key member => by
    simp [same key member]

theorem only_eq_without {rows : Rows} {a b : List Key}
    (split : ∀ key ∈ rows.keys, key ∈ a ↔ key ∉ b) : rows.only a = rows.without b :=
  filter_congr (p := fun key => key ∈ a) (q := fun key => key ∉ b) fun key member => by
    simp [split key member]

theorem without_eq_self {rows : Rows} {dropped : List Key}
    (apart : ∀ key ∈ rows.keys, key ∉ dropped) : rows.without dropped = rows := by
  apply List.filter_eq_self.mpr
  intro row member
  simpa using apart row.1 (key_mem member)

theorem without_eq_nil {rows : Rows} {dropped : List Key}
    (covered : ∀ key ∈ rows.keys, key ∈ dropped) : rows.without dropped = [] := by
  apply List.filter_eq_nil_iff.mpr
  intro row member
  simpa using covered row.1 (key_mem member)

theorem only_append (t u : Rows) (chosen : List Key) :
    only (t ++ u) chosen = t.only chosen ++ u.only chosen :=
  List.filter_append t u

theorem without_append (t u : Rows) (dropped : List Key) :
    without (t ++ u) dropped = t.without dropped ++ u.without dropped :=
  List.filter_append t u

theorem without_without (rows : Rows) (a b : List Key) :
    (rows.without a).without b = rows.without (a ++ b) := by
  simp only [without, List.filter_filter]
  apply List.filter_congr
  intro row _
  simp [Bool.and_comm]

theorem without_only (rows : Rows) (chosen dropped : List Key) :
    (rows.only chosen).without dropped = (rows.without dropped).only chosen := by
  simp only [only, without, List.filter_filter]
  apply List.filter_congr
  intro row _
  exact Bool.and_comm _ _

theorem lookup_cons (row : Key × Ty) (rows : Rows) (key : Key) :
    List.lookup key (row :: rows) = if key = row.1 then some row.2 else rows.lookup key := by
  obtain ⟨first, value⟩ := row
  by_cases same : key = first
  · simp [same]
  · have differ : (key == first) = false := by simpa using same
    simp [List.lookup_cons, differ, same]

theorem lookup_isSome_iff {rows : Rows} {key : Key} :
    (rows.lookup key).isSome ↔ key ∈ rows.keys := by
  induction rows with
  | nil => simp
  | cons row rows rest => by_cases first : key = row.1 <;> simp [lookup_cons, first, rest]

theorem lookup_eq_none_iff {rows : Rows} {key : Key} :
    rows.lookup key = none ↔ key ∉ rows.keys := by
  rw [← lookup_isSome_iff, Option.not_isSome_iff_eq_none]

-- With no key twice, a lookup finds every row that there is.
theorem lookup_eq_some_iff {rows : Rows} (distinct : rows.keys.Nodup) {key : Key} {value : Ty} :
    rows.lookup key = some value ↔ (key, value) ∈ rows := by
  constructor
  · intro found
    obtain ⟨before, after, rfl, _⟩ := List.lookup_eq_some_iff.mp found
    simp
  · intro member
    induction rows with
    | nil => cases member
    | cons row rows rest =>
      obtain ⟨fresh, others⟩ := List.nodup_cons.mp distinct
      rw [lookup_cons]
      rcases List.mem_cons.mp member with rfl | later
      · rw [if_pos rfl]
      · have differ : key ≠ row.1 := by
          rintro rfl
          exact fresh (List.mem_map.mpr ⟨_, later, rfl⟩)
        rw [if_neg differ, rest others later]

theorem or_lookup (rows : Rows) (key : Key) (other : Option Ty) :
    (rows.lookup key).or other = if key ∈ rows.keys then rows.lookup key else other := by
  by_cases present : key ∈ rows.keys
  · rw [if_pos present, Option.or_of_isSome (lookup_isSome_iff.mpr present)]
  · rw [if_neg present, lookup_eq_none_iff.mpr present, Option.none_or]

theorem lookup_append (t u : Rows) (key : Key) :
    List.lookup key (t ++ u) = if key ∈ t.keys then t.lookup key else u.lookup key := by
  rw [List.lookup_append, or_lookup]

theorem lookup_filter (rows : Rows) (kept : Key → Bool) (key : Key) :
    List.lookup key (rows.filter fun row => kept row.1) =
      if kept key then rows.lookup key else none := by
  induction rows with
  | nil => simp
  | cons row rows rest =>
    by_cases first : key = row.1
    · subst first
      cases stays : kept row.1 <;> simp [stays, rest, lookup_cons]
    · cases stays : kept row.1 <;> simp [stays, rest, first, lookup_cons]

theorem lookup_only (rows : Rows) (chosen : List Key) (key : Key) :
    (rows.only chosen).lookup key = if key ∈ chosen then rows.lookup key else none := by
  simpa only [only, decide_eq_true_eq] using
    lookup_filter rows (fun key => decide (key ∈ chosen)) key

theorem lookup_without (rows : Rows) (dropped : List Key) (key : Key) :
    (rows.without dropped).lookup key = if key ∉ dropped then rows.lookup key else none := by
  simpa only [without, decide_eq_true_eq] using
    lookup_filter rows (fun key => decide (key ∉ dropped)) key

end Rows

def ofRows (rows : Rows) : Ty :=
  ofFields (rows.map fun row => (row.1.ty, row.2))

theorem ofRows_nil : ofRows [] = .nil :=
  rfl

theorem ofRows_cons (row : Key × Ty) (rows : Rows) :
    ofRows (row :: rows) = .cons (.field row.1.ty row.2) (ofRows rows) :=
  rfl

def textRows (entries : List (String × Ty)) : Rows :=
  entries.map fun entry => (Key.ofText entry.1, entry.2)

theorem ofTexts_eq (entries : List (String × Ty)) : ofTexts entries = ofRows (textRows entries) := by
  simp [ofTexts, ofRows, textRows, Key.ofText, Function.comp_def]

theorem keys_textRows (entries : List (String × Ty)) :
    (textRows entries).keys = (entries.map Prod.fst).map Key.ofText := by
  simp [textRows, Rows.keys, Function.comp_def]

theorem isLabel_of_mem {rows : Rows} :
    ∀ f ∈ rows.map fun row => (row.1.ty, row.2), Label.IsLabel f.1 := by
  intro f member
  obtain ⟨row, _, rfl⟩ := List.mem_map.mp member
  exact row.1.isLabel

theorem isRecord_iff {t : Ty} : IsRecord t ↔ ∃ rows, t = ofRows rows := by
  constructor
  · rintro ⟨fields, each, rfl⟩
    induction fields with
    | nil => exact ⟨[], rfl⟩
    | cons f fs rest =>
      obtain ⟨rows, same⟩ := rest fun x member => each x (by simp [member])
      exact ⟨(⟨f.1, each f (by simp)⟩, f.2) :: rows, by rw [ofRows_cons, ofFields_cons, same]⟩
  · rintro ⟨rows, rfl⟩
    exact ⟨_, isLabel_of_mem, rfl⟩

@[simp] theorem keys?_ofRows (rows : Rows) :
    keys? (ofRows rows) = some (LabelSet.ofKeys rows.keys) := by
  simp [ofRows, keys?_ofFields, LabelSet.ofKeys, Rows.keys, Function.comp_def]

@[simp] theorem size?_ofRows (rows : Rows) : size? (ofRows rows) = some rows.length := by
  rw [ofRows, size?_ofFields isLabel_of_mem, List.length_map]

-- A lookup compares the wanted key with one key after the other, and these are labels.
@[simp] theorem get?_ofRows (rows : Rows) (key : Key) :
    get? (ofRows rows) key.ty = rows.lookup key := by
  induction rows with
  | nil => rfl
  | cons row rows rest =>
    have compared := Key.equal?_ty row.1 key
    rw [ofRows_cons, Rows.lookup_cons]
    by_cases first : key = row.1
    · rw [decide_eq_true first.symm] at compared
      rw [if_pos first, get?_here compared]
    · rw [decide_eq_false (Ne.symm first)] at compared
      rw [if_neg first, get?_later compared, rest]

@[simp] theorem concat?_ofRows (t u : Rows) :
    Ty.concat? (ofRows t) (ofRows u) = some (ofRows (t ++ u)) := by
  simp [ofRows, ofFields, Ty.concat?_ofList, Ty.foldr_cons_ofList]

@[simp] theorem pick?_ofRows (rows : Rows) (chosen : List Key) :
    pick? (ofRows rows) (LabelSet.ofKeys chosen) = some (ofRows (rows.only chosen)) := by
  rw [ofRows, LabelSet.ofKeys, pick?_ofFields isLabel_of_mem LabelSet.isLabel_of_mem,
    List.filter_map]
  simp only [Function.comp_def, Key.ty_mem_map, ofRows, Rows.only]

@[simp] theorem omit?_ofRows (rows : Rows) (dropped : List Key) :
    omit? (ofRows rows) (LabelSet.ofKeys dropped) = some (ofRows (rows.without dropped)) := by
  have left : rows.only (rows.keys.filter fun key => key ∉ dropped) = rows.without dropped :=
    Rows.only_eq_without fun key member => by simp [member]
  simp [omit?, ← left]

@[simp] theorem sharedKeys?_ofRows (t u : Rows) :
    sharedKeys? (ofRows t) (ofRows u) =
      some (LabelSet.ofKeys (t.keys.filter fun key => key ∈ u.keys)) := by
  simp [sharedKeys?]

@[simp] theorem diffKeys?_ofRows (t u : Rows) :
    diffKeys? (ofRows t) (ofRows u) =
      some (LabelSet.ofKeys (t.keys.filter fun key => key ∉ u.keys)) := by
  simp [diffKeys?]

@[simp] theorem allKeys?_ofRows (t u : Rows) :
    allKeys? (ofRows t) (ofRows u) =
      some (LabelSet.ofKeys (t.keys ++ u.keys.filter fun key => key ∉ t.keys)) := by
  simp [allKeys?]

def partialRow? (row : Key × Ty) : Option (Key × Ty) :=
  (deepPartial? row.2).map fun value => (row.1, .optional value)

theorem deepPartial?_ofRows (rows : Rows) :
    deepPartial? (ofRows rows) = (rows.mapM partialRow?).map ofRows := by
  induction rows with
  | nil => rfl
  | cons row rows rest =>
    rw [ofRows_cons, deepPartial?, rest]
    cases value : deepPartial? row.2 <;> cases others : rows.mapM partialRow? <;>
      simp [partialRow?, value, others, ofRows_cons]

theorem mapM_partialRow?_cons {row : Key × Ty} {rows partials : Rows} :
    (row :: rows).mapM partialRow? = some partials ↔
      ∃ value others, deepPartial? row.2 = some value ∧ rows.mapM partialRow? = some others ∧
        partials = (row.1, .optional value) :: others := by
  simp only [List.mapM_cons, partialRow?, Option.bind_eq_bind, Option.bind_eq_some_iff,
    Option.map_eq_some_iff, Option.pure_def, Option.some.injEq]
  constructor
  · rintro ⟨_, ⟨value, found, rfl⟩, others, rest, rfl⟩
    exact ⟨value, others, found, rest, rfl⟩
  · rintro ⟨value, others, found, rest, rfl⟩
    exact ⟨_, ⟨value, found, rfl⟩, others, rest, rfl⟩

theorem keys_mapM_partialRow? {rows partials : Rows}
    (found : rows.mapM partialRow? = some partials) : partials.keys = rows.keys := by
  induction rows generalizing partials with
  | nil => cases found; rfl
  | cons row rows rest =>
    obtain ⟨value, others, _, foundRest, rfl⟩ := mapM_partialRow?_cons.mp found
    rw [Rows.keys_cons, Rows.keys_cons, rest foundRest]

theorem mapM_partialRow?_isSome_iff {rows : Rows} :
    (rows.mapM partialRow?).isSome ↔ ∀ row ∈ rows, (deepPartial? row.2).isSome := by
  induction rows with
  | nil => simp
  | cons row rows rest =>
    rw [List.forall_mem_cons, ← rest]
    constructor
    · intro resolved
      obtain ⟨_, found⟩ := Option.isSome_iff_exists.mp resolved
      obtain ⟨_, _, first, others, _⟩ := mapM_partialRow?_cons.mp found
      exact ⟨Option.isSome_of_eq_some first, Option.isSome_of_eq_some others⟩
    · rintro ⟨first, others⟩
      obtain ⟨value, found⟩ := Option.isSome_iff_exists.mp first
      obtain ⟨partials, foundRest⟩ := Option.isSome_iff_exists.mp others
      exact Option.isSome_of_eq_some (mapM_partialRow?_cons.mpr ⟨_, _, found, foundRest, rfl⟩)

theorem lookup_mapM_partialRow? {rows partials : Rows}
    (found : rows.mapM partialRow? = some partials) (key : Key) :
    partials.lookup key =
      (rows.lookup key).bind fun value => (deepPartial? value).map .optional := by
  induction rows generalizing partials with
  | nil => cases found; rfl
  | cons row rows rest =>
    obtain ⟨value, others, first, foundRest, rfl⟩ := mapM_partialRow?_cons.mp found
    rw [Rows.lookup_cons, Rows.lookup_cons]
    by_cases same : key = row.1
    · rw [if_pos same, if_pos same, Option.bind_some, first, Option.map_some]
    · rw [if_neg same, if_neg same, rest foundRest]

end TypeCalculus.Record
