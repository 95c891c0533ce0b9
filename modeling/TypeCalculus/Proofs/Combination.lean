import TypeCalculus.Proofs.Rows
import TypeCalculus.Record.Combination

namespace TypeCalculus.Record

namespace Rows

def paired (t u : Rows) : Rows :=
  t.map fun row =>
    match u.lookup row.1 with
    | some value => (row.1, .both row.2 value)
    | none => row

def combine (t u : Rows) : Rows :=
  t.paired u ++ u.without t.keys

def merge (t u : Rows) : Rows :=
  t.without u.keys ++ u

def overwrite (t u : Rows) : Rows :=
  t.without u.keys ++ u.only t.keys

theorem keys_paired (t u : Rows) : (t.paired u).keys = t.keys := by
  simp only [keys, paired, List.map_map]
  apply List.map_congr_left
  intro row _
  cases found : u.lookup row.1 <;> simp [found]

theorem paired_eq_self {t u : Rows} (apart : ∀ key ∈ t.keys, key ∉ u.keys) : t.paired u = t := by
  have unchanged : ∀ row ∈ t, u.lookup row.1 = none := fun row member =>
    lookup_eq_none_iff.mpr (apart row.1 (key_mem member))
  rw [paired, List.map_congr_left (g := id)]
  · simp
  · intro row member
    simp [unchanged row member]

theorem lookup_paired (t u : Rows) (key : Key) :
    (t.paired u).lookup key =
      (t.lookup key).bind fun left => Option.merge .both (some left) (u.lookup key) := by
  induction t with
  | nil => rfl
  | cons row rows rest =>
    rw [paired] at rest
    rw [paired, List.map_cons]
    by_cases first : key = row.1
    · subst first
      cases u.lookup row.1 <;> simp [lookup_cons]
    · cases u.lookup row.1 <;> simp [lookup_cons, first, rest]

theorem keys_combine (t u : Rows) :
    (t.combine u).keys = t.keys ++ u.keys.filter fun key => key ∉ t.keys := by
  simp [combine, keys_paired, keys_without]

theorem combine_of_apart {t u : Rows} (apart : ∀ key ∈ t.keys, key ∉ u.keys) :
    t.combine u = t ++ u := by
  have whole : u.without t.keys = u := without_eq_self fun key inU inT => apart key inT inU
  rw [combine, paired_eq_self apart, whole]

theorem lookup_combine (t u : Rows) (key : Key) :
    (t.combine u).lookup key = Option.merge .both (t.lookup key) (u.lookup key) := by
  rw [combine, lookup_append, keys_paired, lookup_paired, lookup_without]
  by_cases first : key ∈ t.keys
  · obtain ⟨left, found⟩ := Option.isSome_iff_exists.mp (lookup_isSome_iff.mpr first)
    rw [if_pos first, found, Option.bind_some]
  · have missing : t.lookup key = none := lookup_eq_none_iff.mpr first
    rw [if_neg first, if_pos first, missing, Option.merge_none_left]

theorem nodup_keys_combine {t u : Rows} (first : t.keys.Nodup) (second : u.keys.Nodup) :
    (t.combine u).keys.Nodup := by
  rw [keys_combine]
  exact LabelSet.nodup_append_filter first second

theorem keys_merge (t u : Rows) :
    (t.merge u).keys = (t.keys.filter fun key => key ∉ u.keys) ++ u.keys := by
  simp [merge, keys_without]

theorem merge_of_apart {t u : Rows} (apart : ∀ key ∈ t.keys, key ∉ u.keys) :
    t.merge u = t ++ u := by
  rw [merge, without_eq_self apart]

theorem mem_keys_merge {t u : Rows} {key : Key} :
    key ∈ (t.merge u).keys ↔ key ∈ t.keys ∨ key ∈ u.keys := by
  by_cases shared : key ∈ u.keys <;> simp [keys_merge, shared]

theorem nodup_keys_merge {t u : Rows} (first : t.keys.Nodup) (second : u.keys.Nodup) :
    (t.merge u).keys.Nodup := by
  rw [keys_merge]
  refine (first.filter _).append second ?_
  intro key kept inSecond
  simp [inSecond] at kept

theorem lookup_merge (t u : Rows) (key : Key) :
    (t.merge u).lookup key = if key ∈ u.keys then u.lookup key else t.lookup key := by
  rw [merge, lookup_append, lookup_without]
  by_cases shared : key ∈ u.keys
  · simp [mem_keys_without, shared]
  · by_cases first : key ∈ t.keys
    · simp [mem_keys_without, shared, first]
    · simp [shared, lookup_eq_none_iff.mpr shared, lookup_eq_none_iff.mpr first]

-- What of the second record replaces something is merged into the first one.
theorem overwrite_eq_merge (t u : Rows) : t.overwrite u = t.merge (u.only t.keys) := by
  have cut : t.without (u.only t.keys).keys = t.without u.keys :=
    without_congr fun key member => by simp [mem_keys_only, member]
  rw [overwrite, merge, cut]

theorem keys_overwrite (t u : Rows) :
    (t.overwrite u).keys =
      (t.keys.filter fun key => key ∉ u.keys) ++ u.keys.filter fun key => key ∈ t.keys := by
  simp [overwrite, keys_without, keys_only]

theorem mem_keys_overwrite {t u : Rows} {key : Key} :
    key ∈ (t.overwrite u).keys ↔ key ∈ t.keys := by
  by_cases shared : key ∈ u.keys <;> simp [keys_overwrite, shared]

theorem nodup_keys_overwrite {t u : Rows} (first : t.keys.Nodup) (second : u.keys.Nodup) :
    (t.overwrite u).keys.Nodup := by
  rw [keys_overwrite]
  refine (first.filter _).append (second.filter _) ?_
  intro key kept replaced
  have shared : key ∈ u.keys := (List.mem_filter.mp replaced).1
  simp [shared] at kept

theorem lookup_overwrite {t u : Rows} {key : Key} (member : key ∈ t.keys) :
    (t.overwrite u).lookup key = if key ∈ u.keys then u.lookup key else t.lookup key := by
  rw [overwrite, lookup_append, lookup_without, lookup_only]
  by_cases shared : key ∈ u.keys <;> simp [mem_keys_without, shared, member]

end Rows

@[simp] theorem combineLeft?_ofRows (t u : Rows) :
    combineLeft? (ofRows t) (ofRows u) = some (ofRows (t.paired u)) := by
  induction t with
  | nil => rfl
  | cons row rows rest =>
    rw [ofRows_cons, combineLeft?, keys?_ofRows, rest]
    cases found : u.lookup row.1 with
    | none =>
      have absent : row.1 ∉ u.keys := Rows.lookup_eq_none_iff.mp found
      simp [absent, combineField?, Rows.paired, found, ofRows_cons]
    | some value =>
      have present : row.1 ∈ u.keys := Rows.lookup_isSome_iff.mp (by simp [found])
      simp [present, combineField?, Rows.paired, found, ofRows_cons]

@[simp] theorem combine?_ofRows (t u : Rows) :
    combine? (ofRows t) (ofRows u) = some (ofRows (t.combine u)) := by
  simp [combine?, Rows.combine]

@[simp] theorem intersect?_ofRows (t u : Rows) :
    intersect? (ofRows t) (ofRows u) = some (ofRows (u.only t.keys)) := by
  have kept : u.only t.keys = u.without (u.keys.filter fun key => key ∉ t.keys) :=
    Rows.only_eq_without fun key member => by simp [member]
  simp [intersect?, kept]

-- Once the shared keys are omitted the two records are apart, so combining them only appends.
@[simp] theorem merge?_ofRows (t u : Rows) :
    merge? (ofRows t) (ofRows u) = some (ofRows (t.merge u)) := by
  have cut : t.without (t.keys.filter fun key => key ∈ u.keys) = t.without u.keys :=
    Rows.without_congr fun key member => by simp [member]
  have apart : ∀ key ∈ (t.without u.keys).keys, key ∉ u.keys := fun key member =>
    (Rows.mem_keys_without.mp member).2
  simp [merge?, cut, Rows.combine_of_apart apart, Rows.merge]

@[simp] theorem overwrite?_ofRows (t u : Rows) :
    overwrite? (ofRows t) (ofRows u) = some (ofRows (t.overwrite u)) := by
  simp [overwrite?, Rows.overwrite_eq_merge]

end TypeCalculus.Record
