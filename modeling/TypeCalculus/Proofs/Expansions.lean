import Mathlib.Data.List.Forall2
import TypeCalculus.Phrase.Expansion

namespace TypeCalculus.Phrase

-- What a text stands for, by the item that each full path names. The texts of field types are not
-- spelled here: `meaning` is whatever they stand for where the expansion is put.
inductive Denotes (meaning : String → Ty → Prop) : String → Ty → Prop
  | given {text : String} {t : Ty} (means : meaning text t) : Denotes meaning text t
  | digit (digit : Nibble) :
      Denotes meaning
        ("::type_algebra::primitives::nibble::X" ++ (Nat.digitChar digit.val).toUpper.toString)
        (.nibble digit)
  | nibbleNil : Denotes meaning "::type_algebra::primitives::label::NNil" .nibbleNil
  | nibbleCons {first rest : String} {head tail : Ty} (one : Denotes meaning first head)
      (more : Denotes meaning rest tail) :
      Denotes meaning ("::type_algebra::primitives::label::NCons<" ++ first ++ "," ++ rest ++ ">")
        (.nibbleCons head tail)
  | label {text : String} {digits : Ty} (inside : Denotes meaning text digits) :
      Denotes meaning ("::type_algebra::primitives::label::Str<" ++ text ++ ">") (.label digits)
  | nil : Denotes meaning "::type_algebra::primitives::list::HNil" .nil
  | cons {first rest : String} {head tail : Ty} (one : Denotes meaning first head)
      (more : Denotes meaning rest tail) :
      Denotes meaning ("::type_algebra::primitives::list::HCons<" ++ first ++ "," ++ rest ++ ">")
        (.cons head tail)
  | field {name text : String} {key value : Ty} (named : Denotes meaning name key)
      (typed : Denotes meaning text value) :
      Denotes meaning ("::type_algebra::record::Field<" ++ name ++ "," ++ text ++ ">")
        (.field key value)

abbrev FieldsMean {Form : Type} (meaning : String → Ty → Prop) :
    List (Entry Form) → List (String × Ty) → Prop :=
  List.Forall₂ fun entry value => entry.key = value.1 ∧ meaning entry.source value.2

variable {meaning : String → Ty → Prop}

theorem FieldsMean.keys {Form : Type} {entries : List (Entry Form)}
    {values : List (String × Ty)} (each : FieldsMean meaning entries values) :
    values.map Prod.fst = entries.map (·.key) := by
  induction each with
  | nil => rfl
  | cons first _ rest => rw [List.map_cons, List.map_cons, rest, first.1]

theorem denotes_digit (digit : Nibble) :
    Denotes meaning (itemPath "primitives::nibble" (Nibble.name digit)) (.nibble digit) := by
  have spelled : ∀ d : Nibble, itemPath "primitives::nibble" (Nibble.name d) =
      "::type_algebra::primitives::nibble::X" ++ (Nat.digitChar d.val).toUpper.toString := by
    decide
  rw [spelled]
  exact .digit digit

theorem denotes_digits (digits : List Nibble) :
    Denotes meaning (digitsExpansion digits) (Label.ofDigits digits) := by
  have opening : itemPath "primitives::label" "NCons" ++ "<" =
      "::type_algebra::primitives::label::NCons<" := by decide
  induction digits with
  | nil => exact .nibbleNil
  | cons digit digits rest =>
    rw [digitsExpansion, opening]
    exact .nibbleCons (denotes_digit digit) rest

theorem denotes_label (text : String) :
    Denotes meaning (labelExpansion text) (Label.ofText text) := by
  have opening : itemPath "primitives::label" "Str" ++ "<" =
      "::type_algebra::primitives::label::Str<" := by decide
  rw [labelExpansion, opening]
  exact .label (denotes_digits _)

theorem denotes_list {texts : List String} {types : List Ty}
    (each : List.Forall₂ (Denotes meaning) texts types) :
    Denotes meaning (listExpansion texts) (.ofList types) := by
  have opening : itemPath "primitives::list" "HCons" ++ "<" =
      "::type_algebra::primitives::list::HCons<" := by decide
  induction each with
  | nil => exact .nil
  | cons first _ rest =>
    rw [listExpansion, opening]
    exact .cons first rest

theorem denotes_labels (texts : List String) :
    Denotes meaning (labelsExpansion texts) (LabelSet.ofTexts texts) := by
  refine denotes_list ?_
  rw [List.forall₂_map_left_iff, List.forall₂_map_right_iff, List.forall₂_same]
  exact fun text _ => denotes_label text

theorem denotes_field {Form : Type} {entry : Entry Form} {value : Ty}
    (means : meaning entry.source value) :
    Denotes meaning (fieldExpansion entry) (.field (Label.ofText entry.key) value) := by
  have opening : itemPath "record" "Field" ++ "<" = "::type_algebra::record::Field<" := by decide
  rw [fieldExpansion, opening]
  exact .field (denotes_label _) (.given means)

theorem denotes_record {Form : Type} {entries : List (Entry Form)} {values : List (String × Ty)}
    (each : FieldsMean meaning entries values) :
    Denotes meaning (recordExpansion entries) (Record.ofTexts values) := by
  rw [Record.ofTexts, Record.ofFields, List.map_map]
  refine denotes_list ?_
  rw [List.forall₂_map_left_iff, List.forall₂_map_right_iff]
  refine each.imp ?_
  rintro entry ⟨_, value⟩ ⟨rfl, means⟩
  exact denotes_field means

theorem resolveFields?_eq_some_iff {fields : List (String × TypeForm)}
    {values : List (String × Ty)} :
    TypeForm.resolveFields? fields = some values ↔
      List.Forall₂ (fun field value => field.1 = value.1 ∧ field.2.resolve? = some value.2)
        fields values := by
  induction fields generalizing values with
  | nil =>
    rw [TypeForm.resolveFields?, List.forall₂_nil_left_iff, Option.some.injEq, eq_comm]
  | cons field fields rest =>
    obtain ⟨key, form⟩ := field
    simp only [TypeForm.resolveFields?, Option.bind_eq_bind, Option.bind_eq_some_iff, rest,
      List.forall₂_cons_left_iff]
    constructor
    · rintro ⟨first, resolved, others, each, same⟩
      cases same
      exact ⟨(key, first), others, ⟨rfl, resolved⟩, each, rfl⟩
    · rintro ⟨⟨_, first⟩, others, ⟨rfl, resolved⟩, each, rfl⟩
      exact ⟨first, resolved, others, each, rfl⟩

theorem resolve?_record {entries : List (Entry TypeForm)} {t : Ty} :
    (Phrase.record entries).resolve? = some t ↔
      ∃ values, List.Forall₂ (fun entry value =>
        entry.key = value.1 ∧ entry.form.resolve? = some value.2) entries values ∧
        t = Record.ofTexts values := by
  rw [resolve?, Option.map_eq_some_iff]
  simp only [resolveFields?_eq_some_iff, List.forall₂_map_left_iff]
  constructor
  · rintro ⟨values, each, rfl⟩
    exact ⟨values, each, rfl⟩
  · rintro ⟨values, each, rfl⟩
    exact ⟨values, each, rfl⟩

-- The text that a phrase expands to stands for the type that the phrase resolves to.
theorem denotes_expansion {phrase : Phrase} {t : Ty} (resolved : phrase.resolve? = some t)
    (sources : ∀ entries, phrase = .record entries → ∀ entry ∈ entries, ∀ value,
      entry.form.resolve? = some value → meaning entry.source value) :
    Denotes meaning phrase.expansion t := by
  cases phrase with
  | label text =>
    cases resolved
    exact denotes_label text
  | labels texts =>
    cases resolved
    exact denotes_labels texts
  | record entries =>
    obtain ⟨values, each, rfl⟩ := resolve?_record.mp resolved
    have both := (List.forall₂_and_left _ _).mpr ⟨sources entries rfl, each⟩
    exact denotes_record (both.imp fun _ _ ⟨source, key, form⟩ => ⟨key, source _ form⟩)
  | table table => cases resolved

end TypeCalculus.Phrase
