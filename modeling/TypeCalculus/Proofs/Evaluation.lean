import Mathlib.Data.List.Forall2
import TypeCalculus.Expr.Basic

namespace TypeCalculus

open Phrase (firstRepeat?)

theorem firstRepeat?_eq_none_iff {seen texts : List String} :
    firstRepeat? seen texts = none ↔ texts.Nodup ∧ ∀ text ∈ texts, text ∉ seen := by
  induction texts generalizing seen with
  | nil => simp [firstRepeat?]
  | cons text texts rest =>
    by_cases old : text ∈ seen
    · simp [firstRepeat?, old]
    · simp only [firstRepeat?, List.contains_eq_mem, old, decide_false, Bool.false_eq_true,
        if_false, rest, List.mem_cons, not_or, List.nodup_cons]
      constructor
      · rintro ⟨distinct, fresh⟩
        refine ⟨⟨fun again => (fresh text again).1 rfl, distinct⟩, ?_⟩
        rintro other (rfl | later)
        · exact old
        · exact (fresh other later).2
      · rintro ⟨⟨once, distinct⟩, fresh⟩
        refine ⟨distinct, fun other later => ⟨?_, fresh other (.inr later)⟩⟩
        rintro rfl
        exact once later

namespace Expr

variable {scope : Scope}

theorem judge_eq_ok_iff {α : Type} {unreadable : Option ReadFault} {failed : Bool}
    {fault : Option Phrase.Fault} {result : Option α} {found : α} :
    judge unreadable failed fault result = .ok found ↔
      unreadable = none ∧ failed = false ∧ fault = none ∧ result = some found := by
  cases unreadable <;> cases failed <;> cases fault <;> cases result <;> simp [judge]

theorem evaluate_eq_ok_iff {e : Expr} {t : Ty} :
    e.evaluate scope = .ok t ↔
      e.readFault? scope = none ∧ e.depends scope = false ∧ e.phraseFault? = none ∧
        e.resolve? scope = some t :=
  judge_eq_ok_iff

abbrev AllEvaluate (scope : Scope) : List Expr → List Ty → Prop :=
  List.Forall₂ fun e t => e.evaluate scope = .ok t

theorem evaluate_all {es : List Expr} {types : List Ty}
    (each : AllEvaluate scope es types) :
    readFaultIn? scope es = none ∧ dependsIn scope es = false ∧ phraseFaultIn? es = none ∧
      resolveAll? scope es = some types := by
  induction each with
  | nil => exact ⟨rfl, rfl, rfl, rfl⟩
  | cons first _ rest =>
    obtain ⟨readable, known, phrase, found⟩ := evaluate_eq_ok_iff.mp first
    obtain ⟨readableRest, knownRest, phraseRest, foundRest⟩ := rest
    exact ⟨by simp [readFaultIn?, readable, readableRest], by simp [dependsIn, known, knownRest],
      by simp [phraseFaultIn?, phrase, phraseRest], by simp [resolveAll?, found, foundRest]⟩

theorem resolve?_apply {operator : Operator} {es : List Expr} {types : List Ty}
    (each : AllEvaluate scope es types) :
    (apply operator es).resolve? scope = operator.result? types := by
  obtain ⟨_, _, _, found⟩ := evaluate_all each
  rw [resolve?, found, Option.bind_some]

theorem evaluate_apply {operator : Operator} {es : List Expr} {types : List Ty} {t : Ty}
    (each : AllEvaluate scope es types)
    (result : operator.result? types = some t) :
    (apply operator es).evaluate scope = .ok t := by
  obtain ⟨readable, known, phrase, _⟩ := evaluate_all each
  exact evaluate_eq_ok_iff.mpr ⟨by simpa [readFault?] using readable,
    by simpa [depends] using known, by simpa [phraseFault?] using phrase,
    (resolve?_apply each).trans result⟩

theorem evaluate_type (t : Ty) : (type t).evaluate scope = .ok t := by
  simp [evaluate_eq_ok_iff, readFault?, depends, phraseFault?, resolve?]

theorem evaluate_var {name : String} {t : Ty} (bound : scope.lookup name = some (some t)) :
    (var name).evaluate scope = .ok t := by
  simp [evaluate_eq_ok_iff, readFault?, depends, phraseFault?, resolve?, bound]

theorem evaluate_labels {texts : List String} (distinct : texts.Nodup) :
    (labels texts).evaluate scope = .ok (LabelSet.ofTexts texts) := by
  have once : firstRepeat? [] texts = none := firstRepeat?_eq_none_iff.mpr (by simp [distinct])
  simp [evaluate_eq_ok_iff, readFault?, depends, phraseFault?, resolve?, repeatFault?, once]

abbrev FieldsEvaluate (scope : Scope) : List (String × Expr) → List (String × Ty) → Prop :=
  List.Forall₂ fun entry value => entry.1 = value.1 ∧ entry.2.evaluate scope = .ok value.2

theorem exists_fieldsEvaluate {entries : List (String × Expr)}
    (each : ∀ entry ∈ entries, ∃ t, entry.2.evaluate scope = .ok t) :
    ∃ values, FieldsEvaluate scope entries values := by
  induction entries with
  | nil => exact ⟨[], .nil⟩
  | cons entry entries rest =>
    obtain ⟨t, found⟩ := each entry (by simp)
    obtain ⟨values, others⟩ := rest fun other member => each other (by simp [member])
    exact ⟨(entry.1, t) :: values, .cons ⟨rfl, found⟩ others⟩

theorem fieldsEvaluate_keys {entries : List (String × Expr)} {values : List (String × Ty)}
    (each : FieldsEvaluate scope entries values) :
    values.map Prod.fst = entries.map Prod.fst := by
  induction each with
  | nil => rfl
  | cons first _ rest => simp [first.1, rest]

theorem evaluate_fields {entries : List (String × Expr)} {values : List (String × Ty)}
    (each : FieldsEvaluate scope entries values) :
    readFaultInFields? scope entries = none ∧ dependsInFields scope entries = false ∧
      phraseFaultInFields? entries = none ∧ resolveFields? scope entries = some values := by
  induction each with
  | nil => exact ⟨rfl, rfl, rfl, rfl⟩
  | @cons entry value _ _ first _ rest =>
    obtain ⟨key, e⟩ := entry
    obtain ⟨name, t⟩ := value
    obtain ⟨rfl, evaluated⟩ := first
    obtain ⟨readable, known, phrase, found⟩ := evaluate_eq_ok_iff.mp evaluated
    obtain ⟨readableRest, knownRest, phraseRest, foundRest⟩ := rest
    exact ⟨by simp [readFaultInFields?, readable, readableRest],
      by simp [dependsInFields, known, knownRest],
      by simp [phraseFaultInFields?, phrase, phraseRest],
      by simp [resolveFields?, found, foundRest]⟩

theorem evaluate_record {entries : List (String × Expr)} {values : List (String × Ty)}
    (distinct : (entries.map Prod.fst).Nodup)
    (each : FieldsEvaluate scope entries values) :
    (record entries).evaluate scope = .ok (Record.ofTexts values) := by
  obtain ⟨readable, known, phrase, found⟩ := evaluate_fields each
  have once : firstRepeat? [] (entries.map Prod.fst) = none :=
    firstRepeat?_eq_none_iff.mpr (by simp [distinct])
  exact evaluate_eq_ok_iff.mpr ⟨by simpa [readFault?] using readable,
    by simpa [depends] using known, by simp [phraseFault?, repeatFault?, once, phrase],
    by simp [resolve?, found]⟩

end Expr

end TypeCalculus
