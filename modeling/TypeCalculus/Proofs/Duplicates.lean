import TypeCalculus.Proofs.Evaluation
import TypeCalculus.Proofs.Expansions
import TypeCalculus.Proofs.Identity
import TypeCalculus.Proofs.Rows
import TypeCalculus.Proofs.Separated

namespace TypeCalculus.Phrase

variable {Form : Type}

def ToldApart (texts : List String) : Prop :=
  ∀ i j : Fin texts.length, i ≠ j →
    Label.equal? (Label.ofText (texts.get i)) (Label.ofText (texts.get j)) ≠ some true

def RepeatAt (texts : List String) (i : Nat) (text : String) : Prop :=
  texts[i]? = some text ∧ ∃ j < i, texts[j]? = some text

def FirstRepeat (texts : List String) (text : String) : Prop :=
  ∃ i, RepeatAt texts i text ∧ ∀ j < i, ∀ other, ¬ RepeatAt texts j other

theorem toldApart_iff {texts : List String} : ToldApart texts ↔ texts.Nodup := by
  rw [List.nodup_iff_injective_get]
  constructor
  · intro apart i j same
    by_contra differ
    apply apart i j differ
    rw [Label.equal?_ofText, same, decide_eq_true rfl]
  · intro distinct i j differ equal
    rw [Label.equal?_ofText, Option.some.injEq, decide_eq_true_eq] at equal
    exact differ (distinct equal)

theorem FirstRepeat.unique {texts : List String} {text other : String}
    (first : FirstRepeat texts text) (second : FirstRepeat texts other) : text = other := by
  obtain ⟨i, here, before⟩ := first
  obtain ⟨j, there, earlier⟩ := second
  rcases Nat.lt_trichotomy i j with less | same | greater
  · exact absurd here (earlier i less text)
  · subst same
    exact Option.some.inj (here.1.symm.trans there.1)
  · exact absurd there (before j greater other)

theorem not_repeatAt {before after : List String} {text : String} {i : Nat}
    (distinct : before.Nodup) (inside : i < before.length) :
    ¬ RepeatAt (before ++ after) i text := by
  rintro ⟨here, j, less, there⟩
  rw [List.getElem?_append_left inside] at here
  rw [List.getElem?_append_left (Nat.lt_trans less inside)] at there
  have same := (List.getElem?_inj inside distinct).mp (here.trans there.symm)
  omega

theorem firstRepeat_append {before after : List String} {text : String}
    (distinct : before.Nodup) (old : text ∈ before) :
    FirstRepeat (before ++ text :: after) text := by
  obtain ⟨j, less, there⟩ := List.mem_iff_getElem.mp old
  refine ⟨before.length, ⟨?_, j, less, ?_⟩, ?_⟩
  · simp
  · rw [List.getElem?_append_left less, List.getElem?_eq_getElem less, there]
  · intro i inside other
    exact not_repeatAt distinct inside

-- What was seen is the front of the list, in reverse order.
theorem firstRepeat?_iff {seen texts : List String} {text : String} (distinct : seen.Nodup) :
    firstRepeat? seen texts = some text ↔ FirstRepeat (seen.reverse ++ texts) text := by
  induction texts generalizing seen with
  | nil =>
    have front : seen.reverse.Nodup := List.nodup_reverse.mpr distinct
    constructor
    · intro found
      cases found
    · rintro ⟨i, here, _⟩
      have inside : i < seen.reverse.length := by
        rw [List.append_nil] at here
        exact (List.getElem?_eq_some_iff.mp here.1).1
      exact absurd here (not_repeatAt front inside)
  | cons first texts rest =>
    by_cases old : first ∈ seen
    · have here : FirstRepeat (seen.reverse ++ first :: texts) first :=
        firstRepeat_append (List.nodup_reverse.mpr distinct) (List.mem_reverse.mpr old)
      rw [firstRepeat?, if_pos (List.contains_iff_mem.mpr old), Option.some.injEq]
      constructor
      · rintro rfl
        exact here
      · intro found
        exact here.unique found
    · have longer : (first :: seen).Nodup := List.nodup_cons.mpr ⟨old, distinct⟩
      have fresh : ¬ seen.contains first := fun found => old (List.contains_iff_mem.mp found)
      rw [firstRepeat?, if_neg fresh, rest longer, List.reverse_cons, List.append_assoc,
        List.singleton_append]

theorem distinct_of_toldApart (what : Keyed) {texts : List String} (apart : ToldApart texts) :
    distinct what texts = .ok () := by
  have once : firstRepeat? [] texts = none :=
    firstRepeat?_eq_none_iff.mpr ⟨toldApart_iff.mp apart, by simp⟩
  rw [distinct, once]

theorem distinct_of_firstRepeat (what : Keyed) {texts : List String} {text : String}
    (repeated : FirstRepeat texts text) : distinct what texts = .error (.duplicate what text) := by
  have found : firstRepeat? [] texts = some text := (firstRepeat?_iff .nil).mpr repeated
  rw [distinct, found]

theorem toldApart_or_firstRepeat (texts : List String) :
    ToldApart texts ∨ ∃ text, FirstRepeat texts text := by
  cases search : firstRepeat? [] texts with
  | none => exact .inl (toldApart_iff.mpr (firstRepeat?_eq_none_iff.mp search).1)
  | some text => exact .inr ⟨text, (firstRepeat?_iff .nil).mp search⟩

-- What becomes of a list with the given texts: the result where labels tell the texts apart, and
-- else the fault of the first repeat.
structure Verdict {α : Type} (what : Keyed) (wording : String) (texts : List String) (result : α)
    (outcome : Except Fault α) : Prop where
  accepted : ∀ found, outcome = .ok found ↔ ToldApart texts ∧ found = result
  rejected : ∀ fault, outcome = .error fault ↔
    ∃ text, FirstRepeat texts text ∧ fault = .duplicate what text ∧
      fault.message = wording ++ " `" ++ text ++ "`\n\nEach label should appear only once."

theorem verdict {α : Type} {what : Keyed} {wording : String}
    (worded : "duplicate " ++ what.message = wording) (texts : List String) (result : α) :
    Verdict what wording texts result (do distinct what texts; return result) := by
  subst worded
  constructor
  · intro found
    constructor
    · intro decided
      rcases toldApart_or_firstRepeat texts with apart | ⟨text, repeated⟩
      · rw [distinct_of_toldApart what apart] at decided
        cases decided
        exact ⟨apart, rfl⟩
      · rw [distinct_of_firstRepeat what repeated] at decided
        cases decided
    · rintro ⟨apart, rfl⟩
      rw [distinct_of_toldApart what apart]
      rfl
  · intro fault
    constructor
    · intro decided
      rcases toldApart_or_firstRepeat texts with apart | ⟨text, repeated⟩
      · rw [distinct_of_toldApart what apart] at decided
        cases decided
      · rw [distinct_of_firstRepeat what repeated] at decided
        cases decided
        exact ⟨text, repeated, rfl, rfl⟩
    · rintro ⟨text, repeated, rfl, _⟩
      rw [distinct_of_firstRepeat what repeated]
      rfl

theorem read_labels {trees : List TokenTree} {texts : List String}
    (written : LabelList trees texts) :
    read .labels trees = do distinct .label texts; return .labels texts := by
  rw [read, readLabels, separated_of_labelList written, ok_bind]
  cases distinct .label texts <;> rfl

theorem readRecord_eq {types : TypeReader Form} {trees : List TokenTree}
    {entries : List (Entry Form)} (written : EntryList types trees entries) :
    types.readRecord trees = do distinct .recordKey (entries.map (·.key)); return entries := by
  rw [TypeReader.readRecord, readEntries, separated_of_entryList written, ok_bind, checkEntries,
    written.surplus]

theorem ofText_key_injective : Function.Injective Key.ofText := by
  intro s t same
  exact Label.ofText_injective (congrArg Key.ty same)

theorem dedup?_ofTexts {texts : List String} :
    LabelSet.dedup? (LabelSet.ofTexts texts) = some (LabelSet.ofTexts texts) ↔
      ToldApart texts := by
  have tyInjective : Function.Injective Key.ty := fun a b => Key.ty_inj.mp
  rw [toldApart_iff, LabelSet.ofTexts_eq, LabelSet.dedup?_ofKeys, Option.some.injEq]
  constructor
  · intro same
    have keys := List.map_injective_iff.mpr tyInjective (Ty.ofList_injective same)
    rw [List.dedup_eq_self] at keys
    exact keys.of_map _
  · intro distinct
    rw [List.dedup_eq_self.mpr (distinct.map ofText_key_injective)]

theorem keys?_ofTexts (values : List (String × Ty)) :
    Record.keys? (Record.ofTexts values) = some (LabelSet.ofTexts (values.map Prod.fst)) := by
  rw [Record.ofTexts_eq, Record.keys?_ofRows, Record.keys_textRows, LabelSet.ofTexts_eq]

theorem read_iff_toldApart :
    (∀ (trees : List TokenTree) (texts : List String), LabelList trees texts →
      Verdict .label "duplicate label" texts (Phrase.labels texts) (read .labels trees) ∧
      (ToldApart texts →
        (∀ meaning, Denotes meaning (Phrase.labels texts).expansion
          (.ofList (texts.map Label.ofText))) ∧
        (Phrase.labels texts).resolve? = some (.ofList (texts.map Label.ofText)) ∧
        LabelSet.dedup? (.ofList (texts.map Label.ofText)) =
          some (.ofList (texts.map Label.ofText)))) ∧
    (∀ (Form : Type) (types : TypeReader Form) (trees : List TokenTree)
        (entries : List (Entry Form)), EntryList types trees entries →
      Verdict .recordKey "duplicate record key" (entries.map (·.key)) entries
        (types.readRecord trees) ∧
      (ToldApart (entries.map (·.key)) →
        ∀ (meaning : String → Ty → Prop) (values : List (String × Ty)),
          FieldsMean meaning entries values →
          Denotes meaning (recordExpansion entries) (Record.ofTexts values) ∧
          ∃ keys, Record.keys? (Record.ofTexts values) = some keys ∧
            keys = .ofList ((entries.map (·.key)).map Label.ofText) ∧
            LabelSet.dedup? keys = some keys)) := by
  constructor
  · intro trees texts written
    refine ⟨?_, fun apart => ⟨fun _ => denotes_labels texts, rfl, dedup?_ofTexts.mpr apart⟩⟩
    rw [read_labels written]
    exact verdict (by decide) texts _
  · intro Form types trees entries written
    refine ⟨?_, ?_⟩
    · rw [readRecord_eq written]
      exact verdict (by decide) _ _
    · intro apart meaning values each
      refine ⟨denotes_record each, _, keys?_ofTexts values, ?_, ?_⟩
      · rw [each.keys, LabelSet.ofTexts]
      · rw [each.keys]
        exact dedup?_ofTexts.mpr apart

theorem read_iff_toldApart_raw_label :
    read .labels [.token (.literal (.string "a" "\"a\"")), .token (.mark ',' false),
      .token (.word "a" true), .token (.mark ',' false)] = .error (.duplicate .label "a") ∧
    (∃ entries, read .record [.token (.word "a" false), .token (.mark ':' false),
      .token (.word "u8" false), .token (.mark ',' false), .token (.word "b" true),
      .token (.mark ':' false), .token (.word "char" false)] = .ok (.record entries) ∧
      Denotes (fun text t => (text, t) ∈ [("u8", Ty.leaf .u8), ("char", .leaf .char)])
        (recordExpansion entries) (Record.ofTexts [("a", .leaf .u8), ("b", .leaf .char)])) ∧
    ∃ keys, Record.keys? (Record.ofTexts [("a", .leaf .u8), ("b", .leaf .char)]) = some keys ∧
      LabelSet.dedup? keys = some keys := by
  have set : LabelList [.token (.literal (.string "a" "\"a\"")), .token (.mark ',' false),
      .token (.word "a" true), .token (.mark ',' false)] ["a", "a"] :=
    .cons (.string "a" "\"a\"") (.cons (.word "a" true) .nil)
  have repeated : FirstRepeat ["a", "a"] "a" := by
    refine ⟨1, ⟨rfl, 0, Nat.zero_lt_one, rfl⟩, ?_⟩
    intro i less other ⟨_, j, earlier, _⟩
    omega
  have last : TypeForm.reader.Takes [.token (.word "char" false)] [] (.named ["char"] []) :=
    takes_name (by decide) rfl rfl rfl
  have first : TypeForm.reader.Takes [.token (.word "u8" false)] (.token (.mark ',' false) ::
      [.token (.word "b" true), .token (.mark ':' false), .token (.word "char" false)])
      (.named ["u8"] []) :=
    takes_name (by decide) rfl rfl rfl
  have fields : EntryList TypeForm.reader (.token (.word "a" false) ::
      .token (.mark ':' false) :: ([.token (.word "u8" false)] ++ .token (.mark ',' false) ::
        [.token (.word "b" true), .token (.mark ':' false), .token (.word "char" false)]))
      [⟨"a", .named ["u8"] [], "u8"⟩, ⟨"b", .named ["char"] [], "char"⟩] :=
    .cons (.word "a" false) first (.last (.word "b" true) last)
  have apart : ToldApart ["a", "b"] := toldApart_iff.mpr (by decide)
  obtain ⟨judgedSet, _⟩ := read_iff_toldApart.1 _ _ set
  obtain ⟨judgedFields, onSuccess⟩ := read_iff_toldApart.2 _ _ _ _ fields
  have accepted := (judgedFields.accepted _).mpr ⟨apart, rfl⟩
  have means : FieldsMean (fun text t => (text, t) ∈ [("u8", Ty.leaf .u8), ("char", .leaf .char)])
      [⟨"a", TypeForm.named ["u8"] [], "u8"⟩, ⟨"b", .named ["char"] [], "char"⟩]
      [("a", .leaf .u8), ("b", .leaf .char)] :=
    .cons ⟨rfl, by decide⟩ (.cons ⟨rfl, by decide⟩ .nil)
  obtain ⟨spelled, keys, found, _, itself⟩ := onSuccess apart _ _ means
  refine ⟨(judgedSet.rejected _).mpr ⟨"a", repeated, rfl, by decide⟩, ⟨_, ?_, spelled⟩,
    keys, found, itself⟩
  exact congrArg (Except.map Phrase.record) accepted

end TypeCalculus.Phrase
