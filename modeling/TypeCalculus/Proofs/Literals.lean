import TypeCalculus.Proofs.Duplicates
import TypeCalculus.Proofs.Readings

namespace TypeCalculus

theorem Key.name_ofText (text : String) : (Key.ofText text).name = text := by
  apply Option.some.inj
  rw [← Key.name?_ty]
  exact Label.name?_ofText text

theorem Naming.list?_ofTexts (values : List (String × Ty)) :
    list? (Record.ofTexts values) = some (values.map Prod.fst) := by
  have back : Key.name ∘ Key.ofText = id := funext Key.name_ofText
  rw [Record.ofTexts_eq, list?_ofRows, Record.keys_textRows, List.map_map, back, List.map_id]

namespace Record

open Phrase (ofText_key_injective)

theorem size?_ofTexts (values : List (String × Ty)) :
    size? (ofTexts values) = some values.length := by
  rw [ofTexts_eq, size?_ofRows, textRows, List.length_map]

theorem get?_ofTexts (values : List (String × Ty)) (text : String) :
    get? (ofTexts values) (Label.ofText text) = (textRows values).lookup (Key.ofText text) := by
  rw [ofTexts_eq]
  exact get?_ofRows (textRows values) (Key.ofText text)

theorem nodup_keys_textRows {values : List (String × Ty)}
    (distinct : (values.map Prod.fst).Nodup) : (textRows values).keys.Nodup := by
  rw [keys_textRows]
  exact distinct.map ofText_key_injective

-- What is in a record that is the finite map with the given entries, by each of its readings.
structure Maps (t : Ty) (values : List (String × Ty)) : Prop where
  keys : keys? t = some (LabelSet.ofTexts (values.map Prod.fst))
  found : ∀ entry ∈ values, get? t (Label.ofText entry.1) = some entry.2
  missing : ∀ text, text ∉ values.map Prod.fst → get? t (Label.ofText text) = none
  size : size? t = some values.length
  names : Naming.list? t = some (values.map Prod.fst)

theorem maps_ofTexts {values : List (String × Ty)} (distinct : (values.map Prod.fst).Nodup) :
    Maps (ofTexts values) values where
  keys := Phrase.keys?_ofTexts values
  found entry member := by
    have row : (Key.ofText entry.1, entry.2) ∈ textRows values := List.mem_map_of_mem member
    rw [get?_ofTexts, Rows.lookup_eq_some_iff (nodup_keys_textRows distinct)]
    exact row
  missing text absent := by
    rw [get?_ofTexts, Rows.lookup_eq_none_iff, keys_textRows,
      List.mem_map_of_injective ofText_key_injective]
    exact absent
  size := size?_ofTexts values
  names := Naming.list?_ofTexts values

end Record

namespace Phrase

open Record (Maps maps_ofTexts)

def type? (kind : Kind) (trees : List TokenTree) : Option Ty :=
  match read kind trees with
  | .ok phrase => phrase.resolve?
  | .error _ => none

theorem type?_label {token : Token} {text : String} (named : Spells token text) :
    type? .label [.token token] = some (Label.ofText text) := by
  cases named with
  | string value source => rfl
  | word name raw => rfl

theorem type?_labels {trees : List TokenTree} {texts : List String}
    (written : LabelList trees texts) (distinct : texts.Nodup) :
    type? .labels trees = some (LabelSet.ofTexts texts) := by
  rw [type?, read_labels written, distinct_of_toldApart .label (toldApart_iff.mpr distinct)]
  rfl

theorem literal_faithful {values : List (String × Ty)} (distinct : (values.map Prod.fst).Nodup) :
    (∀ (token : Token) (text : String), Spells token text →
      type? .label [.token token] = some (Label.ofText text)) ∧
    (∀ trees : List TokenTree, LabelList trees (values.map Prod.fst) →
      type? .labels trees = some (LabelSet.ofTexts (values.map Prod.fst))) ∧
    (∀ scope : Scope, (Expr.labels (values.map Prod.fst)).evaluate scope =
      .ok (LabelSet.ofTexts (values.map Prod.fst))) ∧
    (∀ (Form : Type) (types : TypeReader Form) (meaning : String → Ty → Prop)
        (trees : List TokenTree) (entries : List (Entry Form)),
      EntryList types trees entries → FieldsMean meaning entries values →
      (types.readRecord trees).map recordExpansion = .ok (recordExpansion entries) ∧
      Denotes meaning (recordExpansion entries) (Record.ofTexts values) ∧
      Maps (Record.ofTexts values) values) ∧
    (∀ (scope : Scope) (entries : List (String × Expr)), Expr.FieldsEvaluate scope entries values →
      ∃ t, (Expr.record entries).evaluate scope = .ok t ∧ Maps t values) := by
  refine ⟨fun _ _ named => type?_label named, fun _ written => type?_labels written distinct,
    fun _ => Expr.evaluate_labels distinct, ?_, ?_⟩
  · intro Form types meaning trees entries written each
    have apart : ToldApart (entries.map (·.key)) := toldApart_iff.mpr (each.keys ▸ distinct)
    refine ⟨?_, denotes_record each, maps_ofTexts distinct⟩
    rw [readRecord_eq written, distinct_of_toldApart .recordKey apart]
    rfl
  · intro scope entries each
    have apart : (entries.map Prod.fst).Nodup := by
      rw [← Expr.fieldsEvaluate_keys each]
      exact distinct
    exact ⟨_, Expr.evaluate_record apart each, maps_ofTexts distinct⟩

theorem literal_faithful_empty_text :
    (["", "é"] : List String).Nodup ∧
    ∃ text t, (TypeForm.reader.readRecord [.token (.literal (.string "" "\"\"")),
        .token (.mark ':' false), .token (.word "u8" false), .token (.mark ',' false),
        .token (.word "é" true), .token (.mark ':' false),
        .token (.word "char" false)]).map recordExpansion = .ok text ∧
      Denotes (fun text t => (text, t) ∈ [("u8", Ty.leaf .u8), ("char", .leaf .char)]) text t ∧
      Record.get? t (Label.ofText "") = some (.leaf .u8) ∧
      Record.get? t (Label.ofText "é") = some (.leaf .char) ∧
      Record.get? t (Label.ofText "e") = none ∧
      Record.size? t = some 2 ∧
      Naming.list? t = some ["", "é"] := by
  have distinct : (["", "é"] : List String).Nodup := by decide
  have last : TypeForm.reader.Takes [.token (.word "char" false)] [] (.named ["char"] []) :=
    takes_name (by decide) rfl rfl rfl
  have first : TypeForm.reader.Takes [.token (.word "u8" false)] (.token (.mark ',' false) ::
      [.token (.word "é" true), .token (.mark ':' false), .token (.word "char" false)])
      (.named ["u8"] []) :=
    takes_name (by decide) rfl rfl rfl
  have fields : EntryList TypeForm.reader (.token (.literal (.string "" "\"\"")) ::
      .token (.mark ':' false) :: ([.token (.word "u8" false)] ++ .token (.mark ',' false) ::
        [.token (.word "é" true), .token (.mark ':' false), .token (.word "char" false)]))
      [⟨"", .named ["u8"] [], "u8"⟩, ⟨"é", .named ["char"] [], "char"⟩] :=
    .cons (.string "" "\"\"") first (.last (.word "é" true) last)
  have each : FieldsMean (fun text t => (text, t) ∈ [("u8", Ty.leaf .u8), ("char", .leaf .char)])
      [⟨"", TypeForm.named ["u8"] [], "u8"⟩, ⟨"é", .named ["char"] [], "char"⟩]
      [("", .leaf .u8), ("é", .leaf .char)] :=
    .cons ⟨rfl, by decide⟩ (.cons ⟨rfl, by decide⟩ .nil)
  obtain ⟨_, _, _, written, _⟩ :=
    @literal_faithful [("", .leaf .u8), ("é", .leaf .char)] distinct
  obtain ⟨read, spelled, maps⟩ := written _ _ _ _ _ fields each
  exact ⟨distinct, _, _, read, spelled, maps.found ("", .leaf .u8) (by simp),
    maps.found ("é", .leaf .char) (by simp), maps.missing "e" (by decide), maps.size, maps.names⟩

end Phrase

end TypeCalculus
