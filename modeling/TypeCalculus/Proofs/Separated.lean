import TypeCalculus.Phrase.Basic

namespace TypeCalculus.Phrase

inductive Spells : Token → String → Prop
  | string (value source : String) : Spells (.literal (.string value source)) value
  | word (name : String) (raw : Bool) : Spells (.word name raw) name

-- Labels with commas between them and, where the rest is empty, after the last.
inductive LabelList : List TokenTree → List String → Prop
  | nil : LabelList [] []
  | last {token : Token} {text : String} (named : Spells token text) :
      LabelList [.token token] [text]
  | cons {token : Token} {text : String} {joint : Bool} {rest : List TokenTree}
      {texts : List String} (named : Spells token text) (others : LabelList rest texts) :
      LabelList (.token token :: .token (.mark ',' joint) :: rest) (text :: texts)

variable {Form : Type}

-- In front of the tail the reader takes exactly the tokens of a value, and leaves none in a group.
structure TypeReader.Takes (types : TypeReader Form) (value tail : List TokenTree) (form : Form) :
    Prop where
  taken : ∃ shorter, types.read (value ++ tail) = .ok (form, ⟨tail, shorter⟩)
  whole : types.surplus? form = none

-- Fields in the same way: a label, a colon, and a value that the reader of types takes.
inductive EntryList (types : TypeReader Form) : List TokenTree → List (Entry Form) → Prop
  | nil : EntryList types [] []
  | last {token : Token} {text : String} {colon : Bool} {value : List TokenTree} {form : Form}
      (named : Spells token text) (typed : types.Takes value [] form) :
      EntryList types (.token token :: .token (.mark ':' colon) :: value)
        [⟨text, form, TokenTree.renderAll value⟩]
  | cons {token : Token} {text : String} {colon joint : Bool} {value rest : List TokenTree}
      {form : Form} {entries : List (Entry Form)} (named : Spells token text)
      (typed : types.Takes value (.token (.mark ',' joint) :: rest) form)
      (others : EntryList types rest entries) :
      EntryList types (.token token :: .token (.mark ':' colon) ::
          (value ++ .token (.mark ',' joint) :: rest))
        (⟨text, form, TokenTree.renderAll value⟩ :: entries)

theorem readLabel_of_spells {token : Token} {text : String} (named : Spells token text)
    (more : List TokenTree) : readLabel (.token token :: more) = .ok (text, .afterToken) := by
  cases named with
  | string value source => rfl
  | word name raw => rfl

theorem readMark_mark (c : Char) (joint : Bool) (more : List TokenTree) :
    readMark c (.token (.mark c joint) :: more) = .ok .afterToken := by
  rw [readMark, if_pos rfl]

theorem ok_bind {α β : Type} (a : α) (f : α → Except Fault β) : (Except.ok a >>= f) = f a :=
  rfl

theorem isEmpty_of_shorter {trees rest : List TokenTree}
    (shorter : TokenTree.weightAll rest < TokenTree.weightAll trees) : trees.isEmpty = false := by
  cases trees with
  | nil => exact absurd shorter (Nat.not_lt_zero _)
  | cons tree more => rfl

section Separated

variable {α : Type} {trees : List TokenTree}
  {element : (left : TokenTree.AtMost trees) → Except Fault (α × TokenTree.Rest left.val)}
  {first : α}

theorem separated_last {shorter : TokenTree.weightAll [] < TokenTree.weightAll trees}
    (read : element .all = .ok (first, ⟨[], shorter⟩)) :
    separated trees element = .ok [first] := by
  rw [separated, isEmpty_of_shorter shorter, read]
  rfl

theorem separated_cons {joint : Bool} {more : List TokenTree}
    {shorter : TokenTree.weightAll (.token (.mark ',' joint) :: more) < TokenTree.weightAll trees}
    (read : element .all = .ok (first, ⟨.token (.mark ',' joint) :: more, shorter⟩))
    {others : List α}
    (rest : separated more (fun left => element (.ofRest (.trans ⟨_, shorter⟩ .afterToken) left)) =
      .ok others) :
    separated trees element = .ok (first :: others) := by
  rw [separated, isEmpty_of_shorter shorter, read]
  simp only [Bool.false_eq_true, if_false, ok_bind, List.isEmpty_cons, readMark_mark]
  exact congrArg (Except.map (first :: ·)) rest

end Separated

theorem separated_of_labelList {trees : List TokenTree} {texts : List String}
    (written : LabelList trees texts) :
    separated trees (fun left => readLabel left.val) = .ok texts := by
  induction written with
  | nil => rw [separated]; rfl
  | last named => exact separated_last (readLabel_of_spells named [])
  | cons named others rest => exact separated_cons (readLabel_of_spells named _) rest

theorem readEntry_of_takes {types : TypeReader Form} {token : Token} {text : String} {colon : Bool}
    {value tail : List TokenTree} {form : Form} (named : Spells token text)
    (typed : types.Takes value tail form) :
    ∃ shorter, readEntry (.token token :: .token (.mark ':' colon) :: (value ++ tail))
        (fun inner => types.read inner.val) =
      .ok (⟨text, form, TokenTree.renderAll value⟩, ⟨tail, shorter⟩) := by
  obtain ⟨⟨shorter, read⟩, _⟩ := typed
  have source : (value ++ tail).take ((value ++ tail).length - tail.length) = value := by
    rw [List.length_append, Nat.add_sub_cancel]
    exact List.take_left
  have within : TokenTree.weightAll tail < TokenTree.weightAll
      (.token token :: .token (.mark ':' colon) :: (value ++ tail)) := by
    rw [TokenTree.weightAll_token, TokenTree.weightAll_token]
    omega
  refine ⟨within, ?_⟩
  rw [readEntry, readLabel_of_spells named]
  simp only [ok_bind, readMark_mark, TokenTree.Rest.afterToken, TokenTree.Rest.trans, read, source]
  rfl

theorem separated_of_entryList {types : TypeReader Form} {trees : List TokenTree}
    {entries : List (Entry Form)} (written : EntryList types trees entries) :
    separated trees (fun left => readEntry left.val fun value => types.read value.val) =
      .ok entries := by
  induction written with
  | nil => rw [separated]; rfl
  | last named typed =>
    obtain ⟨_, read⟩ := List.append_nil _ ▸ readEntry_of_takes named typed
    exact separated_last read
  | cons named typed others rest =>
    obtain ⟨_, read⟩ := readEntry_of_takes named typed
    exact separated_cons read rest

theorem EntryList.surplus {types : TypeReader Form} {trees : List TokenTree}
    {entries : List (Entry Form)} (written : EntryList types trees entries) :
    (entries.findSome? fun entry => types.surplus? entry.form) = none := by
  induction written with
  | nil => rfl
  | last _ typed => rw [List.findSome?_singleton, typed.whole]
  | cons _ typed _ rest => rw [List.findSome?_cons, typed.whole, rest]

-- A name is a value of its own in front of what neither goes on with its path nor calls it.
theorem takes_name {name : String} {tail : List TokenTree} (free : name ∉ reservedWords)
    (plain : beginsArguments? tail = none) (whole : continuesPath? tail = none)
    (uncalled : opensCall? tail = none) :
    TypeForm.reader.Takes [.token (.word name false)] tail (.named [name] []) := by
  have other : name ≠ "_" := by
    rintro rfl
    exact free (by decide)
  have known : firstName (.token (.word name false) :: tail) = .ok (name, .afterToken) := by
    simp [firstName, pathName, free]
  have alone : pathFrom [name] [] true tail = .ok (.named [name] [], ⟨tail, Nat.le_refl _⟩) := by
    rw [pathFrom, plain, pathEnd, whole, if_pos rfl, uncalled]
    rfl
  refine ⟨⟨TokenTree.Rest.afterToken.2, ?_⟩, rfl⟩
  change readType (.token (.word name false) :: tail) = _
  rw [readType, known]
  · simp only [doubleColon?, ok_bind, TokenTree.Rest.afterToken, alone]
    rfl
  all_goals simp [other]

end TypeCalculus.Phrase
