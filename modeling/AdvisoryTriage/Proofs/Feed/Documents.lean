import AdvisoryTriage.Feed.Json
import AdvisoryTriage.Proofs.Json.Objects
import AdvisoryTriage.Proofs.Json.Reading

/-!
# A feed is recovered from its documents

What a feed says does not depend on how its document is laid out. An advisory, a fix and a statement
may each give their fields in any order, leave out what an absent field counts as, and hold whatever
else they like (`Json.Layout.Rewrites`). The values that come from what is written of a feed that
way are `Feed.SaidBy`, built from the entries outwards, and their texts are the documents of the
feed (`Feed.Document`).

What is written of a feed is a document of it, and every document of it is read as the feed
(`Feed.ofJsonText?_documents`). Both sides name the fields for themselves, the writer in the list of
the fields with their values (`Fix.fields`) and the reader where it asks for them. A layout names
them a third time, and that the three agree is what the `rfl` below stand for, and the rewriting
with what was found.
-/

namespace AdvisoryTriage

open Json (Layout Members Value)
open Json.Value (membersOf)

/-! ### The values of a feed -/

namespace Fix

/-- How a fix is laid out. -/
def layout : Layout :=
  .ofTexts ["package", "product_name", "advisory", "cpe"]

/-- **The objects of a fix.** -/
inductive SaidBy (fix : Fix) : Value → Prop
  | intro {ms : Members} (h : layout.Rewrites (membersOf fix.fields) ms) : SaidBy fix (.object ms)

end Fix

namespace PackageState

/-- How a statement is laid out. -/
def layout : Layout :=
  .ofTexts ["package_name", "product_name", "fix_state", "cpe"]

/-- **The objects of a statement.** -/
inductive SaidBy (state : PackageState) : Value → Prop
  | intro {ms : Members} (h : layout.Rewrites (membersOf state.fields) ms) :
      SaidBy state (.object ms)

end PackageState

namespace Advisory

/-- How an advisory is laid out: its lists may be left out where they are empty. -/
def layout : Layout where
  fields := ["name", "affected_release", "package_state"]
  optional := ["affected_release", "package_state"]
  absent := .array []

/-- **The objects of an advisory**, from any objects of its entries. -/
inductive SaidBy (a : Advisory) : Value → Prop
  | intro {fixes states : List Value} {ms : Members}
      (hfixes : List.Forall₂ Fix.SaidBy a.fixes fixes)
      (hstates : List.Forall₂ PackageState.SaidBy a.states states)
      (h : layout.Rewrites (membersOf (fields a.name fixes states)) ms) : SaidBy a (.object ms)

end Advisory

namespace Feed

/-- **The arrays of a feed**, from any objects of its advisories. -/
inductive SaidBy (feed : Feed) : Value → Prop
  | intro {items : List Value} (h : List.Forall₂ Advisory.SaidBy feed.advisories items) :
      SaidBy feed (.array items)

/-- **A document of a feed** is a text of any of its values. -/
def Document (feed : Feed) (text : String) : Prop :=
  ∃ v, feed.SaidBy v ∧ v.WrittenAs text

end Feed

/-! ### They are read as the feed -/

theorem mapM_eq_some_of_forall₂ {α β : Type} {f : β → Option α} {xs : List α} {ys : List β}
    (h : List.Forall₂ (fun x y => f y = some x) xs ys) : ys.mapM f = some xs := by
  induction h with
  | nil => rfl
  | cons hxy _ ih => simp [hxy, ih]

section Hands

variable {l : Layout} {name : String} {found : Option Value}

/-- A text that has to be given is read, since no absent list counts as one. -/
theorem text?_of_hands (hl : l.absent = .array []) {text : String}
    (h : l.Hands (name, .string (some text)) found) : Value.text? found = some text := by
  rcases h with rfl | ⟨habsent, rfl⟩
  · rfl
  · rw [hl] at habsent
    cases habsent

/-- A text that may be absent is read. -/
theorem optionalText?_of_hands (hl : l.absent = .null) {text : Option String}
    (h : l.Hands (name, .ofText text) found) : Value.optionalText? found = some text := by
  rcases h with rfl | ⟨habsent, rfl⟩
  · cases text <;> rfl
  · rw [hl] at habsent
    cases text with
    | none => rfl
    | some _ => cases habsent

/-- A list is read if its items are. -/
theorem list?_of_hands (hl : l.absent = .array []) {α : Type} {item? : Value → Option α}
    {xs : List α} {items : List Value}
    (hitems : List.Forall₂ (fun x v => item? v = some x) xs items)
    (h : l.Hands (name, .array items) found) : Value.list? item? found = some xs := by
  rcases h with rfl | ⟨habsent, rfl⟩
  · exact mapM_eq_some_of_forall₂ hitems
  · rw [hl] at habsent
    cases habsent
    obtain rfl := List.forall₂_nil_right_iff.mp hitems
    rfl

end Hands

theorem Fix.ofJson?_of_saidBy {fix : Fix} {v : Value} (h : fix.SaidBy v) :
    Fix.ofJson? v = some fix := by
  obtain ⟨hms⟩ := h
  obtain ⟨found, hfound, hhands⟩ := hms.exists_fields? rfl (by decide) 0
  rcases hhands with _ | ⟨hspecifier, _ | ⟨hproduct, _ | ⟨herratum, _ | ⟨hcpe, ⟨⟩⟩⟩⟩⟩
  simp only [layout, Layout.ofTexts] at hfound
  rw [ofJson?, hfound]
  simp [optionalText?_of_hands rfl hspecifier, optionalText?_of_hands rfl hproduct,
    optionalText?_of_hands rfl herratum, optionalText?_of_hands rfl hcpe]

theorem PackageState.ofJson?_of_saidBy {state : PackageState} {v : Value} (h : state.SaidBy v) :
    PackageState.ofJson? v = some state := by
  obtain ⟨hms⟩ := h
  obtain ⟨found, hfound, hhands⟩ := hms.exists_fields? rfl (by decide) 0
  rcases hhands with _ | ⟨hpackage, _ | ⟨hproduct, _ | ⟨hstate, _ | ⟨hcpe, ⟨⟩⟩⟩⟩⟩
  simp only [layout, Layout.ofTexts] at hfound
  rw [ofJson?, hfound]
  simp [optionalText?_of_hands rfl hpackage, optionalText?_of_hands rfl hproduct,
    optionalText?_of_hands rfl hstate, optionalText?_of_hands rfl hcpe]

theorem Advisory.ofJson?_of_saidBy {a : Advisory} {v : Value} (h : a.SaidBy v) :
    Advisory.ofJson? v = some a := by
  obtain ⟨hfixes, hstates, hms⟩ := h
  -- the entries were changed before the advisory, so its lists are handed on with them
  obtain ⟨found, hfound, hhands⟩ := hms.exists_fields? rfl (by decide) 1
  rcases hhands with _ | ⟨hname, _ | ⟨hfix, _ | ⟨hstate, ⟨⟩⟩⟩⟩
  simp only [layout] at hfound
  rw [ofJson?, hfound]
  simp [text?_of_hands rfl hname,
    list?_of_hands rfl (hfixes.imp fun _ _ => Fix.ofJson?_of_saidBy) hfix,
    list?_of_hands rfl (hstates.imp fun _ _ => PackageState.ofJson?_of_saidBy) hstate]

/-- **Every value that says what a feed says is read as the feed.** -/
theorem Feed.ofJson?_of_saidBy {feed : Feed} {v : Value} (h : feed.SaidBy v) :
    Feed.ofJson? v = some feed := by
  obtain ⟨hitems⟩ := h
  rw [ofJson?, mapM_eq_some_of_forall₂ (hitems.imp fun _ _ => Advisory.ofJson?_of_saidBy)]
  rfl

/-! ### What is written of a feed is one of them -/

theorem forall₂_map_right {α β : Type} {f : α → β} {R : α → β → Prop} (h : ∀ x, R x (f x))
    (xs : List α) : List.Forall₂ R xs (xs.map f) :=
  List.forall₂_map_right_iff.mpr (List.forall₂_same.mpr fun x _ => h x)

theorem Fix.saidBy_toJson (fix : Fix) : fix.SaidBy fix.toJson :=
  .intro .refl

theorem PackageState.saidBy_toJson (state : PackageState) : state.SaidBy state.toJson :=
  .intro .refl

theorem Advisory.saidBy_toJson (a : Advisory) : a.SaidBy a.toJson :=
  .intro (forall₂_map_right Fix.saidBy_toJson a.fixes)
    (forall₂_map_right PackageState.saidBy_toJson a.states) .refl

theorem Feed.saidBy_toJson (feed : Feed) : feed.SaidBy feed.toJson :=
  .intro (forall₂_map_right Advisory.saidBy_toJson feed.advisories)

theorem Fix.writable_toJson (fix : Fix) : fix.toJson.Writable := by
  refine Value.writable_membersOf ?_
  simp [fields, Value.writable_ofText]

theorem PackageState.writable_toJson (state : PackageState) : state.toJson.Writable := by
  refine Value.writable_membersOf ?_
  simp [fields, Value.writable_ofText]

theorem Advisory.writable_toJson (a : Advisory) : a.toJson.Writable := by
  have hname : (Value.string (some a.name)).Writable := Value.writable_ofText (some a.name)
  have hfixes : (Value.array (a.fixes.map Fix.toJson)).Writable :=
    Value.writable_array (List.forall_mem_map.mpr fun fix _ => fix.writable_toJson)
  have hstates : (Value.array (a.states.map PackageState.toJson)).Writable :=
    Value.writable_array (List.forall_mem_map.mpr fun state _ => state.writable_toJson)
  refine Value.writable_membersOf ?_
  simp [fields, hname, hfixes, hstates]

theorem Feed.writable_toJson (feed : Feed) : feed.toJson.Writable :=
  Value.writable_array (List.forall_mem_map.mpr fun a _ => a.writable_toJson)

/-- **A feed is recovered from every document of it**, the one that is written of it among them. -/
theorem Feed.ofJsonText?_documents (feed : Feed) :
    feed.Document feed.toJsonText ∧
      ∀ text, feed.Document text → Feed.ofJsonText? text = some feed := by
  refine ⟨⟨feed.toJson, feed.saidBy_toJson, feed.writable_toJson.writtenAs_compact⟩, ?_⟩
  rintro text ⟨v, hsaid, hwritten⟩
  rw [ofJsonText?, Json.parse?_of_writtenAs hwritten]
  exact ofJson?_of_saidBy hsaid

/-! ### A document of another shape

One fix, of which all but the specifier is absent, in one advisory without statements. Everything
that may be left out is, and the members are turned about.
-/

namespace Feed

/-- A fix of which only the specifier is known. -/
def bareFix : Fix :=
  { specifier := some "bash-4.4-20.el8" }

/-- An advisory with that fix and no statement. -/
def bareAdvisory : Advisory :=
  { name := "CVE-2020-0001", fixes := [bareFix] }

/-- The fix without what is absent, and with a note in front. -/
def notedFix : Members :=
  membersOf [("note", .ofText (some "50% \"done\"\n")), ("package", .ofText bareFix.specifier)]

/-- The advisory without the empty list, with its name at the end, and with an object between that
has a name of its own. -/
def turnedAdvisory : Members :=
  membersOf [("affected_release", .array [.object notedFix]),
    ("threat", .object (membersOf [("name", .ofText none)])), ("name", .ofText bareAdvisory.name)]

theorem saidBy_notedFix : bareFix.SaidBy (.object notedFix) := by
  let package : Option String × Value := (some "package", .ofText bareFix.specifier)
  refine .intro (.head (@Layout.Step.leaveOut _ "product_name" [package] [_, _] (by decide)) ?_)
  refine .head (@Layout.Step.leaveOut _ "advisory" [package] [_] (by decide)) ?_
  refine .head (@Layout.Step.leaveOut _ "cpe" [package] [] (by decide)) ?_
  exact .single (@Layout.Step.add _ "note" [] [package] (by decide) _)

theorem saidBy_turnedAdvisory : bareAdvisory.SaidBy (.object turnedAdvisory) := by
  refine .intro (.cons saidBy_notedFix .nil) .nil ?_
  refine .head (@Layout.Step.leaveOut _ "package_state" [_, _] [] (by decide)) ?_
  refine .head (.reorder (.swap _ _ [])) ?_
  exact .single (@Layout.Step.add _ "threat" [_] [_] (by decide) _)

theorem writable_turnedAdvisory : (Value.object turnedAdvisory).Writable := by
  have hfix : (Value.object notedFix).Writable := by
    refine Value.writable_membersOf ?_
    simp [Value.writable_ofText]
  have hthreat : (Value.object (membersOf [("name", .ofText none)])).Writable := by
    refine Value.writable_membersOf ?_
    simp [Value.writable_ofText]
  refine Value.writable_membersOf ?_
  simp [Value.writable_ofText, Value.writable_array, hfix, hthreat]

/-- The document of the feed of that advisory. -/
def turnedText : String :=
  "[\x7b\"affected_release\":[\x7b\"note\":\"50% \\\"done\\\"\\n\"," ++
    "\"package\":\"bash-4.4-20.el8\"\x7d],\"threat\":\x7b\"name\":null\x7d," ++
    "\"name\":\"CVE-2020-0001\"\x7d]"

theorem document_turnedText : Feed.Document ⟨[bareAdvisory]⟩ turnedText := by
  have hcompact : (Value.array [.object turnedAdvisory]).compact = turnedText := by
    decide +kernel
  have hwritable : (Value.array [.object turnedAdvisory]).Writable :=
    Value.writable_array (List.forall_mem_singleton.mpr writable_turnedAdvisory)
  exact ⟨_, .intro (.cons saidBy_turnedAdvisory .nil), hcompact ▸ hwritable.writtenAs_compact⟩

theorem ofJsonText?_turnedText :
    Feed.Document ⟨[bareAdvisory]⟩ turnedText ∧
      Feed.ofJsonText? turnedText = some ⟨[bareAdvisory]⟩ :=
  ⟨document_turnedText, (Feed.ofJsonText?_documents _).2 _ document_turnedText⟩

end Feed

end AdvisoryTriage
