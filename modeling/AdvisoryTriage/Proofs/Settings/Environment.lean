import AdvisoryTriage.Proofs.Settings.Statements
import Mathlib.Data.List.Basic

/-!
# What the environment configures

Settings are taken from three variables of the environment, each of which replaces what was there
and leaves the rest alone (`Settings.withEnvironment_exact`). Two of them are taken as they are. The
third writes a list of statements on one line, with commas between them, and a hand that edits such
a line pads its items and leaves commas behind.

So one list has many written forms (`Settings.WritesList`): any blanks around an item, and pieces of
blanks only anywhere. What they have in common is that no piece holds a comma, so the line is cut
where it was put together. Reading gives the list that is written and no other
(`Settings.itemsOf_eq_iff`), and what is read can always be written: no item is empty, holds a comma
or has blanks around it (`Settings.IsItem`).
-/

namespace AdvisoryTriage

namespace Settings

/-! ### Lists on one line -/

/-- **An item of a list**: a text that can be told apart from what stands around it. -/
structure IsItem (s : String) : Prop where
  /-- It is not empty. -/
  ne_empty : s ≠ ""
  /-- It holds no comma. -/
  comma_not_mem : ',' ∉ s.toList
  /-- It has no blanks around it. -/
  bare : Bare s

/-- What the pieces between the commas write, one after the other. -/
inductive PiecesWrite : List (List Char) → List String → Prop
  /-- No piece writes nothing. -/
  | nil : PiecesWrite [] []
  /-- A piece of blanks, or an empty one, adds nothing. -/
  | blank {piece : List Char} {pieces : List (List Char)} {items : List String}
      (hblank : ∀ c ∈ piece, Text.isBlank c = true) (hrest : PiecesWrite pieces items) :
      PiecesWrite (piece :: pieces) items
  /-- Any other piece is an item with blanks around it. -/
  | item {s : String} {front back : List Char} {pieces : List (List Char)} {items : List String}
      (hitem : IsItem s) (hblank : ∀ c ∈ front ++ back, Text.isBlank c = true)
      (hrest : PiecesWrite pieces items) :
      PiecesWrite ((front ++ s.toList ++ back) :: pieces) (s :: items)

/-- **A value writes a list of items** if it is put together from pieces that do, with commas
between them. -/
def WritesList (value : String) (items : List String) : Prop :=
  ∃ pieces, value.toList = [','].intercalate pieces ∧ PiecesWrite pieces items

/-! ### Reading a list -/

/-- The item that a piece holds, if it holds one. -/
def itemOf? (piece : List Char) : Option String :=
  if Text.trim piece = [] then none else some (String.ofList (Text.trim piece))

theorem itemsOf_eq (value : String) :
    itemsOf value = (value.toList.splitOn ',').filterMap itemOf? := by
  rw [itemsOf]
  generalize value.toList.splitOn ',' = pieces
  induction pieces with
  | nil => rfl
  | cons piece pieces ih =>
    by_cases h : Text.trim piece = [] <;> simp_all [itemOf?]

/-- A text is cut at every separator: none is left in a piece. -/
theorem not_mem_of_mem_splitOn {sep : Char} {s piece : List Char} (h : piece ∈ s.splitOn sep) :
    sep ∉ piece := by
  induction s generalizing piece with
  | nil =>
    rw [List.splitOn_nil, List.mem_singleton] at h
    simp [h]
  | cons c s ih =>
    rw [List.splitOn_cons_eq_if_modifyHead] at h
    split_ifs at h with hc
    · rcases List.mem_cons.mp h with rfl | h
      · exact List.not_mem_nil
      · exact ih h
    · -- the character goes to the first piece of the rest, and is no separator
      cases hs : s.splitOn sep with
      | nil => simp [hs] at h
      | cons first pieces =>
        rw [hs] at h ih
        rcases List.mem_cons.mp h with rfl | h
        · rw [List.mem_cons, not_or]
          exact ⟨fun he => hc (beq_iff_eq.mpr he.symm), ih List.mem_cons_self⟩
        · exact ih (List.mem_cons_of_mem first h)

theorem comma_not_blank {s : List Char} (h : ∀ c ∈ s, Text.isBlank c = true) : ',' ∉ s :=
  fun hmem => absurd (h ',' hmem) (by decide)

theorem itemOf?_of_blank {piece : List Char} (h : ∀ c ∈ piece, Text.isBlank c = true) :
    itemOf? piece = none := by
  have htrim := Text.trim_append h (List.forall_mem_nil fun c => Text.isBlank c = true) []
  rw [List.append_nil, List.append_nil, Text.trim_nil] at htrim
  rw [itemOf?, if_pos htrim]

theorem itemOf?_of_item {s : String} {front back : List Char} (hitem : IsItem s)
    (hblank : ∀ c ∈ front ++ back, Text.isBlank c = true) :
    itemOf? (front ++ s.toList ++ back) = some s := by
  obtain ⟨hfront, hback⟩ := List.forall_mem_append.mp hblank
  have hne : s.toList ≠ [] := fun h => hitem.ne_empty (String.toList_eq_nil_iff.mp h)
  rw [itemOf?, Text.trim_append hfront hback, hitem.bare, if_neg hne, String.ofList_toList]

namespace PiecesWrite

variable {pieces : List (List Char)} {items : List String}

theorem comma_not_mem (h : PiecesWrite pieces items) : ∀ piece ∈ pieces, ',' ∉ piece := by
  induction h with
  | nil => simp
  | blank hblank _ ih => exact List.forall_mem_cons.mpr ⟨comma_not_blank hblank, ih⟩
  | item hitem hblank _ ih =>
    obtain ⟨hfront, hback⟩ := List.forall_mem_append.mp hblank
    refine List.forall_mem_cons.mpr ⟨?_, ih⟩
    simp only [List.mem_append, not_or]
    exact ⟨⟨comma_not_blank hfront, hitem.comma_not_mem⟩, comma_not_blank hback⟩

theorem filterMap_eq (h : PiecesWrite pieces items) : pieces.filterMap itemOf? = items := by
  induction h with
  | nil => rfl
  | blank hblank _ ih => rw [List.filterMap_cons_none (itemOf?_of_blank hblank), ih]
  | item hitem hblank _ ih => rw [List.filterMap_cons_some (itemOf?_of_item hitem hblank), ih]

theorem isItem (h : PiecesWrite pieces items) : ∀ s ∈ items, IsItem s := by
  induction h with
  | nil => simp
  | blank _ _ ih => exact ih
  | item hitem _ _ ih => exact List.forall_mem_cons.mpr ⟨hitem, ih⟩

/-- Pieces without commas write what is read of them. -/
theorem of_comma_not_mem (h : ∀ piece ∈ pieces, ',' ∉ piece) :
    PiecesWrite pieces (pieces.filterMap itemOf?) := by
  induction pieces with
  | nil => exact .nil
  | cons piece pieces ih =>
    obtain ⟨hpiece, hpieces⟩ := List.forall_mem_cons.mp h
    obtain ⟨front, back, heq, hfront, hback⟩ := Text.exists_append_trim piece
    by_cases hempty : Text.trim piece = []
    · have hnone : itemOf? piece = none := by rw [itemOf?, if_pos hempty]
      rw [List.filterMap_cons_none hnone]
      refine .blank ?_ (ih hpieces)
      rw [heq, hempty, List.append_nil]
      exact List.forall_mem_append.mpr ⟨hfront, hback⟩
    · have hsome : itemOf? piece = some (String.ofList (Text.trim piece)) := by
        rw [itemOf?, if_neg hempty]
      have hitem : IsItem (String.ofList (Text.trim piece)) := by
        refine ⟨?_, ?_, ?_⟩
        · rw [ne_eq, ← String.toList_eq_nil_iff, String.toList_ofList]
          exact hempty
        · rw [String.toList_ofList]
          intro hmem
          exact hpiece (by rw [heq]; simp [hmem])
        · rw [Bare, String.toList_ofList, Text.trim_trim]
      rw [List.filterMap_cons_some hsome]
      have hwrite := PiecesWrite.item hitem (List.forall_mem_append.mpr ⟨hfront, hback⟩)
        (ih hpieces)
      rwa [String.toList_ofList, ← heq] at hwrite

end PiecesWrite

/-- **Reading a list** gives the one that is written, and whatever is read is written so. -/
theorem itemsOf_eq_iff {value : String} {items : List String} :
    itemsOf value = items ↔ WritesList value items := by
  rw [itemsOf_eq]
  constructor
  · rintro rfl
    exact ⟨_, (List.intercalate_splitOn ',').symm,
      .of_comma_not_mem fun piece => not_mem_of_mem_splitOn⟩
  · rintro ⟨pieces, hvalue, hpieces⟩
    rw [hvalue]
    rcases eq_or_ne pieces [] with rfl | hne
    · rw [← hpieces.filterMap_eq]
      rfl
    · rw [List.splitOn_intercalate ',' hpieces.comma_not_mem hne, hpieces.filterMap_eq]

/-! ### What is configured -/

/-- **What the environment configures.** A list of statements is replaced by the one that the
variable writes, however it is written, and nothing else can come of any value; a threshold word and
the name of a format are replaced by the value as it is. A setting whose variable is not set stays,
and taking the same environment a second time changes nothing. -/
theorem withEnvironment_exact (before : Settings) (lookup : String → Option String) :
    let after := before.withEnvironment (.ofNames lookup)
    (∀ value, lookup "FIXCHECK_INAPPLICABLE_STATES" = some value →
        (∀ items, WritesList value items ↔ after.checker.inapplicableStates = items) ∧
        ∀ s ∈ after.checker.inapplicableStates, IsItem s) ∧
      (lookup "FIXCHECK_INAPPLICABLE_STATES" = none →
        after.checker.inapplicableStates = before.checker.inapplicableStates) ∧
      after.logging.level = (lookup "FIXCHECK_LOG_LEVEL").getD before.logging.level ∧
      after.logging.format = (lookup "FIXCHECK_LOG_FORMAT").getD before.logging.format ∧
      after.withEnvironment (.ofNames lookup) = after := by
  intro after
  refine ⟨fun value hvalue => ?_, fun hnone => ?_, rfl, rfl, ?_⟩
  · have hstates : after.checker.inapplicableStates = itemsOf value := by
      simp [after, withEnvironment, Environment.ofNames, Variable.name, hvalue]
    obtain ⟨pieces, -, hpieces⟩ := itemsOf_eq_iff.mp (rfl : itemsOf value = itemsOf value)
    rw [hstates]
    exact ⟨fun items => itemsOf_eq_iff.symm, hpieces.isItem⟩
  · simp [after, withEnvironment, Environment.ofNames, Variable.name, hnone]
  · simp only [after, withEnvironment]
    cases Environment.ofNames lookup .logLevel <;> cases Environment.ofNames lookup .logFormat <;>
      cases Environment.ofNames lookup .inapplicableStates <;> rfl

/-- An environment in which only the list of statements is set, carelessly written. -/
def careless (name : String) : Option String :=
  if name = "FIXCHECK_INAPPLICABLE_STATES" then some ",\t Not affected , ,\u00a0Will not fix,,"
  else none

theorem careless_writes :
    WritesList ",\t Not affected , ,\u00a0Will not fix,," ["Not affected", "Will not fix"] := by
  have haround {s : List Char} (h : s.all Text.isBlank = true) : ∀ c ∈ s, Text.isBlank c = true :=
    List.all_eq_true.mp h
  refine ⟨_, ?_, .blank (List.forall_mem_nil _) <|
    @PiecesWrite.item "Not affected" ['\t', ' '] [' '] _ _ ⟨by decide, by decide, by decide⟩
      (haround (by decide)) <|
    .blank (haround (s := [' ']) (by decide)) <|
    @PiecesWrite.item "Will not fix" ['\u00a0'] [] _ _ ⟨by decide, by decide, by decide⟩
      (haround (by decide)) <|
    .blank (List.forall_mem_nil _) <| .blank (List.forall_mem_nil _) .nil⟩
  decide

/-- The list replaces the one that was there, and the rest stays. -/
theorem withEnvironment_careless :
    let before : Settings := (Settings.withLogLevel { } "debug").addInapplicableState "Fixed"
    let after := before.withEnvironment (.ofNames careless)
    careless "FIXCHECK_INAPPLICABLE_STATES" = some ",\t Not affected , ,\u00a0Will not fix,," ∧
      careless "FIXCHECK_LOG_LEVEL" = none ∧
      WritesList ",\t Not affected , ,\u00a0Will not fix,," ["Not affected", "Will not fix"] ∧
      after.checker.inapplicableStates = ["Not affected", "Will not fix"] ∧
      after.logging.level = "debug" := by
  intro before after
  have hset : careless "FIXCHECK_INAPPLICABLE_STATES" =
      some ",\t Not affected , ,\u00a0Will not fix,," := rfl
  obtain ⟨hlist, -, hlevel, -⟩ := withEnvironment_exact before careless
  exact ⟨hset, rfl, careless_writes, ((hlist _ hset).1 _).mp careless_writes, hlevel⟩

end Settings

end AdvisoryTriage
