import AdvisoryTriage.Proofs.Cpe.Components

/-!
# Which colons a scan sees quoted

Cutting takes a backslash and the character behind it in one step. A scan that reads one character
at a time needs a flag instead, which says whether the backslash just read is still open
(`Cpe.leavesOpen`). With it, what cutting and joining have to do with each other can be said of each
component on its own, read from its own front: a list of texts is what some text is cut into exactly
if the flag is up at every colon in them, and down at the end of all but the last
(`Cpe.splitComponents_eq_iff_scan`).

That the scan of a text goes on over its components as if each were the first is no accident: where
the text is cut the flag is down, and behind a text that leaves it down a scan begins anew
(`Cpe.leavesOpen_append`, `Cpe.colonsQuoted_append_iff`).
-/

namespace AdvisoryTriage

namespace Cpe

/-! ### The flag of the scan -/

/-- Whether a scan of the text leaves a backslash open at its end. A backslash that is quoted itself
opens nothing. -/
def leavesOpen (s : List Char) : Bool :=
  s.foldl (fun isOpen c => !isOpen && c == '\\') false

/-- Every colon of the text is quoted: where a scan comes to it, a backslash is open. -/
def ColonsQuoted (s : List Char) : Prop :=
  ∀ u v, s = u ++ ':' :: v → leavesOpen u = true

/-- Behind a text that leaves no backslash open a scan begins anew. -/
theorem leavesOpen_append {s : List Char} (hs : leavesOpen s = false) (t : List Char) :
    leavesOpen (s ++ t) = leavesOpen t := by
  rw [leavesOpen] at hs
  rw [leavesOpen, List.foldl_append, hs, leavesOpen]

/-- A backslash is left open only by one at the very end, behind a text that leaves none open. -/
theorem exists_of_leavesOpen {s : List Char} (h : leavesOpen s = true) :
    ∃ t, s = t ++ ['\\'] ∧ leavesOpen t = false := by
  rcases List.eq_nil_or_concat s with rfl | ⟨t, c, rfl⟩
  · cases h
  · rw [leavesOpen, List.concat_eq_append, List.foldl_append, List.foldl_cons, List.foldl_nil,
      ← leavesOpen, Bool.and_eq_true, Bool.not_eq_true', beq_iff_eq] at h
    obtain ⟨ht, rfl⟩ := h
    exact ⟨t, List.concat_eq_append, ht⟩

/-- **Texts one behind the other** have their colons quoted each on its own, if no backslash is open
between them. -/
theorem colonsQuoted_append_iff {s : List Char} (hs : leavesOpen s = false) (t : List Char) :
    ColonsQuoted (s ++ t) ↔ ColonsQuoted s ∧ ColonsQuoted t := by
  constructor
  · refine fun h => ⟨?_, ?_⟩
    · rintro u v rfl
      exact h u (v ++ t) (by simp)
    · rintro u v rfl
      rw [← leavesOpen_append hs]
      exact h (s ++ u) v (by simp)
  · rintro ⟨hfirst, hsecond⟩ u v he
    rcases List.append_eq_append_iff.mp he with ⟨w, rfl, ht⟩ | ⟨w, rfl, hv⟩
    · rw [leavesOpen_append hs]
      exact hsecond w v ht
    · cases w with
      | nil =>
        rw [List.append_nil] at hs
        have := hsecond [] v hv.symm
        cases this
      | cons c w =>
        obtain ⟨rfl, -⟩ := List.cons.inj hv
        exact hfirst u w rfl

theorem colonsQuoted_singleton_iff {c : Char} : ColonsQuoted [c] ↔ c ≠ ':' := by
  constructor
  · rintro h rfl
    cases h [] [] rfl
  · intro hc u v he
    cases u with
    | nil => exact absurd (List.cons.inj he).1 hc
    | cons d u => simp at he

theorem colonsQuoted_quoted (c : Char) : ColonsQuoted ['\\', c] := by
  intro u v he
  match u, he with
  | [], he => exact absurd (List.cons.inj he).1 (by decide)
  | [d], he =>
    obtain ⟨hd, -⟩ := List.cons.inj he
    rw [← hd]
    rfl
  | d :: e :: u, he => simp at he

theorem leavesOpen_singleton {c : Char} (h : c ≠ '\\') : leavesOpen [c] = false := by
  simp [leavesOpen, h]

/-! ### Components by their scans -/

/-- **A closed text** is one whose colons are quoted and which leaves no backslash open. -/
theorem closed_iff_scan {s : List Char} : Closed s ↔ ColonsQuoted s ∧ leavesOpen s = false := by
  have hchar {c : Char} (hcolon : c ≠ ':') (hbackslash : c ≠ '\\') (s : List Char) :
      ColonsQuoted (c :: s) ∧ leavesOpen (c :: s) = false ↔
        ColonsQuoted s ∧ leavesOpen s = false := by
    have hc := leavesOpen_singleton hbackslash
    rw [← List.singleton_append, colonsQuoted_append_iff hc, leavesOpen_append hc,
      colonsQuoted_singleton_iff, and_iff_right hcolon]
  have hquoted (c : Char) (s : List Char) :
      ColonsQuoted ('\\' :: c :: s) ∧ leavesOpen ('\\' :: c :: s) = false ↔
        ColonsQuoted s ∧ leavesOpen s = false := by
    have hc : leavesOpen ['\\', c] = false := rfl
    have happend : '\\' :: c :: s = ['\\', c] ++ s := rfl
    rw [happend, colonsQuoted_append_iff hc, leavesOpen_append hc,
      and_iff_right (colonsQuoted_quoted c)]
  constructor
  · intro h
    induction h with
    | nil => exact ⟨fun u v he => by simp at he, rfl⟩
    | char hcolon hbackslash _ ih => exact (hchar hcolon hbackslash _).mpr ih
    | quoted c _ ih => exact (hquoted c _).mpr ih
  · intro h
    induction s using cutting_induction with
    | nil => exact .nil
    | dangling => exact absurd h.2 (by decide)
    | colon s => cases h.1 [] s rfl
    | quoted c s ih => exact .quoted c (ih ((hquoted c s).mp h))
    | char c s hcolon hbackslash ih =>
      exact .char hcolon hbackslash (ih ((hchar hcolon hbackslash s).mp h))

/-- **A last component** is a text whose colons are quoted. -/
theorem isLast_iff_scan {s : List Char} : IsLast s ↔ ColonsQuoted s := by
  constructor
  · rintro (h | ⟨t, ht, rfl⟩)
    · exact (closed_iff_scan.mp h).1
    · obtain ⟨hcolons, hopen⟩ := closed_iff_scan.mp ht
      exact (colonsQuoted_append_iff hopen _).mpr
        ⟨hcolons, colonsQuoted_singleton_iff.mpr (by decide)⟩
  · intro h
    cases hopen : leavesOpen s with
    | false => exact .inl (closed_iff_scan.mpr ⟨h, hopen⟩)
    | true =>
      obtain ⟨t, rfl, ht⟩ := exists_of_leavesOpen hopen
      exact .inr ⟨t, closed_iff_scan.mpr ⟨((colonsQuoted_append_iff ht _).mp h).1, ht⟩, rfl⟩

/-- **Components**, by their scans. -/
theorem components_iff_scan {ws : List (List Char)} :
    Components ws ↔
      ws ≠ [] ∧ (∀ w ∈ ws, ColonsQuoted w) ∧ ∀ w ∈ ws.dropLast, leavesOpen w = false := by
  induction ws with
  | nil => exact ⟨fun h => absurd rfl h.ne_nil, fun h => absurd rfl h.1⟩
  | cons w ws ih =>
    rcases eq_or_ne ws [] with rfl | hne
    · rw [components_singleton_iff, isLast_iff_scan]
      simp
    · rw [components_cons_iff hne, closed_iff_scan, ih, List.dropLast_cons_of_ne_nil hne,
        List.forall_mem_cons, List.forall_mem_cons]
      constructor
      · rintro ⟨⟨hcolons, hopen⟩, -, hall, hinit⟩
        exact ⟨List.cons_ne_nil w ws, ⟨hcolons, hall⟩, hopen, hinit⟩
      · rintro ⟨-, ⟨hcolons, hall⟩, hopen, hinit⟩
        exact ⟨⟨hcolons, hopen⟩, hne, hall, hinit⟩

/-- **Cutting undoes joining, and joining undoes cutting.** A text is cut into the list of texts
that, joined by colons, give it back, that have all their colons quoted, and of which none but the
last leaves a backslash open. There is always one such list, since there is what the text is cut
into, and each such list is what some text is cut into, since it can be joined. -/
theorem splitComponents_eq_iff_scan (s : List Char) (ws : List (List Char)) :
    splitComponents s = ws ↔
      joinComponents ws = s ∧ ws ≠ [] ∧ (∀ w ∈ ws, ColonsQuoted w) ∧
        ∀ w ∈ ws.dropLast, leavesOpen w = false := by
  rw [splitComponents_eq_iff, components_iff_scan, and_comm]

example : splitComponents "pro\\:duct::1.0\\".toList =
    ["pro\\:duct".toList, [], "1.0\\".toList] := by decide

end Cpe

end AdvisoryTriage
