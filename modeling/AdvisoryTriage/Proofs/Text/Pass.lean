import AdvisoryTriage.Text.Replace
import Mathlib.Data.List.Basic
import Mathlib.Data.List.Induction

/-!
# Many replacements in one pass

Replacing one spelling after the other goes over the text as often as there are spellings, and what
one replacement writes is read by the next. `Text.replaceEach` goes over it once: it writes the
character of the first spelling in a table that the text opens with, or keeps a character if there
is none, and goes on behind that.

The two come to the same for a table of spellings that are *apart* (`Text.Apart`): no character that
is written for one belongs to a later one, and no spelling begins inside a later one. Then a later
replacement finds its spelling exactly where the text held it from the beginning
(`Text.replaceAll_replaceEach`), and the whole row of replacements is one pass
(`Text.foldl_replaceAll_eq_replaceEach`).
-/

namespace AdvisoryTriage

namespace Text

/-- The first spelling of a table that a text opens with. -/
def spelling? (table : List (String × Char)) (s : List Char) : Option (String × Char) :=
  table.find? fun e => e.1.toList.isPrefixOf s

/-- Writes its character for each spelling of a table, in one pass from the left. -/
def replaceEach (table : List (String × Char)) : List Char → List Char
  | [] => []
  | c :: s =>
    match spelling? table (c :: s) with
    | some e => e.2 :: replaceEach table (s.drop (e.1.toList.length - 1))
    | none => c :: replaceEach table s
termination_by s => s.length
decreasing_by all_goals simp +arith

variable {table : List (String × Char)} {e : String × Char} {s t : List Char} {c : Char}

/-! ### What a text opens with -/

theorem spelling?_eq_none_iff : spelling? table s = none ↔ ∀ e ∈ table, ¬ e.1.toList <+: s := by
  simp [spelling?]

theorem mem_of_spelling? (h : spelling? table s = some e) : e ∈ table ∧ e.1.toList <+: s := by
  rw [spelling?] at h
  have hfront := List.find?_some h
  exact ⟨List.mem_of_find?_eq_some h, List.isPrefixOf_iff_prefix.mp hfront⟩

/-- If no spelling is the beginning of another, the one that stands in front is found. -/
theorem spelling?_append (hfree : ∀ e ∈ table, ∀ f ∈ table, e.1.toList <+: f.1.toList → e = f)
    (he : e ∈ table) (s : List Char) : spelling? table (e.1.toList ++ s) = some e := by
  have hfront : e.1.toList <+: e.1.toList ++ s := List.prefix_append _ s
  cases hs : spelling? table (e.1.toList ++ s) with
  | none => exact absurd hfront (spelling?_eq_none_iff.mp hs e he)
  | some f =>
    obtain ⟨hf, hfs⟩ := mem_of_spelling? hs
    rcases List.prefix_or_prefix_of_prefix hfs hfront with h | h
    · rw [hfree f hf e he h]
    · rw [hfree e he f hf h]

/-- A text that no spelling goes together with is not the beginning of one. -/
theorem spelling?_append_eq_none (h : ∀ e ∈ table, ¬ e.1.toList <+: t ∧ ¬ t <+: e.1.toList)
    (s : List Char) : spelling? table (t ++ s) = none :=
  spelling?_eq_none_iff.mpr fun e he hs =>
    (List.prefix_or_prefix_of_prefix hs (List.prefix_append t s)).elim (h e he).1 (h e he).2

/-- No spelling stands in front of a character that none begins with. -/
theorem spelling?_cons_eq_none (hne : ∀ e ∈ table, e.1.toList ≠ [])
    (h : ∀ e ∈ table, c ∉ e.1.toList.head?) (s : List Char) : spelling? table (c :: s) = none := by
  refine spelling?_eq_none_iff.mpr fun e he hs => ?_
  obtain ⟨d, p, hp⟩ := List.exists_cons_of_ne_nil (hne e he)
  rw [hp, List.cons_prefix_cons] at hs
  exact h e he (by rw [hp, hs.1]; rfl)

/-! ### One pass -/

@[simp] theorem replaceEach_nil (table : List (String × Char)) : replaceEach table [] = [] := by
  rw [replaceEach]

theorem replaceEach_spelling (hne : e.1.toList ≠ [])
    (h : spelling? table (e.1.toList ++ s) = some e) :
    replaceEach table (e.1.toList ++ s) = e.2 :: replaceEach table s := by
  obtain ⟨c, p, hp⟩ := List.exists_cons_of_ne_nil hne
  rw [hp, List.cons_append] at h ⊢
  rw [replaceEach, h]
  simp only [hp, List.length_cons, Nat.add_sub_cancel, List.drop_left]

theorem replaceEach_char (h : spelling? table (c :: s) = none) :
    replaceEach table (c :: s) = c :: replaceEach table s := by
  rw [replaceEach, h]

/-- A text is left at its first character or at the spelling it opens with. -/
theorem replaceEach_induction (hne : ∀ e ∈ table, e.1.toList ≠ []) {P : List Char → Prop}
    (nil : P [])
    (spelling : ∀ e s, spelling? table (e.1.toList ++ s) = some e → P s → P (e.1.toList ++ s))
    (char : ∀ c s, spelling? table (c :: s) = none → P s → P (c :: s)) (s : List Char) : P s := by
  induction h : s.length using Nat.strongRecOn generalizing s with
  | _ n ih =>
    cases s with
    | nil => exact nil
    | cons c s =>
      cases hs : spelling? table (c :: s) with
      | none => exact char c s hs (ih s.length (by rw [← h]; exact Nat.lt_succ_self _) s rfl)
      | some e =>
        obtain ⟨he, t, ht⟩ := mem_of_spelling? hs
        have hpos := List.length_pos_iff.mpr (hne e he)
        have hlen := congrArg List.length ht
        rw [List.length_append] at hlen
        rw [← ht] at hs ⊢
        exact spelling e t hs (ih t.length (by omega) t rfl)

/-- What a pass writes first is a character that it kept or one that it wrote for a spelling. -/
theorem cons_eq_replaceEach (hne : ∀ e ∈ table, e.1.toList ≠ [])
    (h : replaceEach table s = c :: t) :
    (∃ s', s = c :: s' ∧ replaceEach table s' = t) ∨
      ∃ e ∈ table, e.2 = c ∧ ∃ s', s = e.1.toList ++ s' ∧ replaceEach table s' = t := by
  induction s using replaceEach_induction hne with
  | nil => cases (replaceEach_nil table).symm.trans h
  | spelling e s hs _ =>
    have he := (mem_of_spelling? hs).1
    rw [replaceEach_spelling (hne e he) hs] at h
    obtain ⟨hc, ht⟩ := List.cons.inj h
    exact Or.inr ⟨e, he, hc, s, rfl, ht⟩
  | char d s hs _ =>
    rw [replaceEach_char hs] at h
    obtain ⟨rfl, ht⟩ := List.cons.inj h
    exact Or.inl ⟨s, rfl, ht⟩

theorem replaceEach_eq_nil_iff (hne : ∀ e ∈ table, e.1.toList ≠ []) :
    replaceEach table s = [] ↔ s = [] := by
  refine ⟨fun h => ?_, fun h => h ▸ replaceEach_nil table⟩
  induction s using replaceEach_induction hne with
  | nil => rfl
  | spelling e s hs _ =>
    rw [replaceEach_spelling (hne e (mem_of_spelling? hs).1) hs] at h
    cases h
  | char c s hs _ =>
    rw [replaceEach_char hs] at h
    cases h

/-- What stands in front of the result and was not written for a spelling stood in front of the
text. -/
theorem append_eq_replaceEach (hne : ∀ e ∈ table, e.1.toList ≠ []) {p : List Char}
    (hp : ∀ e ∈ table, e.2 ∉ p) (h : replaceEach table s = p ++ t) :
    ∃ s', s = p ++ s' ∧ replaceEach table s' = t := by
  induction p generalizing s with
  | nil => exact ⟨s, rfl, h⟩
  | cons c p ih =>
    rcases cons_eq_replaceEach hne h with ⟨s', rfl, hs'⟩ | ⟨e, he, rfl, -⟩
    · obtain ⟨u, rfl, hu⟩ := ih (fun e he hc => hp e he (List.mem_cons_of_mem c hc)) hs'
      exact ⟨u, rfl, hu⟩
    · exact absurd List.mem_cons_self (hp e he)

/-- What is read from somewhere in the result on is what a pass makes of some end of the text. -/
theorem exists_suffix_of_replaceEach (hne : ∀ e ∈ table, e.1.toList ≠ []) {front : List Char}
    (h : replaceEach table s = front ++ t) : ∃ s', s' <:+ s ∧ replaceEach table s' = t := by
  induction front generalizing s with
  | nil => exact ⟨s, List.suffix_refl s, h⟩
  | cons c front ih =>
    rcases cons_eq_replaceEach hne h with ⟨s', rfl, hs'⟩ | ⟨e, -, -, s', rfl, hs'⟩
    · obtain ⟨u, hu, hread⟩ := ih hs'
      exact ⟨u, hu.trans (List.suffix_cons c s'), hread⟩
    · obtain ⟨u, hu, hread⟩ := ih hs'
      exact ⟨u, hu.trans (List.suffix_append _ s'), hread⟩

/-! ### One pass for a row of replacements -/

/-- **Spellings that are apart**, the first being replaced before the second: what is written for
the first is no character of the second, and the first does not begin inside the second. -/
def Apart (e f : String × Char) : Prop :=
  e.2 ∉ f.1.toList ∧ ∀ c ∈ e.1.toList.head?, c ∉ f.1.toList.tail

/-- Characters that no spelling begins with are kept. -/
theorem replaceEach_append (hne : ∀ e ∈ table, e.1.toList ≠ [])
    (h : ∀ c ∈ t, ∀ e ∈ table, c ∉ e.1.toList.head?) (s : List Char) :
    replaceEach table (t ++ s) = t ++ replaceEach table s := by
  induction t with
  | nil => rfl
  | cons c t ih =>
    obtain ⟨hc, ht⟩ := List.forall_mem_cons.mp h
    rw [List.cons_append, replaceEach_char (spelling?_cons_eq_none hne hc _), ih ht,
      List.cons_append]

/-- So is a text inside which none begins and which opens with none. -/
theorem replaceEach_append_of_front (hne : ∀ e ∈ table, e.1.toList ≠ []) (ht : t ≠ [])
    (hfront : spelling? table (t ++ s) = none)
    (h : ∀ c ∈ t.tail, ∀ e ∈ table, c ∉ e.1.toList.head?) :
    replaceEach table (t ++ s) = t ++ replaceEach table s := by
  obtain ⟨c, t, rfl⟩ := List.exists_cons_of_ne_nil ht
  rw [List.cons_append] at hfront ⊢
  rw [replaceEach_char hfront, List.cons_append]
  exact congrArg (c :: ·) (replaceEach_append hne h s)

/-- **One replacement more** behind a pass is one spelling more in its table. -/
theorem replaceAll_replaceEach (hne : ∀ f ∈ table ++ [e], f.1.toList ≠ [])
    (h : ∀ f ∈ table, Apart f e) (s : List Char) :
    replaceAll e.1.toList e.2 (replaceEach table s) = replaceEach (table ++ [e]) s := by
  have hnetable : ∀ f ∈ table, f.1.toList ≠ [] := fun f hf => hne f (List.mem_append_left _ hf)
  have hnee : e.1.toList ≠ [] := hne e (List.mem_append_right _ (List.mem_singleton_self e))
  have hsplit (u : List Char) :
      spelling? (table ++ [e]) u = (spelling? table u).or (spelling? [e] u) := List.find?_append
  induction s using replaceEach_induction hne with
  | nil => simp
  | spelling f s hf ih =>
    rw [replaceEach_spelling (hne f (mem_of_spelling? hf).1) hf, ← ih]
    rw [hsplit] at hf
    cases hs : spelling? table (f.1.toList ++ s) with
    | some f' =>
      obtain rfl : f' = f := by simpa [hs] using hf
      have hmem := (mem_of_spelling? hs).1
      rw [replaceEach_spelling (hnetable f' hmem) hs, replaceAll_cons]
      -- what is written for an earlier spelling is not the first character of this one
      rintro ⟨t, ht⟩
      obtain ⟨c, p, hp⟩ := List.exists_cons_of_ne_nil hnee
      rw [hp, List.cons_append] at ht
      exact (h f' hmem).1 (by rw [hp, (List.cons.inj ht).1]; exact List.mem_cons_self)
    | none =>
      rw [hs, Option.none_or] at hf
      obtain rfl := List.mem_singleton.mp (mem_of_spelling? hf).1
      rw [replaceEach_append_of_front hnetable hnee hs fun c hc f hf hhead =>
        (h f hf).2 c hhead hc, replaceAll_append hnee]
  | char c s hc ih =>
    rw [replaceEach_char hc, ← ih]
    rw [hsplit, Option.or_eq_none_iff] at hc
    rw [replaceEach_char hc.1, replaceAll_cons]
    rintro ⟨t, ht⟩
    rw [← replaceEach_char hc.1] at ht
    obtain ⟨s', hs', -⟩ := append_eq_replaceEach hnetable (fun f hf => (h f hf).1) ht.symm
    exact spelling?_eq_none_iff.mp hc.2 e (List.mem_singleton_self e) ⟨s', hs'.symm⟩

/-- **A row of replacements is one pass** if each spelling is apart from the later ones. -/
theorem foldl_replaceAll_eq_replaceEach (hne : ∀ e ∈ table, e.1.toList ≠ [])
    (h : table.Pairwise Apart) (s : List Char) :
    table.foldl (fun s e => replaceAll e.1.toList e.2 s) s = replaceEach table s := by
  induction table using List.reverseRecOn with
  | nil =>
    have hnone : ∀ e ∈ ([] : List (String × Char)), e.1.toList ≠ [] := nofun
    have hkept := replaceEach_append (t := s) hnone (fun _ _ => nofun) []
    rw [List.append_nil, replaceEach_nil, List.append_nil] at hkept
    exact hkept.symm
  | append_singleton table e ih =>
    obtain ⟨htable, -, hlast⟩ := List.pairwise_append.mp h
    rw [List.foldl_append, ih (fun f hf => hne f (List.mem_append_left _ hf)) htable,
      ← replaceAll_replaceEach hne fun f hf => hlast f hf e (List.mem_singleton_self e)]
    rfl

end Text

end AdvisoryTriage
