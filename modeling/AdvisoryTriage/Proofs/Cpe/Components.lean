import AdvisoryTriage.Cpe.Component
import Mathlib.Algebra.Group.Nat.Even

/-!
# Components and their quotation

A text is cut into components at its unquoted colons. Which colons those are is said here without
the cutting: a text is *closed* if it holds no unquoted colon and leaves no backslash open at its
end (`Cpe.Closed`), and a list of components is one of closed texts, the last of which may have one
more backslash behind it (`Cpe.Components`). Cutting a text gives the one such list that, joined by
colons, is the text (`Cpe.splitComponents_eq_iff`).

An open backslash is what makes joining dangerous: it quotes the colon behind it, and two
components become one. In a text without colons that is a matter of how many backslashes it ends in
(`Cpe.closed_iff_even`), and `Cpe.components_iff` reads off from it which texts can be joined
without harm.

The last part is about what components stand for. Of a spelling nothing is left but one character,
so a component in which any occurs becomes shorter (`Cpe.not_infix_of_length_unescape`), while its
colons remain (`Cpe.count_unescape`), and so do the backslashes at its end
(`Cpe.backslashesAtEnd_unescape`).
-/

namespace AdvisoryTriage

namespace Cpe

/-! ### Closed texts -/

/-- **A closed text** has no unquoted colon and no open backslash at its end. -/
inductive Closed : List Char → Prop
  /-- The empty text is closed. -/
  | nil : Closed []
  /-- In front of a closed text, a character may stand that is neither a colon nor a backslash. -/
  | char {c : Char} {s : List Char} (hcolon : c ≠ ':') (hbackslash : c ≠ '\\') (h : Closed s) :
      Closed (c :: s)
  /-- In front of a closed text, any character may stand quoted. -/
  | quoted (c : Char) {s : List Char} (h : Closed s) : Closed ('\\' :: c :: s)

/-- **The last component** of a text may end in an open backslash. -/
def IsLast (w : List Char) : Prop :=
  Closed w ∨ ∃ s, Closed s ∧ w = s ++ ['\\']

/-- **The components of a text**: all closed but the last. -/
inductive Components : List (List Char) → Prop
  | last {w : List Char} (h : IsLast w) : Components [w]
  | cons {w : List Char} {ws : List (List Char)} (h : Closed w) (hs : Components ws) :
      Components (w :: ws)

theorem Closed.append {s t : List Char} (hs : Closed s) (ht : Closed t) : Closed (s ++ t) := by
  induction hs with
  | nil => exact ht
  | char hcolon hbackslash _ ih => exact .char hcolon hbackslash ih
  | quoted c _ ih => exact .quoted c ih

theorem Components.ne_nil {ws : List (List Char)} (h : Components ws) : ws ≠ [] := by
  cases h <;> exact List.cons_ne_nil _ _

theorem components_singleton_iff {w : List Char} : Components [w] ↔ IsLast w := by
  refine ⟨fun h => ?_, .last⟩
  cases h with
  | last h => exact h
  | cons _ hs => exact absurd rfl hs.ne_nil

theorem components_cons_iff {w : List Char} {ws : List (List Char)} (hws : ws ≠ []) :
    Components (w :: ws) ↔ Closed w ∧ Components ws := by
  refine ⟨fun h => ?_, fun h => .cons h.1 h.2⟩
  cases h with
  | last _ => exact absurd rfl hws
  | cons h hs => exact ⟨h, hs⟩

/-! ### Joining -/

@[simp] theorem joinComponents_singleton (w : List Char) : joinComponents [w] = w :=
  List.intercalate_singleton

theorem joinComponents_cons {w : List Char} {ws : List (List Char)} (h : ws ≠ []) :
    joinComponents (w :: ws) = w ++ ':' :: joinComponents ws := by
  cases ws with
  | nil => exact absurd rfl h
  | cons v ws =>
    rw [joinComponents, joinComponents, List.intercalate_cons_cons, List.append_assoc,
      List.singleton_append]

theorem joinComponents_extendFirst (s : List Char) (ws : List (List Char)) :
    joinComponents (extendFirst s ws) = s ++ joinComponents ws := by
  cases ws with
  | nil => simp [extendFirst, joinComponents]
  | cons w ws =>
    rw [extendFirst]
    cases ws with
    | nil => simp
    | cons v ws =>
      rw [joinComponents_cons (List.cons_ne_nil v ws), joinComponents_cons (List.cons_ne_nil v ws),
        List.append_assoc]

/-- Joining keeps the characters of the components and adds the colons between them. -/
theorem count_joinComponents (a : Char) {ws : List (List Char)} (h : ws ≠ []) :
    (joinComponents ws).count a + [':'].count a =
      ws.flatten.count a + ws.length * [':'].count a := by
  induction ws with
  | nil => exact absurd rfl h
  | cons w ws ih =>
    rcases eq_or_ne ws [] with rfl | hws
    · simp
    · rw [joinComponents_cons hws, ← List.singleton_append, List.count_append, List.count_append,
        List.flatten_cons, List.count_append, List.length_cons, Nat.succ_mul]
      have := ih hws
      omega

/-- What is joined holds no characters but those of the components and the colon. -/
theorem mem_joinComponents_iff {a : Char} (ha : a ≠ ':') {ws : List (List Char)} :
    a ∈ joinComponents ws ↔ ∃ w ∈ ws, a ∈ w := by
  rcases eq_or_ne ws [] with rfl | hws
  · simp [joinComponents]
  · have hcount := count_joinComponents a hws
    have hnot : [':'].count a = 0 :=
      List.count_eq_zero.mpr fun hmem => ha (List.mem_singleton.mp hmem)
    rw [hnot, Nat.mul_zero] at hcount
    rw [← List.mem_flatten, ← List.count_pos_iff, ← List.count_pos_iff]
    omega

theorem length_joinComponents {ws : List (List Char)} (h : ws ≠ []) :
    (joinComponents ws).length + 1 = ws.flatten.length + ws.length := by
  induction ws with
  | nil => exact absurd rfl h
  | cons w ws ih =>
    rcases eq_or_ne ws [] with rfl | hws
    · simp
    · rw [joinComponents_cons hws, List.length_append, List.length_cons, List.flatten_cons,
        List.length_append, List.length_cons]
      have := ih hws
      omega

/-! ### Cutting -/

/-- A text is read from its front: it goes on behind a colon, behind a quoted character or behind
another character, and ends with nothing or with an open backslash. -/
theorem cutting_induction {P : List Char → Prop} (nil : P []) (dangling : P ['\\'])
    (colon : ∀ s, P s → P (':' :: s)) (quoted : ∀ c s, P s → P ('\\' :: c :: s))
    (char : ∀ c s, c ≠ ':' → c ≠ '\\' → P s → P (c :: s)) (s : List Char) : P s := by
  fun_induction splitComponents s with
  | case1 => exact nil
  | case2 s ih => exact colon s ih
  | case3 c s ih => exact quoted c s ih
  | case4 c s hcolon hquoted ih =>
    rcases eq_or_ne c '\\' with rfl | hbackslash
    · cases s with
      | nil => exact dangling
      | cons d s => exact absurd rfl (hquoted d s rfl)
    · exact char c s hcolon hbackslash ih

theorem splitComponents_char {c : Char} (hcolon : c ≠ ':') (hbackslash : c ≠ '\\')
    (s : List Char) : splitComponents (c :: s) = extendFirst [c] (splitComponents s) := by
  rw [splitComponents]
  · exact hcolon
  · exact fun _ _ hc _ => hbackslash hc

theorem extendFirst_nil {ws : List (List Char)} (h : ws ≠ []) : extendFirst [] ws = ws := by
  cases ws with
  | nil => exact absurd rfl h
  | cons w ws => rfl

theorem length_extendFirst {s : List Char} {ws : List (List Char)} (h : ws ≠ []) :
    (extendFirst s ws).length = ws.length := by
  cases ws with
  | nil => exact absurd rfl h
  | cons w ws => rfl

theorem extendFirst_extendFirst (s t : List Char) (ws : List (List Char)) :
    extendFirst s (extendFirst t ws) = extendFirst (s ++ t) ws := by
  cases ws with
  | nil => rfl
  | cons w ws => rw [extendFirst, extendFirst, extendFirst, List.append_assoc]

theorem Components.extendFirst {s : List Char} {ws : List (List Char)} (hs : Closed s)
    (h : Components ws) : Components (extendFirst s ws) := by
  cases h with
  | last hw =>
    rcases hw with hw | ⟨t, ht, rfl⟩
    · exact .last (Or.inl (hs.append hw))
    · exact .last (Or.inr ⟨s ++ t, hs.append ht, (List.append_assoc s t _).symm⟩)
  | cons hw hws => exact .cons (hs.append hw) hws

/-- Cutting a text gives components. -/
theorem components_splitComponents (s : List Char) : Components (splitComponents s) := by
  induction s using cutting_induction with
  | nil => exact .last (Or.inl .nil)
  | dangling => exact .last (Or.inr ⟨[], .nil, rfl⟩)
  | colon s ih => exact .cons .nil ih
  | quoted c s ih => exact ih.extendFirst (.quoted c .nil)
  | char c s hcolon hbackslash ih =>
    rw [splitComponents_char hcolon hbackslash]
    exact ih.extendFirst (.char hcolon hbackslash .nil)

/-- Joining the components of a text gives it back. -/
theorem joinComponents_splitComponents (s : List Char) :
    joinComponents (splitComponents s) = s := by
  fun_induction splitComponents s with
  | case1 => rfl
  | case2 s ih => rw [joinComponents_cons (splitComponents_ne_nil s), ih, List.nil_append]
  | case3 c s ih => rw [joinComponents_extendFirst, ih]; rfl
  | case4 c s _ _ ih => rw [joinComponents_extendFirst, ih]; rfl

/-- No cut is made in a closed text. -/
theorem splitComponents_append {s : List Char} (h : Closed s) (t : List Char) :
    splitComponents (s ++ t) = extendFirst s (splitComponents t) := by
  induction h with
  | nil => exact (extendFirst_nil (splitComponents_ne_nil t)).symm
  | char hcolon hbackslash _ ih =>
    rw [List.cons_append, splitComponents_char hcolon hbackslash, ih, extendFirst_extendFirst,
      List.singleton_append]
  | quoted c _ ih =>
    rw [List.cons_append, List.cons_append, splitComponents, ih, extendFirst_extendFirst]
    rfl

/-- Cutting joined components gives them back. -/
theorem splitComponents_joinComponents {ws : List (List Char)} (h : Components ws) :
    splitComponents (joinComponents ws) = ws := by
  induction h with
  | @last w hw =>
    rw [joinComponents_singleton]
    rcases hw with hw | ⟨s, hs, rfl⟩
    · have := splitComponents_append hw []
      simpa [splitComponents, extendFirst] using this
    · rw [splitComponents_append hs]
      rfl
  | @cons w ws hw hws ih =>
    rw [joinComponents_cons hws.ne_nil, splitComponents_append hw, splitComponents, ih, extendFirst,
      List.append_nil]

/-- **What cutting gives**: the components whose joining is the text. -/
theorem splitComponents_eq_iff {s : List Char} {ws : List (List Char)} :
    splitComponents s = ws ↔ Components ws ∧ joinComponents ws = s := by
  constructor
  · rintro rfl
    exact ⟨components_splitComponents s, joinComponents_splitComponents s⟩
  · rintro ⟨h, rfl⟩
    exact splitComponents_joinComponents h

/-! ### Backslashes at the end -/

/-- How many backslashes a text ends in. -/
def backslashesAtEnd (s : List Char) : Nat :=
  (s.reverse.takeWhile (· == '\\')).length

theorem backslashesAtEnd_le (s : List Char) : backslashesAtEnd s ≤ s.length := by
  have hle : backslashesAtEnd s ≤ s.reverse.length := (List.takeWhile_sublist _).length_le
  rwa [List.length_reverse] at hle

theorem backslashesAtEnd_cons (c : Char) (s : List Char) :
    backslashesAtEnd (c :: s) =
      if backslashesAtEnd s = s.length ∧ c = '\\' then s.length + 1 else backslashesAtEnd s := by
  simp only [backslashesAtEnd, List.reverse_cons, List.takeWhile_append, List.length_reverse]
  by_cases hs : (s.reverse.takeWhile (· == '\\')).length = s.length
  · by_cases hc : c = '\\' <;> simp [hs, hc]
  · simp [hs]

theorem backslashesAtEnd_cons_of_ne {c : Char} (hc : c ≠ '\\') (s : List Char) :
    backslashesAtEnd (c :: s) = backslashesAtEnd s := by
  rw [backslashesAtEnd_cons, if_neg fun h => hc h.2]

theorem backslashesAtEnd_append_singleton (s : List Char) :
    backslashesAtEnd (s ++ ['\\']) = backslashesAtEnd s + 1 := by
  simp [backslashesAtEnd]

/-- What stands in front of a character other than the backslash plays no role. -/
theorem backslashesAtEnd_append_cons {c : Char} (hc : c ≠ '\\') (front s : List Char) :
    backslashesAtEnd (front ++ c :: s) = backslashesAtEnd s := by
  induction front with
  | nil => exact backslashesAtEnd_cons_of_ne hc s
  | cons d front ih =>
    have hle := backslashesAtEnd_le s
    rw [List.cons_append, backslashesAtEnd_cons, ih, if_neg]
    rintro ⟨hall, -⟩
    simp only [List.length_append, List.length_cons] at hall
    omega

theorem eq_of_backslashesAtEnd_eq_length {s : List Char} (h : backslashesAtEnd s = s.length) :
    ∀ a ∈ s, a = '\\' := by
  have hall := (List.takeWhile_prefix (· == '\\')).eq_of_length (h.trans List.length_reverse.symm)
  have htaken : ∀ a ∈ s.reverse.takeWhile (· == '\\'), (a == '\\') = true :=
    List.all_eq_true.mp List.all_takeWhile
  rw [hall] at htaken
  exact fun a ha => eq_of_beq (htaken a (List.mem_reverse.mpr ha))

theorem backslashesAtEnd_of_not_mem {s : List Char} (h : '\\' ∉ s) : backslashesAtEnd s = 0 := by
  induction s with
  | nil => rfl
  | cons c s ih =>
    obtain ⟨hc, hs⟩ := not_or.mp (List.mem_cons.not.mp h)
    rw [backslashesAtEnd_cons_of_ne (Ne.symm hc), ih hs]

/-- A quoted character in front changes the number of backslashes at the end by none or two. -/
theorem even_backslashesAtEnd_quoted {c : Char} {s : List Char} :
    Even (backslashesAtEnd ('\\' :: c :: s)) ↔ Even (backslashesAtEnd s) := by
  have hle := backslashesAtEnd_le s
  rw [backslashesAtEnd_cons, backslashesAtEnd_cons, List.length_cons]
  -- if the text behind the two is all backslashes, they count together or not at all
  rcases eq_or_ne (backslashesAtEnd s) s.length with hs | hs
  · rcases eq_or_ne c '\\' with rfl | hc
    · simp [hs, Nat.even_add_one]
    · simp [hs, hc]
  · have hlt : backslashesAtEnd s ≠ s.length + 1 := by omega
    simp [hs, hlt]

/-- A closed text ends in an even number of backslashes. -/
theorem Closed.even_backslashesAtEnd {s : List Char} (h : Closed s) :
    Even (backslashesAtEnd s) := by
  induction h with
  | nil => exact .zero
  | char _ hbackslash _ ih => rwa [backslashesAtEnd_cons_of_ne hbackslash]
  | quoted c _ ih => exact even_backslashesAtEnd_quoted.mpr ih

/-- A colon behind a text that leaves no backslash open is not quoted. -/
theorem two_le_length_splitComponents {s : List Char} (h : Even (backslashesAtEnd s))
    (t : List Char) : 2 ≤ (splitComponents (s ++ ':' :: t)).length := by
  have hcut (u : List Char) : 2 ≤ (splitComponents (':' :: u)).length := by
    have := List.length_pos_iff.mpr (splitComponents_ne_nil u)
    rw [splitComponents, List.length_cons]
    omega
  induction s using cutting_induction with
  | nil => exact hcut t
  | dangling => exact absurd h (by decide)
  | colon s ih => exact hcut _
  | quoted c s ih =>
    rw [List.cons_append, List.cons_append, splitComponents, length_extendFirst]
    · exact ih (even_backslashesAtEnd_quoted.mp h)
    · exact splitComponents_ne_nil _
  | char c s hcolon hbackslash ih =>
    rw [backslashesAtEnd_cons_of_ne hbackslash] at h
    rw [List.cons_append, splitComponents_char hcolon hbackslash, length_extendFirst]
    · exact ih h
    · exact splitComponents_ne_nil _

/-! ### Texts without colons -/

/-- A text without colons is closed, but for an open backslash at its end. -/
theorem isLast_of_not_mem {s : List Char} (h : ':' ∉ s) : IsLast s := by
  induction s using cutting_induction with
  | nil => exact Or.inl .nil
  | dangling => exact Or.inr ⟨[], .nil, rfl⟩
  | colon s ih => exact absurd List.mem_cons_self h
  | quoted c s ih =>
    have hs : ':' ∉ s := fun hs => h (List.mem_cons_of_mem _ (List.mem_cons_of_mem _ hs))
    rcases ih hs with hs | ⟨t, ht, rfl⟩
    · exact Or.inl (.quoted c hs)
    · exact Or.inr ⟨'\\' :: c :: t, .quoted c ht, rfl⟩
  | char c s hcolon hbackslash ih =>
    rcases ih fun hs => h (List.mem_cons_of_mem _ hs) with hs | ⟨t, ht, rfl⟩
    · exact Or.inl (.char hcolon hbackslash hs)
    · exact Or.inr ⟨c :: t, .char hcolon hbackslash ht, rfl⟩

/-- **A text without colons is closed** exactly if it ends in an even number of backslashes. -/
theorem closed_iff_even {s : List Char} (h : ':' ∉ s) : Closed s ↔ Even (backslashesAtEnd s) := by
  refine ⟨Closed.even_backslashesAtEnd, fun heven => ?_⟩
  rcases isLast_of_not_mem h with hs | ⟨t, ht, rfl⟩
  · exact hs
  · rw [backslashesAtEnd_append_singleton, Nat.even_add_one] at heven
    exact absurd ht.even_backslashesAtEnd heven

/-- In a closed text every colon is quoted. -/
theorem Closed.quoted_infix {s : List Char} (h : Closed s) (hs : ':' ∈ s) : ['\\', ':'] <:+: s := by
  induction h with
  | nil => cases hs
  | char hcolon _ _ ih =>
    have := (List.mem_cons.mp hs).resolve_left (Ne.symm hcolon)
    exact (ih this).trans (List.suffix_cons _ _).isInfix
  | @quoted c s _ ih =>
    rcases List.mem_cons.mp hs with hc | hs
    · exact absurd hc (by decide)
    · rcases List.mem_cons.mp hs with rfl | hs
      · exact ⟨[], s, rfl⟩
      · exact (ih hs).trans ((List.suffix_cons _ _).trans (List.suffix_cons _ _)).isInfix

/-- In the last component of a text as well. -/
theorem IsLast.quoted_infix {s : List Char} (h : IsLast s) (hs : ':' ∈ s) : ['\\', ':'] <:+: s := by
  rcases h with h | ⟨t, ht, rfl⟩
  · exact h.quoted_infix hs
  · have := (List.mem_append.mp hs).resolve_right (by decide)
    exact (ht.quoted_infix this).trans (List.prefix_append t _).isInfix

/-- **Components without quoted colons** are texts without colons, of which none but the last ends
in an open backslash. -/
theorem components_iff {ws : List (List Char)} (hws : ws ≠ [])
    (h : ∀ w ∈ ws, ¬ ['\\', ':'] <:+: w) :
    Components ws ↔ (∀ w ∈ ws, ':' ∉ w) ∧ ∀ w ∈ ws.dropLast, Even (backslashesAtEnd w) := by
  induction ws with
  | nil => exact absurd rfl hws
  | cons w ws ih =>
    obtain ⟨hw, htail⟩ := List.forall_mem_cons.mp h
    rcases eq_or_ne ws [] with rfl | hne
    · rw [components_singleton_iff]
      constructor
      · exact fun hlast => ⟨by simpa using fun hc => hw (hlast.quoted_infix hc), by simp⟩
      · exact fun hall => isLast_of_not_mem (hall.1 w List.mem_cons_self)
    · rw [components_cons_iff hne, ih hne htail, List.dropLast_cons_of_ne_nil hne,
        List.forall_mem_cons, List.forall_mem_cons]
      constructor
      · rintro ⟨hclosed, hcolons, heven⟩
        exact ⟨⟨fun hc => hw (hclosed.quoted_infix hc), hcolons⟩, hclosed.even_backslashesAtEnd,
          heven⟩
      · rintro ⟨⟨hcolon, hcolons⟩, heven, hevens⟩
        exact ⟨(closed_iff_even hcolon).mpr heven, hcolons, hevens⟩

/-! ### What components stand for -/

/-- Spellings replaced one after the other make no text longer, and leave its length only if none of
them occurs. -/
theorem length_foldl_replaceAll {spellings : List (String × Char)}
    (h : ∀ e ∈ spellings, 2 ≤ e.1.toList.length) (w : List Char) :
    (spellings.foldl (fun s e => Text.replaceAll e.1.toList e.2 s) w).length ≤ w.length ∧
      ((spellings.foldl (fun s e => Text.replaceAll e.1.toList e.2 s) w).length = w.length →
        ∀ e ∈ spellings, ¬ e.1.toList <:+: w) := by
  induction spellings generalizing w with
  | nil => simp
  | cons e spellings ih =>
    obtain ⟨he, hspellings⟩ := List.forall_mem_cons.mp h
    have hne : e.1.toList ≠ [] := List.length_pos_iff.mp (by omega)
    have hfirst := Text.length_replaceAll_le hne e.2 w
    obtain ⟨hrest, hkept⟩ := ih hspellings (Text.replaceAll e.1.toList e.2 w)
    rw [List.foldl_cons]
    refine ⟨Nat.le_trans hrest hfirst, fun hlen => ?_⟩
    have hnot : ¬ e.1.toList <:+: w := fun hi => by
      have := Text.length_replaceAll_lt he e.2 hi
      omega
    rw [Text.replaceAll_eq_self hnot] at hkept hlen
    exact List.forall_mem_cons.mpr ⟨hnot, hkept hlen⟩

theorem two_le_length_of_mem_escapes : ∀ e ∈ escapes, 2 ≤ e.1.toList.length := by
  decide

/-- What a component stands for is never longer than the component. -/
theorem length_unescape_le (w : List Char) : (unescape w).length ≤ w.length :=
  (length_foldl_replaceAll two_le_length_of_mem_escapes w).1

/-- **A component stands for itself** if it holds no spelling of a quoted or encoded character. -/
theorem unescape_eq_self {w : List Char} (h : ∀ e ∈ escapes, ¬ e.1.toList <:+: w) :
    unescape w = w := by
  rw [unescape]
  exact List.foldlRecOn (motive := fun s => s = w) _ _ rfl
    fun s hs e he => by rw [hs]; exact Text.replaceAll_eq_self (h e he)

theorem not_infix_of_length_unescape {w : List Char} (h : (unescape w).length = w.length) :
    ∀ e ∈ escapes, ¬ e.1.toList <:+: w :=
  (length_foldl_replaceAll two_le_length_of_mem_escapes w).2 h

/-- **Colons remain**: the only spelling with a colon is that of the colon. -/
theorem count_unescape (w : List Char) : (unescape w).count ':' = w.count ':' := by
  have hcolon : ∀ e ∈ escapes, e.1.toList ≠ [] ∧ e.1.toList.count ':' = [e.2].count ':' := by
    decide
  rw [unescape]
  exact List.foldlRecOn (motive := fun s => s.count ':' = w.count ':') _ _ rfl
    fun s hs e he => (Text.count_replaceAll (hcolon e he).1 (hcolon e he).2 s).trans hs

/-- **Backslashes at the end remain**: no spelling ends in one, and none is written. -/
theorem backslashesAtEnd_replaceAll {pattern : List Char} (hp : pattern ≠ [])
    (hlast : pattern.getLast hp ≠ '\\') {by' : Char} (hby : by' ≠ '\\') (s : List Char) :
    backslashesAtEnd (Text.replaceAll pattern by' s) = backslashesAtEnd s := by
  induction s using Text.replaceAll_induction hp with
  | nil => rw [Text.replaceAll_nil]
  | met s ih =>
    rw [Text.replaceAll_append hp, backslashesAtEnd_cons_of_ne hby, ih,
      ← List.dropLast_concat_getLast hp, List.append_assoc, List.singleton_append,
      backslashesAtEnd_append_cons hlast]
  | kept c s hc ih =>
    have hle := Text.length_replaceAll_le hp by' s
    have hbackslashes := backslashesAtEnd_le (Text.replaceAll pattern by' s)
    rw [Text.replaceAll_cons hc, backslashesAtEnd_cons, backslashesAtEnd_cons, ih]
    rcases eq_or_ne (Text.replaceAll pattern by' s) s with hself | hself
    · rw [hself]
    · -- what was written is not a backslash, so neither text is all backslashes
      have hwritten : by' ∈ Text.replaceAll pattern by' s := by
        by_contra hnot
        exact hself (Text.replaceAll_eq_self_of_not_mem hp hnot)
      have hnot : backslashesAtEnd s ≠ (Text.replaceAll pattern by' s).length := fun hall =>
        hby (eq_of_backslashesAtEnd_eq_length (ih.trans hall) by' hwritten)
      have hnot' : backslashesAtEnd s ≠ s.length := by omega
      simp [hnot, hnot']

theorem backslashesAtEnd_unescape (w : List Char) :
    backslashesAtEnd (unescape w) = backslashesAtEnd w := by
  have hescapes : ∀ e ∈ escapes,
      (∃ hp : e.1.toList ≠ [], e.1.toList.getLast hp ≠ '\\') ∧ e.2 ≠ '\\' := by
    decide
  rw [unescape]
  refine List.foldlRecOn (motive := fun s => backslashesAtEnd s = backslashesAtEnd w) _ _ rfl ?_
  intro s hs e he
  obtain ⟨⟨hp, hlast⟩, hby⟩ := hescapes e he
  exact (backslashesAtEnd_replaceAll hp hlast hby s).trans hs

end Cpe

end AdvisoryTriage
