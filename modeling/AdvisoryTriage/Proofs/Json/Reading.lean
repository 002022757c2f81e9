import AdvisoryTriage.Json.Reader
import AdvisoryTriage.Proofs.Json.Grammar

/-!
# Every document is read

A text that the grammar gives to a value is read as that value (`Json.parse?_of_writtenAs`),
whatever the value and however it is spelled.

The lexer is taken through a spelling piece by piece: the body of a string
(`Json.stringPieces?_of_body`), the parts of a number (`Json.unsigned?_append`), a token
(`Json.next?_of_spelledBy`). All tokens but numbers show where they end. Behind a number nothing may
stand that would continue it, and the grammar does not say so: it allows tokens to touch. It is the
machine behind the lexer that takes no second number after a number (`Json.not_isNumber_of_step?`),
so reading goes by rows of tokens that the machine accepts (`Json.run?_of_spells`). That it accepts
the tokens of every value is an induction on the value (`Json.steps?_tokens`).
-/

namespace AdvisoryTriage

namespace Json

open Text (Symbol)

/-! ### Strings -/

theorem hexValue?_of_isHexDigit {c : Char} {n : Nat} (h : IsHexDigit c n) :
    hexValue? c = some n := by
  have hvalue {digits : List Char} (hdigits : ∀ i < digits.length,
      digits[i]?.bind hexValue? = some i) (hc : digits[n]? = some c) : hexValue? c = some n := by
    rw [← hdigits n (List.getElem?_eq_some_iff.mp hc).1, hc, Option.bind_some]
  rcases h with h | h
  · exact hvalue (by decide) h
  · exact hvalue (by decide) h

theorem shortEscape?_of_mem {e c : Char} (h : (e, c) ∈ shortEscapes) :
    shortEscape? e = some c ∧ e ≠ 'u' := by
  revert h
  simp only [shortEscapes, List.mem_cons, Prod.mk.injEq, List.not_mem_nil, or_false]
  rintro (⟨rfl, rfl⟩ | ⟨rfl, rfl⟩ | ⟨rfl, rfl⟩ | ⟨rfl, rfl⟩ | ⟨rfl, rfl⟩ | ⟨rfl, rfl⟩ |
    ⟨rfl, rfl⟩ | ⟨rfl, rfl⟩) <;> exact ⟨rfl, by decide⟩

theorem stringPieces?_plain {c : Char} (hquote : c ≠ '"') (hbackslash : c ≠ '\\')
    (hcontrol : ' ' ≤ c) (read : List Piece) (s : List Symbol) :
    stringPieces? read (some c :: s) = stringPieces? (.char c :: read) s := by
  have hrefused : ¬ (c = '\\' ∨ c < ' ') := not_or.mpr ⟨hbackslash, Char.not_lt.mpr hcontrol⟩
  rw [stringPieces?.eq_def]
  split <;> rename_i heq <;> cases heq
  · exact absurd rfl hquote
  · exact absurd rfl hbackslash
  · exact absurd rfl hbackslash
  · exact if_neg hrefused

theorem stringPieces?_short {e c : Char} (h : (e, c) ∈ shortEscapes) (read : List Piece)
    (s : List Symbol) :
    stringPieces? read (some '\\' :: some e :: s) = stringPieces? (.char c :: read) s := by
  obtain ⟨hescape, hu⟩ := shortEscape?_of_mem h
  rw [stringPieces?.eq_def]
  split <;> rename_i heq <;> cases heq
  · exact absurd rfl hu
  · rw [hescape]
  · rename_i hnot
    exact (hnot e s rfl rfl).elim

theorem stringPieces?_unit {a b c d : Char} {i j k l : Nat} (ha : IsHexDigit a i)
    (hb : IsHexDigit b j) (hc : IsHexDigit c k) (hd : IsHexDigit d l) (read : List Piece)
    (s : List Symbol) :
    stringPieces? read (some '\\' :: some 'u' :: some a :: some b :: some c :: some d :: s) =
      stringPieces? (.unit (((i * 16 + j) * 16 + k) * 16 + l) :: read) s := by
  have hunit : codeUnit? (some a) (some b) (some c) (some d) =
      some (((i * 16 + j) * 16 + k) * 16 + l) := by
    simp [codeUnit?, hexValue?_of_isHexDigit ha, hexValue?_of_isHexDigit hb,
      hexValue?_of_isHexDigit hc, hexValue?_of_isHexDigit hd]
  rw [stringPieces?, hunit]

/-- The pieces of a string are read up to its closing quote. -/
theorem stringPieces?_of_body {pieces : List Piece} {s : List Char} (h : Body pieces s)
    (rest : List Symbol) : ∀ read, stringPieces? read (s.map some ++ some '"' :: rest) =
      some (pieces.reverse ++ read, rest) := by
  induction h with
  | nil => exact fun _ => rfl
  | plain hquote hbackslash hcontrol _ ih =>
    intro read
    rw [List.map_cons, List.cons_append, stringPieces?_plain hquote hbackslash hcontrol, ih,
      List.reverse_cons, List.append_assoc, List.singleton_append]
  | short hescape _ ih =>
    intro read
    rw [List.map_cons, List.map_cons, List.cons_append, List.cons_append,
      stringPieces?_short hescape, ih, List.reverse_cons, List.append_assoc, List.singleton_append]
  | unit ha hb hc hd _ ih =>
    intro read
    simp only [List.map_cons, List.cons_append]
    rw [stringPieces?_unit ha hb hc hd, ih, List.reverse_cons, List.append_assoc,
      List.singleton_append]

theorem toNat_ofNat_of_isValidChar {n : Nat} (h : n.isValidChar) : (Char.ofNat n).toNat = n := by
  have hof : Char.ofNat n = Char.ofNatAux n h := dif_pos h
  rw [hof]
  rfl

/-- What is made of pieces is what they denote. The cases are those of the definition: a code unit
may open a pair, stand for a character, or be half of a pair that is not there. -/
theorem denotes_of_textOfPieces? {pieces : List Piece} {t : List Char}
    (h : textOfPieces? pieces = some t) : Denotes pieces t := by
  fun_induction textOfPieces? pieces generalizing t with
  | case1 => cases h; exact .nil
  | case2 c pieces ih =>
    obtain ⟨s, hs, rfl⟩ := Option.map_eq_some_iff.mp h
    exact .char (ih hs)
  | case3 l u pieces hpair ih =>
    obtain ⟨s, hs, rfl⟩ := Option.map_eq_some_iff.mp h
    exact .pair ⟨hpair.1, hpair.2.1⟩ hpair.2.2
      (toNat_ofNat_of_isValidChar (by simp only [Nat.isValidChar]; omega)) (ih hs)
  | case4 l u pieces hpair hvalid ih =>
    obtain ⟨s, hs, rfl⟩ := Option.map_eq_some_iff.mp h
    exact .unit (toNat_ofNat_of_isValidChar hvalid) (ih hs)
  | case5 => cases h
  | case6 n pieces _ hvalid ih =>
    obtain ⟨s, hs, rfl⟩ := Option.map_eq_some_iff.mp h
    exact .unit (toNat_ofNat_of_isValidChar hvalid) (ih hs)
  | case7 => cases h
  | case8 => cases h

theorem Denotes.textOfPieces?_eq {pieces : List Piece} {t : List Char} (h : Denotes pieces t) :
    textOfPieces? pieces = some t := by
  induction h with
  | nil => rfl
  | char _ ih => rw [textOfPieces?, ih]; rfl
  | @unit c n pieces s hn _ ih =>
    -- the number of a character is none of a surrogate
    have hvalid : n.isValidChar := hn ▸ c.valid
    have hc : Char.ofNat n = c := hn ▸ Char.ofNat_toNat c
    have hpair (l : Nat) : ¬ (0xd800 ≤ n ∧ n < 0xdc00 ∧ 0xdc00 ≤ l ∧ l < 0xe000) := by
      simp only [Nat.isValidChar] at hvalid
      omega
    rw [textOfPieces?.eq_def]
    split <;> rename_i heq <;> cases heq
    · rw [if_neg (hpair _), if_pos hvalid, ih, hc]
      rfl
    · rw [if_pos hvalid, ih, hc]
      rfl
  | @pair c h l pieces s hh hl hc _ ih =>
    rw [textOfPieces?, if_pos ⟨hh.1, hh.2, hl⟩, ih, ← hc, Char.ofNat_toNat]
    rfl

/-- **The text of a string** is the one that its pieces denote. -/
theorem textOfPieces?_eq_some_iff {pieces : List Piece} {t : List Char} :
    textOfPieces? pieces = some t ↔ Denotes pieces t :=
  ⟨denotes_of_textOfPieces?, Denotes.textOfPieces?_eq⟩

/-! ### Numbers -/

/-- An input does not start with a character of a kind. -/
def StopsAt (p : Char → Prop) (s : List Symbol) : Prop :=
  ∀ c, s.head? = some (some c) → ¬ p c

theorem stopsAt_cons {p : Char → Prop} {c : Char} (h : ¬ p c) (s : List Symbol) :
    StopsAt p (some c :: s) := by
  rintro d hd
  obtain rfl : c = d := by simpa using hd
  exact h

theorem digits_append_of_stopsAt {ds : List Char} (h : ∀ c ∈ ds, IsDigit c) {rest : List Symbol}
    (hrest : StopsAt IsDigit rest) : digits (ds.map some ++ rest) = (ds, rest) := by
  induction ds with
  | nil =>
    rw [List.map_nil, List.nil_append]
    match rest, hrest with
    | [], _ => rfl
    | none :: _, _ => rfl
    | some c :: _, hrest => rw [digits, if_neg (hrest c rfl)]
  | cons d ds ih =>
    obtain ⟨hd, hds⟩ := List.forall_mem_cons.mp h
    rw [List.map_cons, List.cons_append, digits, if_pos hd, ih hds]

theorem digitsAfter?_append {ds : List Char} (h : IsDigits ds) {rest : List Symbol}
    (hrest : StopsAt IsDigit rest) (before : List Char) :
    digitsAfter? before (ds.map some ++ rest) = some (before ++ ds, rest) := by
  rw [digitsAfter?, digits_append_of_stopsAt h.2 hrest, if_neg h.1]

theorem wholePart?_append {whole : List Char} (h : IsWhole whole) {rest : List Symbol}
    (hrest : StopsAt IsDigit rest) : wholePart? (whole.map some ++ rest) = some (whole, rest) := by
  cases h with
  | zero => rfl
  | @digits c s hfirst hzero hs =>
    have hdigits : IsDigits (c :: s) :=
      ⟨List.cons_ne_nil c s, List.forall_mem_cons.mpr ⟨hfirst, hs⟩⟩
    rw [wholePart?.eq_def]
    split
    · next heq =>
      cases heq
      exact absurd rfl hzero
    · rw [digitsAfter?_append hdigits hrest, List.nil_append]

theorem fraction?_append {fraction : List Char} (h : IsFraction fraction) {rest : List Symbol}
    (hrest : StopsAt IsDigit rest) (hpoint : StopsAt (· = '.') rest) :
    fraction? (fraction.map some ++ rest) = some (fraction, rest) := by
  cases h with
  | absent =>
    rw [List.map_nil, List.nil_append, fraction?.eq_def]
    split
    · exact absurd rfl (hpoint '.' rfl)
    · rfl
  | digits hs => exact digitsAfter?_append hs hrest ['.']

/-- Behind its letter an exponent is read by its sign. -/
theorem exponent?_letter {e : Char} (h : e = 'e' ∨ e = 'E') (s : List Symbol) :
    exponent? (some e :: s) = match s with
      | some '+' :: s => digitsAfter? [e, '+'] s
      | some '-' :: s => digitsAfter? [e, '-'] s
      | s => digitsAfter? [e] s :=
  if_pos h

theorem exponent?_append {exponent : List Char} (h : IsExponent exponent) {rest : List Symbol}
    (hrest : StopsAt IsDigit rest) (hletter : StopsAt (fun c => c = 'e' ∨ c = 'E') rest) :
    exponent? (exponent.map some ++ rest) = some (exponent, rest) := by
  cases h with
  | absent =>
    match rest, hletter with
    | [], _ => rfl
    | none :: _, _ => rfl
    | some c :: _, hletter => exact if_neg (hletter c rfl)
  | @digits e sign s he hsign hs =>
    rw [List.map_cons, List.cons_append, exponent?_letter he]
    rcases hsign with rfl | rfl | rfl
    · -- the first digit is no sign
      obtain ⟨d, ds, rfl⟩ := List.exists_cons_of_ne_nil hs.1
      have hd : IsDigit d := hs.2 d List.mem_cons_self
      split
      · next heq =>
        cases heq
        exact absurd hd (by decide)
      · next heq =>
        cases heq
        exact absurd hd (by decide)
      · exact digitsAfter?_append hs hrest [e]
    · exact digitsAfter?_append hs hrest [e, '+']
    · exact digitsAfter?_append hs hrest [e, '-']

/-- What may not follow a number: a character that could continue it. -/
def ContinuesNumber (c : Char) : Prop :=
  IsDigit c ∨ c = '.' ∨ c = 'e' ∨ c = 'E'

/-- What a text starts with, if something is put in front of it. -/
theorem stopsAt_append {p : Char → Prop} {s : List Char} {rest : List Symbol}
    (hs : ∀ c ∈ s.head?, ¬ p c) (hrest : StopsAt p rest) : StopsAt p (s.map some ++ rest) := by
  cases s with
  | nil => exact hrest
  | cons c s => exact stopsAt_cons (hs c rfl) _

theorem unsigned?_append {whole fraction exponent : List Char} (hwhole : IsWhole whole)
    (hfraction : IsFraction fraction) (hexponent : IsExponent exponent) {rest : List Symbol}
    (hrest : StopsAt ContinuesNumber rest) :
    unsigned? ((whole ++ fraction ++ exponent).map some ++ rest) =
      some (whole ++ fraction ++ exponent, rest) := by
  have hdigit : StopsAt IsDigit rest := fun c hc hp => hrest c hc (.inl hp)
  have hpoint : StopsAt (· = '.') rest := fun c hc hp => hrest c hc (.inr (.inl hp))
  have hletter : StopsAt (fun c => c = 'e' ∨ c = 'E') rest :=
    fun c hc hp => hrest c hc (.inr (.inr hp))
  -- a part ends where the next one starts: no digit opens a fraction, no digit or point an exponent
  have hexponentHead : ∀ c ∈ exponent.head?, c = 'e' ∨ c = 'E' := by
    cases hexponent with
    | absent => simp
    | digits he _ _ => simpa using he
  have hexponentDigit : StopsAt IsDigit (exponent.map some ++ rest) := by
    refine stopsAt_append (fun c hc => ?_) hdigit
    rcases hexponentHead c hc with rfl | rfl <;> decide
  have hexponentPoint : StopsAt (· = '.') (exponent.map some ++ rest) := by
    refine stopsAt_append (fun c hc => ?_) hpoint
    rcases hexponentHead c hc with rfl | rfl <;> decide
  have hfractionDigit : StopsAt IsDigit (fraction.map some ++ (exponent.map some ++ rest)) := by
    refine stopsAt_append ?_ hexponentDigit
    cases hfraction with
    | absent => simp
    | digits _ => simp
  rw [List.map_append, List.map_append, List.append_assoc, List.append_assoc, unsigned?]
  simp only [wholePart?_append hwhole hfractionDigit,
    fraction?_append hfraction hexponentDigit hexponentPoint,
    exponent?_append hexponent hdigit hletter, Option.bind_eq_bind, Option.bind_some,
    Option.pure_def]

/-! ### Tokens -/

/-- Whether a token is a number, which ends only where nothing continues it. -/
def Token.IsNumber : Token → Prop
  | .number _ => True
  | _ => False

theorem startingWith?_digit {c : Char} (h : IsDigit c) (s : List Symbol) :
    Token.startingWith? c s = (unsigned? (some c :: s)).map fun (spelling, rest) =>
      (.number (String.ofList spelling), rest) := by
  rw [Token.startingWith?.eq_def]
  split
  case h_12 => exact if_pos h
  all_goals exact absurd h (by decide)

theorem IsWhole.exists_cons {whole : List Char} (h : IsWhole whole) :
    ∃ c s, whole = c :: s ∧ IsDigit c := by
  cases h with
  | zero => exact ⟨'0', [], rfl, by decide⟩
  | @digits c s hfirst _ _ => exact ⟨c, s, rfl, hfirst⟩

theorem next?_number {w : List Char} (h : IsNumber w) {rest : List Symbol}
    (hrest : StopsAt ContinuesNumber rest) :
    Token.next? (w.map some ++ rest) = some (.number (String.ofList w), rest) := by
  obtain ⟨hsign, hwhole, hfraction, hexponent⟩ := h
  have hunsigned := unsigned?_append hwhole hfraction hexponent hrest
  rcases hsign with rfl | rfl
  · obtain ⟨c, s, rfl, hc⟩ := hwhole.exists_cons
    simp only [List.cons_append, List.map_cons, List.nil_append] at hunsigned ⊢
    rw [Token.next?, startingWith?_digit hc, hunsigned, Option.map_some]
  · rw [List.map_append, List.append_assoc]
    exact congrArg (Option.map _) hunsigned

theorem next?_string {pieces : List Piece} {s : List Char} (h : Body pieces s)
    (rest : List Symbol) : Token.next? (('"' :: (s ++ ['"'])).map some ++ rest) =
      some (.string ((textOfPieces? pieces).map String.ofList), rest) := by
  have hinput : ('"' :: (s ++ ['"'])).map some ++ rest =
      some '"' :: (s.map some ++ some '"' :: rest) := by simp
  have hpieces := stringPieces?_of_body h rest []
  rw [hinput, Token.next?, Token.startingWith?, hpieces]
  simp

/-- A spelled token is the next one. -/
theorem next?_of_spelledBy {t : Token} {w : List Char} (h : t.SpelledBy w) {rest : List Symbol}
    (hrest : t.IsNumber → StopsAt ContinuesNumber rest) :
    Token.next? (w.map some ++ rest) = some (t, rest) := by
  cases h with
  | number hnumber => exact next?_number hnumber (hrest trivial)
  | text hbody htext =>
    rw [next?_string hbody, textOfPieces?_eq_some_iff.mpr htext, Option.map_some]
  | @noText pieces s hbody hnone =>
    have htext : textOfPieces? pieces = none :=
      Option.eq_none_iff_forall_ne_some.mpr fun t ht => hnone t (textOfPieces?_eq_some_iff.mp ht)
    rw [next?_string hbody, htext, Option.map_none]
  | _ => rfl

/-! ### Rows of tokens -/

theorem mem_blanks_iff {c : Char} : isBlank (some c) = true ↔ c ∈ blanks := by
  simp [isBlank, blanks, or_assoc]

theorem isBlank_map {blank : List Char} (h : ∀ c ∈ blank, c ∈ blanks) :
    ∀ x ∈ blank.map some, isBlank x = true := by
  rintro x hx
  obtain ⟨c, hc, rfl⟩ := List.mem_map.mp hx
  exact mem_blanks_iff.mpr (h c hc)

/-- No spelling starts with a blank, and all but those of numbers start with a character that
continues no number. -/
theorem exists_cons_of_spelledBy {t : Token} {w : List Char} (h : t.SpelledBy w) :
    ∃ c s, w = c :: s ∧ c ∉ blanks ∧ (¬ t.IsNumber → ¬ ContinuesNumber c) := by
  cases h with
  | number hnumber =>
    obtain ⟨hsign, hwhole, -, -⟩ := hnumber
    obtain ⟨c, s, rfl, hc⟩ := hwhole.exists_cons
    have hblank : c ∉ blanks := by
      intro hmem
      simp only [blanks, List.mem_cons, List.not_mem_nil, or_false] at hmem
      rcases hmem with rfl | rfl | rfl | rfl <;> exact absurd hc (by decide)
    rcases hsign with rfl | rfl
    · exact ⟨c, _, rfl, hblank, fun hnot => absurd trivial hnot⟩
    · exact ⟨'-', _, rfl, by decide, fun hnot => absurd trivial hnot⟩
  | _ => exact ⟨_, _, rfl, by decide, fun _ => by simp [ContinuesNumber]⟩

theorem not_continuesNumber_of_blank {c : Char} (h : c ∈ blanks) : ¬ ContinuesNumber c := by
  revert c
  simp [blanks, ContinuesNumber]

/-- What spells tokens of which the first is no number continues no number. -/
theorem stopsAt_of_spells {ts : List Token} {s : List Char} (h : Spells ts s)
    (hts : ∀ t ∈ ts.head?, ¬ t.IsNumber) : StopsAt ContinuesNumber (s.map some) := by
  have hblanks {blank : List Char} (hblank : ∀ c ∈ blank, c ∈ blanks) :
      ∀ c ∈ blank.head?, ¬ ContinuesNumber c :=
    fun c hc => not_continuesNumber_of_blank (hblank c (List.mem_of_mem_head? hc))
  cases h with
  | done hblank =>
    rw [← List.append_nil (s.map some)]
    exact stopsAt_append (hblanks hblank) fun _ hc => nomatch hc
  | @token t ts blank w s hblank hspelled _ =>
    obtain ⟨c, w, rfl, -, hc⟩ := exists_cons_of_spelledBy hspelled
    rw [List.append_assoc, List.map_append]
    exact stopsAt_append (hblanks hblank) (stopsAt_cons (hc (hts t rfl)) _)

/-- A number completes a value, so no number follows it. -/
theorem not_isNumber_of_step? {state next last : State} {t u : Token}
    (ht : state.step? t = some next) (hu : next.step? u = some last) (hnumber : t.IsNumber) :
    ¬ u.IsNumber := by
  cases t with
  | number spelling =>
    cases u with
    | number spelling' =>
      obtain ⟨v, stack, rfl⟩ : ∃ v stack, next = .complete v stack := by
        cases state with
        | value _ => cases ht; exact ⟨_, _, rfl⟩
        | firstItem _ => cases ht; exact ⟨_, _, rfl⟩
        | complete _ stack => rcases stack with _ | ⟨_ | _, _⟩ <;> cases ht
        | _ => cases ht
      rcases stack with _ | ⟨_ | _, _⟩ <;> cases hu
    | _ => exact id
  | _ => exact hnumber.elim

theorem run?_token {state : State} {s rest : List Symbol} {t : Token}
    (hnext : Token.next? (s.dropWhile isBlank) = some (t, rest)) :
    run? state s = (state.step? t).bind (run? · rest) := by
  have hne : s.dropWhile isBlank ≠ [] := by
    intro h
    rw [h] at hnext
    cases hnext
  rw [run?, if_neg hne]
  split
  · next h => rw [h] at hnext; cases hnext
  · next t' rest' h =>
    rw [h] at hnext
    cases hnext
    cases state.step? t <;> rfl

/-- Several tokens, one after the other. -/
def State.steps? (state : State) (ts : List Token) : Option State :=
  ts.foldlM State.step? state

@[simp] theorem steps?_cons (state : State) (t : Token) (ts : List Token) :
    state.steps? (t :: ts) = (state.step? t).bind (·.steps? ts) := rfl

theorem steps?_append (state : State) (ts us : List Token) :
    state.steps? (ts ++ us) = (state.steps? ts).bind (·.steps? us) :=
  List.foldlM_append

/-- **A row of tokens is read token by token**, however it is spelled. -/
theorem run?_of_spells {ts : List Token} {s : List Char} (h : Spells ts s) :
    ∀ {state last : State}, state.steps? ts = some last →
      run? state (s.map some) = last.result? := by
  induction h with
  | @done blank hblank =>
    intro state last hrun
    obtain rfl : state = last := Option.some.inj hrun
    have hall : (blank.map some).dropWhile isBlank = [] := by
      rw [← List.append_nil (blank.map some), List.dropWhile_append_of_pos (isBlank_map hblank)]
      rfl
    rw [run?, if_pos hall]
  | @token t ts blank w s hblank hspelled hrest ih =>
    intro state last hrun
    rw [steps?_cons, Option.bind_eq_some_iff] at hrun
    obtain ⟨next, hstep, hrun⟩ := hrun
    -- a spelling does not start with a blank, so skipping blanks stops in front of it
    have hinput : ((blank ++ w ++ s).map some).dropWhile isBlank = w.map some ++ s.map some := by
      obtain ⟨c, w, rfl, hc, -⟩ := exists_cons_of_spelledBy hspelled
      rw [List.append_assoc, List.map_append, List.dropWhile_append_of_pos (isBlank_map hblank),
        List.map_append, List.map_cons, List.cons_append,
        List.dropWhile_cons_of_neg (mem_blanks_iff.not.mpr hc)]
    -- behind a number comes no second one, since the machine goes on from here
    have hends : t.IsNumber → StopsAt ContinuesNumber (s.map some) := by
      intro hnumber
      refine stopsAt_of_spells hrest fun u hu => ?_
      obtain ⟨ts, rfl⟩ := List.head?_eq_some_iff.mp hu
      rw [steps?_cons, Option.bind_eq_some_iff] at hrun
      obtain ⟨_, hfollow, -⟩ := hrun
      exact not_isNumber_of_step? hstep hfollow hnumber
    rw [run?_token (hinput ▸ next?_of_spelledBy hspelled hends), hstep, Option.bind_some, ih hrun]

/-! ### Values -/

/-- The first item of an array is a value like any other. -/
theorem steps?_firstItem (v : Value) (stack : List Frame) (ts : List Token) :
    (State.firstItem stack).steps? (v.tokens ++ ts) =
      (State.value (.array [] :: stack)).steps? (v.tokens ++ ts) := by
  cases v <;> rw [Value.tokens] <;> rfl

mutual

/-- **The tokens of a value** lead the machine from where a value has to come to where it is
complete. -/
theorem steps?_tokens (v : Value) (stack : List Frame) :
    (State.value stack).steps? v.tokens = some (.complete v stack) := by
  cases v with
  | null => rw [Value.tokens]; rfl
  | bool b => rw [Value.tokens]; rfl
  | number spelling => rw [Value.tokens]; rfl
  | string text => rw [Value.tokens]; rfl
  | array items =>
    rw [Value.tokens, steps?_cons]
    cases items with
    | nil => rw [Value.tokensOfItems]; rfl
    | cons v items =>
      rw [Value.tokensOfItems, intercalate_cons, List.append_assoc]
      refine (steps?_firstItem v stack _).trans ?_
      rw [steps?_append, steps?_tokens v, Option.bind_some, steps?_items items]
      rfl
  | object members =>
    rw [Value.tokens, steps?_cons]
    cases members with
    | nil => rw [Value.tokensOfMembers]; rfl
    | cons member members =>
      obtain ⟨name, v⟩ := member
      rw [Value.tokensOfMembers, intercalate_cons, List.append_assoc]
      change (State.value (.object [] name :: stack)).steps? (v.tokens ++ _) = _
      rw [steps?_append, steps?_tokens v, Option.bind_some, steps?_members members]
      rfl

/-- The items behind the first one go where it stands. -/
theorem steps?_items (items : List Value) (v : Value) (before : List Value)
    (stack : List Frame) :
    (State.complete v (.array before :: stack)).steps?
        ((Value.tokensOfItems items).flatMap (.comma :: ·) ++ [.closeArray]) =
      some (.complete (.array ((v :: before).reverse ++ items)) stack) := by
  cases items with
  | nil =>
    rw [Value.tokensOfItems, List.append_nil]
    rfl
  | cons w items =>
    rw [Value.tokensOfItems, List.flatMap_cons, List.append_assoc]
    change (State.value (.array (v :: before) :: stack)).steps? (w.tokens ++ _) = _
    rw [steps?_append, steps?_tokens w, Option.bind_some, steps?_items items]
    simp

/-- So do the members of an object. -/
theorem steps?_members (members : List (Option String × Value)) (v : Value)
    (before : List (Option String × Value)) (name : Option String) (stack : List Frame) :
    (State.complete v (.object before name :: stack)).steps?
        ((Value.tokensOfMembers members).flatMap (.comma :: ·) ++ [.closeObject]) =
      some (.complete (.object (((name, v) :: before).reverse ++ members)) stack) := by
  cases members with
  | nil =>
    rw [Value.tokensOfMembers, List.append_nil]
    rfl
  | cons member members =>
    obtain ⟨name', w⟩ := member
    rw [Value.tokensOfMembers, List.flatMap_cons, List.append_assoc]
    change (State.value (.object ((name, v) :: before) name' :: stack)).steps? (w.tokens ++ _) = _
    rw [steps?_append, steps?_tokens w, Option.bind_some, steps?_members members]
    simp

end

/-- **Every document of a value is read as the value.** -/
theorem parse?_of_writtenAs {v : Value} {text : String} (h : v.WrittenAs text) :
    parse? (text.toList.map some) = some v :=
  run?_of_spells h (steps?_tokens v [])

end Json

end AdvisoryTriage
