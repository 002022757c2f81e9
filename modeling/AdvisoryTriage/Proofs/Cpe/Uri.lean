import AdvisoryTriage.Proofs.Cpe.RoundTrip

/-!
# URIs and the formatted strings they stand for

A URI leaves a skipped component empty where a formatted string writes `*`, and that is meant to be
the whole difference between the two forms. `Cpe.starred` fills in the asterisks, reading the text
once from the left, and the question is whether the URI and the formatted string made in this way
are read alike.

What stands between them is the padding. A URI is read by way of a formatted string with eleven
components, and those it does not write are put behind it, as text: a colon and an asterisk for
each. The text is then cut once more. If what was written leaves no backslash open, the second cut
finds the components of the first and the padding behind them, which says nothing that is not said
anyway (`Cpe.ofFormatted_padded`). A backslash left open at the very end quotes the first colon of
the padding, and the last component that was written goes on with `:*`
(`Cpe.splitComponents_dangling`).

* `Cpe.bind_formattedOfUri` – how a URI is read, as a formatted string with one asterisk of padding
  behind it.
* `Cpe.SwallowsPadding` and `Cpe.parse_uri` – in which texts a written component is changed by the
  padding, and that it makes no difference in all others.
-/

namespace AdvisoryTriage

namespace Cpe

/-! ### Asterisks for empty components -/

/-- A component, or an asterisk in its place if it is empty. -/
def orStar (w : List Char) : List Char :=
  if w = [] then ['*'] else w

/-- Writes an asterisk for every empty component of a text, `empty` saying whether the component at
hand is empty so far. -/
def starEmpty : (empty : Bool) → List Char → List Char
  | empty, [] => if empty then ['*'] else []
  | empty, ':' :: s => (if empty then ['*'] else []) ++ ':' :: starEmpty true s
  | _, '\\' :: c :: s => '\\' :: c :: starEmpty false s
  | _, c :: s => c :: starEmpty false s

/-- **The text of a URI** behind its opening, with an asterisk for each empty component. -/
def starred (text : String) : String :=
  String.ofList (starEmpty true text.toList)

theorem starEmpty_char {c : Char} (hcolon : c ≠ ':') (hbackslash : c ≠ '\\') (empty : Bool)
    (s : List Char) : starEmpty empty (c :: s) = c :: starEmpty false s := by
  rw [starEmpty]
  · exact hcolon
  · exact fun _ _ hc _ => hbackslash hc

theorem orStar_cons (c : Char) (w : List Char) : orStar (c :: w) = c :: w :=
  if_neg (List.cons_ne_nil c w)

theorem parsePart_orStar (w : List Char) : parsePart (orStar w) = parsePart w := by
  cases w with
  | nil => rfl
  | cons c w => rw [orStar_cons]

theorem closed_orStar_iff {w : List Char} : Closed (orStar w) ↔ Closed w := by
  cases w with
  | nil => exact ⟨fun _ => .nil, fun _ => .char (by decide) (by decide) .nil⟩
  | cons c w => rw [orStar_cons]

/-- What is filled in are the empty components, but for the first one if something of it was
written before. -/
theorem splitComponents_starEmpty_cons (s : List Char) :
    ∃ w ws, splitComponents s = w :: ws ∧
      splitComponents (starEmpty true s) = orStar w :: ws.map orStar ∧
      splitComponents (starEmpty false s) = w :: ws.map orStar := by
  induction s using cutting_induction with
  | nil => exact ⟨[], [], rfl, rfl, rfl⟩
  | dangling => exact ⟨['\\'], [], rfl, rfl, rfl⟩
  | colon s ih =>
    obtain ⟨w, ws, hs, htrue, -⟩ := ih
    refine ⟨[], w :: ws, by rw [splitComponents, hs], ?_, ?_⟩
    · rw [starEmpty, if_pos rfl, List.cons_append, List.nil_append,
        splitComponents_char (by decide) (by decide), splitComponents, htrue]
      rfl
    · rw [starEmpty, if_neg Bool.false_ne_true, List.nil_append, splitComponents, htrue]
      rfl
  | quoted c s ih =>
    obtain ⟨w, ws, hs, -, hfalse⟩ := ih
    refine ⟨'\\' :: c :: w, ws, by rw [splitComponents, hs]; rfl, ?_, ?_⟩
    · rw [starEmpty, splitComponents, hfalse, orStar_cons]
      rfl
    · rw [starEmpty, splitComponents, hfalse]
      rfl
  | char c s hcolon hbackslash ih =>
    obtain ⟨w, ws, hs, -, hfalse⟩ := ih
    refine ⟨c :: w, ws, by rw [splitComponents_char hcolon hbackslash, hs]; rfl, ?_, ?_⟩
    · rw [starEmpty_char hcolon hbackslash, splitComponents_char hcolon hbackslash, hfalse,
        orStar_cons]
      rfl
    · rw [starEmpty_char hcolon hbackslash, splitComponents_char hcolon hbackslash, hfalse]
      rfl

theorem splitComponents_starEmpty (s : List Char) :
    splitComponents (starEmpty true s) = (splitComponents s).map orStar := by
  obtain ⟨w, ws, hs, htrue, -⟩ := splitComponents_starEmpty_cons s
  rw [htrue, hs, List.map_cons]

theorem length_splitComponents_starEmpty (s : List Char) :
    (splitComponents (starEmpty true s)).length = (splitComponents s).length := by
  rw [splitComponents_starEmpty, List.length_map]

example : starred "a:redhat:enterprise_linux:8::appstream:" =
    "a:redhat:enterprise_linux:8:*:appstream:*" := by
  decide

/-! ### Open backslashes -/

theorem joinComponents_append {ws vs : List (List Char)} (hws : ws ≠ []) (hvs : vs ≠ []) :
    joinComponents (ws ++ vs) = joinComponents ws ++ ':' :: joinComponents vs := by
  induction ws with
  | nil => exact absurd rfl hws
  | cons w ws ih =>
    rcases eq_or_ne ws [] with rfl | hne
    · rw [List.singleton_append, joinComponents_cons hvs, joinComponents_singleton]
    · rw [List.cons_append, joinComponents_cons (by simp [hne]), ih hne, joinComponents_cons hne,
        List.append_assoc, List.cons_append]

theorem closed_quoted_iff {c : Char} {w : List Char} : Closed ('\\' :: c :: w) ↔ Closed w := by
  refine ⟨fun h => ?_, .quoted c⟩
  cases h with
  | char _ hbackslash _ => exact absurd rfl hbackslash
  | quoted _ h => exact h

theorem closed_char_iff {c : Char} {w : List Char} (hcolon : c ≠ ':') (hbackslash : c ≠ '\\') :
    Closed (c :: w) ↔ Closed w := by
  refine ⟨fun h => ?_, .char hcolon hbackslash⟩
  cases h with
  | char _ _ h => exact h
  | quoted _ _ => exact absurd rfl hbackslash

theorem forall_closed_extendFirst {s : List Char} (hs : ∀ w, Closed (s ++ w) ↔ Closed w)
    {ws : List (List Char)} (hws : ws ≠ []) :
    (∀ w ∈ extendFirst s ws, Closed w) ↔ ∀ w ∈ ws, Closed w := by
  cases ws with
  | nil => exact absurd rfl hws
  | cons w ws => rw [extendFirst, List.forall_mem_cons, List.forall_mem_cons, hs]

/-- **All components of a text are closed** exactly if the text ends in an even number of
backslashes. -/
theorem forall_closed_iff_even (s : List Char) :
    (∀ w ∈ splitComponents s, Closed w) ↔ Even (backslashesAtEnd s) := by
  induction s using cutting_induction with
  | nil => exact ⟨fun _ => .zero, fun _ w hw => List.mem_singleton.mp hw ▸ .nil⟩
  | dangling =>
    exact ⟨fun h => (h ['\\'] (by decide)).even_backslashesAtEnd, fun h => absurd h (by decide)⟩
  | colon s ih =>
    rw [splitComponents, List.forall_mem_cons, ih, backslashesAtEnd_cons_of_ne (by decide)]
    exact and_iff_right .nil
  | quoted c s ih =>
    rw [splitComponents, forall_closed_extendFirst (fun _ => closed_quoted_iff)
      (splitComponents_ne_nil s), ih, even_backslashesAtEnd_quoted]
  | char c s hcolon hbackslash ih =>
    rw [splitComponents_char hcolon hbackslash, forall_closed_extendFirst
      (fun _ => closed_char_iff hcolon hbackslash) (splitComponents_ne_nil s), ih,
      backslashesAtEnd_cons_of_ne hbackslash]

/-- Filling in asterisks opens and closes no backslash. -/
theorem even_backslashesAtEnd_starEmpty (s : List Char) :
    Even (backslashesAtEnd (starEmpty true s)) ↔ Even (backslashesAtEnd s) := by
  rw [← forall_closed_iff_even, ← forall_closed_iff_even, splitComponents_starEmpty,
    List.forall_mem_map]
  exact forall₂_congr fun w _ => closed_orStar_iff

theorem components_of_closed {ws : List (List Char)} (hws : ws ≠ []) (h : ∀ w ∈ ws, Closed w) :
    Components ws := by
  induction ws with
  | nil => exact absurd rfl hws
  | cons w ws ih =>
    obtain ⟨hw, h⟩ := List.forall_mem_cons.mp h
    rcases eq_or_ne ws [] with rfl | hne
    · exact .last (Or.inl hw)
    · exact .cons hw (ih hne h)

/-- **An open backslash quotes the colon behind it**: the last component goes on with the colon and
what follows. -/
theorem splitComponents_dangling {s : List Char} (h : ¬ Even (backslashesAtEnd s)) :
    ∃ front last, splitComponents s = front ++ [last] ∧ ¬ Even (backslashesAtEnd last) ∧
      splitComponents (s ++ [':', '*']) = front ++ [last ++ [':', '*']] := by
  induction s using cutting_induction with
  | nil => exact absurd h (by decide)
  | dangling => exact ⟨[], ['\\'], rfl, h, rfl⟩
  | colon s ih =>
    rw [backslashesAtEnd_cons_of_ne (by decide)] at h
    obtain ⟨front, last, hs, hlast, hpadded⟩ := ih h
    refine ⟨[] :: front, last, by rw [splitComponents, hs]; rfl, hlast, ?_⟩
    rw [List.cons_append, splitComponents, hpadded]
    rfl
  | quoted c s ih =>
    rw [even_backslashesAtEnd_quoted] at h
    obtain ⟨front, last, hs, hlast, hpadded⟩ := ih h
    rw [List.cons_append, List.cons_append, splitComponents, splitComponents, hs, hpadded]
    cases front with
    | nil => exact ⟨[], '\\' :: c :: last, rfl, by rwa [even_backslashesAtEnd_quoted], rfl⟩
    | cons w front => exact ⟨('\\' :: c :: w) :: front, last, rfl, hlast, rfl⟩
  | char c s hcolon hbackslash ih =>
    rw [backslashesAtEnd_cons_of_ne hbackslash] at h
    obtain ⟨front, last, hs, hlast, hpadded⟩ := ih h
    rw [List.cons_append, splitComponents_char hcolon hbackslash,
      splitComponents_char hcolon hbackslash, hs, hpadded]
    cases front with
    | nil => exact ⟨[], c :: last, rfl, by rwa [backslashesAtEnd_cons_of_ne hbackslash], rfl⟩
    | cons w front => exact ⟨(c :: w) :: front, last, rfl, hlast, rfl⟩

/-- With a vendor and a product, the part is not the component that goes on. -/
theorem splitComponents_dangling_cons {s : List Char} (h : ¬ Even (backslashesAtEnd s))
    (hlen : 3 ≤ (splitComponents s).length) :
    ∃ part front last, splitComponents s = part :: (front ++ [last]) ∧ 1 ≤ front.length ∧
      ¬ Even (backslashesAtEnd last) ∧
      splitComponents (s ++ [':', '*']) = part :: (front ++ [last ++ [':', '*']]) := by
  obtain ⟨front, last, hs, hlast, hpadded⟩ := splitComponents_dangling h
  rw [hs, List.length_append, List.length_singleton] at hlen
  cases front with
  | nil => exact absurd hlen (by decide)
  | cons part front =>
    rw [List.length_cons] at hlen
    exact ⟨part, front, last, hs, by omega, hlast, hpadded⟩

/-- Without an open backslash, the colon ends the last component. -/
theorem splitComponents_append_padding {s : List Char} (h : Even (backslashesAtEnd s)) :
    splitComponents (s ++ [':', '*']) = splitComponents s ++ [['*']] := by
  have hstar : Closed ['*'] := .char (by decide) (by decide) .nil
  have hclosed : ∀ w ∈ splitComponents s ++ [['*']], Closed w :=
    List.forall_mem_append.mpr
      ⟨(forall_closed_iff_even s).mpr h, fun w hw => List.mem_singleton.mp hw ▸ hstar⟩
  rw [splitComponents_eq_iff]
  refine ⟨components_of_closed (by simp) hclosed, ?_⟩
  rw [joinComponents_append (splitComponents_ne_nil s) (by simp), joinComponents_splitComponents,
    joinComponents_singleton]

/-! ### Padding -/

theorem padded_append_replicate (n k : Nat) (ws : List (List Char)) :
    padded n (ws ++ List.replicate k ['*']) = padded n ws := by
  induction n generalizing k ws with
  | zero => rfl
  | succ n ih =>
    cases ws with
    | cons w ws => rw [List.cons_append, padded, padded, ih]
    | nil =>
      cases k with
      | zero => rfl
      | succ k =>
        have := ih k []
        rw [List.nil_append] at this
        rw [List.nil_append, List.replicate_succ, padded, padded, this]

/-- The part is read first, so if it cannot be read nothing else plays a role. -/
theorem ofFormatted_of_parsePart {s part : List Char} {ws : List (List Char)} {e : ParseError}
    (hs : splitComponents s = part :: ws) (hlen : 2 ≤ ws.length)
    (hp : parsePart part = .error e) : ofFormatted s = .error e := by
  match ws, hlen with
  | _ :: _ :: _, _ => simp only [ofFormatted, hs, hp, bind, Except.bind]

theorem ofFormatted_of_length {s : List Char} (h : (splitComponents s).length < 3) :
    ofFormatted s = .error .tooFewComponents := by
  rw [ofFormatted]
  split
  · next hs =>
    rw [hs, List.length_cons, List.length_cons, List.length_cons] at h
    omega
  · rfl

/-- What a formatted string denotes depends on its part and on its first ten fields. -/
theorem ofFormatted_eq_of_padded {s s' part part' : List Char} {ws ws' : List (List Char)}
    (hs : splitComponents s = part :: ws) (hs' : splitComponents s' = part' :: ws')
    (hlen : 2 ≤ ws.length) (hlen' : 2 ≤ ws'.length) (hpart : parsePart part = parsePart part')
    (hws : padded 10 ws = padded 10 ws') : ofFormatted s = ofFormatted s' := by
  cases hp : parsePart part with
  | ok p =>
    obtain ⟨c, hc, -⟩ := exists_ofFormatted hs hlen hp
    obtain ⟨_, _, hs₁, -, hpart₁, hfields⟩ := ofFormatted_eq_ok_iff.mp hc
    obtain ⟨rfl, rfl⟩ := List.cons.inj (hs.symm.trans hs₁)
    rw [hc, ofFormatted_eq_ok_iff.mpr ⟨part', ws', hs', hlen', hpart ▸ hpart₁, hws ▸ hfields⟩]
  | error e =>
    rw [ofFormatted_of_parsePart hs hlen hp, ofFormatted_of_parsePart hs' hlen' (hpart ▸ hp)]

/-- **Padding says nothing** behind a text that leaves no backslash open. -/
theorem ofFormatted_padded {s : List Char} (h : Even (backslashesAtEnd s))
    (hlen : 3 ≤ (splitComponents s).length) (k : Nat) :
    ofFormatted (joinComponents (splitComponents s ++ List.replicate k ['*'])) =
      ofFormatted s := by
  have hstar : Closed ['*'] := .char (by decide) (by decide) .nil
  have hclosed : ∀ w ∈ splitComponents s ++ List.replicate k ['*'], Closed w :=
    List.forall_mem_append.mpr
      ⟨(forall_closed_iff_even s).mpr h, fun w hw => List.eq_of_mem_replicate hw ▸ hstar⟩
  have hsplit := splitComponents_joinComponents
    (components_of_closed (by simp [splitComponents_ne_nil]) hclosed)
  obtain ⟨part, ws, hs⟩ := List.exists_cons_of_ne_nil (splitComponents_ne_nil s)
  rw [hs] at hsplit hlen ⊢
  rw [List.length_cons] at hlen
  rw [List.cons_append] at hsplit ⊢
  refine ofFormatted_eq_of_padded hsplit hs ?_ (by omega) rfl (padded_append_replicate 10 k ws)
  rw [List.length_append]
  omega

/-- What is put behind a text takes no component away. -/
theorem length_splitComponents_le (s t : List Char) :
    (splitComponents s).length ≤ (splitComponents (s ++ t)).length := by
  have hpos (u : List Char) : 1 ≤ (splitComponents u).length :=
    List.length_pos_iff.mpr (splitComponents_ne_nil u)
  induction s using cutting_induction with
  | nil => exact hpos t
  | dangling => exact hpos _
  | colon s ih =>
    rw [List.cons_append, splitComponents, splitComponents]
    exact Nat.succ_le_succ ih
  | quoted c s ih =>
    rwa [List.cons_append, List.cons_append, splitComponents, splitComponents,
      length_extendFirst (splitComponents_ne_nil _), length_extendFirst (splitComponents_ne_nil _)]
  | char c s hcolon hbackslash ih =>
    rwa [List.cons_append, splitComponents_char hcolon hbackslash,
      splitComponents_char hcolon hbackslash, length_extendFirst (splitComponents_ne_nil _),
      length_extendFirst (splitComponents_ne_nil _)]

/-- One asterisk of padding behind a text, and the rest of it behind that. -/
theorem joinComponents_padding (s : List Char) (k : Nat) :
    joinComponents (splitComponents s ++ List.replicate (k + 1) ['*']) =
      joinComponents (splitComponents (s ++ [':', '*']) ++ List.replicate k ['*']) := by
  rw [joinComponents_append (splitComponents_ne_nil s) (by simp), joinComponents_splitComponents]
  cases k with
  | zero => simp [joinComponents_splitComponents]
  | succ k =>
    rw [joinComponents_append (splitComponents_ne_nil _) (by simp), joinComponents_splitComponents,
      List.replicate_succ, joinComponents_cons (by simp), List.append_assoc]
    rfl

/-! ### Reading a URI -/

/-- **How a URI is read.** With fewer than three components it is refused; with fewer than eleven
one asterisk is put behind it, and what follows that says nothing. -/
theorem bind_formattedOfUri (s : List Char) :
    (formattedOfUri s >>= ofFormatted) =
      if (splitComponents s).length < 3 then .error .tooFewComponents
      else if (splitComponents s).length < 11 then ofFormatted (starEmpty true s ++ [':', '*'])
      else ofFormatted (starEmpty true s) := by
  have hlength := length_splitComponents_starEmpty s
  rw [formattedOfUri]
  split
  · rfl
  · next hfew =>
    change ofFormatted (joinComponents ((splitComponents s).map orStar ++ _)) = _
    rw [← splitComponents_starEmpty]
    split
    · next hmany =>
      obtain ⟨k, hk⟩ : ∃ k, 11 - (splitComponents s).length = k + 1 :=
        ⟨10 - (splitComponents s).length, by omega⟩
      have hle := length_splitComponents_le (starEmpty true s) [':', '*']
      have heven : Even (backslashesAtEnd (starEmpty true s ++ [':', '*'])) := by
        rw [backslashesAtEnd_append_cons (by decide)]
        exact .zero
      rw [hk, joinComponents_padding, ofFormatted_padded heven (by omega)]
    · next hmany =>
      rw [Nat.sub_eq_zero_of_le (by omega), List.replicate_zero, List.append_nil,
        joinComponents_splitComponents]

/-- **A text whose last component swallows padding**: read as a URI, it ends in an open backslash
and padding is put behind it. -/
structure SwallowsPadding (s : List Char) : Prop where
  /-- The last backslash quotes nothing that was written. -/
  dangling : ¬ Even (backslashesAtEnd s)
  /-- There are as many components as have to be. -/
  enough : 3 ≤ (splitComponents s).length
  /-- There are fewer than could be. -/
  fewer : (splitComponents s).length ≤ 10
  /-- The part can be read. -/
  part : ∀ w ∈ (splitComponents s).head?, ∃ p, parsePart w = .ok p

/-- An asterisk behind an open backslash is read into the last component, which then holds one colon
more. -/
theorem ofFormatted_dangling_ne {s : List Char} (h : SwallowsPadding s) :
    ofFormatted (s ++ [':', '*']) ≠ ofFormatted s := by
  obtain ⟨part, front, last, hs, hfront, -, hpadded⟩ :=
    splitComponents_dangling_cons h.dangling h.enough
  have hfewer := h.fewer
  rw [hs, List.length_cons, List.length_append, List.length_singleton] at hfewer
  obtain ⟨p, hp⟩ := h.part part (by rw [hs]; rfl)
  intro heq
  obtain ⟨c, hc, -⟩ := exists_ofFormatted hs (by simp; omega) hp
  obtain ⟨_, _, hs₁, -, -, hfields⟩ := ofFormatted_eq_ok_iff.mp hc
  obtain ⟨_, _, hs₂, -, -, hfields'⟩ := ofFormatted_eq_ok_iff.mp (heq.trans hc)
  obtain ⟨-, rfl⟩ := List.cons.inj (hs.symm.trans hs₁)
  obtain ⟨-, rfl⟩ := List.cons.inj (hpadded.symm.trans hs₂)
  -- the fields hold as many colons as the components they are read from
  have hcolons := congrArg (fun fs => (fs.map String.toList).flatten.count ':')
    (hfields.symm.trans hfields')
  simp only [List.map_map, Function.comp_def, String.toList_ofList] at hcolons
  rw [count_flatten_map_unescape, count_flatten_map_unescape, count_padded (by simp; omega),
    count_padded (by simp; omega)] at hcolons
  simp at hcolons

theorem swallowsPadding_starEmpty_iff {s : List Char} :
    SwallowsPadding (starEmpty true s) ↔ SwallowsPadding s := by
  have hlength := length_splitComponents_starEmpty s
  have hodd := not_congr (even_backslashesAtEnd_starEmpty s)
  have hpart : (∀ w ∈ (splitComponents (starEmpty true s)).head?, ∃ p, parsePart w = .ok p) ↔
      ∀ w ∈ (splitComponents s).head?, ∃ p, parsePart w = .ok p := by
    rw [splitComponents_starEmpty, List.head?_map, Option.forall_mem_map]
    simp only [parsePart_orStar]
  exact ⟨fun ⟨h, h₃, h₁₀, hp⟩ => ⟨hodd.mp h, hlength ▸ h₃, hlength ▸ h₁₀, hpart.mp hp⟩,
    fun ⟨h, h₃, h₁₀, hp⟩ => ⟨hodd.mpr h, hlength ▸ h₃, hlength ▸ h₁₀, hpart.mpr hp⟩⟩

/-- Where no padding is swallowed, an asterisk behind a text with too few components to fill a name
says nothing. -/
theorem ofFormatted_append_padding {s : List Char} (henough : 3 ≤ (splitComponents s).length)
    (hfewer : (splitComponents s).length ≤ 10) (h : ¬ SwallowsPadding s) :
    ofFormatted (s ++ [':', '*']) = ofFormatted s := by
  by_cases heven : Even (backslashesAtEnd s)
  · have := ofFormatted_padded heven henough 1
    rwa [List.replicate_one, joinComponents_append (splitComponents_ne_nil s) (by simp),
      joinComponents_splitComponents, joinComponents_singleton] at this
  · -- the backslash is open, so what is wrong is the part, and it is read first in both texts
    obtain ⟨part, front, last, hs, hfront, -, hpadded⟩ :=
      splitComponents_dangling_cons heven henough
    cases hp : parsePart part with
    | ok p => exact absurd ⟨heven, henough, hfewer, by simp [hs, hp]⟩ h
    | error e =>
      rw [ofFormatted_of_parsePart hs (by simp; omega) hp,
        ofFormatted_of_parsePart hpadded (by simp; omega) hp]

theorem parse_of_formatted {text : String} {s : List Char}
    (h : text.toList = "cpe:2.3:".toList ++ s) : parse text = ofFormatted s := by
  rw [parse, stripOpening?_eq_some_iff.mpr h]

theorem stripOpening?_of_uri {text : String} {s : List Char}
    (h : text.toList = "cpe:/".toList ++ s) :
    stripOpening? "cpe:2.3:".toList text.toList = none := by
  rw [h]
  rfl

theorem parse_of_uri {text : String} {s : List Char} (h : text.toList = "cpe:/".toList ++ s) :
    parse text = formattedOfUri s >>= ofFormatted := by
  rw [parse, stripOpening?_of_uri h, stripOpening?_eq_some_iff.mpr h]

theorem parse_formatted (t : String) : parse ("cpe:2.3:" ++ t) = ofFormatted t.toList :=
  parse_of_formatted (String.toList_append ..)

theorem parse_uri_eq_bind (t : String) :
    parse ("cpe:/" ++ t) = formattedOfUri t.toList >>= ofFormatted :=
  parse_of_uri (String.toList_append ..)

/-- **A URI and the formatted string made of it** by filling in asterisks are read alike – to the
same name or with the same error – exactly if no padding is swallowed. If it is, the URI is read as
that formatted string with the first colon and the first asterisk of the padding behind its last
component. -/
theorem parse_uri (t : String) :
    (parse ("cpe:/" ++ t) = parse ("cpe:2.3:" ++ starred t) ↔ ¬ SwallowsPadding t.toList) ∧
      (SwallowsPadding t.toList →
        parse ("cpe:/" ++ t) = parse ("cpe:2.3:" ++ (starred t ++ ":*"))) := by
  have hlength := length_splitComponents_starEmpty t.toList
  rw [parse_uri_eq_bind, parse_formatted, parse_formatted, String.toList_append, starred,
    String.toList_ofList, bind_formattedOfUri]
  constructor
  · constructor
    · intro heq hswallow
      have henough := hswallow.enough
      have hfewer := hswallow.fewer
      rw [if_neg (by omega), if_pos (by omega)] at heq
      exact ofFormatted_dangling_ne (swallowsPadding_starEmpty_iff.mpr hswallow) heq
    · intro hswallow
      split
      · next hfew => rw [ofFormatted_of_length (hlength ▸ hfew)]
      · split
        · exact ofFormatted_append_padding (by omega) (by omega)
            (mt swallowsPadding_starEmpty_iff.mp hswallow)
        · rfl
  · intro hswallow
    have henough := hswallow.enough
    have hfewer := hswallow.fewer
    rw [if_neg (by omega), if_pos (by omega)]
    rfl

/-- A backslash at the end of a URI quotes the first colon of the padding, and the product goes on
with it and the asterisk behind it. -/
theorem parse_uri_dangling :
    parse ("cpe:/" ++ "a:vendor:pro\\") =
        .ok { part := .application, vendor := "vendor", product := "pro:*" } ∧
      starred "a:vendor:pro\\" = "a:vendor:pro\\" ∧
      parse ("cpe:2.3:" ++ starred "a:vendor:pro\\") =
        .ok { part := .application, vendor := "vendor", product := "pro\\" } ∧
      parse ("cpe:/" ++ "a:vendor:pro\\") ≠ parse ("cpe:2.3:" ++ starred "a:vendor:pro\\") := by
  decide +kernel

end Cpe

end AdvisoryTriage
