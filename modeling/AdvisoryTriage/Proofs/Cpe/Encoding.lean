import AdvisoryTriage.Proofs.Cpe.Written
import AdvisoryTriage.Proofs.Text.Pass

/-!
# Percent-encoded components

A component may hold any character by writing it as a percent sign and its code. `Cpe.encode` writes
a text in this way, and reading should give the text back. It does not always, and this file says
when.

What stands in the way is the order in which spellings are replaced. Eight of them are replaced
after that of the percent sign, so a percent sign that was written for a spelling can be read once
more, as the beginning of another one. This is the only way in which replacements take effect on
each other: apart from it, sixteen replacements are one pass over the text. So decoding is two
passes (`Cpe.unescape_eq_passes`), the first with the spellings up to that of the percent sign and
the second with those behind it.

Of an encoded text the first pass restores the characters it has spellings for, the percent sign
among them, and the second restores the rest. But it also reads what the text itself held: encoding
and decoding comes to the same as the second pass alone (`Cpe.unescape_encode`). So a text comes
back exactly if it holds none of the eight spellings, and a field written in encoded form holds the
text in that case and no other (`Cpe.parse_encoded`).
-/

namespace AdvisoryTriage

namespace Cpe

/-! ### Two passes -/

/-- The spellings up to that of the percent sign. -/
def escapesToPercent : List (String × Char) :=
  escapes.take 8

/-- The spellings behind that of the percent sign. -/
def escapesBehindPercent : List (String × Char) :=
  escapes.drop 8

theorem toPercent_subset : escapesToPercent ⊆ escapes :=
  List.take_subset 8 escapes

theorem behindPercent_subset : escapesBehindPercent ⊆ escapes :=
  List.drop_subset 8 escapes

/-- Every spelling begins with a backslash or a percent sign. -/
theorem head?_of_mem_escapes :
    ∀ e ∈ escapes, e.1.toList.head? = some '\\' ∨ e.1.toList.head? = some '%' := by
  decide

theorem not_mem_tail_of_mem_escapes :
    ∀ e ∈ escapes, '\\' ∉ e.1.toList.tail ∧ '%' ∉ e.1.toList.tail := by
  decide

/-- No spelling begins inside another one. -/
theorem not_mem_head?_of_mem_tail {e f : String × Char} (he : e ∈ escapes) (hf : f ∈ escapes)
    {c : Char} (hc : c ∈ f.1.toList.tail) : c ∉ e.1.toList.head? := by
  obtain ⟨hbackslash, hpercent⟩ := not_mem_tail_of_mem_escapes f hf
  intro hhead
  rcases head?_of_mem_escapes e he with h | h
  · exact hbackslash (Option.some.inj (h.symm.trans hhead) ▸ hc)
  · exact hpercent (Option.some.inj (h.symm.trans hhead) ▸ hc)

theorem toPercent_ne_nil : ∀ e ∈ escapesToPercent, e.1.toList ≠ [] := by
  decide

theorem behindPercent_ne_nil : ∀ e ∈ escapesBehindPercent, e.1.toList ≠ [] := by
  decide

/-- No spelling of either pass is the beginning of another one. -/
theorem toPercent_free :
    ∀ e ∈ escapesToPercent, ∀ f ∈ escapesToPercent, e.1.toList <+: f.1.toList → e = f := by
  decide

theorem behindPercent_free :
    ∀ e ∈ escapesBehindPercent, ∀ f ∈ escapesBehindPercent, e.1.toList <+: f.1.toList → e = f := by
  decide

/-- **A row of replacements** is one pass if no character that is written for a spelling belongs to
a later one. -/
theorem foldl_replaceAll_of_pairwise {table : List (String × Char)} (hsubset : table ⊆ escapes)
    (hne : ∀ e ∈ table, e.1.toList ≠ []) (h : table.Pairwise fun e f => e.2 ∉ f.1.toList)
    (s : List Char) :
    table.foldl (fun s e => Text.replaceAll e.1.toList e.2 s) s = Text.replaceEach table s :=
  Text.foldl_replaceAll_eq_replaceEach hne (h.imp_of_mem fun he hf hnot => ⟨hnot, fun _ hhead hc =>
    not_mem_head?_of_mem_tail (hsubset he) (hsubset hf) hc hhead⟩) s

theorem foldl_escapesToPercent (s : List Char) :
    escapesToPercent.foldl (fun s e => Text.replaceAll e.1.toList e.2 s) s =
      Text.replaceEach escapesToPercent s :=
  foldl_replaceAll_of_pairwise toPercent_subset toPercent_ne_nil (by decide) s

theorem foldl_escapesBehindPercent (s : List Char) :
    escapesBehindPercent.foldl (fun s e => Text.replaceAll e.1.toList e.2 s) s =
      Text.replaceEach escapesBehindPercent s :=
  foldl_replaceAll_of_pairwise behindPercent_subset behindPercent_ne_nil (by decide) s

/-- **Decoding is two passes** over a component. -/
theorem unescape_eq_passes (w : List Char) :
    unescape w =
      Text.replaceEach escapesBehindPercent (Text.replaceEach escapesToPercent w) := by
  rw [← foldl_escapesBehindPercent, ← foldl_escapesToPercent, ← List.foldl_append,
    escapesToPercent, escapesBehindPercent, List.take_append_drop]
  rfl

/-! ### Encoding -/

/-- The characters that are written by their code. -/
def encodedChars : List Char :=
  ['!', '"', '#', '$', '%', '&', '\'', '(', ')', '*', '+', ',', '/']

/-- A character, or a percent sign and its code in two digits of lower case. -/
def encodeChar (c : Char) : List Char :=
  if c ∈ encodedChars then '%' :: Nat.toDigits 16 c.toNat else [c]

/-- **The percent-encoded form** of a text. -/
def encode (x : List Char) : List Char :=
  x.flatMap encodeChar

example : encode "a+b 100%".toList = "a%2bb 100%25".toList := by
  decide

/-- A character as the first pass leaves it of an encoded text: encoded only if its spelling is
replaced later. -/
def encodeCharLate (c : Char) : List Char :=
  if c ∈ escapesBehindPercent.map Prod.snd then encodeChar c else [c]

theorem encodeChar_of_not_mem {c : Char} (h : c ∉ encodedChars) : encodeChar c = [c] :=
  if_neg h

/-- The encoded characters are those that have a code among the spellings. -/
theorem encodedChars_eq : encodedChars = (escapes.drop 3).map Prod.snd := by
  decide

theorem encodeChar_of_mem_escapes : ∀ e ∈ escapes.drop 3, encodeChar e.2 = e.1.toList := by
  decide

theorem behindPercent_encoded {c : Char} (h : c ∈ escapesBehindPercent.map Prod.snd) :
    c ∈ encodedChars :=
  encodedChars_eq ▸ List.map_subset Prod.snd (List.drop_subset_drop_left escapes (by decide)) h

theorem encodeCharLate_of_not_mem {c : Char} (h : c ∉ escapesBehindPercent.map Prod.snd) :
    encodeCharLate c = [c] :=
  if_neg h

theorem encodeCharLate_of_mem_toPercent : ∀ e ∈ escapesToPercent.drop 3,
    encodeCharLate e.2 = [e.2] := by
  decide

theorem encodeCharLate_of_mem_behindPercent {e : String × Char} (he : e ∈ escapesBehindPercent) :
    encodeCharLate e.2 = e.1.toList := by
  have hcode : e ∈ escapes.drop 3 := List.drop_subset_drop_left escapes (by decide) he
  rw [encodeCharLate, if_pos (List.mem_map_of_mem he), encodeChar_of_mem_escapes e hcode]

/-- The code of a character is its spelling in one of the passes. -/
theorem exists_escape {c : Char} (h : c ∈ encodedChars) :
    (∃ e ∈ escapesToPercent, encodeChar c = e.1.toList ∧ encodeCharLate c = [e.2]) ∨
      ∃ e ∈ escapesBehindPercent, encodeChar c = e.1.toList ∧ encodeCharLate c = e.1.toList := by
  rw [encodedChars_eq] at h
  obtain ⟨e, he, rfl⟩ := List.mem_map.mp h
  have hcode := encodeChar_of_mem_escapes e he
  have hpasses : escapes.drop 3 = escapesToPercent.drop 3 ++ escapesBehindPercent := by rfl
  rcases List.mem_append.mp (hpasses ▸ he) with hfirst | hsecond
  · exact Or.inl ⟨e, List.drop_subset 3 _ hfirst, hcode, encodeCharLate_of_mem_toPercent e hfirst⟩
  · exact Or.inr ⟨e, hsecond, hcode, encodeCharLate_of_mem_behindPercent hsecond⟩

theorem encode_ne_nil {x : List Char} (h : x ≠ []) : encode x ≠ [] := by
  have hchar (c : Char) : encodeChar c ≠ [] := by
    rw [encodeChar]
    split <;> exact List.cons_ne_nil _ _
  obtain ⟨c, x, rfl⟩ := List.exists_cons_of_ne_nil h
  rw [encode, List.flatMap_cons]
  exact List.append_ne_nil_of_left_ne_nil (hchar c) _

theorem backslash_not_mem_encode {x : List Char} (h : '\\' ∉ x) : '\\' ∉ encode x := by
  have hcodes : ∀ e ∈ escapes.drop 3, '\\' ∉ e.1.toList := by decide
  intro hx
  obtain ⟨c, hc, hmem⟩ := List.mem_flatMap.mp hx
  by_cases hcode : c ∈ encodedChars
  · rw [encodedChars_eq] at hcode
    obtain ⟨e, he, rfl⟩ := List.mem_map.mp hcode
    exact hcodes e he (encodeChar_of_mem_escapes e he ▸ hmem)
  · rw [encodeChar_of_not_mem hcode, List.mem_singleton] at hmem
    exact h (hmem ▸ hc)

/-- Where the first pass meets a character of the text, it leaves that or its later spelling. -/
theorem replaceEach_toPercent_encodeChar {c : Char} (hc : c ≠ '\\') (s : List Char) :
    Text.replaceEach escapesToPercent (encodeChar c ++ s) =
      encodeCharLate c ++ Text.replaceEach escapesToPercent s := by
  -- the spellings of the second pass begin like some of the first, and go on differently
  have hapart : ∀ f ∈ escapesBehindPercent, ∀ e ∈ escapesToPercent,
      ¬ e.1.toList <+: f.1.toList ∧ ¬ f.1.toList <+: e.1.toList := by decide
  by_cases hcode : c ∈ encodedChars
  · rcases exists_escape hcode with ⟨e, he, hspelling, hwritten⟩ | ⟨e, he, hspelling, hkept⟩
    · rw [hspelling, hwritten, Text.replaceEach_spelling (toPercent_ne_nil e he)
        (Text.spelling?_append toPercent_free he s), List.singleton_append]
    · rw [hspelling, hkept, Text.replaceEach_append_of_front toPercent_ne_nil
        (behindPercent_ne_nil e he) (Text.spelling?_append_eq_none (hapart e he) s)
        fun _ hd f hf => not_mem_head?_of_mem_tail (toPercent_subset hf)
          (behindPercent_subset he) hd]
  · have hnone : ∀ e ∈ escapesToPercent, c ∉ e.1.toList.head? := by
      intro e he hhead
      rcases head?_of_mem_escapes e (toPercent_subset he) with h | h
      · exact hc (Option.some.inj (hhead.symm.trans h))
      · obtain rfl := Option.some.inj (hhead.symm.trans h)
        exact hcode (by decide)
    rw [encodeChar_of_not_mem hcode, encodeCharLate_of_not_mem (mt behindPercent_encoded hcode),
      List.singleton_append, List.singleton_append,
      Text.replaceEach_char (Text.spelling?_cons_eq_none toPercent_ne_nil hnone s)]

/-- **What the first pass leaves** of an encoded text. -/
theorem replaceEach_toPercent_encode {x : List Char} (h : '\\' ∉ x) :
    Text.replaceEach escapesToPercent (encode x) = x.flatMap encodeCharLate := by
  induction x with
  | nil => exact Text.replaceEach_nil _
  | cons c x ih =>
    obtain ⟨hc, hx⟩ := not_or.mp (List.mem_cons.not.mp h)
    rw [encode, List.flatMap_cons, List.flatMap_cons,
      replaceEach_toPercent_encodeChar (Ne.symm hc), ← encode, ih hx]

/-- A text without a percent sign in front of what the first pass leaves stood in front of the text
that was encoded. -/
theorem prefix_of_prefix_flatMap {p : List Char} (hp : '%' ∉ p) {x : List Char}
    (h : p <+: x.flatMap encodeCharLate) : p <+: x := by
  have hcodes : ∀ e ∈ escapesBehindPercent, e.1.toList.head? = some '%' := by decide
  induction p generalizing x with
  | nil => exact List.nil_prefix
  | cons d p ih =>
    obtain ⟨hd, hp⟩ := not_or.mp (List.mem_cons.not.mp hp)
    cases x with
    | nil => cases List.eq_nil_of_prefix_nil h
    | cons c x =>
      rw [List.flatMap_cons] at h
      by_cases hc : c ∈ escapesBehindPercent.map Prod.snd
      · obtain ⟨e, he, rfl⟩ := List.mem_map.mp hc
        obtain ⟨code, hcode⟩ := List.head?_eq_some_iff.mp (hcodes e he)
        rw [encodeCharLate_of_mem_behindPercent he, hcode, List.cons_append,
          List.cons_prefix_cons] at h
        exact absurd h.1.symm hd
      · rw [encodeCharLate_of_not_mem hc, List.singleton_append, List.cons_prefix_cons] at h
        exact List.cons_prefix_cons.mpr ⟨h.1, ih hp h.2⟩

/-- **What the second pass leaves** is the same whether the characters it writes were encoded or
not. -/
theorem replaceEach_behindPercent_flatMap (x : List Char) :
    Text.replaceEach escapesBehindPercent (x.flatMap encodeCharLate) =
      Text.replaceEach escapesBehindPercent x := by
  have hspelled : ∀ e ∈ escapesBehindPercent,
      e.1.toList.flatMap encodeCharLate = e.1.toList := by decide
  induction x using Text.replaceEach_induction behindPercent_ne_nil with
  | nil => rfl
  | spelling e x hx ih =>
    have he := (Text.mem_of_spelling? hx).1
    rw [List.flatMap_append, hspelled e he,
      Text.replaceEach_spelling (behindPercent_ne_nil e he) hx,
      Text.replaceEach_spelling (behindPercent_ne_nil e he)
        (Text.spelling?_append behindPercent_free he _), ih]
  | char c x hx ih =>
    rw [List.flatMap_cons, Text.replaceEach_char hx, ← ih]
    by_cases hc : c ∈ escapesBehindPercent.map Prod.snd
    · obtain ⟨e, he, rfl⟩ := List.mem_map.mp hc
      rw [encodeCharLate_of_mem_behindPercent he, Text.replaceEach_spelling
        (behindPercent_ne_nil e he) (Text.spelling?_append behindPercent_free he _)]
    · rw [encodeCharLate_of_not_mem hc, List.singleton_append, Text.replaceEach_char]
      -- a spelling in front of the one text would stand in front of the other
      refine Text.spelling?_eq_none_iff.mpr fun e he hp => ?_
      have hnot := Text.spelling?_eq_none_iff.mp hx e he
      obtain ⟨d, p, hdp⟩ := List.exists_cons_of_ne_nil (behindPercent_ne_nil e he)
      have htail := (not_mem_tail_of_mem_escapes e (behindPercent_subset he)).2
      rw [hdp] at hp hnot htail
      rw [List.cons_prefix_cons] at hp hnot
      exact hnot ⟨hp.1, prefix_of_prefix_flatMap htail hp.2⟩

/-- **Encoding and decoding** is the second pass alone. -/
theorem unescape_encode {x : List Char} (h : '\\' ∉ x) :
    unescape (encode x) = Text.replaceEach escapesBehindPercent x := by
  rw [unescape_eq_passes, replaceEach_toPercent_encode h, replaceEach_behindPercent_flatMap]

/-- The second pass leaves a text alone exactly if it holds none of its spellings. -/
theorem replaceEach_behindPercent_eq_self_iff {x : List Char} :
    Text.replaceEach escapesBehindPercent x = x ↔
      ∀ e ∈ escapesBehindPercent, ¬ e.1.toList <:+: x := by
  have hlong : ∀ e ∈ escapesBehindPercent, 2 ≤ e.1.toList.length := by decide
  rw [← foldl_escapesBehindPercent]
  constructor
  · exact fun h => (length_foldl_replaceAll hlong x).2 (congrArg List.length h)
  · exact fun h => List.foldlRecOn (motive := fun s => s = x) _ _ rfl
      fun s hs e he => by rw [hs]; exact Text.replaceAll_eq_self (h e he)

/-! ### Encoded fields -/

/-- **A field in encoded form.** A text without backslashes is what its encoded form stands for
exactly if it holds no spelling behind that of the percent sign. Whatever it holds, a name that has
it as one of its fields in encoded form can be read if the rest of it can, and the field is what the
second pass leaves of the text. -/
theorem parse_encoded {x : List Char} (hx : '\\' ∉ x) :
    (unescape (encode x) = x ↔ ∀ e ∈ escapesBehindPercent, ¬ e.1.toList <:+: x) ∧
      ∀ text i, x ≠ [] → i < 10 → WellFormed text → written? text i = some (encode x) →
        ∃ c, parse text = .ok c ∧
          c.fields[i]? = some (String.ofList (Text.replaceEach escapesBehindPercent x)) ∧
          (c.fields[i]? = some (String.ofList x) ↔
            ∀ e ∈ escapesBehindPercent, ¬ e.1.toList <:+: x) := by
  have hdecoded := unescape_encode hx
  refine ⟨by rw [hdecoded, replaceEach_behindPercent_eq_self_iff], ?_⟩
  intro text i hne hi htext hw
  obtain ⟨c, hc⟩ := exists_parse_iff.mpr htext
  obtain ⟨w, hread, hfield⟩ := exists_readFrom hc hi
  have heven : Even (backslashesAtEnd (encode x)) := by
    rw [backslashesAtEnd_of_not_mem (backslash_not_mem_encode hx)]
    exact .zero
  rw [hw] at hread
  have hself := hread.eq_written (encode_ne_nil hne) heven
  rw [hself, hdecoded] at hfield
  refine ⟨c, hc, hfield, ?_⟩
  rw [hfield, Option.some_inj, String.ofList_inj, replaceEach_behindPercent_eq_self_iff]

/-- A text with a plus sign and with a percent sign in front of two digits comes back. -/
theorem parse_encoded_plus :
    '\\' ∉ "a+b%20".toList ∧ encode "a+b%20".toList = "a%2bb%2520".toList ∧
      ∃ c, parse "cpe:/a:vendor:a%2bb%2520" = .ok c ∧ c.fields[1]? = some "a+b%20" := by
  have hx : '\\' ∉ "a+b%20".toList := by decide
  have htext : WellFormed "cpe:/a:vendor:a%2bb%2520" :=
    exists_parse_iff.mp ⟨{ part := .application, vendor := "vendor", product := "a+b%20" },
      by decide +kernel⟩
  obtain ⟨c, hc, -, hiff⟩ := (parse_encoded hx).2 "cpe:/a:vendor:a%2bb%2520" 1 (by decide)
    (by decide) htext (by decide)
  exact ⟨hx, by decide, c, hc, hiff.mpr (by decide +kernel)⟩

/-- A percent sign in front of the digits of the ampersand does not come back: what is written for
its code is read once more. -/
theorem parse_encoded_percent :
    encode "%26".toList = "%2526".toList ∧ unescape (encode "%26".toList) = "&".toList ∧
      unescape (encode "%26".toList) ≠ "%26".toList ∧
      parse "cpe:/a:vendor:%2526" =
        .ok { part := .application, vendor := "vendor", product := "&" } := by
  decide +kernel

end Cpe

end AdvisoryTriage
