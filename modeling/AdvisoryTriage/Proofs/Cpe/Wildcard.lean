import AdvisoryTriage.Proofs.Cpe.Encoding
import AdvisoryTriage.Proofs.Cpe.Matching

/-!
# Wildcards and what blocks a match

Three fields are compared when a name is asked whether it covers another, each on its own
(`Cpe.Compared.covers_eq`), and a field that is an asterisk on either side is no hindrance. The
question is which texts are read as such a field, and which others are read as something that
matches by an asterisk.

A field that is unsaid is read as an asterisk and blocks no match. Not every empty field is unsaid:
a formatted string may leave one blank, and a blank field matches only what is blank or an asterisk
itself (`Cpe.covers_unsay`).

On the other hand an asterisk that is quoted or encoded is read as an asterisk like any other. When
two fields are compared, nothing is left of how they were written, so a spelled asterisk that is
alone matches everything and a single one among other characters stands for any text
(`Cpe.of_covers_quoted`). Going back from the field to the text is a matter of undoing two passes:
there are three ways to spell an asterisk, and the third goes through both of them
(`Cpe.exists_spelling_of_unescape`).
-/

namespace AdvisoryTriage

namespace Cpe

/-! ### The fields that are compared -/

/-- **A field that is compared** when a name is asked whether it covers another. -/
inductive Compared where
  /-- The vendor. -/
  | vendor
  /-- The product. -/
  | product
  /-- The version of the product. -/
  | version
deriving DecidableEq

namespace Compared

/-- The position of the field among the text fields. -/
def position : Compared → Nat
  | vendor => 0
  | product => 1
  | version => 2

/-- The field of a name. -/
def get : Compared → Cpe → String
  | vendor => Cpe.vendor
  | product => Cpe.product
  | version => Cpe.version

/-- A name with an asterisk for the field. -/
def unsay : Compared → Cpe → Cpe
  | vendor, c => { c with vendor := "*" }
  | product, c => { c with product := "*" }
  | version, c => { c with version := "*" }

/-- The field of a text as it is written, if it is. -/
def written? (k : Compared) (text : String) : Option (List Char) :=
  Cpe.written? text k.position

theorem getElem?_fields (k : Compared) (c : Cpe) : c.fields[k.position]? = some (k.get c) := by
  cases k <;> rfl

theorem exists_readFrom (k : Compared) {text : String} {c : Cpe} (h : parse text = .ok c) :
    ∃ w, ReadFrom (IsUri text) (k.written? text) w ∧ k.get c = String.ofList (unescape w) := by
  obtain ⟨w, hread, hfield⟩ := Cpe.exists_readFrom h (i := k.position) (by cases k <;> decide)
  rw [k.getElem?_fields] at hfield
  exact ⟨w, hread, Option.some.inj hfield⟩

/-- **A field on its own**: a name covers another if this field matches and the rest does. -/
theorem covers_eq (k : Compared) (pattern target : Cpe) :
    pattern.covers target =
      (componentMatches (k.get pattern) (k.get target) &&
        (k.unsay pattern).covers (k.unsay target)) := by
  have hstar : componentMatches "*" "*" = true := componentMatches_self "*"
  cases k with
  | vendor => simp only [covers, get, unsay, hstar, Bool.true_and, Bool.and_assoc]
  | product =>
    simp only [covers, get, unsay, hstar, Bool.and_true]
    rw [Bool.and_comm (componentMatches pattern.vendor _), Bool.and_assoc]
  | version =>
    simp only [covers, get, unsay, hstar, Bool.and_true]
    rw [Bool.and_comm]

end Compared

/-! ### Spellings of an asterisk -/

/-- The spellings of an asterisk: quoted, by its code, and with the percent sign of the code by its
code in turn. -/
def quotedAsterisks : List (List Char) :=
  ["\\*".toList, "%2a".toList, "%252a".toList]

/-- **An asterisk in front of what a component stands for** was written as one or by one of its
spellings. -/
theorem exists_spelling_of_unescape {w t : List Char} (h : unescape w = '*' :: t) :
    ∃ q v, (q = ['*'] ∨ q ∈ quotedAsterisks) ∧ w = q ++ v ∧ unescape v = t := by
  have hquoted : ∀ e ∈ escapesToPercent, e.2 = '*' → e.1.toList ∈ quotedAsterisks := by decide
  have hcode : ∀ e ∈ escapesBehindPercent, e.2 = '*' → e.1.toList = "%2a".toList := by decide
  have hpercent : ∀ e ∈ escapesToPercent, e.2 = '%' → e.1.toList = "%25".toList := by decide
  have hdigits : ∀ e ∈ escapesToPercent, e.2 ∉ ['2', 'a'] := by decide
  rw [unescape_eq_passes] at h
  rcases Text.cons_eq_replaceEach behindPercent_ne_nil h with
    ⟨u, hu, rfl⟩ | ⟨e, he, hstar, u, hu, rfl⟩
  · -- the first pass left an asterisk
    rcases Text.cons_eq_replaceEach toPercent_ne_nil hu with
      ⟨v, rfl, rfl⟩ | ⟨f, hf, hstar, v, rfl, rfl⟩
    · exact ⟨['*'], v, Or.inl rfl, rfl, unescape_eq_passes v⟩
    · exact ⟨_, v, Or.inr (hquoted f hf hstar), rfl, unescape_eq_passes v⟩
  · -- it left the code of one, whose digits were written and whose percent sign was or was spelled
    rw [hcode e he hstar] at hu
    rcases Text.cons_eq_replaceEach toPercent_ne_nil hu with ⟨v, rfl, hv⟩ | ⟨f, hf, hc, v, rfl, hv⟩
    · obtain ⟨v, rfl, rfl⟩ := Text.append_eq_replaceEach toPercent_ne_nil hdigits hv
      exact ⟨"%2a".toList, v, by decide, rfl, unescape_eq_passes v⟩
    · obtain ⟨v, rfl, rfl⟩ := Text.append_eq_replaceEach toPercent_ne_nil hdigits hv
      exact ⟨"%252a".toList, v, by decide, by rw [hpercent f hf hc]; rfl, unescape_eq_passes v⟩

/-- An asterisk anywhere in it as well. -/
theorem spelled_of_mem_unescape {w : List Char} (h : '*' ∈ unescape w) :
    '*' ∈ w ∨ ∃ q ∈ quotedAsterisks, q <:+: w := by
  obtain ⟨front, t, ht⟩ := List.append_of_mem h
  rw [unescape_eq_passes] at ht
  obtain ⟨u, ⟨left, hu⟩, hread⟩ := Text.exists_suffix_of_replaceEach behindPercent_ne_nil ht
  obtain ⟨v, hv, rfl⟩ := Text.exists_suffix_of_replaceEach toPercent_ne_nil hu.symm
  obtain ⟨q, v, hq, rfl, -⟩ := exists_spelling_of_unescape ((unescape_eq_passes v).trans hread)
  have hwithin : q <:+: w := (List.prefix_append q v).isInfix.trans hv.isInfix
  rcases hq with rfl | hq
  · exact Or.inl (hwithin.subset (List.mem_singleton_self '*'))
  · exact Or.inr ⟨q, hq, hwithin⟩

/-- **What stands for a lone asterisk** is an asterisk or one of its spellings. -/
theorem unescape_eq_asterisk_iff {w : List Char} :
    unescape w = ['*'] ↔ w = ['*'] ∨ w ∈ quotedAsterisks := by
  constructor
  · intro h
    obtain ⟨q, v, hq, rfl, hv⟩ := exists_spelling_of_unescape h
    rw [unescape_eq_passes, Text.replaceEach_eq_nil_iff behindPercent_ne_nil,
      Text.replaceEach_eq_nil_iff toPercent_ne_nil] at hv
    rwa [hv, List.append_nil]
  · have hself : ∀ q ∈ ['*'] :: quotedAsterisks, unescape q = ['*'] := by decide +kernel
    exact fun hw => hself w (List.mem_cons.mpr hw)

/-! ### Fields that say nothing -/

namespace Compared

variable {k : Compared} {text : String} {c : Cpe}

/-- **An unsaid field** is not written, is written as an asterisk, or is left empty in a URI. -/
def Unsaid (k : Compared) (text : String) : Prop :=
  k.written? text = none ∨ k.written? text = some ['*'] ∨
    (IsUri text ∧ k.written? text = some [])

/-- **A blank field** is left empty in a formatted string. -/
def Blank (k : Compared) (text : String) : Prop :=
  ¬ IsUri text ∧ k.written? text = some []

/-- A field in which nothing but a quoted or encoded asterisk is written. -/
def QuotedAsterisk (k : Compared) (text : String) : Prop :=
  ∃ q ∈ quotedAsterisks, k.written? text = some q

/-- **A field that swallows padding** is written at the end of a URI and leaves a backslash open. -/
def Swallowing (k : Compared) (text : String) : Prop :=
  IsUri text ∧ ∃ w ∈ k.written? text, ¬ Even (backslashesAtEnd w)

instance (k : Compared) (text : String) : Decidable (k.Unsaid text) :=
  inferInstanceAs (Decidable (_ ∨ _))

instance (k : Compared) (text : String) : Decidable (k.QuotedAsterisk text) :=
  inferInstanceAs (Decidable (∃ q ∈ quotedAsterisks, _))

instance (k : Compared) (text : String) : Decidable (k.Swallowing text) :=
  inferInstanceAs (Decidable (_ ∧ ∃ w ∈ k.written? text, _))

/-- **Which fields are asterisks** when they are read: those that are unsaid, and those in which an
asterisk is spelled out. -/
theorem get_eq_asterisk_iff (h : parse text = .ok c) :
    k.get c = "*" ↔ k.Unsaid text ∨ k.QuotedAsterisk text := by
  obtain ⟨w, hread, hget⟩ := k.exists_readFrom h
  rw [hget, ← String.toList_inj, String.toList_ofList, Unsaid, QuotedAsterisk]
  change unescape w = ['*'] ↔ _
  rw [unescape_eq_asterisk_iff]
  constructor
  · intro hw
    cases hwritten : k.written? text with
    | none => exact Or.inl (Or.inl rfl)
    | some v =>
      rw [hwritten] at hread
      cases hread with
      | skipped huri => exact Or.inl (Or.inr (Or.inr ⟨huri, rfl⟩))
      | written _ =>
        rcases hw with rfl | hw
        · exact Or.inl (Or.inr (Or.inl rfl))
        · exact Or.inr ⟨w, hw, rfl⟩
      | swallowing _ _ =>
        -- the swallowed colon is in no spelling of an asterisk
        have hcolon : ∀ q ∈ ['*'] :: quotedAsterisks, ':' ∉ q := by decide
        exact absurd (List.mem_append_right v List.mem_cons_self)
          (hcolon _ (List.mem_cons.mpr hw))
  · rintro ((hwritten | hwritten | ⟨huri, hwritten⟩) | ⟨q, hq, hwritten⟩)
    · rw [hwritten] at hread
      cases hread with
      | unwritten => exact Or.inl rfl
    · rw [hwritten] at hread
      exact Or.inl (hread.eq_written (by decide) .zero)
    · rw [hwritten] at hread
      cases hread with
      | skipped _ => exact Or.inl rfl
      | written hformatted => exact absurd huri (hformatted rfl)
      | swallowing _ hopen => exact absurd .zero hopen
    · have hclosed : ∀ q ∈ quotedAsterisks, q ≠ [] ∧ Even (backslashesAtEnd q) := by decide
      rw [hwritten] at hread
      rw [hread.eq_written (hclosed q hq).1 (hclosed q hq).2]
      exact Or.inr hq

/-- **Any other field** is read from what is written, unless it swallows padding. -/
theorem get_of_written (h : parse text = .ok c) {w : List Char} (hw : k.written? text = some w)
    (hsaid : ¬ k.Unsaid text) (hswallow : ¬ k.Swallowing text) :
    k.get c = String.ofList (unescape w) := by
  obtain ⟨v, hread, hget⟩ := k.exists_readFrom h
  rw [hw] at hread
  cases hread with
  | skipped huri => exact absurd (Or.inr (Or.inr ⟨huri, hw⟩)) hsaid
  | written _ => exact hget
  | swallowing huri hopen => exact absurd ⟨huri, w, hw, hopen⟩ hswallow

/-- A blank field is read as an empty text. -/
theorem get_of_blank (h : parse text = .ok c) (hblank : k.Blank text) : k.get c = "" := by
  obtain ⟨w, hread, hget⟩ := k.exists_readFrom h
  rw [hblank.2] at hread
  cases hread with
  | skipped huri => exact absurd huri hblank.1
  | written _ =>
    rw [hget, unescape_eq_passes, Text.replaceEach_nil, Text.replaceEach_nil, String.ofList_nil]
  | swallowing huri _ => exact absurd huri hblank.1

end Compared

theorem componentMatches_of_asterisk {pattern value : String} (h : pattern = "*" ∨ value = "*") :
    componentMatches pattern value = true :=
  if_pos h

/-- An empty pattern matches what is empty and what is an asterisk. -/
theorem componentMatches_empty_left {value : String} :
    componentMatches "" value = true ↔ value = "*" ∨ value = "" := by
  rw [componentMatches_iff]
  constructor
  · rintro (h | h | ⟨-, before, middle, behind, h, -⟩)
    · exact Or.inl h
    · have := Text.lowerCase_eq_nil_iff.mp h.symm
      exact Or.inr (String.toList_inj.mp this)
    · exact absurd h (by simp)
  · exact fun h => h.imp_right fun h => Or.inl (congrArg _ (congrArg _ h.symm))

/-- An empty value is matched by what is empty and by what is an asterisk. -/
theorem componentMatches_empty_right {pattern : String} :
    componentMatches pattern "" = true ↔ pattern = "*" ∨ pattern = "" := by
  rw [componentMatches_iff]
  constructor
  · rintro (h | h | ⟨-, before, middle, behind, h, -, -, hvalue⟩)
    · exact absurd h (by decide)
    · have := Text.lowerCase_eq_nil_iff.mp h
      exact Or.inr (String.toList_inj.mp this)
    · -- nothing is in front of the asterisk and nothing behind it
      obtain ⟨hfront, rfl⟩ := List.append_eq_nil_iff.mp hvalue.symm
      obtain ⟨rfl, -⟩ := List.append_eq_nil_iff.mp hfront
      have := (Text.lowerCase_eq_singleton_iff (by decide) (by decide)).mp h
      exact Or.inl (String.toList_inj.mp this)
  · rintro (rfl | rfl)
    · exact Or.inr (Or.inr ⟨Or.inl rfl, [], [], [], by decide⟩)
    · exact Or.inr (Or.inl rfl)

/-- **A wildcard blocks no match**, and a blank field does unless the other side says nothing
either. -/
theorem covers_unsay {P T : String} {p t : Cpe} (hP : parse P = .ok p) (hT : parse T = .ok t)
    (k : Compared) :
    (k.Unsaid P ∨ k.Unsaid T → p.covers t = (k.unsay p).covers (k.unsay t)) ∧
      (k.Blank P → (p.covers t = true ↔
        (k.get t = "*" ∨ k.get t = "") ∧ (k.unsay p).covers (k.unsay t) = true)) ∧
      (k.Blank T → (p.covers t = true ↔
        (k.get p = "*" ∨ k.get p = "") ∧ (k.unsay p).covers (k.unsay t) = true)) := by
  rw [k.covers_eq p t]
  refine ⟨fun h => ?_, fun h => ?_, fun h => ?_⟩
  · have hasterisk : k.get p = "*" ∨ k.get t = "*" :=
      h.imp (fun h => (Compared.get_eq_asterisk_iff hP).mpr (Or.inl h))
        fun h => (Compared.get_eq_asterisk_iff hT).mpr (Or.inl h)
    rw [componentMatches_of_asterisk hasterisk, Bool.true_and]
  · rw [Bool.and_eq_true, Compared.get_of_blank hP h, componentMatches_empty_left]
  · rw [Bool.and_eq_true, Compared.get_of_blank hT h, componentMatches_empty_right]

/-- A URI that leaves the version empty covers a platform whatever its version is. -/
theorem covers_unsay_emptyVersion :
    parse "cpe:/o:redhat:enterprise_linux:" =
        .ok { part := .operatingSystem, vendor := "redhat", product := "enterprise_linux" } ∧
      parse "cpe:/o:redhat:enterprise_linux:8" =
        .ok { part := .operatingSystem, vendor := "redhat", product := "enterprise_linux",
              version := "8" } ∧
      Compared.version.Unsaid "cpe:/o:redhat:enterprise_linux:" ∧
      covers { part := .operatingSystem, vendor := "redhat", product := "enterprise_linux" }
        { part := .operatingSystem, vendor := "redhat", product := "enterprise_linux",
          version := "8" } = true := by
  have hP : parse "cpe:/o:redhat:enterprise_linux:" =
      .ok { part := .operatingSystem, vendor := "redhat", product := "enterprise_linux" } := by
    decide +kernel
  have hT : parse "cpe:/o:redhat:enterprise_linux:8" =
      .ok { part := .operatingSystem, vendor := "redhat", product := "enterprise_linux",
            version := "8" } := by
    decide +kernel
  have hunsaid : Compared.version.Unsaid "cpe:/o:redhat:enterprise_linux:" :=
    by decide
  refine ⟨hP, hT, hunsaid, ?_⟩
  rw [(covers_unsay hP hT .version).1 (Or.inl hunsaid)]
  exact covers_self _

/-- A formatted string that leaves it blank covers none that has one. -/
theorem covers_unsay_blankVersion :
    parse "cpe:2.3:o:redhat:enterprise_linux::*:*:*:*:*:*:*" =
        .ok { part := .operatingSystem, vendor := "redhat", product := "enterprise_linux",
              version := "" } ∧
      parse "cpe:2.3:o:redhat:enterprise_linux:8:*:*:*:*:*:*:*" =
        .ok { part := .operatingSystem, vendor := "redhat", product := "enterprise_linux",
              version := "8" } ∧
      covers { part := .operatingSystem, vendor := "redhat", product := "enterprise_linux",
               version := "" }
        { part := .operatingSystem, vendor := "redhat", product := "enterprise_linux",
          version := "8" } = false ∧
      covers { part := .operatingSystem, vendor := "redhat", product := "enterprise_linux",
               version := "*" }
        { part := .operatingSystem, vendor := "redhat", product := "enterprise_linux",
          version := "*" } = true := by
  decide +kernel

/-! ### Quoted asterisks -/

/-- **A text whose asterisks are quoted**: a backslash stands in front of each. -/
inductive AsterisksQuoted : List Char → Prop
  /-- The empty text holds none. -/
  | nil : AsterisksQuoted []
  /-- In front of such a text, any other character may stand. -/
  | char {c : Char} {w : List Char} (hc : c ≠ '*') (h : AsterisksQuoted w) :
      AsterisksQuoted (c :: w)
  /-- In front of such a text, an asterisk may stand quoted. -/
  | quoted {w : List Char} (h : AsterisksQuoted w) : AsterisksQuoted ('\\' :: '*' :: w)

theorem AsterisksQuoted.quoted_infix {w : List Char} (h : AsterisksQuoted w) (hmem : '*' ∈ w) :
    "\\*".toList <:+: w := by
  induction h with
  | nil => cases hmem
  | char hc _ ih =>
    have htail := (List.mem_cons.mp hmem).resolve_left (Ne.symm hc)
    exact (ih htail).trans (List.suffix_cons _ _).isInfix
  | @quoted w _ _ => exact ⟨[], w, rfl⟩

/-- Where all asterisks are quoted, what stands for one was written by one of its spellings. -/
theorem AsterisksQuoted.spelled {w : List Char} (h : AsterisksQuoted w) (hmem : '*' ∈ unescape w) :
    ∃ q ∈ quotedAsterisks, q <:+: w := by
  rcases spelled_of_mem_unescape hmem with hw | hw
  · exact ⟨_, by decide, h.quoted_infix hw⟩
  · exact hw

theorem AsterisksQuoted.not_unsaid {k : Compared} {text : String} {w : List Char}
    (h : AsterisksQuoted w) (hne : w ≠ []) (hw : k.written? text = some w) : ¬ k.Unsaid text := by
  rintro (hwritten | hwritten | ⟨-, hwritten⟩)
  · rw [hw] at hwritten
    cases hwritten
  · obtain rfl := Option.some.inj (hw.symm.trans hwritten)
    cases h with
    | char hc _ => exact absurd rfl hc
  · exact hne (Option.some.inj (hw.symm.trans hwritten))

/-- **Quoted asterisks are wildcards.** Take a name that covers another, and in one of the fields
that are compared a written text of which all asterisks are quoted. Then the other name says nothing
there, or both have the same text there – but for three ways in which an asterisk makes them match:
the other name has a spelled asterisk and nothing else, or a single spelled asterisk of the field
stands for the text of the other name, or one of the two has swallowed padding. Conversely, where a
spelled asterisk is alone in the other name or that of the field stands for a text, the field
imposes nothing. -/
theorem of_covers_quoted {P T : String} {p t : Cpe} (hP : parse P = .ok p) (hT : parse T = .ok t)
    (k : Compared) {w : List Char} (hw : k.written? P = some w) (hne : w ≠ [])
    (hquoted : AsterisksQuoted w) :
    (p.covers t = true →
      (k.Unsaid T ∨ ∃ v, k.written? T = some v ∧
        SameText (String.ofList (unescape w)) (String.ofList (unescape v))) ∨
      k.QuotedAsterisk T ∨
      ((∃ q ∈ quotedAsterisks, q <:+: w) ∧ StandsFor (k.get p) (k.get t)) ∨
      k.Swallowing P ∨ k.Swallowing T) ∧
    (k.QuotedAsterisk T ∨ StandsFor (k.get p) (k.get t) →
      p.covers t = (k.unsay p).covers (k.unsay t)) := by
  rw [k.covers_eq p t, Bool.and_eq_true]
  constructor
  · rintro ⟨hmatch, -⟩
    by_cases hP' : k.Swallowing P
    · exact Or.inr (Or.inr (Or.inr (Or.inl hP')))
    by_cases hT' : k.Swallowing T
    · exact Or.inr (Or.inr (Or.inr (Or.inr hT')))
    have hget := Compared.get_of_written hP hw (hquoted.not_unsaid hne hw) hP'
    rcases componentMatches_iff.mp hmatch with hlone | hsame | hsingle
    · exact ((Compared.get_eq_asterisk_iff hT).mp hlone).imp Or.inl Or.inl
    · by_cases hsaid : k.Unsaid T
      · exact Or.inl (Or.inl hsaid)
      · obtain ⟨v, hv⟩ := Option.ne_none_iff_exists'.mp fun hnone => hsaid (Or.inl hnone)
        rw [hget, Compared.get_of_written hT hv hsaid hT'] at hsame
        exact Or.inl (Or.inr ⟨v, hv, hsame⟩)
    · -- the asterisk that stands for a text is in what the field stands for
      have hmem : '*' ∈ (k.get p).toList :=
        List.count_pos_iff.mp (hsingle.count_eq_one ▸ Nat.one_pos)
      rw [hget, String.toList_ofList] at hmem
      exact Or.inr (Or.inr (Or.inl ⟨hquoted.spelled hmem, hsingle⟩))
  · intro h
    have hmatch : componentMatches (k.get p) (k.get t) = true := by
      rw [componentMatches_iff]
      rcases h with h | h
      · exact Or.inl ((Compared.get_eq_asterisk_iff hT).mpr (Or.inr h))
      · exact Or.inr (Or.inr h)
    rw [hmatch, Bool.true_and]

/-- A product with two spelled asterisks is covered by the same product in capitals, which has them
in other spellings: neither stands for any text but itself. -/
theorem of_covers_quoted_twice :
    parse "cpe:2.3:a:acme:a\\*b%2a:1" =
        .ok { part := .application, vendor := "acme", product := "a*b*", version := "1" } ∧
      parse "cpe:/a:ACME:A%2aB*:1" =
        .ok { part := .application, vendor := "ACME", product := "A*B*", version := "1" } ∧
      AsterisksQuoted "a\\*b%2a".toList ∧
      Compared.product.written? "cpe:/a:ACME:A%2aB*:1" = some "A%2aB*".toList ∧
      SameText (String.ofList (unescape "a\\*b%2a".toList))
        (String.ofList (unescape "A%2aB*".toList)) := by
  have hP : parse "cpe:2.3:a:acme:a\\*b%2a:1" =
      .ok { part := .application, vendor := "acme", product := "a*b*", version := "1" } := by
    decide +kernel
  have hT : parse "cpe:/a:ACME:A%2aB*:1" =
      .ok { part := .application, vendor := "ACME", product := "A*B*", version := "1" } := by
    decide +kernel
  have hquoted : AsterisksQuoted "a\\*b%2a".toList :=
    .char (by decide) (.quoted (.char (by decide) (.char (by decide) (.char (by decide)
      (.char (by decide) .nil)))))
  have hwritten : Compared.product.written? "cpe:/a:ACME:A%2aB*:1" = some "A%2aB*".toList := by
    decide
  refine ⟨hP, hT, hquoted, hwritten, ?_⟩
  rcases (of_covers_quoted hP hT .product (by decide) (by decide) hquoted).1
    (by decide) with (h | ⟨v, hv, h⟩) | h | ⟨-, h⟩ | h | h
  · exact absurd h (by decide)
  · obtain rfl := Option.some.inj (hwritten.symm.trans hv)
    exact h
  · exact absurd h (by decide)
  · exact absurd h.count_eq_one (by decide)
  · exact absurd h (by decide)
  · exact absurd h (by decide)

/-- One quoted asterisk is enough for a product to cover others, and alone it covers all; in the
name of a platform it is covered by all. -/
theorem of_covers_quoted_once :
    parse "cpe:2.3:a:\\*:openssl:1.0" =
        .ok { part := .application, vendor := "*", product := "openssl", version := "1.0" } ∧
      parse "cpe:2.3:a:redhat:openssl:1.0" =
        .ok { part := .application, vendor := "redhat", product := "openssl", version := "1.0" } ∧
      covers { part := .application, vendor := "*", product := "openssl", version := "1.0" }
        { part := .application, vendor := "redhat", product := "openssl", version := "1.0" } =
        true ∧
      covers { part := .application, vendor := "redhat", product := "openssl", version := "1.0" }
        { part := .application, vendor := "*", product := "openssl", version := "1.0" } = true ∧
      ¬ SameText "*" "redhat" ∧
      parse "cpe:/o:redhat:enterprise%2a:8" =
        .ok { part := .operatingSystem, vendor := "redhat", product := "enterprise*",
              version := "8" } ∧
      parse "cpe:/o:redhat:enterprise_linux:8" =
        .ok { part := .operatingSystem, vendor := "redhat", product := "enterprise_linux",
              version := "8" } ∧
      covers { part := .operatingSystem, vendor := "redhat", product := "enterprise*",
               version := "8" }
        { part := .operatingSystem, vendor := "redhat", product := "enterprise_linux",
          version := "8" } = true ∧
      ¬ SameText "enterprise*" "enterprise_linux" := by
  decide +kernel

end Cpe

end AdvisoryTriage
