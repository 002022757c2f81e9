import AdvisoryTriage.Package.Specifier
import AdvisoryTriage.Proofs.Steps
import Mathlib.Data.List.Infix

/-!
# The grammar of specifiers

A specifier is read in five cuts, from either end of the text and each in what the one before left
over. This file says what comes of it without the cuts. `Package.Spells` is the grammar: a build is
spelled as `name-version-release` with its epoch in one of two places or nowhere, and with its
architecture behind a dot or nowhere, where the parts keep clear of the marks that end them. A text
without blanks around it is read as a build exactly if it spells it
(`Package.parseTrimmed_eq_ok_iff`).

Two of the marks take some care.

* A dot ends nothing by itself: it stands in names, versions and releases too, and what follows the
  last one is an architecture only if it is a known one. So a text that spells a build without an
  architecture must not end in a known one (`Package.WithArchitecture.absent`).
* A colon ends an epoch only where the text is looked through for one. A name behind an epoch is not
  looked through again, nor is a version behind an epoch, and these two may hold colons.
-/

namespace AdvisoryTriage

namespace Package

/-! ### Epochs -/

/-- **A text denotes an epoch**: it consists of digits, at least one, perhaps with a plus sign in
front, and the epoch is their value. -/
def DenotesEpoch (text : List Char) (epoch : UInt32) : Prop :=
  ∃ digits, (text = digits ∨ text = '+' :: digits) ∧ digits ≠ [] ∧
    (∀ c ∈ digits, isDigit c = true) ∧ decimalValue digits = epoch.toNat

/-- A character that is neither a digit nor a plus sign is in no text that denotes an epoch. -/
theorem DenotesEpoch.not_mem {text : List Char} {epoch : UInt32} (h : DenotesEpoch text epoch)
    {c : Char} (hd : isDigit c = false) (hp : c ≠ '+') : c ∉ text := by
  obtain ⟨digits, hform, -, hdigits, -⟩ := h
  intro hc
  have hmem : c ∈ digits := by
    rcases hform with rfl | rfl
    · exact hc
    · exact (List.mem_cons.mp hc).resolve_left hp
  rw [hdigits c hmem] at hd
  cases hd

/-- Reading the digits of an epoch. -/
theorem ite_digits_eq_some_iff {digits : List Char} {epoch : UInt32} :
    (if digits ≠ [] ∧ digits.all isDigit ∧ decimalValue digits < UInt32.size then
        some (UInt32.ofNat (decimalValue digits)) else none) = some epoch ↔
      digits ≠ [] ∧ (∀ c ∈ digits, isDigit c = true) ∧ decimalValue digits = epoch.toNat := by
  constructor
  · intro h
    split_ifs at h with hd
    obtain ⟨hne, hall, hlt⟩ := hd
    obtain rfl := Option.some.inj h
    exact ⟨hne, List.all_eq_true.mp hall, (UInt32.toNat_ofNat_of_lt' hlt).symm⟩
  · rintro ⟨hne, hall, hval⟩
    rw [hval, if_pos ⟨hne, List.all_eq_true.mpr hall, epoch.toNat_lt_size⟩, UInt32.ofNat_toNat]

/-- Reading an epoch. -/
theorem epoch?_eq_some_iff {text : List Char} {epoch : UInt32} :
    epoch? text = some epoch ↔ DenotesEpoch text epoch := by
  by_cases hplus : ∃ t, text = '+' :: t
  · obtain ⟨t, rfl⟩ := hplus
    rw [epoch?, ite_digits_eq_some_iff]
    constructor
    · exact fun h => ⟨t, .inr rfl, h⟩
    · rintro ⟨digits, rfl | ht, hne, hdigits, hval⟩
      · have hd := hdigits '+' List.mem_cons_self
        cases hd
      · obtain rfl := (List.cons.inj ht).2
        exact ⟨hne, hdigits, hval⟩
  · have hread : epoch? text = if text ≠ [] ∧ text.all isDigit ∧
        decimalValue text < UInt32.size then some (UInt32.ofNat (decimalValue text)) else none := by
      rw [epoch?]
      exact fun t ht => hplus ⟨t, ht⟩
    rw [hread, ite_digits_eq_some_iff]
    constructor
    · exact fun h => ⟨text, .inl rfl, h⟩
    · rintro ⟨digits, rfl | ht, h⟩
      · exact h
      · exact absurd ⟨_, ht⟩ hplus

theorem parseEpoch_eq_ok_iff {text : List Char} {epoch : UInt32} :
    parseEpoch text = .ok epoch ↔ DenotesEpoch text epoch := by
  rw [← epoch?_eq_some_iff, parseEpoch]
  cases epoch? text <;> simp

/-! ### The cuts -/

/-- **A body with its architecture**: a known one behind a dot, or none behind a body that does not
end in one. -/
inductive WithArchitecture (body : List Char) : Option String → List Char → Prop
  /-- The architecture is known and stands behind a dot. -/
  | known {arch : String} (h : arch ∈ architectures) :
      WithArchitecture body (some arch) (body ++ '.' :: arch.toList)
  /-- There is no architecture, nor anything that could be taken for one. -/
  | absent (h : ∀ arch ∈ architectures, ¬ '.' :: arch.toList <:+ body) :
      WithArchitecture body none body

/-- The text of an architecture, with its dot. -/
def archText : Option String → List Char
  | some arch => '.' :: arch.toList
  | none => []

theorem WithArchitecture.eq_append {body s : List Char} {arch : Option String}
    (h : WithArchitecture body arch s) : s = body ++ archText arch := by
  cases h with
  | known => rfl
  | absent => exact (List.append_nil _).symm

theorem WithArchitecture.isPrefix {body s : List Char} {arch : Option String}
    (h : WithArchitecture body arch s) : body <+: s :=
  h.eq_append ▸ List.prefix_append _ _

theorem WithArchitecture.mem_architectures {body s : List Char} {arch : Option String}
    (h : WithArchitecture body arch s) : ∀ a ∈ arch, a ∈ architectures := by
  cases h with
  | known ha =>
    rintro _ ⟨⟩
    exact ha
  | absent => exact fun _ h => nomatch h

/-- No architecture holds one of the marks that texts are cut at. -/
theorem mark_not_mem_architecture {arch : String} (h : arch ∈ architectures) :
    '.' ∉ arch.toList ∧ '-' ∉ arch.toList := by
  revert arch
  decide

/-- A known architecture, with its dot, holds no dash. -/
theorem dash_not_mem_archText {arch : Option String} (h : ∀ a ∈ arch, a ∈ architectures) :
    '-' ∉ archText arch := by
  cases arch with
  | none => exact List.not_mem_nil
  | some a => simp [archText, (mark_not_mem_architecture (h a rfl)).2]

theorem splitArchitecture_eq_iff {s body : List Char} {arch : Option String} :
    splitArchitecture s = (body, arch) ↔ WithArchitecture body arch s := by
  constructor
  · intro h
    rw [splitArchitecture] at h
    cases hs : Text.splitLast? '.' s with
    | none =>
      rw [hs] at h
      obtain ⟨rfl, rfl⟩ := Prod.mk.inj h
      refine .absent fun a _ hsuffix => ?_
      exact Text.splitLast?_eq_none_iff.mp hs (hsuffix.mem List.mem_cons_self)
    | some cut =>
      obtain ⟨l, r⟩ := cut
      rw [hs] at h
      simp only at h
      split_ifs at h with hr
      · obtain ⟨rfl, rfl⟩ := Prod.mk.inj h
        have hknown : WithArchitecture l (some (String.ofList r)) _ := .known hr
        rwa [String.toList_ofList, ← (Text.splitLast?_eq_some_iff.mp hs).1] at hknown
      · obtain ⟨rfl, rfl⟩ := Prod.mk.inj h
        -- an architecture at the end would be what follows the last dot
        refine .absent fun a ha hsuffix => hr ?_
        have hdot := (mark_not_mem_architecture ha).1
        rwa [← (Text.cons_suffix_iff_of_splitLast? hs hdot).mp hsuffix, String.ofList_toList]
  · intro h
    cases h with
    | known ha =>
      have hs := Text.splitLast?_eq_some_iff.mpr
        ⟨(rfl : body ++ '.' :: _ = _), (mark_not_mem_architecture ha).1⟩
      rw [splitArchitecture, hs]
      simp only [String.ofList_toList, if_pos ha]
    | absent hnone =>
      rw [splitArchitecture]
      cases hs : Text.splitLast? '.' s with
      | none => rfl
      | some cut =>
        obtain ⟨l, r⟩ := cut
        have hdot := (Text.splitLast?_eq_some_iff.mp hs).2
        refine if_neg fun hr => hnone _ hr ?_
        rw [String.toList_ofList]
        exact (Text.cons_suffix_iff_of_splitLast? hs hdot).mpr rfl

theorem splitRelease_eq_ok_iff {s rest release : List Char} :
    splitRelease s = .ok (rest, release) ↔
      s = rest ++ '-' :: release ∧ '-' ∉ release ∧ release ≠ [] := by
  rw [← and_assoc, ← Text.splitLast?_eq_some_iff, splitRelease]
  cases Text.splitLast? '-' s with
  | none => simp
  | some cut =>
    obtain ⟨l, r⟩ := cut
    simp only [Option.some.injEq, Prod.mk.injEq]
    split_ifs with hr
    · simpa using fun _ h => h ▸ hr
    · simpa using fun _ h => h ▸ hr

theorem splitVersion_eq_ok_iff {s front middle : List Char} :
    splitVersion s = .ok (front, middle) ↔ s = front ++ '-' :: middle ∧ '-' ∉ middle := by
  rw [← Text.splitLast?_eq_some_iff, splitVersion]
  cases Text.splitLast? '-' s <;> simp [Prod.ext_iff]

/-- **A text with its epoch**: one that ends at the first colon, or none where there is no colon. -/
inductive WithEpoch (body : List Char) : Option UInt32 → List Char → Prop
  /-- The epoch stands in front of a colon. -/
  | given {text : List Char} {epoch : UInt32} (h : DenotesEpoch text epoch) :
      WithEpoch body (some epoch) (text ++ ':' :: body)
  /-- There is no epoch, nor a colon that would end one. -/
  | absent (h : ':' ∉ body) : WithEpoch body none body

/-- An epoch in front brings no marks of other kinds with it. -/
theorem WithEpoch.mem_iff {body s : List Char} {epoch : Option UInt32} (h : WithEpoch body epoch s)
    {c : Char} (hd : isDigit c = false) (hp : c ≠ '+') (hc : c ≠ ':') : c ∈ s ↔ c ∈ body := by
  cases h with
  | given ht => simp [ht.not_mem hd hp, hc]
  | absent => rfl

/-- What stands between the last two dashes shows whether there is an epoch in front of the
version. -/
theorem epochAtVersion_ne {front front' text version rest rest' : List Char} (ht : '-' ∉ text)
    (hv : '-' ∉ version) (hr : '-' ∉ rest) (hr' : '-' ∉ rest') :
    front ++ '-' :: (text ++ ':' :: version) ++ '-' :: rest ≠
      front' ++ '-' :: version ++ '-' :: rest' := by
  intro h
  have hfront := (Text.eq_and_eq_of_append_cons h hr hr').1
  have hmiddle : '-' ∉ text ++ ':' :: version := by simp [ht, hv]
  have hversion := congrArg List.length (Text.eq_and_eq_of_append_cons hfront hmiddle hv).2
  simp only [List.length_append, List.length_cons] at hversion
  omega

theorem splitVersionEpoch_eq_ok_iff {s version : List Char} {epoch : Option UInt32} :
    splitVersionEpoch s = .ok (epoch, version) ↔ WithEpoch version epoch s := by
  constructor
  · intro h
    rw [splitVersionEpoch] at h
    cases hs : Text.splitFirst? ':' s with
    | none =>
      rw [hs] at h
      obtain ⟨rfl, rfl⟩ := Prod.mk.inj (Except.ok.inj h)
      exact .absent (Text.splitFirst?_eq_none_iff.mp hs)
    | some cut =>
      obtain ⟨text, rest⟩ := cut
      rw [hs] at h
      obtain ⟨rfl, -⟩ := Text.splitFirst?_eq_some_iff.mp hs
      cases he : parseEpoch text with
      | error e => simp [he, bind, Except.bind] at h
      | ok e =>
        simp only [he] at h
        obtain ⟨rfl, rfl⟩ := Prod.mk.inj (Except.ok.inj h)
        exact .given (parseEpoch_eq_ok_iff.mp he)
  · intro h
    cases h with
    | given he =>
      have hs := Text.splitFirst?_eq_some_iff.mpr
        ⟨(rfl : _ ++ ':' :: version = _), he.not_mem (by decide) (by decide)⟩
      simp only [splitVersionEpoch, hs, parseEpoch_eq_ok_iff.mpr he]
      rfl
    | absent hcolon =>
      rw [splitVersionEpoch, Text.splitFirst?_eq_none_iff.mpr hcolon]

/-- With no epoch so far, the name is looked through as a version is. -/
theorem splitNameEpoch_none (s : List Char) : splitNameEpoch none s = splitVersionEpoch s := by
  unfold splitNameEpoch splitVersionEpoch
  cases Text.splitFirst? ':' s <;> rfl

/-- With an epoch already, the name must not have another. -/
theorem splitNameEpoch_some_eq_ok_iff {s name : List Char} {known : UInt32}
    {epoch : Option UInt32} :
    splitNameEpoch (some known) s = .ok (epoch, name) ↔
      epoch = some known ∧ name = s ∧ ':' ∉ s := by
  rw [← Text.splitFirst?_eq_none_iff]
  unfold splitNameEpoch
  cases Text.splitFirst? ':' s with
  | none => simp [eq_comm]
  | some cut => simp

/-! ### Specifiers -/

/-- **The spellings of a build**, its architecture apart. -/
inductive Spelling (p : Package) : List Char → Prop
  /-- `name-version-release`. -/
  | plain (he : p.epoch = none) (hn : ':' ∉ p.name.toList) (hv : ':' ∉ p.version.toList) :
      Spelling p (p.name.toList ++ '-' :: p.version.toList ++ '-' :: p.release.toList)
  /-- `name-epoch:version-release`. -/
  | epochAtVersion {text : List Char} {epoch : UInt32} (he : p.epoch = some epoch)
      (ht : DenotesEpoch text epoch) (hn : ':' ∉ p.name.toList) :
      Spelling p (p.name.toList ++ '-' :: (text ++ ':' :: p.version.toList) ++
        '-' :: p.release.toList)
  /-- `epoch:name-version-release`. -/
  | epochAtName {text : List Char} {epoch : UInt32} (he : p.epoch = some epoch)
      (ht : DenotesEpoch text epoch) (hv : ':' ∉ p.version.toList) :
      Spelling p (text ++ ':' :: p.name.toList ++ '-' :: p.version.toList ++
        '-' :: p.release.toList)

/-- **A text spells a build**: it is one of the spellings of the build with its architecture, none
of the parts is empty, and the last two hold no dash. -/
structure Spells (s : List Char) (p : Package) : Prop where
  name_ne : p.name.toList ≠ []
  version_ne : p.version.toList ≠ []
  release_ne : p.release.toList ≠ []
  /-- The version starts behind the last dash but one. -/
  version_dash : '-' ∉ p.version.toList
  /-- The release starts behind the last dash. -/
  release_dash : '-' ∉ p.release.toList
  /-- The text without its architecture is one of the spellings. -/
  spelled : ∃ body, Spelling p body ∧ WithArchitecture body p.arch s

/-- A text is read as a build if each of the cuts succeeds, leaves no part empty and comes to what
the build has there. -/
theorem parseTrimmed_eq_ok_iff_cuts {s : List Char} {p : Package} :
    parseTrimmed s = .ok p ↔ s ≠ [] ∧ ∃ body rest front middle known,
      splitArchitecture s = (body, p.arch) ∧
      splitRelease body = .ok (rest, p.release.toList) ∧
      splitVersion rest = .ok (front, middle) ∧
      splitVersionEpoch middle = .ok (known, p.version.toList) ∧ p.version.toList ≠ [] ∧
      splitNameEpoch known front = .ok (p.epoch, p.name.toList) ∧ p.name.toList ≠ [] := by
  simp only [parseTrimmed, ite_throw_eq_ok_iff, bind_eq_ok_iff, Prod.exists, pure, Except.pure,
    Except.ok.injEq]
  refine and_congr_right fun _ => ?_
  constructor
  · rintro ⟨rest, release, hr, front, middle, hm, known, version, hv, hvne, epoch, name, hn, hnne,
      rfl⟩
    refine ⟨_, rest, front, middle, known, rfl, ?_⟩
    simp only [String.toList_ofList]
    exact ⟨hr, hm, hv, hvne, hn, hnne⟩
  · rintro ⟨body, rest, front, middle, known, ha, hr, hm, hv, hvne, hn, hnne⟩
    rw [ha]
    refine ⟨rest, _, hr, front, middle, hm, known, _, hv, hvne, _, _, hn, hnne, ?_⟩
    simp only [String.ofList_toList]

/-- What the last two cuts make of the text in front of the release. -/
theorem spelling_of_cuts {p : Package} {known : Option UInt32} {front middle : List Char}
    (hv : WithEpoch p.version.toList known middle)
    (hn : splitNameEpoch known front = .ok (p.epoch, p.name.toList)) :
    Spelling p (front ++ '-' :: middle ++ '-' :: p.release.toList) := by
  cases hv with
  | given ht =>
    obtain ⟨he, hname, hcolon⟩ := splitNameEpoch_some_eq_ok_iff.mp hn
    rw [← hname] at hcolon ⊢
    exact .epochAtVersion he ht hcolon
  | absent hcolon =>
    rw [splitNameEpoch_none, splitVersionEpoch_eq_ok_iff] at hn
    generalize he : p.epoch = epoch at hn
    cases hn with
    | given ht => exact .epochAtName he ht hcolon
    | absent hn => exact .plain he hn hcolon

/-- A spelling is cut where its parts end. -/
theorem cuts_of_spelling {p : Package} {body : List Char} (h : Spelling p body) :
    ∃ known front middle, body = front ++ '-' :: middle ++ '-' :: p.release.toList ∧
      WithEpoch p.version.toList known middle ∧
      splitNameEpoch known front = .ok (p.epoch, p.name.toList) := by
  cases h with
  | plain he hn hv =>
    refine ⟨none, _, _, rfl, .absent hv, ?_⟩
    rw [splitNameEpoch_none, splitVersionEpoch_eq_ok_iff, he]
    exact .absent hn
  | epochAtVersion he ht hn =>
    exact ⟨_, _, _, rfl, .given ht, splitNameEpoch_some_eq_ok_iff.mpr ⟨he, rfl, hn⟩⟩
  | epochAtName he ht hv =>
    refine ⟨none, _, _, rfl, .absent hv, ?_⟩
    rw [splitNameEpoch_none, splitVersionEpoch_eq_ok_iff, he]
    exact .given ht

/-- **A text without blanks around it is read as a build** exactly if it spells the build. -/
theorem parseTrimmed_eq_ok_iff {s : List Char} {p : Package} :
    parseTrimmed s = .ok p ↔ Spells s p := by
  rw [parseTrimmed_eq_ok_iff_cuts]
  constructor
  · rintro ⟨-, body, rest, front, middle, known, ha, hr, hm, hv, hvne, hn, hnne⟩
    obtain ⟨rfl, hrdash, hrne⟩ := splitRelease_eq_ok_iff.mp hr
    obtain ⟨rfl, hmdash⟩ := splitVersion_eq_ok_iff.mp hm
    have hv := splitVersionEpoch_eq_ok_iff.mp hv
    have hvdash : '-' ∉ p.version.toList := by
      rwa [← hv.mem_iff (by decide) (by decide) (by decide)]
    exact ⟨hnne, hvne, hrne, hvdash, hrdash, _, spelling_of_cuts hv hn,
      splitArchitecture_eq_iff.mp ha⟩
  · rintro ⟨hnne, hvne, hrne, hvdash, hrdash, body, hbody, ha⟩
    obtain ⟨known, front, middle, rfl, hv, hn⟩ := cuts_of_spelling hbody
    have hmdash : '-' ∉ middle := by
      rwa [hv.mem_iff (by decide) (by decide) (by decide)]
    refine ⟨?_, _, _, front, middle, known, splitArchitecture_eq_iff.mpr ha,
      splitRelease_eq_ok_iff.mpr ⟨rfl, hrdash, hrne⟩, splitVersion_eq_ok_iff.mpr ⟨rfl, hmdash⟩,
      splitVersionEpoch_eq_ok_iff.mpr hv, hvne, hn, hnne⟩
    rintro rfl
    have hnil := List.prefix_nil.mp ha.isPrefix
    simp at hnil

/-- **Reading a specifier**: the text without the blanks around it spells the build. -/
theorem parse_eq_ok_iff {spec : String} {p : Package} :
    parse spec = .ok p ↔ Spells (Text.trim spec.toList) p :=
  parseTrimmed_eq_ok_iff

/-- A build that was read has a name. -/
theorem name_ne_of_parse {spec : String} {p : Package} (h : parse spec = .ok p) : p.name ≠ "" := by
  intro hname
  exact (parse_eq_ok_iff.mp h).name_ne (by rw [hname]; rfl)

end Package

end AdvisoryTriage
