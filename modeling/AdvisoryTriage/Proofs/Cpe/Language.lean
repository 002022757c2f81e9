import AdvisoryTriage.Proofs.Cpe.Written
import AdvisoryTriage.Proofs.Text.LowerCase

/-!
# Which texts name a platform, and what is wrong with the others

A text can fail to name a platform for three reasons, and they are looked at in this order: it has
neither opening, fewer than three components follow the opening, or the first of them names no part.
`Cpe.Judged` says so of the text itself: what its components are is said by what they are when
joined (`Cpe.Components`), and what names a part by a list of spellings (`Cpe.Part.spellings`).
`Cpe.parse_judged` is the theorem that reading comes to that judgement.

For a formatted string that is what reading does. A URI takes a detour: it is cut, asterisks are
filled in and put behind, and the text is cut again, by which its last component can change and the
number of components does. The first component comes out as it went in, or as an asterisk if it is
empty, which says as little. So the part is read, and refused, as it was written
(`Cpe.map_part_parse`).
-/

namespace AdvisoryTriage

namespace Cpe

/-! ### Parts -/

/-- **The spellings of a part**: a letter, small or capital; an asterisk or nothing for any. -/
def Part.spellings : Part → List (List Char)
  | .application => [['a'], ['A']]
  | .operatingSystem => [['o'], ['O']]
  | .hardware => [['h'], ['H']]
  | .any => [['*'], []]

/-- **Which texts name a part**: its spellings, and no other text whose lower case they are. -/
theorem parsePart_eq_ok_iff {s : List Char} {part : Part} :
    parsePart s = .ok part ↔ s ∈ part.spellings := by
  have hletter (small capital : Char)
      (hpair : (small, capital) ∈ [('a', 'A'), ('o', 'O'), ('h', 'H')])
      (hs : Text.lowerCase s = [small]) : s = [small] ∨ s = [capital] := by
    have hletters : ∀ q ∈ [('a', 'A'), ('o', 'O'), ('h', 'H')], 0x41 ≤ q.2.toNat ∧
        q.2.toNat ≤ 0x5a ∧ q.1.toNat = q.2.toNat + 32 ∧ q.1 ≠ 'k' := by
      decide
    obtain ⟨hA, hZ, ha, hk⟩ := hletters _ hpair
    exact (Text.lowerCase_eq_letter_iff hA hZ ha hk).mp hs
  constructor
  · intro h
    rw [parsePart] at h
    split at h <;> cases h
    · next hs => exact List.mem_pair.mpr (hletter 'a' 'A' (by decide) hs)
    · next hs => exact List.mem_pair.mpr (hletter 'o' 'O' (by decide) hs)
    · next hs => exact List.mem_pair.mpr (hletter 'h' 'H' (by decide) hs)
    · next hs =>
      have := (Text.lowerCase_eq_singleton_iff (by decide) (by decide)).mp hs
      exact List.mem_pair.mpr (Or.inl this)
    · next hs => exact List.mem_pair.mpr (Or.inr (Text.lowerCase_eq_nil_iff.mp hs))
  · intro h
    cases part <;> rcases List.mem_pair.mp h with rfl | rfl <;> rfl

/-- What names no part is reported as it is written. -/
theorem parsePart_eq_error_iff {s : List Char} {e : ParseError} :
    parsePart s = .error e ↔ e = .invalidPart (String.ofList s) ∧ ∀ p : Part, s ∉ p.spellings := by
  have hreported : (∃ p, parsePart s = .ok p) ∨
      parsePart s = .error (.invalidPart (String.ofList s)) := by
    rw [parsePart]
    split <;> simp
  simp only [← parsePart_eq_ok_iff]
  rcases hreported with ⟨p, hp⟩ | herror
  · rw [hp]
    exact iff_of_false nofun fun h => h.2 p rfl
  · rw [herror]
    constructor
    · intro h
      exact ⟨(Except.error.inj h).symm, nofun⟩
    · rintro ⟨rfl, -⟩
      rfl

/-! ### The judgement -/

/-- **The components of a text** are what gives the text when it is joined by unquoted colons. -/
def CutInto (s : List Char) (ws : List (List Char)) : Prop :=
  Components ws ∧ joinComponents ws = s

/-- **What a text is read as**: the kind of platform it names, or what is wrong with it. -/
inductive Judged (text : String) : Except ParseError Part → Prop
  /-- A text without an opening is of no known form. -/
  | unknownForm (h : ∀ s, ¬ Opens text s) : Judged text (.error .unknownForm)
  /-- A part, a vendor and a product have to be written. -/
  | tooFewComponents {s : List Char} {ws : List (List Char)} (hs : Opens text s)
      (hws : CutInto s ws) (hlen : ws.length < 3) : Judged text (.error .tooFewComponents)
  /-- A first component that is no spelling of a part is reported as it is written. -/
  | invalidPart {s first : List Char} {ws : List (List Char)} (hs : Opens text s)
      (hws : CutInto s (first :: ws)) (hlen : 2 ≤ ws.length)
      (hfirst : ∀ part : Part, first ∉ part.spellings) :
      Judged text (.error (.invalidPart (String.ofList first)))
  /-- Every other text is read, whatever its other components hold and however many they are. -/
  | read {s first : List Char} {ws : List (List Char)} (hs : Opens text s)
      (hws : CutInto s (first :: ws)) (hlen : 2 ≤ ws.length) {part : Part}
      (hfirst : first ∈ part.spellings) : Judged text (.ok part)

/-! ### Reading comes to it -/

theorem cutInto_iff {s : List Char} {ws : List (List Char)} :
    CutInto s ws ↔ splitComponents s = ws :=
  splitComponents_eq_iff.symm

/-- With enough components, reading a formatted string succeeds and fails with its part. -/
theorem map_part_ofFormatted {s part : List Char} {ws : List (List Char)}
    (hs : splitComponents s = part :: ws) (hlen : 2 ≤ ws.length) :
    (ofFormatted s).map Cpe.part = parsePart part := by
  cases hp : parsePart part with
  | ok p =>
    obtain ⟨c, hc, rfl⟩ := exists_ofFormatted hs hlen hp
    rw [hc]
    rfl
  | error e =>
    rw [ofFormatted_of_parsePart hs hlen hp]
    rfl

/-- **With enough components**, reading a text of either form succeeds and fails with the part that
is written. -/
theorem map_part_parse {text : String} {part : List Char} {ws : List (List Char)}
    (h : writtenComponents text = part :: ws) (hlen : 2 ≤ ws.length) :
    (parse text).map Cpe.part = parsePart part := by
  obtain ⟨u, part', rs, hu, hcut, hpart, hrs, -⟩ := exists_cut h hlen
  rw [hu, map_part_ofFormatted hcut hrs, hpart]

theorem Judged.eq_map_part {text : String} {r : Except ParseError Part} (h : Judged text r) :
    (parse text).map Cpe.part = r := by
  cases h with
  | unknownForm h =>
    rw [parse_of_not_opens h]
    rfl
  | tooFewComponents hs hws hlen =>
    rw [parse_of_length hs (cutInto_iff.mp hws ▸ hlen)]
    rfl
  | invalidPart hs hws hlen hfirst =>
    rw [map_part_parse ((writtenComponents_of_opens hs).trans (cutInto_iff.mp hws)) hlen]
    exact parsePart_eq_error_iff.mpr ⟨rfl, hfirst⟩
  | read hs hws hlen hfirst =>
    rw [map_part_parse ((writtenComponents_of_opens hs).trans (cutInto_iff.mp hws)) hlen]
    exact parsePart_eq_ok_iff.mpr hfirst

/-- No text is left without a judgement. -/
theorem exists_judged (text : String) : ∃ r, Judged text r := by
  by_cases hopen : ∃ s, Opens text s
  · obtain ⟨s, hs⟩ := hopen
    have hws : CutInto s (splitComponents s) := cutInto_iff.mpr rfl
    by_cases hlen : (splitComponents s).length < 3
    · exact ⟨_, .tooFewComponents hs hws hlen⟩
    · obtain ⟨first, ws, hcut, hrest⟩ := exists_part (not_lt.mp hlen)
      rw [hcut] at hws
      by_cases hfirst : ∃ part : Part, first ∈ part.spellings
      · obtain ⟨part, hpart⟩ := hfirst
        exact ⟨_, .read hs hws hrest hpart⟩
      · exact ⟨_, .invalidPart hs hws hrest (not_exists.mp hfirst)⟩
  · exact ⟨_, .unknownForm (not_exists.mp hopen)⟩

/-- **Reading comes to the judgement**, for every text: it gives the error that is judged to be
wrong with the text, and if nothing is, a name of the part that is judged to be written. -/
theorem parse_judged (text : String) (r : Except ParseError Part) :
    (parse text).map Cpe.part = r ↔ Judged text r := by
  refine ⟨?_, Judged.eq_map_part⟩
  rintro rfl
  obtain ⟨r, hr⟩ := exists_judged text
  rwa [hr.eq_map_part]

end Cpe

end AdvisoryTriage
