import AdvisoryTriage.Proofs.Cpe.Uri

/-!
# What becomes of a name that is printed

The fields of a name are printed as they are, and `Cpe.parse_print_iff_printable` says which names
are read again from that. Here is what is read of the others. As long as one colon among the fields
is a separator, a vendor and a product are found and a name is read, another one with the same part.
A colon between two fields is a separator unless the field in front of it leaves a backslash open,
and a field may bring separators of its own. So nothing is read exactly if every field but the last
leaves a backslash open and no field holds an unquoted colon (`Cpe.GrowsTogether`): then all ten
become the vendor, and no product is left.

* `Cpe.length_splitComponents_eq_one_iff` – which texts grow together when they are joined.
* `Cpe.parse_print_cases` – the three things that can become of a name.
-/

namespace AdvisoryTriage

namespace Cpe

/-- **Texts that grow together** when they are joined: all but the last end in an open backslash,
and none holds an unquoted colon. -/
inductive Merging : List (List Char) → Prop
  | last {w : List Char} (h : IsLast w) : Merging [w]
  | cons {w : List Char} {ws : List (List Char)} (h : Closed w) (hs : Merging ws) :
      Merging ((w ++ ['\\']) :: ws)

theorem Merging.ne_nil {ws : List (List Char)} (h : Merging ws) : ws ≠ [] := by
  cases h <;> exact List.cons_ne_nil _ _

/-- A text is a single component exactly if it is the last one of a text. -/
theorem splitComponents_eq_singleton_iff {w : List Char} : splitComponents w = [w] ↔ IsLast w := by
  rw [splitComponents_eq_iff, joinComponents_singleton, and_iff_left rfl]
  constructor
  · intro h
    cases h with
    | last h => exact h
    | cons _ hs => exact absurd rfl hs.ne_nil
  · exact .last

theorem length_splitComponents_eq_one {s : List Char} (h : (splitComponents s).length = 1) :
    IsLast s := by
  obtain ⟨w, hw⟩ := List.length_eq_one_iff.mp h
  have hjoin := joinComponents_splitComponents s
  rw [hw, joinComponents_singleton] at hjoin
  rw [hjoin] at hw
  exact splitComponents_eq_singleton_iff.mp hw

/-- Behind an open backslash the colon is quoted, so the cut goes on in the next text. -/
theorem length_splitComponents_open {w : List Char} (h : Closed w) (s : List Char) :
    (splitComponents (w ++ ['\\'] ++ ':' :: s)).length = (splitComponents s).length := by
  have hquoted : Closed (w ++ ['\\', ':']) := h.append (.quoted ':' .nil)
  have happend : w ++ ['\\'] ++ ':' :: s = (w ++ ['\\', ':']) ++ s := by simp
  rw [happend, splitComponents_append hquoted, length_extendFirst (splitComponents_ne_nil s)]

/-- **Which texts grow together**: those that are a single component once they are joined. -/
theorem length_splitComponents_eq_one_iff {ws : List (List Char)} (hws : ws ≠ []) :
    (splitComponents (joinComponents ws)).length = 1 ↔ Merging ws := by
  constructor
  · intro hone
    induction ws with
    | nil => exact absurd rfl hws
    | cons w ws ih =>
      rcases eq_or_ne ws [] with rfl | hne
      · rw [joinComponents_singleton] at hone
        exact .last (length_splitComponents_eq_one hone)
      · rw [joinComponents_cons hne] at hone
        -- what stands in front is not cut by itself, and the colon behind it does not cut it either
        have hle := length_splitComponents_le w (':' :: joinComponents ws)
        have hpos := List.length_pos_iff.mpr (splitComponents_ne_nil w)
        rcases length_splitComponents_eq_one (s := w) (by omega) with hclosed | ⟨v, hv, rfl⟩
        · have := two_le_length_splitComponents hclosed.even_backslashesAtEnd (joinComponents ws)
          omega
        · rw [length_splitComponents_open hv] at hone
          exact .cons hv (ih hne hone)
  · intro h
    clear hws
    induction h with
    | last h => rw [joinComponents_singleton, splitComponents_eq_singleton_iff.mpr h]; rfl
    | cons h hs ih => rw [joinComponents_cons hs.ne_nil, length_splitComponents_open h, ih]

/-- **A name whose fields grow together** when it is printed. -/
def GrowsTogether (c : Cpe) : Prop :=
  Merging (c.fields.map String.toList)

/-- Where the fields do not grow together, a name with the same part is read. -/
theorem exists_parse_print_of_not_growsTogether {c : Cpe} (h : ¬ c.GrowsTogether) :
    ∃ d, parse c.print = .ok d ∧ d.part = c.part := by
  have hpos := List.length_pos_iff.mpr
    (splitComponents_ne_nil (joinComponents (c.fields.map String.toList)))
  have hone := mt (length_splitComponents_eq_one_iff c.map_fields_ne_nil).mp h
  rw [parse_print_eq_ofFormatted]
  exact exists_ofFormatted (splitComponents_printed c) (by omega) (parsePart_letter c.part)

theorem parse_print_of_growsTogether {c : Cpe} (h : c.GrowsTogether) :
    parse c.print = .error .tooFewComponents := by
  have hone := (length_splitComponents_eq_one_iff c.map_fields_ne_nil).mpr h
  rw [parse_print_eq_ofFormatted]
  refine ofFormatted_of_length ?_
  rw [splitComponents_printed, List.length_cons, hone]
  decide

/-- **What becomes of a name that is printed.** The name itself is read again if all its fields
stand for themselves and none but the last ends in an open backslash; nothing is read, for want of a
product, if the fields grow together; and of all other names another name is read, with the same
part. -/
theorem parse_print_cases (c : Cpe) :
    (parse c.print = .ok c ↔ c.Printable) ∧
      (parse c.print = .error .tooFewComponents ↔ c.GrowsTogether) ∧
      ((∃ d, d ≠ c ∧ d.part = c.part ∧ parse c.print = .ok d) ↔
        ¬ c.Printable ∧ ¬ c.GrowsTogether) := by
  have hprintable := parse_print_iff_printable c
  refine ⟨hprintable, ⟨fun herror => ?_, parse_print_of_growsTogether⟩, ?_, ?_⟩
  · by_contra hgrows
    obtain ⟨d, hd, -⟩ := exists_parse_print_of_not_growsTogether hgrows
    rw [hd] at herror
    cases herror
  · rintro ⟨d, hne, -, hd⟩
    refine ⟨fun hc => ?_, fun hgrows => ?_⟩
    · rw [hprintable.mpr hc] at hd
      exact hne (Except.ok.inj hd).symm
    · rw [parse_print_of_growsTogether hgrows] at hd
      cases hd
  · rintro ⟨hc, hgrows⟩
    obtain ⟨d, hd, hpart⟩ := exists_parse_print_of_not_growsTogether hgrows
    refine ⟨d, ?_, hpart, hd⟩
    rintro rfl
    exact hc (hprintable.mp hd)

/-- A name with an open backslash in every field. -/
def openBackslashes : Cpe :=
  { vendor := "\\", product := "\\", version := "\\", update := "\\", edition := "\\",
    language := "\\", swEdition := "\\", targetSw := "\\", targetHw := "\\", other := "\\" }

/-- Of a name with an open backslash in every field, which quotes every colon behind one, not even
another name is read. -/
theorem parse_print_openBackslashes :
    ¬ openBackslashes.Printable ∧
      openBackslashes.print = "cpe:2.3:*:\\:\\:\\:\\:\\:\\:\\:\\:\\:\\" ∧
      parse "cpe:2.3:*:\\:\\:\\:\\:\\:\\:\\:\\:\\:\\" = .error .tooFewComponents ∧
      ¬ ∃ d, parse openBackslashes.print = .ok d := by
  have hprint : openBackslashes.print = "cpe:2.3:*:\\:\\:\\:\\:\\:\\:\\:\\:\\:\\" := by
    decide +kernel
  have hparse : parse "cpe:2.3:*:\\:\\:\\:\\:\\:\\:\\:\\:\\:\\" = .error .tooFewComponents := by
    decide +kernel
  have hnone : ¬ ∃ d, parse openBackslashes.print = .ok d := by
    rintro ⟨d, hd⟩
    rw [hprint, hparse] at hd
    cases hd
  exact ⟨fun h => hnone ⟨_, (parse_print_iff_printable _).mpr h⟩, hprint, hparse, hnone⟩

end Cpe

end AdvisoryTriage
