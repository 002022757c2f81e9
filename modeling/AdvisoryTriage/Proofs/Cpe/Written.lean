import AdvisoryTriage.Proofs.Cpe.Uri

/-!
# What is written and what is read

The components of a platform name as they are written and the fields of the name that is read are
not the same texts: what is not written is read as an asterisk, in a URI so is what is left empty,
and the last component of a URI can go on with padding. `Cpe.ReadFrom` says what a field is read
from, given what is written for it, and `Cpe.exists_readFrom` that the field holds what that text
stands for.

None of this can fail. Whether a text is read at all is decided by its opening, the number of its
components and its part (`Cpe.exists_parse_iff`); no text of a field plays a role in it.
-/

namespace AdvisoryTriage

namespace Cpe

/-- **The components of a text** as they are written behind the opening of either form. -/
def writtenComponents (text : String) : List (List Char) :=
  match stripOpening? "cpe:2.3:".toList text.toList with
  | some s => splitComponents s
  | none =>
    match stripOpening? "cpe:/".toList text.toList with
    | some s => splitComponents s
    | none => []

/-- A text in the form of a URI. -/
def IsUri (text : String) : Prop :=
  "cpe:/".toList <+: text.toList

instance (text : String) : Decidable (IsUri text) :=
  inferInstanceAs (Decidable ("cpe:/".toList <+: text.toList))

/-- The text field at a position as it is written, if it is. -/
def written? (text : String) (i : Nat) : Option (List Char) :=
  (writtenComponents text)[i + 1]?

/-- **What a field is read from**, given what is written for it. -/
inductive ReadFrom (uri : Prop) : Option (List Char) → List Char → Prop
  /-- A field that is not written is read from an asterisk. -/
  | unwritten : ReadFrom uri none ['*']
  /-- So is an empty one in a URI. -/
  | skipped (h : uri) : ReadFrom uri (some []) ['*']
  /-- Any other is read from what is written. -/
  | written {w : List Char} (h : w = [] → ¬ uri) : ReadFrom uri (some w) w
  /-- An open backslash at the end of a URI swallows padding. -/
  | swallowing {w : List Char} (h : uri) (hopen : ¬ Even (backslashesAtEnd w)) :
      ReadFrom uri (some w) (w ++ [':', '*'])

/-- What is written for a field is what it is read from, unless it is empty or leaves a backslash
open. -/
theorem ReadFrom.eq_written {uri : Prop} {v w : List Char} (h : ReadFrom uri (some v) w)
    (hne : v ≠ []) (heven : Even (backslashesAtEnd v)) : w = v := by
  cases h with
  | skipped _ => exact absurd rfl hne
  | written _ => rfl
  | swallowing _ hopen => exact absurd heven hopen

/-! ### The cuts of a URI -/

theorem readFrom_orStar {uri : Prop} (h : uri) (ws : List (List Char)) (i : Nat) :
    ReadFrom uri ws[i]? ((ws.map orStar)[i]?.getD ['*']) := by
  rw [List.getElem?_map]
  cases ws[i]? with
  | none => exact .unwritten
  | some w =>
    cases w with
    | nil => exact .skipped h
    | cons c w => exact .written fun hw => absurd hw (List.cons_ne_nil c w)

/-- An asterisk more at the end is one that was there already. -/
theorem getD_append_star (ws : List (List Char)) (i : Nat) :
    (ws ++ [['*']])[i]?.getD ['*'] = ws[i]?.getD ['*'] := by
  induction ws generalizing i with
  | nil => cases i <;> rfl
  | cons w ws ih =>
    cases i with
    | zero => rfl
    | succ i => exact ih i

theorem readFrom_swallowing {uri : Prop} (h : uri) {last : List Char}
    (hlast : ¬ Even (backslashesAtEnd last)) (front : List (List Char)) (i : Nat) :
    ReadFrom uri (front ++ [last])[i]?
      ((front.map orStar ++ [last ++ [':', '*']])[i]?.getD ['*']) := by
  induction front generalizing i with
  | nil =>
    cases i with
    | zero => exact .swallowing h hlast
    | succ i => exact .unwritten
  | cons w front ih =>
    cases i with
    | zero => exact readFrom_orStar h [w] 0
    | succ i => exact ih i

/-- The components of a URI that ends in an open backslash, once padding is behind it. -/
theorem splitComponents_starEmpty_dangling {s part : List Char} {ws : List (List Char)}
    (hs : splitComponents s = part :: ws) (hlen : 2 ≤ ws.length)
    (h : ¬ Even (backslashesAtEnd s)) :
    ∃ front last, ws = front ++ [last] ∧ ¬ Even (backslashesAtEnd last) ∧
      splitComponents (starEmpty true s ++ [':', '*']) =
        orStar part :: (front.map orStar ++ [last ++ [':', '*']]) := by
  have hlength := length_splitComponents_starEmpty s
  rw [hs, List.length_cons] at hlength
  obtain ⟨_, _, last', hcut, -, hlast, hpadded⟩ :=
    splitComponents_dangling_cons (mt (even_backslashesAtEnd_starEmpty s).mp h) (by omega)
  rw [splitComponents_starEmpty, hs, List.map_cons] at hcut
  obtain ⟨rfl, hfields⟩ := List.cons.inj hcut
  obtain ⟨front, lasts, rfl, rfl, hlasts⟩ := List.map_eq_append_iff.mp hfields
  obtain ⟨last, rfl, rfl⟩ := List.map_eq_singleton_iff.mp hlasts
  -- an empty component would be an asterisk now
  cases last with
  | nil => exact absurd .zero hlast
  | cons c w =>
    rw [orStar_cons] at hlast hpadded
    exact ⟨front, c :: w, rfl, hlast, hpadded⟩

/-- **How a URI is cut** in the end: into the part and the components its fields are read from. -/
theorem exists_cut_of_uri {s part : List Char} {ws : List (List Char)}
    (hs : splitComponents s = part :: ws) (hlen : 2 ≤ ws.length) :
    ∃ u rs, (formattedOfUri s >>= ofFormatted) = ofFormatted u ∧
      splitComponents u = orStar part :: rs ∧ 2 ≤ rs.length ∧
      ∀ {uri : Prop}, uri → ∀ i : Nat, ReadFrom uri ws[i]? (rs[i]?.getD ['*']) := by
  have hstars : splitComponents (starEmpty true s) = orStar part :: ws.map orStar := by
    rw [splitComponents_starEmpty, hs, List.map_cons]
  rw [bind_formattedOfUri, hs, List.length_cons, if_neg (by omega)]
  split
  · by_cases heven : Even (backslashesAtEnd s)
    · refine ⟨_, ws.map orStar ++ [['*']], rfl, ?_, by simp; omega, fun h i => ?_⟩
      · rw [splitComponents_append_padding ((even_backslashesAtEnd_starEmpty s).mpr heven), hstars,
          List.cons_append]
      · rw [getD_append_star]
        exact readFrom_orStar h ws i
    · obtain ⟨front, last, rfl, hlast, hpadded⟩ :=
        splitComponents_starEmpty_dangling hs hlen heven
      refine ⟨_, _, rfl, hpadded, ?_, fun h i => readFrom_swallowing h hlast front i⟩
      simpa using hlen
  · exact ⟨_, _, rfl, hstars, by rwa [List.length_map], fun h => readFrom_orStar h ws⟩

/-! ### Either form -/

/-- **What stands behind the opening** of a text of either form. -/
def Opens (text : String) (s : List Char) : Prop :=
  text.toList = "cpe:2.3:".toList ++ s ∨ text.toList = "cpe:/".toList ++ s

theorem writtenComponents_of_opens {text : String} {s : List Char} (h : Opens text s) :
    writtenComponents text = splitComponents s := by
  rw [writtenComponents]
  rcases h with h | h
  · rw [stripOpening?_eq_some_iff.mpr h]
  · rw [stripOpening?_of_uri h, stripOpening?_eq_some_iff.mpr h]

theorem stripOpening?_of_not_opens {text : String} (h : ∀ s, ¬ Opens text s) :
    stripOpening? "cpe:2.3:".toList text.toList = none ∧
      stripOpening? "cpe:/".toList text.toList = none := by
  simp only [Option.eq_none_iff_forall_ne_some, ne_eq, stripOpening?_eq_some_iff]
  exact ⟨fun s hs => h s (Or.inl hs), fun s hs => h s (Or.inr hs)⟩

theorem writtenComponents_of_not_opens {text : String} (h : ∀ s, ¬ Opens text s) :
    writtenComponents text = [] := by
  obtain ⟨hformatted, huri⟩ := stripOpening?_of_not_opens h
  rw [writtenComponents, hformatted, huri]

theorem parse_of_not_opens {text : String} (h : ∀ s, ¬ Opens text s) :
    parse text = .error .unknownForm := by
  obtain ⟨hformatted, huri⟩ := stripOpening?_of_not_opens h
  rw [parse, hformatted, huri]

/-- **How a text is cut** in the end: into the part and the components its fields are read from. -/
theorem exists_cut {text : String} {part : List Char} {ws : List (List Char)}
    (h : writtenComponents text = part :: ws) (hlen : 2 ≤ ws.length) :
    ∃ u part' rs, parse text = ofFormatted u ∧ splitComponents u = part' :: rs ∧
      parsePart part' = parsePart part ∧ 2 ≤ rs.length ∧
      ∀ i : Nat, ReadFrom (IsUri text) ws[i]? (rs[i]?.getD ['*']) := by
  by_cases hopens : ∃ s, Opens text s
  · obtain ⟨s, hopen⟩ := hopens
    rw [writtenComponents_of_opens hopen] at h
    rcases hopen with hopen | hopen
    · have huri : ¬ IsUri text := fun ⟨t, ht⟩ => by
        rw [← ht] at hopen
        simp at hopen
      refine ⟨s, part, ws, parse_of_formatted hopen, h, rfl, hlen, fun i => ?_⟩
      cases ws[i]? with
      | none => exact .unwritten
      | some w => exact .written fun _ => huri
    · obtain ⟨u, rs, hu, hcut, hrs, hread⟩ := exists_cut_of_uri h hlen
      exact ⟨u, _, rs, (parse_of_uri hopen).trans hu, hcut, parsePart_orStar part, hrs,
        hread ⟨s, hopen.symm⟩⟩
  · rw [writtenComponents_of_not_opens (not_exists.mp hopens)] at h
    cases h

theorem exists_part {ws : List (List Char)} (h : 3 ≤ ws.length) :
    ∃ part fields, ws = part :: fields ∧ 2 ≤ fields.length := by
  cases ws with
  | nil => cases h
  | cons part fields => exact ⟨part, fields, rfl, Nat.le_of_succ_le_succ h⟩

/-- A text with fewer components is not read. -/
theorem parse_of_length {text : String} {s : List Char} (h : Opens text s)
    (hfew : (splitComponents s).length < 3) : parse text = .error .tooFewComponents := by
  rcases h with h | h
  · rw [parse_of_formatted h, ofFormatted_of_length hfew]
  · rw [parse_of_uri h, bind_formattedOfUri, if_pos hfew]

theorem three_le_of_parse {text : String} {c : Cpe} (h : parse text = .ok c) :
    3 ≤ (writtenComponents text).length := by
  by_cases hopens : ∃ s, Opens text s
  · obtain ⟨s, hopen⟩ := hopens
    by_contra hfew
    rw [writtenComponents_of_opens hopen, not_le] at hfew
    rw [parse_of_length hopen hfew] at h
    cases h
  · rw [parse_of_not_opens (not_exists.mp hopens)] at h
    cases h

/-- **A text that can be read** has the opening of either form, a part that can be read, a vendor
and a product. -/
structure WellFormed (text : String) : Prop where
  /-- The part, the vendor and the product are written; without an opening nothing is. -/
  enough : 3 ≤ (writtenComponents text).length
  /-- The part can be read. -/
  part : ∀ w ∈ (writtenComponents text).head?, ∃ p, parsePart w = .ok p

/-- **Which texts are read**: nothing that is written for a field plays a role. -/
theorem exists_parse_iff {text : String} : (∃ c, parse text = .ok c) ↔ WellFormed text := by
  constructor
  · rintro ⟨c, hc⟩
    have henough := three_le_of_parse hc
    obtain ⟨part, ws, hws, hlen⟩ := exists_part henough
    obtain ⟨u, part', rs, hu, hcut, hpart, -, -⟩ := exists_cut hws hlen
    obtain ⟨_, _, hcut', -, hp, -⟩ := ofFormatted_eq_ok_iff.mp (hu.symm.trans hc)
    obtain ⟨rfl, -⟩ := List.cons.inj (hcut.symm.trans hcut')
    refine ⟨henough, ?_⟩
    rw [hws]
    rintro w ⟨⟩
    exact ⟨c.part, hpart ▸ hp⟩
  · rintro ⟨henough, hpart⟩
    obtain ⟨part, ws, hws, hlen⟩ := exists_part henough
    obtain ⟨u, part', rs, hu, hcut, hpart', hrs, -⟩ := exists_cut hws hlen
    obtain ⟨p, hp⟩ := hpart part (by rw [hws]; rfl)
    obtain ⟨c, hc, -⟩ := exists_ofFormatted hcut hrs (hpart'.trans hp)
    exact ⟨c, hu.trans hc⟩

theorem getElem?_padded (n : Nat) (ws : List (List Char)) {i : Nat} (hi : i < n) :
    (padded n ws)[i]? = some (ws[i]?.getD ['*']) := by
  fun_induction padded n ws generalizing i with
  | case1 => cases hi
  | case2 n ih =>
    cases i with
    | zero => rfl
    | succ i => exact ih (Nat.lt_of_succ_lt_succ hi)
  | case3 n w ws ih =>
    cases i with
    | zero => rfl
    | succ i => exact ih (Nat.lt_of_succ_lt_succ hi)

/-- **What a field holds**: what the text stands for that it is read from. -/
theorem exists_readFrom {text : String} {c : Cpe} (h : parse text = .ok c) {i : Nat}
    (hi : i < 10) :
    ∃ w, ReadFrom (IsUri text) (written? text i) w ∧
      c.fields[i]? = some (String.ofList (unescape w)) := by
  obtain ⟨part, ws, hws, hlen⟩ := exists_part (three_le_of_parse h)
  obtain ⟨u, part', rs, hu, hcut, -, -, hread⟩ := exists_cut hws hlen
  obtain ⟨_, _, hcut', -, -, hfields⟩ := ofFormatted_eq_ok_iff.mp (hu.symm.trans h)
  obtain ⟨-, rfl⟩ := List.cons.inj (hcut.symm.trans hcut')
  refine ⟨_, ?_, by rw [hfields, List.getElem?_map, getElem?_padded 10 rs hi]; rfl⟩
  rw [written?, hws, List.getElem?_cons_succ]
  exact hread i

end Cpe

end AdvisoryTriage
