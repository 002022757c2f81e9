import AdvisoryTriage.Cpe.Binding
import AdvisoryTriage.Proofs.Cpe.Components
import AdvisoryTriage.Proofs.Steps

/-!
# Reading what was printed

A platform name is printed by writing its fields as they are. Reading takes quotation and encoding
off, and nothing puts them back on, so a name that was read need not be read again from what is
printed of it. This file says exactly when it is (`Cpe.parse_print_iff_printable`): no field may
hold a colon or a spelling of a quoted or encoded character, and none but the last may end in an odd
number of backslashes, the last of which would quote the colon behind the field.

That this is enough is plain, for then the fields are the components of what is printed and stand
for themselves. That it is necessary is a matter of counting. Fields that hold colons are cut apart,
fields that end in an open backslash grow together, and unquoting can take away what was too much,
so one could fear that one damage makes up for another. But reading removes no colon, and takes at
most as many components as were printed; so there are not more colons than those between the
fields, and the components are as many as the fields. Together they are then as long as the fields,
and since unquoting only makes them shorter, it has nothing to do
(`Cpe.splitComponents_eq_of_read_back`).

A name that was read is always printed as something that can be read, if not always as it was. For
that the vendor and the product have to be found, so one colon among the fields has to stay a
separator, and that is the first: unquoting leaves the backslashes at the end of a component alone,
and the vendor was read from one that leaves none open (`Cpe.exists_parse_print`).

* `Cpe.ofFormatted_eq_ok_iff` – reading a formatted string, in terms of its components.
* `Cpe.parse_print_of_parse` – what is read again of a name that was read.
-/

namespace AdvisoryTriage

namespace Cpe

/-! ### Components and fields -/

/-- The first components of a list, as many as are asked for; those that are missing are `*`. -/
def padded : Nat → List (List Char) → List (List Char)
  | 0, _ => []
  | n + 1, [] => ['*'] :: padded n []
  | n + 1, w :: ws => w :: padded n ws

theorem padded_length (ws : List (List Char)) : padded ws.length ws = ws := by
  induction ws with
  | nil => rfl
  | cons w ws ih => rw [List.length_cons, padded, ih]

theorem mem_padded {n : Nat} {ws : List (List Char)} {w : List Char} (h : w ∈ padded n ws) :
    w ∈ ws ∨ w = ['*'] := by
  fun_induction padded n ws with
  | case1 => cases h
  | case2 n ih => exact Or.inr ((List.mem_cons.mp h).elim id fun h => (ih h).elim nofun id)
  | case3 n v ws ih =>
    rcases List.mem_cons.mp h with rfl | h
    · exact Or.inl List.mem_cons_self
    · exact (ih h).imp_left (List.mem_cons_of_mem v)

/-- Padding adds no colon. -/
theorem count_padded_le (n : Nat) (ws : List (List Char)) :
    (padded n ws).flatten.count ':' ≤ ws.flatten.count ':' := by
  fun_induction padded n ws with
  | case1 => exact Nat.zero_le _
  | case2 n ih => simpa using ih
  | case3 n w ws ih =>
    rw [List.flatten_cons, List.flatten_cons, List.count_append, List.count_append]
    exact Nat.add_le_add_left ih _

/-- If components are not more than are asked for, padding takes no colon away. -/
theorem count_padded {n : Nat} {ws : List (List Char)} (h : ws.length ≤ n) :
    (padded n ws).flatten.count ':' = ws.flatten.count ':' := by
  fun_induction padded n ws with
  | case1 ws => rw [List.length_eq_zero_iff.mp (Nat.le_zero.mp h)]
  | case2 n ih => simpa using ih (Nat.zero_le n)
  | case3 n w ws ih =>
    rw [List.flatten_cons, List.flatten_cons, List.count_append, List.count_append,
      ih (Nat.le_of_succ_le_succ h)]

theorem count_flatten_map_unescape (ws : List (List Char)) :
    (ws.map unescape).flatten.count ':' = ws.flatten.count ':' := by
  induction ws with
  | nil => rfl
  | cons w ws ih => rw [List.map_cons, List.flatten_cons, List.flatten_cons, List.count_append,
      List.count_append, count_unescape, ih]

/-- Components that are as long as what they stand for are what they stand for. -/
theorem length_flatten_map_unescape (ws : List (List Char)) :
    (ws.map unescape).flatten.length ≤ ws.flatten.length ∧
      ((ws.map unescape).flatten.length = ws.flatten.length →
        ∀ w ∈ ws, ∀ e ∈ escapes, ¬ e.1.toList <:+: w) := by
  induction ws with
  | nil => simp
  | cons w ws ih =>
    obtain ⟨hle, hkept⟩ := ih
    have hw := length_unescape_le w
    simp only [List.map_cons, List.flatten_cons, List.length_append]
    refine ⟨by omega, fun hlen => List.forall_mem_cons.mpr ⟨?_, hkept (by omega)⟩⟩
    exact not_infix_of_length_unescape (by omega)

/-- **Texts that are read back** from their joining are its components, and no spelling occurs in
them. -/
theorem splitComponents_eq_of_read_back {fs : List (List Char)} (hfs : fs ≠ [])
    (h : (padded fs.length (splitComponents (joinComponents fs))).map unescape = fs) :
    splitComponents (joinComponents fs) = fs ∧ ∀ f ∈ fs, ∀ e ∈ escapes, ¬ e.1.toList <:+: f := by
  obtain ⟨ws, hws⟩ : ∃ ws, splitComponents (joinComponents fs) = ws := ⟨_, rfl⟩
  obtain ⟨hcomponents, hjoin⟩ := splitComponents_eq_iff.mp hws
  rw [hws] at h ⊢
  -- there are as many components as texts, since there are as many colons
  have hcolons : ws.flatten.count ':' + ws.length = fs.flatten.count ':' + fs.length := by
    have hw := count_joinComponents ':' hcomponents.ne_nil
    have hf := count_joinComponents ':' hfs
    rw [hjoin] at hw
    simp only [List.count_singleton_self, Nat.mul_one] at hw hf
    omega
  have hread := count_flatten_map_unescape (padded fs.length ws)
  rw [h] at hread
  have hle := count_padded_le fs.length ws
  have hcount : (padded fs.length ws).flatten.count ':' = ws.flatten.count ':' :=
    count_padded (by omega)
  have hlength : fs.length = ws.length := by omega
  rw [hlength, padded_length] at h
  -- and the components are together as long as the texts
  have hchars : (ws.map unescape).flatten.length = ws.flatten.length := by
    have hw := length_joinComponents hcomponents.ne_nil
    have hf := length_joinComponents hfs
    rw [hjoin] at hw
    rw [h]
    omega
  have hspelling := (length_flatten_map_unescape ws).2 hchars
  have hself : ws.map unescape = ws.map id :=
    List.map_congr_left fun w hw => unescape_eq_self (hspelling w hw)
  rw [h, List.map_id] at hself
  exact ⟨hself.symm, hself ▸ hspelling⟩

/-! ### Reading formatted strings -/

/-- The fields at the first positions of a list of components. -/
theorem map_field_range (ws : List (List Char)) (n : Nat) :
    (List.range n).map (field ws) = (padded n ws).map fun w => String.ofList (unescape w) := by
  induction n generalizing ws with
  | zero => rfl
  | succ n ih =>
    rw [List.range_succ_eq_map, List.map_cons, List.map_map]
    cases ws with
    | nil => exact congrArg _ (ih [])
    | cons w ws => exact congrArg _ (ih ws)

theorem ext_of_fields {c d : Cpe} (hpart : c.part = d.part) (hfields : c.fields = d.fields) :
    c = d := by
  cases c
  cases d
  simp_all [fields]

/-- **Reading a formatted string**: its first component is the part, at least two follow, and the
fields are what the first ten of them stand for. -/
theorem ofFormatted_eq_ok_iff {s : List Char} {c : Cpe} :
    ofFormatted s = .ok c ↔ ∃ part ws, splitComponents s = part :: ws ∧ 2 ≤ ws.length ∧
      parsePart part = .ok c.part ∧
      c.fields = (padded 10 ws).map fun w => String.ofList (unescape w) := by
  rw [ofFormatted]
  split
  · next part vendor product rest hs =>
    have hfields : [String.ofList (unescape vendor), String.ofList (unescape product), field rest 0,
        field rest 1, field rest 2, field rest 3, field rest 4, field rest 5, field rest 6,
        field rest 7] =
        (padded 10 (vendor :: product :: rest)).map fun w => String.ofList (unescape w) :=
      congrArg (_ :: _ :: ·) (map_field_range rest 8)
    constructor
    · intro h
      obtain ⟨p, hp, hc⟩ := bind_eq_ok_iff.mp h
      obtain rfl := Except.ok.inj hc
      exact ⟨part, _, hs, by simp, hp, hfields⟩
    · rintro ⟨part', ws, hs', -, hp, hc⟩
      obtain ⟨rfl, rfl⟩ := List.cons.inj (hs.symm.trans hs')
      exact bind_eq_ok_iff.mpr
        ⟨c.part, hp, congrArg Except.ok (ext_of_fields rfl (hfields.trans hc.symm))⟩
  · next hs =>
    refine ⟨nofun, ?_⟩
    rintro ⟨part, ws, hs', hlen, -, -⟩
    match ws, hlen with
    | vendor :: product :: rest, _ => exact absurd hs' (hs part vendor product rest)

theorem exists_ofFormatted {s part : List Char} {ws : List (List Char)} {p : Part}
    (hs : splitComponents s = part :: ws) (hlen : 2 ≤ ws.length) (hp : parsePart part = .ok p) :
    ∃ c, ofFormatted s = .ok c ∧ c.part = p := by
  match ws, hlen with
  | vendor :: product :: rest, _ =>
    rw [ofFormatted, hs]
    exact ⟨_, bind_eq_ok_iff.mpr ⟨p, hp, rfl⟩, rfl⟩

/-! ### Printing -/

/-- **A field that stands for itself** holds no colon and no spelling of a quoted or encoded
character. -/
structure StandsForItself (field : String) : Prop where
  /-- No colon. -/
  colon : ':' ∉ field.toList
  /-- No spelling. -/
  spelling : ∀ e ∈ escapes, ¬ e.1.toList <:+: field.toList

/-- **A name that can be read again** from what is printed of it. -/
structure Printable (c : Cpe) : Prop where
  /-- Every field stands for itself. -/
  itself : ∀ f ∈ c.fields, StandsForItself f
  /-- No field but the last ends in an odd number of backslashes. -/
  even : ∀ f ∈ c.fields.dropLast, Even (backslashesAtEnd f.toList)

theorem map_fields_ne_nil (c : Cpe) : c.fields.map String.toList ≠ [] :=
  List.cons_ne_nil _ _

theorem closed_letter (part : Part) : Closed part.letter.toList := by
  cases part <;> exact .char (by decide) (by decide) .nil

theorem parsePart_letter (part : Part) : parsePart part.letter.toList = .ok part := by
  cases part <;> rfl

theorem toList_print (c : Cpe) :
    c.print.toList = "cpe:2.3:".toList ++
      joinComponents (c.part.letter.toList :: c.fields.map String.toList) := by
  rw [print, String.toList_intercalate, List.map_cons, List.map_cons]
  exact joinComponents_cons (List.cons_ne_nil _ _)

theorem parse_print_eq_ofFormatted (c : Cpe) :
    parse c.print =
      ofFormatted (joinComponents (c.part.letter.toList :: c.fields.map String.toList)) := by
  rw [parse, stripOpening?_eq_some_iff.mpr (toList_print c)]

/-- What is printed is cut into the letter of the part and the components of the joined fields. -/
theorem splitComponents_printed (c : Cpe) :
    splitComponents (joinComponents (c.part.letter.toList :: c.fields.map String.toList)) =
      c.part.letter.toList :: splitComponents (joinComponents (c.fields.map String.toList)) := by
  rw [joinComponents_cons c.map_fields_ne_nil, splitComponents_append (closed_letter c.part),
    splitComponents, extendFirst, List.append_nil]

/-- A name is read again from what is printed of it exactly if its fields are the components of
their joining and no spelling occurs in them. -/
theorem parse_print_iff_components (c : Cpe) :
    parse c.print = .ok c ↔ Components (c.fields.map String.toList) ∧
      ∀ f ∈ c.fields, ∀ e ∈ escapes, ¬ e.1.toList <:+: f.toList := by
  have hlength : (c.fields.map String.toList).length = 10 := rfl
  rw [parse_print_eq_ofFormatted, ofFormatted_eq_ok_iff, splitComponents_printed]
  constructor
  · rintro ⟨_, ws, hws, -, -, hread⟩
    obtain ⟨rfl, rfl⟩ := List.cons.inj hws
    have hback := congrArg (List.map String.toList) hread.symm
    rw [List.map_map] at hback
    obtain ⟨hsplit, hspelling⟩ := splitComponents_eq_of_read_back c.map_fields_ne_nil
      (by rw [hlength]; simpa [Function.comp_def] using hback)
    exact ⟨(splitComponents_eq_iff.mp hsplit).1, fun f hf =>
      hspelling f.toList (List.mem_map_of_mem hf)⟩
  · rintro ⟨hcomponents, hspelling⟩
    refine ⟨_, _, rfl, ?_⟩
    rw [splitComponents_joinComponents hcomponents]
    refine ⟨by rw [hlength]; decide, parsePart_letter c.part, ?_⟩
    rw [← hlength, padded_length, List.map_map]
    conv_lhs => rw [← List.map_id c.fields]
    exact List.map_congr_left fun f hf => by
      rw [Function.comp_apply, unescape_eq_self (hspelling f hf), String.ofList_toList, id]

/-- **Which names can be read again** from what is printed of them. -/
theorem parse_print_iff_printable (c : Cpe) : parse c.print = .ok c ↔ c.Printable := by
  -- the spelling of a quoted colon is among those ruled out
  have hquoted (h : ∀ f ∈ c.fields, ∀ e ∈ escapes, ¬ e.1.toList <:+: f.toList) :
      ∀ w ∈ c.fields.map String.toList, ¬ ['\\', ':'] <:+: w :=
    List.forall_mem_map.mpr fun f hf => h f hf ("\\:", ':') (by decide)
  rw [parse_print_iff_components]
  constructor
  · rintro ⟨hcomponents, hspelling⟩
    obtain ⟨hcolon, heven⟩ :=
      (components_iff c.map_fields_ne_nil (hquoted hspelling)).mp hcomponents
    rw [← List.map_dropLast, List.forall_mem_map] at heven
    exact ⟨fun f hf => ⟨hcolon _ (List.mem_map_of_mem hf), hspelling f hf⟩, heven⟩
  · rintro ⟨hitself, heven⟩
    have hspelling := fun f hf => (hitself f hf).spelling
    refine ⟨(components_iff c.map_fields_ne_nil (hquoted hspelling)).mpr ⟨?_, ?_⟩, hspelling⟩
    · exact List.forall_mem_map.mpr fun f hf => (hitself f hf).colon
    · rw [← List.map_dropLast]
      exact List.forall_mem_map.mpr heven

/-! ### Names that were read -/

/-- **A plain text** holds no backslash and no percent sign, so nothing in it is quoted or
encoded. -/
structure Plain (s : List Char) : Prop where
  /-- No backslash. -/
  backslash : '\\' ∉ s
  /-- No percent sign. -/
  percent : '%' ∉ s

theorem Plain.not_spelled {w : List Char} (h : Plain w) :
    ∀ e ∈ escapes, ¬ e.1.toList <:+: w := by
  have hspelling : ∀ e ∈ escapes, '\\' ∈ e.1.toList ∨ '%' ∈ e.1.toList := by decide
  exact fun e he hi => (hspelling e he).elim (fun hb => h.backslash (hi.subset hb))
    fun hp => h.percent (hi.subset hp)

theorem plain_joinComponents_iff {ws : List (List Char)} :
    Plain (joinComponents ws) ↔ ∀ w ∈ ws, Plain w := by
  have hbackslash : '\\' ∈ joinComponents ws ↔ ∃ w ∈ ws, '\\' ∈ w :=
    mem_joinComponents_iff (by decide)
  have hpercent : '%' ∈ joinComponents ws ↔ ∃ w ∈ ws, '%' ∈ w :=
    mem_joinComponents_iff (by decide)
  constructor
  · exact fun h w hw => ⟨fun ha => h.backslash (hbackslash.mpr ⟨w, hw, ha⟩),
      fun ha => h.percent (hpercent.mpr ⟨w, hw, ha⟩)⟩
  · refine fun h => ⟨fun ha => ?_, fun ha => ?_⟩
    · obtain ⟨w, hw, ha⟩ := hbackslash.mp ha
      exact (h w hw).backslash ha
    · obtain ⟨w, hw, ha⟩ := hpercent.mp ha
      exact (h w hw).percent ha

/-- The components of a plain text are plain, and none of them holds a colon. -/
theorem Plain.splitComponents {s : List Char} (h : Plain s) :
    ∀ w ∈ splitComponents s, Plain w ∧ ':' ∉ w := by
  have hplain := plain_joinComponents_iff.mp ((joinComponents_splitComponents s).symm ▸ h)
  have hcolon := (components_iff (splitComponents_ne_nil s) fun w hw =>
    (hplain w hw).not_spelled ("\\:", ':') (by decide)).mp (components_splitComponents s)
  exact fun w hw => ⟨hplain w hw, hcolon.1 w hw⟩

/-- The formatted string of a plain URI is plain. -/
theorem Plain.formattedOfUri {s t : List Char} (hs : Plain s) (h : formattedOfUri s = .ok t) :
    Plain t := by
  have hstar : Plain ['*'] := ⟨by decide, by decide⟩
  rw [Cpe.formattedOfUri] at h
  split at h
  · cases h
  · obtain rfl := Except.ok.inj h
    refine plain_joinComponents_iff.mpr fun w hw => ?_
    rcases List.mem_append.mp hw with hw | hw
    · obtain ⟨v, hv, rfl⟩ := List.mem_map.mp hw
      split
      · exact hstar
      · exact (hs.splitComponents v hv).1
    · exact List.eq_of_mem_replicate hw ▸ hstar

/-- A name that was read from a plain formatted string can be read again. -/
theorem Plain.printable {t : List Char} {c : Cpe} (ht : Plain t) (h : ofFormatted t = .ok c) :
    c.Printable := by
  obtain ⟨part, ws, hws, -, -, hfields⟩ := ofFormatted_eq_ok_iff.mp h
  have hfield (f) (hf : f ∈ c.fields) : Plain f.toList ∧ ':' ∉ f.toList := by
    rw [hfields] at hf
    obtain ⟨w, hw, rfl⟩ := List.mem_map.mp hf
    have hplain : Plain w ∧ ':' ∉ w := by
      rcases mem_padded hw with hw | rfl
      · exact ht.splitComponents w (hws ▸ List.mem_cons_of_mem part hw)
      · exact ⟨⟨by decide, by decide⟩, by decide⟩
    rwa [unescape_eq_self hplain.1.not_spelled, String.toList_ofList]
  constructor
  · exact fun f hf => ⟨(hfield f hf).2, (hfield f hf).1.not_spelled⟩
  · intro f hf
    rw [backslashesAtEnd_of_not_mem (hfield f (List.dropLast_subset _ hf)).1.backslash]
    exact .zero

/-- Either form is read by way of a formatted string, which is plain if the text is. -/
theorem exists_formatted_of_parse {s : String} {c : Cpe} (h : parse s = .ok c) :
    ∃ t, ofFormatted t = .ok c ∧ (Plain s.toList → Plain t) := by
  -- what stands behind an opening is plain if the whole text is
  have hbehind {opening t : List Char} (ht : stripOpening? opening s.toList = some t)
      (hs : Plain s.toList) : Plain t := by
    rw [stripOpening?_eq_some_iff] at ht
    exact ⟨fun hb => hs.backslash (ht ▸ List.mem_append_right opening hb),
      fun hp => hs.percent (ht ▸ List.mem_append_right opening hp)⟩
  rw [parse] at h
  split at h
  · next t ht => exact ⟨t, h, hbehind ht⟩
  · split at h
    · next t ht =>
      obtain ⟨u, hu, h⟩ := bind_eq_ok_iff.mp h
      exact ⟨u, h, fun hs => (hbehind ht hs).formattedOfUri hu⟩
    · cases h

/-- The vendor of a name that was read leaves no backslash open, since a component is read behind
it. -/
theorem even_backslashesAtEnd_vendor {t : List Char} {c : Cpe} (h : ofFormatted t = .ok c) :
    Even (backslashesAtEnd c.vendor.toList) := by
  obtain ⟨part, ws, hws, hlen, -, hfields⟩ := ofFormatted_eq_ok_iff.mp h
  match ws, hlen with
  | vendor :: product :: rest, _ =>
    have hcomponents : Components (part :: vendor :: product :: rest) :=
      hws ▸ components_splitComponents t
    cases hcomponents with
    | cons _ hcomponents =>
      cases hcomponents with
      | cons hclosed _ =>
        have hvendor : c.vendor = String.ofList (unescape vendor) := (List.cons.inj hfields).1
        rw [hvendor, String.toList_ofList, backslashesAtEnd_unescape]
        exact hclosed.even_backslashesAtEnd

/-- A name whose vendor leaves no backslash open can be read from what is printed of it, if not
always as it was. -/
theorem exists_parse_print {c : Cpe} (h : Even (backslashesAtEnd c.vendor.toList)) :
    ∃ d, parse c.print = .ok d ∧ d.part = c.part := by
  rw [parse_print_eq_ofFormatted]
  refine exists_ofFormatted (splitComponents_printed c) ?_ (parsePart_letter c.part)
  rw [fields, List.map_cons, joinComponents_cons (by simp)]
  exact two_le_length_splitComponents h _

/-- **Reading, printing and reading again.** Of a name that was read, a name with the same part can
be read from what is printed. It is the same name exactly if all fields stand for themselves and
none but the last ends in an open backslash, and so it is if nothing is quoted or encoded in the
text that was read. -/
theorem parse_print_of_parse {s : String} {c : Cpe} (h : parse s = .ok c) :
    ∃ d, parse c.print = .ok d ∧ d.part = c.part ∧ (d = c ↔ c.Printable) ∧
      (Plain s.toList → d = c) := by
  obtain ⟨t, ht, hplain⟩ := exists_formatted_of_parse h
  obtain ⟨d, hd, hpart⟩ := exists_parse_print (even_backslashesAtEnd_vendor ht)
  have hiff : d = c ↔ c.Printable := by
    rw [← parse_print_iff_printable, hd, Except.ok.injEq]
  exact ⟨d, hd, hpart, hiff, fun hs => hiff.mpr ((hplain hs).printable ht)⟩

/-- A URI that skips a component and drops the trailing ones is printed as a formatted string that
denotes the same name. -/
theorem parse_print_appStream :
    parse "cpe:/a:redhat:enterprise_linux:8::appstream" = .ok
        { part := .application, vendor := "redhat", product := "enterprise_linux", version := "8",
          edition := "appstream" } ∧
      parse "cpe:2.3:a:redhat:enterprise_linux:8:*:appstream:*:*:*:*:*" = .ok
        { part := .application, vendor := "redhat", product := "enterprise_linux", version := "8",
          edition := "appstream" } := by
  have h : parse "cpe:/a:redhat:enterprise_linux:8::appstream" = .ok
      { part := .application, vendor := "redhat", product := "enterprise_linux", version := "8",
        edition := "appstream" } := by decide +kernel
  obtain ⟨d, hd, -, -, hplain⟩ := parse_print_of_parse h
  obtain rfl := hplain ⟨by decide, by decide⟩
  exact ⟨h, hd⟩

/-- A quoted colon is printed without its quotation and then ends the field; an encoded percent sign
is printed as one that starts an encoding; and a backslash at the end of a text is printed in front
of a colon, which it quotes. -/
theorem parse_print_quoted :
    parse "cpe:2.3:a:vendor:pro\\:duct:1.0:*:*:*:*:*:*:*" = .ok
        { part := .application, vendor := "vendor", product := "pro:duct", version := "1.0" } ∧
      print { part := .application, vendor := "vendor", product := "pro:duct", version := "1.0" } =
        "cpe:2.3:a:vendor:pro:duct:1.0:*:*:*:*:*:*:*" ∧
      parse "cpe:2.3:a:vendor:pro:duct:1.0:*:*:*:*:*:*:*" = .ok
        { part := .application, vendor := "vendor", product := "pro", version := "duct",
          update := "1.0" } ∧
      parse "cpe:/a:vendor:pro%2521" = .ok
        { part := .application, vendor := "vendor", product := "pro%21" } ∧
      print { part := .application, vendor := "vendor", product := "pro%21" } =
        "cpe:2.3:a:vendor:pro%21:*:*:*:*:*:*:*:*" ∧
      parse "cpe:2.3:a:vendor:pro%21:*:*:*:*:*:*:*:*" = .ok
        { part := .application, vendor := "vendor", product := "pro!" } ∧
      parse "cpe:2.3:a:vendor:pro\\" = .ok
        { part := .application, vendor := "vendor", product := "pro\\" } ∧
      print { part := .application, vendor := "vendor", product := "pro\\" } =
        "cpe:2.3:a:vendor:pro\\:*:*:*:*:*:*:*:*" ∧
      parse "cpe:2.3:a:vendor:pro\\:*:*:*:*:*:*:*:*" = .ok
        { part := .application, vendor := "vendor", product := "pro:*" } := by
  decide +kernel

end Cpe

end AdvisoryTriage
