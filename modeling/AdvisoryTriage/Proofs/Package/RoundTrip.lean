import AdvisoryTriage.Proofs.Package.Grammar

/-!
# Builds printed and read again

A build has several spellings and is printed in one of them: the epoch stands in front of the
version, wherever it was read, and blanks around the text are gone. What is printed is read as the
same build if its parts do not run into each other, and `Package.Printable` says when they do not.
The parts of a build that was read are of this kind (`Package.printable_of_parse`), with one
exception that the grammar shows. A name behind an epoch is taken as it stands, so it may hold a
colon or start with a blank, and neither survives in front of the text, where printing puts the name
(`Package.CanLead`). Apart from such names, printing and reading again gives back everything that
can be read (`Package.parse_print`).

The conditions are not only sufficient. A build may have been put together in any way, from parts
that no specifier has; it is read again from what is printed if and only if it is printable
(`Package.parse_print_eq_ok_iff`). Nothing cancels out: what the parser gives back was read, so its
parts are as they should be, and its name was not read from behind an epoch, since printing puts
that epoch in front of the version.
-/

namespace AdvisoryTriage

namespace Package

/-! ### Printing -/

/-- An epoch is printed as a text that denotes it. -/
theorem denotesEpoch_repr (epoch : UInt32) : DenotesEpoch epoch.toNat.repr.toList epoch := by
  rw [Nat.toList_repr]
  refine ⟨_, .inl rfl, Nat.toDigits_ne_nil, fun c hc => ?_, ?_⟩
  · have hc := Nat.isDigit_of_mem_toDigits (by decide) (by decide) hc
    simpa [isDigit, Char.isDigit, Char.le_def] using hc
  · rw [decimalValue_eq_ofDigitChars]
    exact Nat.ofDigitChars_ten_toDigits

/-- The text that an epoch is printed as, with its colon. -/
def printedEpoch : Option UInt32 → List Char
  | some epoch => epoch.toNat.repr.toList ++ [':']
  | none => []

theorem printedEpoch_some_append (epoch : UInt32) (s : List Char) :
    printedEpoch (some epoch) ++ s = epoch.toNat.repr.toList ++ ':' :: s :=
  List.append_assoc _ _ _

theorem toList_print (p : Package) :
    p.print.toList = p.name.toList ++ '-' :: (printedEpoch p.epoch ++ p.version.toList) ++
      '-' :: p.release.toList ++ archText p.arch := by
  cases he : p.epoch <;> cases ha : p.arch <;> simp [print, printedEpoch, archText, he, ha]

/-- A build is printed in the first or the second spelling. -/
theorem spelling_print {p : Package} (hn : ':' ∉ p.name.toList)
    (hv : p.epoch = none → ':' ∉ p.version.toList) :
    Spelling p (p.name.toList ++ '-' :: (printedEpoch p.epoch ++ p.version.toList) ++
      '-' :: p.release.toList) := by
  cases he : p.epoch with
  | none => exact .plain he hn (hv he)
  | some epoch =>
    rw [printedEpoch_some_append]
    exact .epochAtVersion he (denotesEpoch_repr epoch) hn

/-! ### What can be read again -/

/-- A name can stand in front of a text: it holds no colon, which would end an epoch or be a second
one, and does not start with a blank, which would go. -/
def CanLead (name : List Char) : Prop :=
  ':' ∉ name ∧ ∀ c ∈ name.head?, Text.isBlank c = false

/-- **The parts of a build do not run into each other** when it is printed. -/
structure Printable (p : Package) : Prop where
  name_ne : p.name.toList ≠ []
  name_leads : CanLead p.name.toList
  version_ne : p.version.toList ≠ []
  version_dash : '-' ∉ p.version.toList
  /-- Without an epoch, the first colon of the version would end one. -/
  version_colon : p.epoch = none → ':' ∉ p.version.toList
  release_ne : p.release.toList ≠ []
  release_dash : '-' ∉ p.release.toList
  /-- An architecture has to be known. -/
  arch_known : ∀ arch ∈ p.arch, arch ∈ architectures
  /-- Without one, a blank at the end of the text would go. -/
  release_blank : p.arch = none → ∀ c ∈ p.release.toList.getLast?, Text.isBlank c = false
  /-- Without one, what follows the last dot would be taken for one if it is known. -/
  release_arch : p.arch = none → ∀ arch ∈ architectures, ¬ '.' :: arch.toList <:+ p.release.toList

/-- No architecture ends in a blank. -/
theorem isBlank_of_mem_getLast?_architecture {arch : String} (h : arch ∈ architectures) :
    ∀ c ∈ ('.' :: arch.toList).getLast?, Text.isBlank c = false := by
  have hall : ∀ arch ∈ architectures,
      (('.' :: arch.toList).getLast?.all fun c => !Text.isBlank c) = true := by decide
  simpa [Option.all_eq_true] using hall arch h

/-- Such a build neither starts nor ends with a blank when it is printed. -/
theorem Printable.trim_eq {p : Package} (h : p.Printable) (middle : List Char) :
    Text.trim (p.name.toList ++ '-' :: middle ++ '-' :: p.release.toList ++ archText p.arch) =
      p.name.toList ++ '-' :: middle ++ '-' :: p.release.toList ++ archText p.arch := by
  refine Text.trim_eq_self ?_ ?_
  · rw [List.append_assoc, List.append_assoc, List.head?_append_of_ne_nil _ h.name_ne]
    exact h.name_leads.2
  · cases ha : p.arch with
    | none =>
      rw [archText, List.append_nil, List.getLast?_append_of_ne_nil _ (List.cons_ne_nil _ _),
        List.getLast?_cons_of_ne_nil h.release_ne]
      exact h.release_blank ha
    | some arch =>
      rw [archText, List.getLast?_append_of_ne_nil _ (List.cons_ne_nil _ _)]
      exact isBlank_of_mem_getLast?_architecture (h.arch_known arch ha)

/-- **A build whose parts do not run into each other** is read again from what is printed. -/
theorem Printable.parse_eq {p : Package} (h : p.Printable) : parse p.print = .ok p := by
  rw [parse_eq_ok_iff, toList_print, h.trim_eq]
  refine ⟨h.name_ne, h.version_ne, h.release_ne, h.version_dash, h.release_dash, _,
    spelling_print h.name_leads.1 h.version_colon, ?_⟩
  cases ha : p.arch with
  | none =>
    rw [archText, List.append_nil]
    refine .absent fun arch harch => ?_
    have hdash : '-' ∉ '.' :: arch.toList := by simp [(mark_not_mem_architecture harch).2]
    rw [Text.suffix_append_cons_iff hdash]
    exact h.release_arch ha arch harch
  | some arch => exact .known (h.arch_known arch ha)

/-! ### What was read -/

/-- A spelling ends in the release. -/
theorem Spelling.exists_release {p : Package} {body : List Char} (h : Spelling p body) :
    ∃ front, body = front ++ '-' :: p.release.toList := by
  cases h <;> exact ⟨_, rfl⟩

/-- Without an epoch, the version of a build that is spelled holds no colon. -/
theorem Spelling.version_colon {p : Package} {body : List Char} (h : Spelling p body)
    (hnone : p.epoch = none) : ':' ∉ p.version.toList := by
  cases h with
  | plain _ _ hv => exact hv
  | epochAtVersion he => simp [he] at hnone
  | epochAtName _ _ hv => exact hv

/-- The parts of a build that was read do not run into each other, if its name can lead. -/
theorem printable_of_parse {spec : String} {p : Package} (h : parse spec = .ok p)
    (hlead : CanLead p.name.toList) : p.Printable := by
  obtain ⟨hnne, hvne, hrne, hvdash, hrdash, body, hbody, harch⟩ := parse_eq_ok_iff.mp h
  obtain ⟨front, hfront⟩ := hbody.exists_release
  have hlast := Text.isBlank_of_mem_getLast?_trim spec.toList
  generalize Text.trim spec.toList = s at harch hlast
  refine ⟨hnne, hlead, hvne, hvdash, hbody.version_colon, hrne, hrdash,
    harch.mem_architectures, ?_, ?_⟩
  · intro ha
    rw [ha] at harch
    cases harch with
    | absent hnone =>
      rwa [hfront, List.getLast?_append_of_ne_nil _ (List.cons_ne_nil _ _),
        List.getLast?_cons_of_ne_nil hrne] at hlast
  · intro ha arch hknown hsuffix
    rw [ha] at harch
    cases harch with
    | absent hnone =>
      refine hnone arch hknown ?_
      rw [hfront]
      exact hsuffix.trans ((List.suffix_cons _ _).trans (List.suffix_append _ _))

/-- A text starts with the epoch of a build and its name behind it. -/
def EpochLeads (s : List Char) (p : Package) : Prop :=
  ∃ text epoch, p.epoch = some epoch ∧ DenotesEpoch text epoch ∧
    text ++ ':' :: p.name.toList <+: s

/-- A name that was read can lead, unless it was read from behind an epoch. -/
theorem canLead_or_epochAtName {spec : String} {p : Package} (h : parse spec = .ok p) :
    CanLead p.name.toList ∨ ∃ text epoch, p.epoch = some epoch ∧ DenotesEpoch text epoch ∧
      Text.trim spec.toList = text ++ ':' :: p.name.toList ++ '-' :: p.version.toList ++
        '-' :: p.release.toList ++ archText p.arch := by
  obtain ⟨hnne, -, -, -, -, body, hbody, harch⟩ := parse_eq_ok_iff.mp h
  have hhead := Text.isBlank_of_mem_head?_trim spec.toList
  rw [harch.eq_append] at hhead ⊢
  cases hbody with
  | plain _ hn _ =>
    simp only [List.append_assoc, List.head?_append_of_ne_nil _ hnne] at hhead
    exact .inl ⟨hn, hhead⟩
  | epochAtVersion _ _ hn =>
    simp only [List.append_assoc, List.head?_append_of_ne_nil _ hnne] at hhead
    exact .inl ⟨hn, hhead⟩
  | epochAtName he ht _ => exact .inr ⟨_, _, he, ht, rfl⟩

/-- A name that was read from the front of a text can lead. -/
theorem canLead_of_not_epochLeads {spec : String} {p : Package} (h : parse spec = .ok p)
    (hfront : ¬ EpochLeads (Text.trim spec.toList) p) : CanLead p.name.toList := by
  rcases canLead_or_epochAtName h with hlead | ⟨text, epoch, he, ht, htrim⟩
  · exact hlead
  · refine absurd ⟨text, epoch, he, ht, ?_⟩ hfront
    rw [htrim, List.append_assoc, List.append_assoc]
    exact List.prefix_append _ _

/-- **Printing a build that was read and reading it again gives the same build**, whichever spelling
it was read from, provided that a name behind an epoch holds no colon and does not start with a
blank. -/
theorem parse_print {spec : String} {p : Package} (h : parse spec = .ok p)
    (hname : EpochLeads (Text.trim spec.toList) p → CanLead p.name.toList) :
    parse p.print = .ok p := by
  have hlead : CanLead p.name.toList := by
    by_cases hfront : EpochLeads (Text.trim spec.toList) p
    · exact hname hfront
    · exact canLead_of_not_epochLeads h hfront
  exact (printable_of_parse h hlead).parse_eq

/-- A specifier with blanks around it and its epoch in front is printed without the blanks and with
the epoch in its other place. -/
theorem parse_print_openssl :
    parse "\t1:openssl-libs-1.1.1g-15.el8_3.noarch " =
        .ok ⟨"openssl-libs", some 1, "1.1.1g", "15.el8_3", some "noarch"⟩ ∧
      parse "openssl-libs-1:1.1.1g-15.el8_3.noarch" =
        .ok ⟨"openssl-libs", some 1, "1.1.1g", "15.el8_3", some "noarch"⟩ := by
  have h : parse "\t1:openssl-libs-1.1.1g-15.el8_3.noarch " =
      .ok ⟨"openssl-libs", some 1, "1.1.1g", "15.el8_3", some "noarch"⟩ := by decide +kernel
  have hprint : print ⟨"openssl-libs", some 1, "1.1.1g", "15.el8_3", some "noarch"⟩ =
      "openssl-libs-1:1.1.1g-15.el8_3.noarch" := by decide +kernel
  refine ⟨h, ?_⟩
  rw [← hprint]
  refine parse_print h fun _ => ⟨by decide, fun c hc => ?_⟩
  obtain rfl : 'o' = c := Option.some.inj hc
  decide

/-- A name behind an epoch may hold a colon, which is taken for the end of an epoch when the build
is read again, or start with a blank, which is lost. -/
theorem parse_print_nameBehindEpoch :
    parse "1:a:b-2-3" = .ok ⟨"a:b", some 1, "2", "3", none⟩ ∧
      print ⟨"a:b", some 1, "2", "3", none⟩ = "a:b-1:2-3" ∧
      parse "a:b-1:2-3" = .error (.invalidEpoch "a") ∧
      parse "1: a-2-3" = .ok ⟨" a", some 1, "2", "3", none⟩ ∧
      print ⟨" a", some 1, "2", "3", none⟩ = " a-1:2-3" ∧
      parse " a-1:2-3" = .ok ⟨"a", some 1, "2", "3", none⟩ := by
  decide +kernel

/-! ### Exactly what can be read again -/

/-- A build that is read again from what is printed has a name that can lead: if the name had been
read from behind an epoch, that epoch would now stand in front of the version. -/
theorem canLead_of_parse_print {p : Package} (h : parse p.print = .ok p) :
    CanLead p.name.toList := by
  rcases canLead_or_epochAtName h with hlead | ⟨text, epoch, he, ht, htrim⟩
  · exact hlead
  · exfalso
    obtain ⟨-, -, -, hvdash, hrdash, body, -, harch⟩ := parse_eq_ok_iff.mp h
    obtain ⟨front, back, hprint, -, hback⟩ := Text.exists_append_trim p.print.toList
    have hadash := dash_not_mem_archText harch.mem_architectures
    have hbdash : '-' ∉ back := fun hmem => absurd (hback '-' hmem) (by decide)
    have hrepr := (denotesEpoch_repr epoch).not_mem (c := '-') (by decide) (by decide)
    -- the printed text, and the text that was read with what was trimmed, cut at their dashes
    have hcut : p.name.toList ++ '-' :: (epoch.toNat.repr.toList ++ ':' :: p.version.toList) ++
          '-' :: (p.release.toList ++ archText p.arch) =
        (front ++ text ++ ':' :: p.name.toList) ++ '-' :: p.version.toList ++
          '-' :: (p.release.toList ++ archText p.arch ++ back) := by
      rw [htrim, toList_print, he, printedEpoch_some_append] at hprint
      simpa only [List.append_assoc, List.cons_append] using hprint
    exact epochAtVersion_ne hrepr hvdash (by simp [hrdash, hadash])
      (by simp [hrdash, hadash, hbdash]) hcut

/-- **The builds that survive printing** are those whose parts do not run into each other. Every
other build, however it was made, is printed as a text that cannot be read or that is read as
another build. -/
theorem parse_print_eq_ok_iff (p : Package) :
    (parse p.print = .ok p ↔ p.Printable) ∧
      (¬ p.Printable →
        (∃ e, parse p.print = .error e) ∨ ∃ q, q ≠ p ∧ parse p.print = .ok q) := by
  have hiff : parse p.print = .ok p ↔ p.Printable :=
    ⟨fun h => printable_of_parse h (canLead_of_parse_print h), Printable.parse_eq⟩
  refine ⟨hiff, fun hnot => ?_⟩
  cases hp : parse p.print with
  | error e => exact .inl ⟨e, rfl⟩
  | ok q =>
    refine .inr ⟨q, ?_, rfl⟩
    rintro rfl
    exact hnot (hiff.mp hp)

end Package

end AdvisoryTriage
