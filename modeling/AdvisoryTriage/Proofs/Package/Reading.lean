import AdvisoryTriage.Proofs.Package.Grammar

/-!
# A specifier is read in one way

Dashes, dots and colons separate the parts of a specifier and stand in the parts as well, so it is
not plain that a text can be taken apart in one way only. This file takes the grammar of
`AdvisoryTriage.Package.Spells` apart into what is written: a `Package.Reading` has the parts of a
text just as they stand there, with the epoch in the place where it stands
(`Package.EpochPlace`), and `Package.Reading.Reads` has the conditions under which these parts make
up a text. The three forms are the three places of the epoch.

The parser accepts a text exactly if it has a reading, and what it returns is what the reading
denotes; and no text has two readings (`Package.parse_eq_ok_iff_exists_reading`). The parser itself
proves the second: it is a function, so two readings of a text denote the same build, and only the
place and the spelling of the epoch are left to be told apart. The place shows in what stands
between the last two dashes (`Package.epochAtVersion_ne`).
-/

namespace AdvisoryTriage

namespace Package

/-! ### The place of the epoch -/

/-- **The place of the epoch** in a specifier, with the text of it. -/
inductive EpochPlace where
  /-- There is no epoch. -/
  | absent
  /-- The epoch stands in front of the version. -/
  | atVersion (text : List Char)
  /-- The epoch stands in front of the name. -/
  | atName (text : List Char)

namespace EpochPlace

/-- A name and a version with the epoch in its place. -/
def write (name version : List Char) : EpochPlace → List Char
  | .absent => name ++ '-' :: version
  | .atVersion text => name ++ '-' :: (text ++ ':' :: version)
  | .atName text => text ++ ':' :: name ++ '-' :: version

/-- The parts that are looked through for an epoch without having one hold no colon. -/
def Guards (name version : List Char) : EpochPlace → Prop
  | .absent => ':' ∉ name ∧ ':' ∉ version
  | .atVersion _ => ':' ∉ name
  | .atName _ => ':' ∉ version

/-- The epoch that the text in a place denotes; no text is no epoch. -/
def Denotes (epoch : Option UInt32) : EpochPlace → Prop
  | .absent => epoch = none
  | .atVersion text => ∃ e, epoch = some e ∧ DenotesEpoch text e
  | .atName text => ∃ e, epoch = some e ∧ DenotesEpoch text e

/-- The place and the text of an epoch can be seen from what is written. -/
theorem eq_of_write_eq {place place' : EpochPlace} {epoch : Option UInt32}
    {name version release : List Char} (h : place.Denotes epoch) (h' : place'.Denotes epoch)
    (hv : '-' ∉ version) (hr : '-' ∉ release)
    (heq : place.write name version ++ '-' :: release =
      place'.write name version ++ '-' :: release) : place = place' := by
  cases place with
  | absent =>
    obtain rfl : epoch = none := h
    cases place' with
    | absent => rfl
    | atVersion => exact absurd h' (by simp [Denotes])
    | atName => exact absurd h' (by simp [Denotes])
  | atVersion text =>
    obtain ⟨e, rfl, ht⟩ := h
    cases place' with
    | absent => cases h'
    | atVersion text' => simpa [write] using heq
    | atName text' =>
      -- behind the last dash but one there is an epoch on one side and none on the other
      exact absurd heq (epochAtVersion_ne (ht.not_mem (by decide) (by decide)) hv hr hr)
  | atName text =>
    obtain ⟨e, rfl, -⟩ := h
    cases place' with
    | absent => cases h'
    | atVersion text' =>
      obtain ⟨e', -, ht'⟩ := h'
      exact absurd heq.symm (epochAtVersion_ne (ht'.not_mem (by decide) (by decide)) hv hr hr)
    | atName text' => simpa [write] using heq

end EpochPlace

/-- A spelling is a name, a version and a release with the epoch in one of its places. -/
theorem spelling_iff {p : Package} {body : List Char} :
    Spelling p body ↔ ∃ place : EpochPlace,
      body = place.write p.name.toList p.version.toList ++ '-' :: p.release.toList ∧
        place.Guards p.name.toList p.version.toList ∧ place.Denotes p.epoch := by
  constructor
  · intro h
    cases h with
    | plain he hn hv => exact ⟨.absent, rfl, ⟨hn, hv⟩, he⟩
    | epochAtVersion he ht hn => exact ⟨.atVersion _, rfl, hn, _, he, ht⟩
    | epochAtName he ht hv => exact ⟨.atName _, rfl, hv, _, he, ht⟩
  · rintro ⟨place, rfl, hguards, hdenotes⟩
    cases place with
    | absent => exact .plain hdenotes hguards.1 hguards.2
    | atVersion =>
      obtain ⟨e, he, ht⟩ := hdenotes
      exact .epochAtVersion he ht hguards
    | atName =>
      obtain ⟨e, he, ht⟩ := hdenotes
      exact .epochAtName he ht hguards

/-! ### Readings -/

/-- **A reading of a specifier**: its parts as they are written. -/
structure Reading where
  /-- The name. -/
  name : List Char
  /-- The version. -/
  version : List Char
  /-- The release. -/
  release : List Char
  /-- Where the epoch stands, and how it is written. -/
  place : EpochPlace
  /-- The architecture, if one is written. -/
  arch : Option String

namespace Reading

/-- The text that the parts make up. -/
def text (w : Reading) : List Char :=
  w.place.write w.name w.version ++ '-' :: w.release ++ archText w.arch

/-- **A reading reads a text**: its parts make up the text, and they are such that they end where
the text shows it. -/
structure Reads (w : Reading) (s : List Char) : Prop where
  text_eq : w.text = s
  name_ne : w.name ≠ []
  version_ne : w.version ≠ []
  release_ne : w.release ≠ []
  version_dash : '-' ∉ w.version
  release_dash : '-' ∉ w.release
  guards : w.place.Guards w.name w.version
  /-- What stands in the place of an epoch is one. -/
  epoch : ∃ epoch, w.place.Denotes epoch
  /-- An architecture that is written is known. -/
  arch_known : ∀ arch ∈ w.arch, arch ∈ architectures
  /-- Where none is written, what follows the last dot of the text is not a known one. -/
  arch_absent : w.arch = none → ∀ front last, s = front ++ '.' :: last → '.' ∉ last →
    String.ofList last ∉ architectures

/-- **A reading denotes a build**: they have the same parts, with the epoch by its value. -/
structure Denotes (w : Reading) (p : Package) : Prop where
  name_eq : p.name.toList = w.name
  version_eq : p.version.toList = w.version
  release_eq : p.release.toList = w.release
  epoch : w.place.Denotes p.epoch
  arch_eq : p.arch = w.arch

theorem Reads.exists_denotes {w : Reading} {s : List Char} (h : w.Reads s) :
    ∃ p, w.Denotes p := by
  obtain ⟨epoch, he⟩ := h.epoch
  exact ⟨⟨String.ofList w.name, epoch, String.ofList w.version, String.ofList w.release, w.arch⟩,
    String.toList_ofList, String.toList_ofList, String.toList_ofList, he, rfl⟩

end Reading

/-- A body with its architecture, said of the whole text. -/
theorem withArchitecture_iff {body s : List Char} {arch : Option String} :
    WithArchitecture body arch s ↔ body ++ archText arch = s ∧
      (∀ a ∈ arch, a ∈ architectures) ∧
      (arch = none → ∀ front last, s = front ++ '.' :: last → '.' ∉ last →
        String.ofList last ∉ architectures) := by
  constructor
  · intro h
    refine ⟨h.eq_append.symm, h.mem_architectures, ?_⟩
    rintro rfl front last rfl - hlast
    cases h with
    | absent hnone =>
      refine hnone _ hlast ⟨front, ?_⟩
      rw [String.toList_ofList]
  · rintro ⟨rfl, hknown, hnone⟩
    cases arch with
    | some a => exact .known (hknown a rfl)
    | none =>
      rw [archText, List.append_nil] at hnone ⊢
      refine .absent ?_
      rintro a ha ⟨front, hfront⟩
      refine hnone rfl front a.toList hfront.symm (mark_not_mem_architecture ha).1 ?_
      rwa [String.ofList_toList]

/-- A text spells a build if it has a reading that denotes the build. -/
theorem exists_reading_iff_spells {s : List Char} {p : Package} :
    (∃ w : Reading, w.Reads s ∧ w.Denotes p) ↔ Spells s p := by
  constructor
  · rintro ⟨⟨_, _, _, place, _⟩, hreads, hdenotes⟩
    obtain ⟨rfl, rfl, rfl, he, rfl⟩ := hdenotes
    exact ⟨hreads.name_ne, hreads.version_ne, hreads.release_ne, hreads.version_dash,
      hreads.release_dash, _, spelling_iff.mpr ⟨place, rfl, hreads.guards, he⟩,
      withArchitecture_iff.mpr ⟨hreads.text_eq, hreads.arch_known, hreads.arch_absent⟩⟩
  · rintro ⟨hnne, hvne, hrne, hvdash, hrdash, body, hbody, harch⟩
    obtain ⟨place, rfl, hguards, he⟩ := spelling_iff.mp hbody
    obtain ⟨htext, hknown, habsent⟩ := withArchitecture_iff.mp harch
    exact ⟨⟨p.name.toList, p.version.toList, p.release.toList, place, p.arch⟩,
      ⟨htext, hnne, hvne, hrne, hvdash, hrdash, hguards, ⟨_, he⟩, hknown, habsent⟩,
      rfl, rfl, rfl, he, rfl⟩

/-- **No text has two readings.** -/
theorem Reading.Reads.unique {v w : Reading} {s : List Char} (hv : v.Reads s) (hw : w.Reads s) :
    v = w := by
  obtain ⟨p, hp⟩ := hv.exists_denotes
  obtain ⟨q, hq⟩ := hw.exists_denotes
  -- both builds are what the parser returns for the text
  have hparse : parseTrimmed s = .ok p :=
    parseTrimmed_eq_ok_iff.mpr (exists_reading_iff_spells.mp ⟨v, hv, hp⟩)
  rw [parseTrimmed_eq_ok_iff.mpr (exists_reading_iff_spells.mp ⟨w, hw, hq⟩)] at hparse
  obtain rfl := Except.ok.inj hparse
  obtain ⟨name, version, release, place, arch⟩ := v
  obtain ⟨rfl, rfl, rfl, he, rfl⟩ := hp
  obtain ⟨name', version', release', place', arch'⟩ := w
  obtain ⟨rfl, rfl, rfl, he', rfl⟩ := hq
  -- only the epochs are left, and the bodies they stand in are equal
  have htext := List.append_cancel_right (hv.text_eq.trans hw.text_eq.symm)
  obtain rfl := EpochPlace.eq_of_write_eq he he' hv.version_dash hv.release_dash htext
  rfl

/-- **The parser reads what has a reading, and no text has two.** A specifier is accepted as a build
exactly if the text without the blanks around it has a reading that denotes the build; that reading
is the only one of the text; and a specifier without one is an error. -/
theorem parse_eq_ok_iff_exists_reading (spec : String) :
    (∀ p, parse spec = .ok p ↔
      ∃ w : Reading, w.Reads (Text.trim spec.toList) ∧ w.Denotes p) ∧
      (∀ v w : Reading, v.Reads (Text.trim spec.toList) → w.Reads (Text.trim spec.toList) →
        v = w) ∧
      ((∃ e, parse spec = .error e) ↔ ∀ w : Reading, ¬ w.Reads (Text.trim spec.toList)) := by
  have hiff (p : Package) : parse spec = .ok p ↔
      ∃ w : Reading, w.Reads (Text.trim spec.toList) ∧ w.Denotes p :=
    parse_eq_ok_iff.trans exists_reading_iff_spells.symm
  refine ⟨hiff, fun v w hv hw => hv.unique hw, ?_⟩
  constructor
  · rintro ⟨e, he⟩ w hw
    obtain ⟨p, hp⟩ := hw.exists_denotes
    rw [(hiff p).mpr ⟨w, hw, hp⟩] at he
    cases he
  · intro hnone
    cases hp : parse spec with
    | error e => exact ⟨e, rfl⟩
    | ok p =>
      obtain ⟨w, hw, -⟩ := (hiff p).mp hp
      exact absurd hw (hnone w)

/-- Dashes in the name, a colon in the version behind an epoch, and a release that ends like an
architecture. -/
example : parse "gcc-c++-1:8:3.1-5.i686.noarch" =
    .ok ⟨"gcc-c++", some 1, "8:3.1", "5.i686", some "noarch"⟩ := by decide +kernel

end Package

end AdvisoryTriage
