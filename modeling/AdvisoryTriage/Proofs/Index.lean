import AdvisoryTriage.Index
import AdvisoryTriage.Proofs.Package.Grammar
import Mathlib.Data.List.Nodup
import Mathlib.Data.Set.Card

/-!
# What an index holds

An index is built advisory by advisory, and an advisory name by name. What comes of it is said
without either loop: a bucket holds the advisories of the feed that mention its name, in the order
of the feed, each of them as often as it is in the feed (`Index.get?_build`).

An advisory mentions a name (`Advisory.MentionsName`) if one of its specifiers is that of a build of
that name or one of its statements is about it. How often it does so plays no part, since the names
are collected without repetition before the advisory is filed (`Mentions.nodup_ofAdvisory`); that is
what makes one entry of it.

What the index leaves out is said in the same way: the diagnostics of building it are the specifiers
of the feed that cannot be read, one by one and in order (`Index.diagnostics_build`).

An index can be looked into in several ways, and they all show one and the same set of names, the
names that the feed mentions (`Feed.mentioned`), each with its bucket and none with an empty one
(`Index.HoldsFeed`, `Index.holdsFeed_build`).

The reader of specifiers is any function.
-/

namespace AdvisoryTriage

variable {parse : String → Except Package.ParseError Package}

/-! ### Mentioning a name -/

namespace Advisory

/-- **An advisory mentions a name** if it has a fix with a specifier that denotes a build of that
name, or a statement about that name. -/
def MentionsName (parse : String → Except Package.ParseError Package) (a : Advisory)
    (name : String) : Prop :=
  (∃ fix ∈ a.fixes, ∃ specifier package, fix.package? = some specifier ∧
      parse specifier = .ok package ∧ package.name = name) ∨
    ∃ state ∈ a.states, state.package? = some name

/-- The base name of the build that a specifier denotes, if it denotes one. -/
def baseName? (parse : String → Except Package.ParseError Package) (specifier : String) :
    Option String :=
  (parse specifier).toOption.map Package.name

theorem baseName?_eq_some_iff {specifier name : String} :
    baseName? parse specifier = some name ↔
      ∃ package, parse specifier = .ok package ∧ package.name = name := by
  rw [baseName?, Option.map_eq_some_iff]
  cases parse specifier <;> simp [Except.toOption]

/-- The names that an advisory mentions, as often as it does. -/
def mentionedNames (parse : String → Except Package.ParseError Package) (a : Advisory) :
    List String :=
  (a.fixes.filterMap Fix.package?).filterMap (baseName? parse) ++
    a.states.filterMap PackageState.package?

theorem mem_mentionedNames_iff {a : Advisory} {name : String} :
    name ∈ a.mentionedNames parse ↔ a.MentionsName parse name := by
  simp only [mentionedNames, MentionsName, List.mem_append, List.mem_filterMap,
    baseName?_eq_some_iff]
  constructor
  · rintro (⟨s, ⟨fix, hfix, hs⟩, p, hp, hn⟩ | h)
    · exact Or.inl ⟨fix, hfix, s, p, hs, hp, hn⟩
    · exact Or.inr h
  · rintro (⟨fix, hfix, s, p, hs, hp, hn⟩ | h)
    · exact Or.inl ⟨s, ⟨fix, hfix, hs⟩, p, hp, hn⟩
    · exact Or.inr h

instance (a : Advisory) (name : String) : Decidable (a.MentionsName parse name) :=
  decidable_of_iff _ mem_mentionedNames_iff

end Advisory

/-! ### Collecting the names of an advisory -/

namespace Mentions

theorem mem_names_addName {m : Mentions} {x n : String} :
    n ∈ (m.addName x).names ↔ n ∈ m.names ∨ n = x := by
  rw [addName]
  split_ifs with h
  · exact ⟨Or.inl, fun hn => hn.elim id fun he => he ▸ h⟩
  · simp

theorem nodup_addName {m : Mentions} (x : String) (h : m.names.Nodup) :
    (m.addName x).names.Nodup := by
  rw [addName]
  split_ifs with hx
  · exact h
  · exact List.nodup_append.mpr ⟨h, List.nodup_singleton x, by
      rintro y hy z hz rfl
      exact hx (List.mem_singleton.mp hz ▸ hy)⟩

/-- A specifier adds the base name of the build it denotes, if it denotes one. -/
theorem mem_names_addSpecifier {advisory : String} {m : Mentions} {s n : String} :
    n ∈ (m.addSpecifier parse advisory s).names ↔
      n ∈ m.names ∨ Advisory.baseName? parse s = some n := by
  rw [addSpecifier, Advisory.baseName?]
  cases parse s with
  | ok p => simp [mem_names_addName, Except.toOption, eq_comm]
  | error e => simp [Except.toOption]

theorem nodup_addSpecifier {advisory : String} {m : Mentions} (s : String)
    (h : m.names.Nodup) : (m.addSpecifier parse advisory s).names.Nodup := by
  rw [addSpecifier]
  cases parse s with
  | ok p => exact nodup_addName _ h
  | error e => exact h

/-- Names that are added one after the other are all there in the end. -/
theorem mem_names_foldl {β : Type} {step : Mentions → β → Mentions} {name? : β → Option String}
    {n : String} (hstep : ∀ m x, n ∈ (step m x).names ↔ n ∈ m.names ∨ name? x = some n)
    (xs : List β) :
    ∀ m, n ∈ (xs.foldl step m).names ↔ n ∈ m.names ∨ n ∈ xs.filterMap name? := by
  induction xs with
  | nil => intro m; simp
  | cons x xs ih =>
    intro m
    rw [List.foldl_cons, ih, hstep, or_assoc]
    simp only [List.mem_filterMap, List.mem_cons, exists_eq_or_imp]

/-- The names collected of an advisory are those that it mentions. -/
theorem mem_names_ofAdvisory {a : Advisory} {n : String} :
    n ∈ (ofAdvisory parse a).names ↔ a.MentionsName parse n := by
  have hspec : ∀ m s, n ∈ (addSpecifier parse a.name m s).names ↔
      n ∈ m.names ∨ Advisory.baseName? parse s = some n := fun _ _ => mem_names_addSpecifier
  have hname : ∀ m x, n ∈ (addName m x).names ↔ n ∈ m.names ∨ some x = some n := by
    intro m x
    rw [mem_names_addName, Option.some.injEq, eq_comm]
  rw [ofAdvisory, mem_names_foldl hname, mem_names_foldl hspec, List.filterMap_some,
    ← Advisory.mem_mentionedNames_iff, Advisory.mentionedNames, List.mem_append]
  simp

/-- Each of them is collected once. -/
theorem nodup_ofAdvisory (a : Advisory) : (ofAdvisory parse a).names.Nodup := by
  refine List.foldlRecOn (motive := fun m : Mentions => m.names.Nodup) _ addName ?_
    fun _ h x _ => nodup_addName x h
  exact List.foldlRecOn (motive := fun m : Mentions => m.names.Nodup) _ _ List.nodup_nil
    fun _ h s _ => nodup_addSpecifier s h

end Mentions

/-! ### Filing -/

namespace Index

theorem get?_file (a : Advisory) (index : Index) (name other : String) :
    (file a index name).get? other =
      if name = other then some ((index.get? name).getD [] ++ [a]) else index.get? other := by
  rw [file, get?, Keyed.get?_update]
  rfl

/-- Filing an advisory under some names puts it at the end of the bucket of each. -/
theorem get?_foldl_file (a : Advisory) {names : List String} (hn : names.Nodup) (other : String) :
    ∀ index : Index, (names.foldl (file a) index).get? other =
      if other ∈ names then some ((index.get? other).getD [] ++ [a]) else index.get? other := by
  induction names with
  | nil => intro index; simp
  | cons name names ih =>
    intro index
    obtain ⟨hname, hnames⟩ := List.nodup_cons.mp hn
    rw [List.foldl_cons, ih hnames, get?_file]
    rcases eq_or_ne name other with rfl | hne
    · rw [if_neg hname, if_pos rfl, if_pos List.mem_cons_self]
    · simp [hne, hne.symm]

/-- Filing an advisory changes the buckets of the names that it mentions. -/
theorem get?_add (i : Indexing) (a : Advisory) (name : String) :
    (i.add parse a).index.get? name =
      if a.MentionsName parse name then some ((i.index.get? name).getD [] ++ [a])
      else i.index.get? name := by
  rw [Indexing.add, get?_foldl_file a (Mentions.nodup_ofAdvisory a)]
  simp only [Mentions.mem_names_ofAdvisory]

/-- Taking in advisories one after the other puts those that mention a name at the end of its
bucket, in their order. -/
theorem get?_foldl_add (name : String) (as : List Advisory) :
    ∀ i : Indexing, (as.foldl (Indexing.add parse) i).index.get? name =
      if as.filter (fun a => a.MentionsName parse name) = [] then i.index.get? name
      else some ((i.index.get? name).getD [] ++
        as.filter fun a => a.MentionsName parse name) := by
  induction as with
  | nil => intro i; simp
  | cons a as ih =>
    intro i
    rw [List.foldl_cons, ih, get?_add, List.filter_cons]
    by_cases ha : a.MentionsName parse name
    · by_cases has : as.filter (fun a => a.MentionsName parse name) = [] <;> simp [ha, has]
    · simp [ha]

/-- The advisories of a feed that mention a name, in the order of the feed. -/
def mentioning (parse : String → Except Package.ParseError Package) (feed : Feed)
    (name : String) : List Advisory :=
  feed.advisories.filter fun a => a.MentionsName parse name

/-- **What an index holds**: under each name the advisories that mention it, in the order of the
feed, and nothing under a name that none of them mentions. -/
theorem get?_build (feed : Feed) (name : String) :
    (build parse feed).index.get? name =
      if mentioning parse feed name = [] then none else some (mentioning parse feed name) :=
  get?_foldl_add name feed.advisories ⟨empty, []⟩

end Index

/-! ### What is left out -/

/-- The diagnostic of a fix: its specifier is there, not empty, and cannot be read. -/
def Fix.diagnostic? (parse : String → Except Package.ParseError Package) (advisory : String)
    (fix : Fix) : Option Diagnostic :=
  match fix.package? with
  | none => none
  | some specifier =>
    match parse specifier with
    | .ok _ => none
    | .error error => some ⟨advisory, specifier, error⟩

/-- **The specifiers of a feed that cannot be read**, each with its advisory and with what is wrong
with it, in the order of the feed. -/
def Feed.unreadable (parse : String → Except Package.ParseError Package) (feed : Feed) :
    List Diagnostic :=
  feed.advisories.flatMap fun a => a.fixes.filterMap (Fix.diagnostic? parse a.name)

namespace Mentions

theorem diagnostics_addName (m : Mentions) (name : String) :
    (m.addName name).diagnostics = m.diagnostics := by
  rw [addName]
  split_ifs <;> rfl

theorem diagnostics_foldl_addName (names : List String) :
    ∀ m : Mentions, (names.foldl addName m).diagnostics = m.diagnostics := by
  induction names with
  | nil => exact fun _ => rfl
  | cons name names ih =>
    intro m
    rw [List.foldl_cons, ih, diagnostics_addName]

/-- The fixes of an advisory leave their diagnostics behind, in their order. -/
theorem diagnostics_foldl_addSpecifier (advisory : String) (fixes : List Fix) :
    ∀ m, ((fixes.filterMap Fix.package?).foldl (addSpecifier parse advisory) m).diagnostics =
      m.diagnostics ++ fixes.filterMap (Fix.diagnostic? parse advisory) := by
  induction fixes with
  | nil => intro m; simp
  | cons fix fixes ih =>
    intro m
    cases hs : fix.package? with
    | none =>
      have hd : fix.diagnostic? parse advisory = none := by rw [Fix.diagnostic?, hs]
      rw [List.filterMap_cons_none hs, List.filterMap_cons_none hd, ih]
    | some s =>
      rw [List.filterMap_cons_some hs, List.foldl_cons, ih, addSpecifier]
      cases hp : parse s with
      | ok package =>
        have hd : fix.diagnostic? parse advisory = none := by simp only [Fix.diagnostic?, hs, hp]
        rw [List.filterMap_cons_none hd, diagnostics_addName]
      | error e =>
        have hd : fix.diagnostic? parse advisory = some ⟨advisory, s, e⟩ := by
          simp only [Fix.diagnostic?, hs, hp]
        rw [List.filterMap_cons_some hd, List.append_assoc, List.singleton_append]

theorem diagnostics_ofAdvisory (a : Advisory) :
    (ofAdvisory parse a).diagnostics = a.fixes.filterMap (Fix.diagnostic? parse a.name) := by
  rw [ofAdvisory, diagnostics_foldl_addName, diagnostics_foldl_addSpecifier, List.nil_append]

end Mentions

namespace Index

theorem diagnostics_foldl_add (as : List Advisory) :
    ∀ i : Indexing, (as.foldl (Indexing.add parse) i).diagnostics =
      i.diagnostics ++ as.flatMap fun a => a.fixes.filterMap (Fix.diagnostic? parse a.name) := by
  induction as with
  | nil => intro i; simp
  | cons a as ih =>
    intro i
    rw [List.foldl_cons, ih, Indexing.add, Mentions.diagnostics_ofAdvisory, List.flatMap_cons,
      List.append_assoc]

/-- **What building an index reports**: the specifiers of the feed that cannot be read. -/
theorem diagnostics_build (feed : Feed) :
    (build parse feed).diagnostics = feed.unreadable parse := by
  rw [build, diagnostics_foldl_add, List.nil_append, Feed.unreadable]

end Index

/-! ### The whole index -/

/-- **The names that a feed mentions**, through any of its advisories. -/
def Feed.mentioned (parse : String → Except Package.ParseError Package) (feed : Feed) :
    Set String :=
  {name | ∃ a ∈ feed.advisories, a.MentionsName parse name}

namespace Index

theorem mentioning_ne_nil_iff {feed : Feed} {name : String} :
    mentioning parse feed name ≠ [] ↔ name ∈ feed.mentioned parse := by
  simp only [mentioning, ne_eq, List.filter_eq_nil_iff, decide_eq_true_eq, not_forall, not_not,
    exists_prop]
  rfl

/-- An index has a bucket for a name exactly if the feed mentions it. -/
theorem get?_build_eq_some_iff {feed : Feed} {name : String} {bucket : List Advisory} :
    (build parse feed).index.get? name = some bucket ↔
      name ∈ feed.mentioned parse ∧ bucket = mentioning parse feed name := by
  rw [get?_build, ← mentioning_ne_nil_iff]
  split_ifs with hnil
  · simp [hnil]
  · simp [hnil, eq_comm]

/-- Filing an advisory gives no name a second bucket: it is added to the bucket that is there. -/
theorem nodup_packages_add {i : Indexing} (a : Advisory) (h : i.index.packages.Nodup) :
    (i.add parse a).index.packages.Nodup :=
  List.foldlRecOn (motive := fun index : Index => index.packages.Nodup) _ _ h
    fun _ h _ _ => Keyed.nodup_names_update h

/-- No name has two buckets. -/
theorem nodup_packages_build (feed : Feed) : (build parse feed).index.packages.Nodup :=
  List.foldlRecOn (motive := fun i : Indexing => i.index.packages.Nodup) _ _ List.nodup_nil
    fun _ h a _ => nodup_packages_add a h

theorem mem_packages_iff {index : Index} {name : String} :
    name ∈ index.packages ↔ ∃ bucket, index.get? name = some bucket := by
  rw [packages, ← Keyed.isSome_get?_iff, Option.isSome_iff_exists, get?]

theorem mem_packages_build {feed : Feed} {name : String} :
    name ∈ (build parse feed).index.packages ↔ name ∈ feed.mentioned parse := by
  simp [mem_packages_iff, get?_build_eq_some_iff]

/-- The reader of package specifiers never gives the empty name, and a statement about it counts as
one about nothing. -/
theorem empty_not_mem_mentioned (feed : Feed) : "" ∉ feed.mentioned Package.parse := by
  rintro ⟨a, -, ⟨fix, -, specifier, package, -, hp, hname⟩ | ⟨state, -, hstate⟩⟩
  · exact Package.name_ne_of_parse hp hname
  · exact (nonempty?_eq_some_iff.mp hstate).2 rfl

/-- **An index holds a feed**, whichever way it is looked into. -/
structure HoldsFeed (parse : String → Except Package.ParseError Package) (feed : Feed)
    (index : Index) : Prop where
  /-- A name that no advisory mentions has no bucket. -/
  get?_unmentioned : ∀ name, (∀ a ∈ feed.advisories, ¬ a.MentionsName parse name) →
    index.get? name = none
  /-- A name that some advisory mentions has those that do, in the order of the feed and as often
  as they are in the feed. -/
  get?_mentioned : ∀ name, (∃ a ∈ feed.advisories, a.MentionsName parse name) →
    index.get? name = some (feed.advisories.filter fun a => a.MentionsName parse name)
  contains_iff : ∀ name, index.contains name = true ↔ name ∈ feed.mentioned parse
  mem_packages : ∀ name, name ∈ index.packages ↔ name ∈ feed.mentioned parse
  nodup_packages : index.packages.Nodup
  /-- The entries are the names, each once, with the buckets that looking them up gives. -/
  names_entries : index.entries.map Prod.fst = index.packages
  mem_entries : ∀ name bucket, (name, bucket) ∈ index.entries ↔ index.get? name = some bucket
  /-- No bucket is empty. -/
  bucket_ne_nil : ∀ name bucket, (name, bucket) ∈ index.entries → bucket ≠ []
  size_eq : index.size = (feed.mentioned parse).ncard
  isEmpty_iff : index.isEmpty = true ↔ feed.mentioned parse = ∅

/-- **Building an index** over any feed with any reader of specifiers gives an index that holds the
feed, and reports exactly the specifiers that the reader refuses. With the reader of package
specifiers, nothing is filed under the empty name. -/
theorem holdsFeed_build (feed : Feed) :
    HoldsFeed parse feed (build parse feed).index ∧
      (build parse feed).diagnostics = feed.unreadable parse ∧
      "" ∉ (build Package.parse feed).index.packages := by
  have hentries (name : String) (bucket : List Advisory) :
      (name, bucket) ∈ (build parse feed).index.entries ↔
        (build parse feed).index.get? name = some bucket :=
    (Keyed.get?_eq_some_iff (nodup_packages_build feed)).symm
  -- the count and the test for emptiness are those of the names as a set
  have hcoe : feed.mentioned parse = ((build parse feed).index.packages.toFinset : Set String) := by
    ext name
    rw [List.coe_toFinset, Set.mem_ofPred_eq, mem_packages_build]
  refine ⟨?_, diagnostics_build feed, ?_⟩
  · constructor
    case get?_unmentioned =>
      intro name hnone
      rw [get?_build, if_pos]
      exact List.filter_eq_nil_iff.mpr fun a ha => by simpa using hnone a ha
    case get?_mentioned => exact fun name hsome => get?_build_eq_some_iff.mpr ⟨hsome, rfl⟩
    case contains_iff =>
      intro name
      rw [contains, Option.isSome_iff_exists, ← mem_packages_iff, mem_packages_build]
    case mem_packages => exact fun name => mem_packages_build
    case nodup_packages => exact nodup_packages_build feed
    case names_entries => rfl
    case mem_entries => exact hentries
    case bucket_ne_nil =>
      intro name bucket hmem
      obtain ⟨hname, rfl⟩ := get?_build_eq_some_iff.mp ((hentries name bucket).mp hmem)
      exact mentioning_ne_nil_iff.mpr hname
    case size_eq =>
      rw [hcoe, Set.ncard_coe_finset, List.toFinset_card_of_nodup (nodup_packages_build feed)]
      exact (List.length_map _).symm
    case isEmpty_iff =>
      rw [hcoe, Finset.coe_eq_empty, List.toFinset_eq_empty_iff, packages, Keyed.names,
        List.map_eq_nil_iff, isEmpty, List.isEmpty_iff]
  · rw [mem_packages_build]
    exact empty_not_mem_mentioned feed

end Index

end AdvisoryTriage
