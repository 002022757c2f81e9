import AdvisoryTriage.Proofs.Index
import AdvisoryTriage.Resolver

/-!
# The answer to a query

What a resolver answers, for any parts it may be put together from. `Resolver.Answers` says it as a
relation with one clause for each way a query can end: the platform cannot be read, the package
cannot be read, there is no oracle, or there is an answer. The answer is the part of the feed that
mentions the package and that the oracle accepts; there is no index in it. A resolver gives the one
answer that the relation has for a query (`Resolver.answers_iff`).

Two things are worth noting about the order of the clauses. A platform that cannot be read hides all
that is wrong with the package. And the oracle is built before the package is looked up, so a feed
that cannot be judged is an error even for a package that no advisory mentions.
-/

namespace AdvisoryTriage

namespace Resolver

/-- The advisories of a feed that mention a package and that an oracle accepts, in order. -/
def accepted (r : Resolver) (oracle : Oracle) (package : Package) (platform : Cpe) :
    List Advisory :=
  r.feed.advisories.filter fun a =>
    a.MentionsName r.parsePackage package.name ∧ oracle package platform a.name = true

/-- **The answers to a query**, by the way it ends. -/
inductive Answers (r : Resolver) (distro specifier : String) : Except Error (List String) → Prop
  /-- The platform cannot be read. -/
  | badPlatform {e : Cpe.ParseError} (hd : r.parsePlatform distro = .error e) :
      Answers r distro specifier (.error (.parse "distro cpe" distro e.message))
  /-- The platform can be read, the package cannot. -/
  | badPackage {platform : Cpe} {e : Package.ParseError}
      (hd : r.parsePlatform distro = .ok platform) (hp : r.parsePackage specifier = .error e) :
      Answers r distro specifier (.error (.parse "package name" specifier e.message))
  /-- The oracle cannot be built, and the error says so. -/
  | noOracle {platform : Cpe} {package : Package} {reason : String}
      (hd : r.parsePlatform distro = .ok platform) (hp : r.parsePackage specifier = .ok package)
      (ho : r.factory.build r.feed = .error (.construction reason)) :
      Answers r distro specifier (.error (.construction reason))
  /-- The oracle cannot be built for another reason, which becomes the reason of the error. -/
  | otherError {platform : Cpe} {package : Package} {e : Error}
      (hd : r.parsePlatform distro = .ok platform) (hp : r.parsePackage specifier = .ok package)
      (ho : r.factory.build r.feed = .error e) (hne : ∀ reason, e ≠ .construction reason) :
      Answers r distro specifier (.error (.construction e.message))
  /-- The names of the advisories that mention the package and that the oracle accepts. -/
  | answered {platform : Cpe} {package : Package} {oracle : Oracle}
      (hd : r.parsePlatform distro = .ok platform) (hp : r.parsePackage specifier = .ok package)
      (ho : r.factory.build r.feed = .ok oracle) :
      Answers r distro specifier
        (.ok ((r.accepted oracle package platform).map Advisory.name))

/-- With an oracle, the bucket of the package is all that need be asked about. -/
theorem answer_resolveParsed {r : Resolver} {oracle : Oracle}
    (ho : r.factory.build r.feed = .ok oracle) (distro : String) (platform : Cpe)
    (package : Package) :
    (r.resolveParsed distro platform package).answer =
      .ok ((r.accepted oracle package platform).map Advisory.name) := by
  have haccepted : r.accepted oracle package platform =
      (Index.mentioning r.parsePackage r.feed package.name).filter
        fun a => oracle package platform a.name := by
    rw [accepted, Index.mentioning, List.filter_filter]
    refine List.filter_congr fun a _ => ?_
    simp [Bool.and_comm]
  rw [resolveParsed, ho, indexing, Index.get?_build, haccepted]
  split_ifs with hnil
  · rw [hnil]
    rfl
  · simp only [List.filter_map, List.map_map]
    rfl

/-- Without an oracle, the error is one of construction, whatever the factory says. -/
theorem answer_resolveParsed_error {r : Resolver} {e : Error}
    (ho : r.factory.build r.feed = .error e) (distro : String) (platform : Cpe)
    (package : Package) :
    (r.resolveParsed distro platform package).answer = .error e.asConstruction := by
  rw [resolveParsed, ho]

/-- An answer that the relation has for a query is the one that the resolver gives. -/
theorem Answers.eq {r : Resolver} {distro specifier : String} {x : Except Error (List String)}
    (h : r.Answers distro specifier x) : (r.resolve ⟨distro, specifier⟩).answer = x := by
  rw [resolve]
  cases h with
  | badPlatform hd =>
    rw [hd]
    rfl
  | badPackage hd hp =>
    simp only [hd, hp]
    rfl
  | noOracle hd hp ho =>
    simp only [hd, hp]
    exact answer_resolveParsed_error ho _ _ _
  | @otherError _ _ e hd hp ho hne =>
    simp only [hd, hp]
    rw [answer_resolveParsed_error ho]
    cases e with
    | construction reason => exact absurd rfl (hne reason)
    | _ => rfl
  | answered hd hp ho =>
    simp only [hd, hp]
    exact answer_resolveParsed ho _ _ _

/-- The relation has an answer for every query: the clauses leave no case out. -/
theorem Answers.exists (r : Resolver) (distro specifier : String) :
    ∃ x, r.Answers distro specifier x := by
  cases hd : r.parsePlatform distro with
  | error e => exact ⟨_, .badPlatform hd⟩
  | ok platform =>
    cases hp : r.parsePackage specifier with
    | error e => exact ⟨_, .badPackage hd hp⟩
    | ok package =>
      cases ho : r.factory.build r.feed with
      | ok oracle => exact ⟨_, .answered hd hp ho⟩
      | error e =>
        by_cases hc : ∃ reason, e = .construction reason
        · obtain ⟨reason, rfl⟩ := hc
          exact ⟨_, .noOracle hd hp ho⟩
        · exact ⟨_, .otherError hd hp ho fun reason he => hc ⟨reason, he⟩⟩

/-- What a resolver answers to a query is an answer to it. -/
theorem answers_resolve (r : Resolver) (distro specifier : String) :
    r.Answers distro specifier (r.resolve ⟨distro, specifier⟩).answer := by
  obtain ⟨x, hx⟩ := Answers.exists r distro specifier
  rw [hx.eq]
  exact hx

/-- **What a resolver answers**, for any readers, factory, sink and feed: the one answer that the
relation has for the query. No error is of another kind than the two it names, and the sink has no
part in it. -/
theorem answers_iff (r : Resolver) (distro specifier : String) :
    (∀ x, (r.resolve ⟨distro, specifier⟩).answer = x ↔ r.Answers distro specifier x) ∧
      (∀ e, (r.resolve ⟨distro, specifier⟩).answer = .error e →
        (∃ subject input reason, e = .parse subject input reason) ∨
          ∃ reason, e = .construction reason) ∧
      ∀ sink, ({ r with sink := sink }.resolve ⟨distro, specifier⟩).answer =
        (r.resolve ⟨distro, specifier⟩).answer := by
  have ha := answers_resolve r distro specifier
  refine ⟨fun x => ⟨fun h => h ▸ ha, fun h => h.eq⟩, fun e he => ?_, fun sink => ?_⟩
  · rw [he] at ha
    cases ha with
    | badPlatform hd => exact Or.inl ⟨_, _, _, rfl⟩
    | badPackage hd hp => exact Or.inl ⟨_, _, _, rfl⟩
    | noOracle hd hp ho => exact Or.inr ⟨_, rfl⟩
    | otherError hd hp ho hne => exact Or.inr ⟨_, rfl⟩
  · refine Answers.eq ?_
    generalize (r.resolve ⟨distro, specifier⟩).answer = x at ha
    cases ha with
    | badPlatform hd => exact .badPlatform hd
    | badPackage hd hp => exact .badPackage hd hp
    | noOracle hd hp ho => exact .noOracle hd hp ho
    | otherError hd hp ho hne => exact .otherError hd hp ho hne
    | answered hd hp ho => exact .answered hd hp ho

end Resolver

end AdvisoryTriage
