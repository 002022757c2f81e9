import AdvisoryTriage.Cpe.Basic
import AdvisoryTriage.Text.LowerCase
import AdvisoryTriage.Text.Split
import AdvisoryTriage.Text.Utf8

/-!
# When an entry covers a platform

Entries of security data carry the name of the platform they were published for. Such a name covers
a platform if its vendor, product and version match those of the platform. The part plays no role,
since fixes for layered products are published for applications while hosts name an operating
system, and neither do the other fields.

A component matches by these rules, the first that applies:

1. if either side is `*`, it matches;
2. if either side is `-`, it matches only `-`;
3. letter case is disregarded; if the pattern holds exactly one `*`, that stands for any text;
4. otherwise the two are compared as they are.

By each of these rules a component matches itself, so a platform covers itself (`Cpe.covers_self`).
-/

namespace AdvisoryTriage

namespace Cpe

/-- Whether a pattern matches a value, `*` standing for any text where the pattern holds just one.
What stands before and behind it must not overlap in the value, which is seen from how many bytes
they take. -/
def wildcardMatches (pattern value : List Char) : Bool :=
  match Text.splitFirst? '*' pattern with
  | some (before, behind) =>
    -- with a second asterisk none of them is a wildcard
    if '*' ∈ behind then pattern == value
    else
      Text.byteLength before + Text.byteLength behind ≤ Text.byteLength value &&
        before.isPrefixOf value && behind.isSuffixOf value
  | none => pattern == value

/-- Whether a component of a pattern matches that of a platform. -/
def componentMatches (pattern value : String) : Bool :=
  if pattern = "*" ∨ value = "*" then true
  else if pattern = "-" ∨ value = "-" then pattern == value
  else wildcardMatches (Text.lowerCase pattern.toList) (Text.lowerCase value.toList)

/-- Whether a pattern covers a platform. -/
def covers (pattern target : Cpe) : Bool :=
  componentMatches pattern.vendor target.vendor &&
    componentMatches pattern.product target.product &&
    componentMatches pattern.version target.version

/-! ### A platform covers itself -/

/-- Read as a pattern, a text matches itself, the asterisk standing for an asterisk. -/
theorem wildcardMatches_self (s : List Char) : wildcardMatches s s = true := by
  rw [wildcardMatches]
  cases hs : Text.splitFirst? '*' s with
  | none => simp
  | some cut =>
    obtain ⟨before, behind⟩ := cut
    obtain ⟨rfl, -⟩ := Text.splitFirst?_eq_some_iff.mp hs
    have hbefore : before <+: before ++ '*' :: behind := List.prefix_append _ _
    have hbehind : behind <:+ before ++ '*' :: behind :=
      (List.suffix_cons '*' behind).trans (List.suffix_append before _)
    have hlength := Text.byteLength_append ['*'] behind
    rw [List.singleton_append] at hlength
    simp [hbefore, hbehind, hlength]

theorem componentMatches_self (s : String) : componentMatches s s = true := by
  rw [componentMatches]
  split
  · rfl
  · split
    · exact beq_self_eq_true s
    · exact wildcardMatches_self _

/-- **A platform covers itself**, whatever its components hold. -/
theorem covers_self (c : Cpe) : c.covers c = true := by
  simp only [covers, componentMatches_self, Bool.and_self]

end Cpe

end AdvisoryTriage
