import AdvisoryTriage.Package.Order
import AdvisoryTriage.Proofs.Version.Tokens

/-!
# Package builds are totally preordered

Builds are compared by epoch, then by version, then by release, and each of the three comparisons is
a total preorder; for versions and releases this is `Version.instTransCmpCompare`. So is then the
comparison of builds (`Package.instTransCmpCompareBuilds`).

What fixes are good for rests on it: a build that is not below another one is not below anything the
other one is not below (`Package.compareBuilds_ne_lt_trans`). The laws themselves are in
`Package.compareBuilds_preorder`.
-/

namespace AdvisoryTriage

namespace Package

/-- The comparison of builds as the lexicographic product of its three parts. -/
theorem compareBuilds_eq_compareLex :
    compareBuilds = compareLex (compareOn epochOrZero)
      (compareLex (fun p q => Version.compare p.version q.version)
        fun p q => Version.compare p.release q.release) := rfl

/-- Builds are totally preordered by the order of one of their texts, taken as a version. -/
theorem transCmp_version (text : Package → String) :
    Std.TransCmp fun p q => Version.compare (text p) (text q) where
  eq_swap := Std.OrientedCmp.eq_swap
  isLE_trans hab hbc := Std.TransCmp.isLE_trans hab hbc

/-- **Builds are totally preordered.** -/
instance instTransCmpCompareBuilds : Std.TransCmp compareBuilds := by
  have hv := transCmp_version Package.version
  have hr := transCmp_version Package.release
  rw [compareBuilds_eq_compareLex]
  infer_instance

/-- A build that is not below one that is not below a third is not below the third. -/
theorem compareBuilds_ne_lt_trans {p q r : Package} (hpq : p.compareBuilds q ≠ .lt)
    (hqr : q.compareBuilds r ≠ .lt) : p.compareBuilds r ≠ .lt := by
  rw [ne_eq, ← Ordering.isGE_iff_ne_lt] at hpq hqr ⊢
  exact Std.TransCmp.isGE_trans hpq hqr

/-- **The laws of the order of builds.** Looked at from the other side a comparison is turned round;
of two comparisons in a row that do not go down, the outer builds do not go down either, and they go
up if one of the two does; and builds that compare equal compare in the same way with every third,
although they need not be the same. -/
theorem compareBuilds_preorder (p q r : Package) :
    p.compareBuilds q = (q.compareBuilds p).swap ∧
      (p.compareBuilds q ≠ .gt → q.compareBuilds r ≠ .gt →
        p.compareBuilds r ≠ .gt ∧
          (p.compareBuilds q = .lt ∨ q.compareBuilds r = .lt → p.compareBuilds r = .lt)) ∧
      (p.compareBuilds q = .eq → p.compareBuilds r = q.compareBuilds r) := by
  refine ⟨Std.OrientedCmp.eq_swap, fun hpq hqr => ?_, Std.TransCmp.congr_left⟩
  rw [ne_eq, ← Ordering.isLE_iff_ne_gt] at hpq hqr ⊢
  refine ⟨Std.TransCmp.isLE_trans hpq hqr, ?_⟩
  rintro (hlt | hlt)
  · exact Std.TransCmp.lt_of_lt_of_isLE hlt hqr
  · exact Std.TransCmp.lt_of_isLE_of_lt hpq hlt

/-- A pre-release below a release, and the release spelled with other zeros and separators and
without its epoch of zero. -/
theorem compareBuilds_prerelease :
    let candidate : Package := ⟨"bash", none, "4.4~rc1", "9.el8", none⟩
    let spelled : Package := ⟨"bash", some 0, "4.04", "1.el8", some "x86_64"⟩
    let respelled : Package := ⟨"bash", none, "4..4", "01_el8", none⟩
    candidate.compareBuilds spelled = .lt ∧ spelled.compareBuilds respelled = .eq ∧
      spelled.compareBuilds candidate = .gt ∧ candidate.compareBuilds respelled = .lt ∧
      respelled.compareBuilds candidate = .gt := by
  intro candidate spelled respelled
  have hlt : candidate.compareBuilds spelled = .lt := by decide +kernel
  have heq : spelled.compareBuilds respelled = .eq := by decide +kernel
  have hgt : spelled.compareBuilds candidate = .gt := by
    rw [(compareBuilds_preorder spelled candidate respelled).1, hlt]
    rfl
  refine ⟨hlt, heq, hgt, ?_, ?_⟩
  · have h := (compareBuilds_preorder candidate spelled respelled).2.1
    exact (h (by simp [hlt]) (by simp [heq])).2 (.inl hlt)
  · rw [← (compareBuilds_preorder spelled respelled candidate).2.2 heq, hgt]

end Package

end AdvisoryTriage
