/-!
# Packages

A package build is named by five things: its base name, an epoch that most packages do without, its
version, the release of that version, and the architecture it was built for. Written out they read
`name-epoch:version-release.arch`, where an absent epoch or architecture takes its mark along.
-/

namespace AdvisoryTriage

/-- A package build, installed or fixed. -/
structure Package where
  /-- The base name, without epoch, version and release. -/
  name : String
  /-- The epoch, if one is given. -/
  epoch : Option UInt32
  /-- The version of the packaged software. -/
  version : String
  /-- The release of the package within the version. -/
  release : String
  /-- The architecture, if one is given. -/
  arch : Option String
deriving DecidableEq

namespace Package

/-- The epoch, where an absent one counts as zero. -/
def epochOrZero (p : Package) : UInt32 :=
  p.epoch.getD 0

/-- A package written out, with the epoch in front of the version. -/
def print (p : Package) : String :=
  p.name ++ "-" ++
    (match p.epoch with
      | some e => e.toNat.repr ++ ":"
      | none => "") ++
    p.version ++ "-" ++ p.release ++
    match p.arch with
      | some a => "." ++ a
      | none => ""

end Package

end AdvisoryTriage
