/-!
# Readiness

The four things a descriptor can be ready for, as a set.  A registration asks
for reading and writing; errors and hang-ups are reported unasked.
-/

namespace ScriptHost

/-- A set of kinds of readiness. -/
structure Interest where
  /-- One bit for each kind in the set. -/
  bits : UInt8
deriving DecidableEq, Repr, Inhabited

namespace Interest

/-- There is something to read. -/
def readable : Interest := ⟨1⟩

/-- There is room to write. -/
def writable : Interest := ⟨2⟩

/-- Writing can no longer succeed. -/
def error : Interest := ⟨4⟩

/-- The other end is gone. -/
def hangUp : Interest := ⟨8⟩

/-- No readiness at all. -/
def nothing : Interest := ⟨0⟩

/-- The kinds in either set. -/
def union (first second : Interest) : Interest :=
  ⟨first.bits ||| second.bits⟩

/-- Whether the two sets share a kind. -/
def meets (first second : Interest) : Bool :=
  first.bits &&& second.bits ≠ 0

/-- The set without what only the kernel reports. -/
def requested (interest : Interest) : Interest :=
  ⟨interest.bits &&& 3⟩

/-- The union of those sets whose condition holds. -/
def ofConditions (conditions : List (Bool × Interest)) : Interest :=
  conditions.foldl (fun all (holds, kind) => if holds then all.union kind else all) nothing

end Interest

end ScriptHost
