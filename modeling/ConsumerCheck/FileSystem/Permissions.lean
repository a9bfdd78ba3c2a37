/-!
# Permissions

The permissions of a file or a directory are twelve bits: three for each of its owner, its group and all
others, and three more above them. Every process here belongs to the owner of all files and has no right
beyond those of the owner.

* `Permissions.mayRead`, `Permissions.mayWrite`, `Permissions.mayEnter` — what a process may do;
* `Permissions.isRunnable` — whether anybody at all may run a file;
* `Permissions.without` — the permissions that a mask leaves.
-/

namespace ConsumerCheck

/-- Permissions, as the number that the bits make. -/
structure Permissions where
  bits : Nat
  deriving DecidableEq, Repr

namespace Permissions

/-- All bits. -/
def every : Nat := 0o7777

/-- The permissions of a new file that is no program. -/
def plain : Permissions := ⟨0o644⟩

/-- The permissions of a new program. -/
def program : Permissions := ⟨0o755⟩

/-- The permissions of a new directory. -/
def folder : Permissions := ⟨0o755⟩

/-- Whether one of these bits is set. -/
def hasAny (p : Permissions) (bits : Nat) : Bool := p.bits &&& bits != 0

/-- Whether a file may be read, or the names in a directory. -/
def mayRead (p : Permissions) : Bool := p.hasAny 0o400

/-- Whether a file may be written, or names in a directory be made and taken away. -/
def mayWrite (p : Permissions) : Bool := p.hasAny 0o200

/-- Whether a file may be run, or a path may lead through a directory. -/
def mayEnter (p : Permissions) : Bool := p.hasAny 0o100

/-- Whether names may be made in a directory and taken away from it. -/
def mayChange (p : Permissions) : Bool := p.mayWrite && p.mayEnter

/-- Whether the owner, the group or somebody else may run a file. -/
def isRunnable (p : Permissions) : Bool := p.hasAny 0o111

/-- The permissions without the bits of a mask. -/
def without (p : Permissions) (mask : Nat) : Permissions := ⟨p.bits &&& (every ^^^ (mask &&& every))⟩

end Permissions

end ConsumerCheck
