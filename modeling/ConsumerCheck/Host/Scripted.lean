import ConsumerCheck.FileSystem.Seed
import ConsumerCheck.World

/-!
# A runner with prepared answers

`Runner.scripted` answers commands from a list, one answer for each, like `RecordingRunner`. When the list is
used up, every command ends with the code zero and writes nothing.
-/

namespace ConsumerCheck

/-- A prepared answer, and what is made before it is given. -/
structure PreparedReply where
  creates : List Seed
  reply : Reply
  deriving Repr

/-- A runner with prepared answers; what they make is relative to `wd`. -/
def Runner.scripted (wd : Location) : Runner (List PreparedReply) where
  announce _ := []
  respond _ replies fs :=
    match replies with
    | [] => (.ok ⟨.code 0, [], []⟩, [], fs)
    | p :: rest => (p.reply, rest, fs.plantAll wd p.creates)

end ConsumerCheck
