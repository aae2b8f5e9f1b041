/-!
# Files

What the system reports about a path, and how reading and writing there turn out.
It reports whether something exists, whether that can be read, and whether the
directories above can be made.  A file below a directory that cannot be searched
is not reported to exist.

Writing may also be refused for reasons outside of the file, such as a full disk;
then the file stays as it was.
-/

namespace FaultFinder

/-- What the system reports about a path. -/
inductive File where
  /-- Nothing exists; the directories above are there or can be made. -/
  | missing
  /-- Nothing exists, and the directories above cannot be made. -/
  | unreachable
  /-- Something exists that can be neither read nor written, such as a directory. -/
  | directory
  /-- A file exists that can be read, and it has the given bytes. -/
  | content (bytes : ByteArray)

/-- Whether the system lets a file be written. -/
inductive Permission where
  /-- Writing succeeds wherever a file can be. -/
  | granted
  /-- Writing fails. -/
  | refused
  deriving DecidableEq

namespace File

/-- The bytes of a file; there are none where no file is. -/
def read? : File → Option ByteArray
  | .content bytes => some bytes
  | _ => none

/-- The file after a text has been written to it. -/
def write? (file : File) (permission : Permission) (text : String) : Option File :=
  match permission, file with
  | .granted, .missing => some (.content text.toUTF8)
  | .granted, .content _ => some (.content text.toUTF8)
  | _, _ => none

end File
end FaultFinder
