import ReplicaAtlas.Http.Address

/-!
What commands need of the machine they run on, in whatever way it is reached: its files, and the hosts that it is
known as. Failures are the usual causes for which a file cannot be read or made.
-/
namespace ReplicaAtlas

inductive FileFault where
  | missing
  | notDirectory
  | isDirectory
  | alreadyThere
  | notResizable
  | nameTooLong
  | nulInName
  | notText
  | other (message : String)
  deriving DecidableEq, Repr

def FileFault.message : FileFault → String
  | .missing => "No such file or directory (os error 2)"
  | .notDirectory => "Not a directory (os error 20)"
  | .isDirectory => "Is a directory (os error 21)"
  | .alreadyThere => "File exists (os error 17)"
  | .notResizable => "Invalid argument (os error 22)"
  | .nameTooLong => "File name too long (os error 36)"
  | .nulInName => "file name contained an unexpected NUL byte"
  | .notText => "stream did not contain valid UTF-8"
  | .other message => message

structure Machine (m : Type → Type) where
  read : String → m (Except FileFault ByteArray)
  /-- The bytes of a file, which is made if it is missing. -/
  obtain : String → m (Except FileFault ByteArray)
  write : String → ByteArray → m (Except FileFault Unit)
  makeDirectories : String → m (Except FileFault Unit)
  /-- Only a host that is assigned to the machine can be listened at. -/
  isAssigned : Http.Host → m Bool

end ReplicaAtlas
