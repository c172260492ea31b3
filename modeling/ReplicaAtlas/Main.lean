import ReplicaAtlas.Command.Run
import ReplicaAtlas.Command.Service

/-!
The program: its arguments name a command, which works on this machine. Success ends in zero, a
failed command in one with the fault on standard error, and arguments that name no command in two.
-/
namespace ReplicaAtlas

def FileFault.ofError (fault : IO.Error) : FileFault :=
  match fault with
  | .noFileOrDirectory .. => .missing
  | .alreadyExists .. => .alreadyThere
  | .invalidArgument _ code _ => if code = 36 then .nameTooLong else .other (toString fault)
  | .inappropriateType _ code _ => if code = 20 then .notDirectory else .isDirectory
  | fault => .other (toString fault)

def onDisk {α : Type} (action : IO α) : IO (Except FileFault α) := do
  try return .ok (← action) catch fault => return .error (.ofError fault)

def thisMachine : Machine IO where
  read path := onDisk (IO.FS.readBinFile path)
  obtain path := onDisk do
    let _ ← IO.FS.Handle.mk path .append
    IO.FS.readBinFile path
  write path contents := onDisk (IO.FS.writeBinFile path contents)
  makeDirectories path := onDisk (if path.isEmpty then return else IO.FS.createDirAll path)
  isAssigned := Service.isAssigned

def usage : String := "\n".intercalate [
  "usage: replica-atlas [--log-json] COMMAND", "", "commands:",
  "  serve [--config FILE] [--listen ADDRESS] [--state FILE]",
  "  import SNAPSHOT [--config FILE] [--state FILE]",
  "  print-config"]

def fail (message : String) : IO UInt32 := do
  IO.eprintln ("Error: " ++ message)
  return 1

def finish : Outcome → IO UInt32
  | .printed text => do
    IO.print text
    return 0
  | .done => return 0
  | .serving address atlas endpoints => do
    try
      Service.run address atlas endpoints
      return 0
    catch fault => fail (toString fault)

end ReplicaAtlas

open ReplicaAtlas in
def main (arguments : List String) : IO UInt32 := do
  match Command.read arguments with
  | .help =>
    IO.println usage
    return 0
  | .misuse =>
    IO.eprintln usage
    return 2
  | .run command =>
    match ← (Command.run thisMachine command).run with
    | .ok outcome => finish outcome
    | .error fault => fail fault.message
