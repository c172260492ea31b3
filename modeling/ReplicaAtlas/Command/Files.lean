import ReplicaAtlas.Command.Machine

/-!
Files held in memory: a tree of directories and bytes. A path is followed part by part, each of which must
lead through a directory; a path that does not start at the root starts at the working directory.
-/
namespace ReplicaAtlas

abbrev Location := List String

inductive FileNode where
  | directory
  | file (contents : ByteArray)
  /-- Nothing can be read from it, and nothing is kept in it. -/
  | device

structure Files where
  working : Location
  nodes : List (Location × FileNode)

namespace Files

def node? (files : Files) (place : Location) : Option FileNode :=
  if place.isEmpty then some .directory else (files.nodes.find? (·.1 == place)).map (·.2)

def put (files : Files) (place : Location) (node : FileNode) : Files :=
  { files with nodes := (place, node) :: files.nodes.filter (·.1 != place) }

def advance (place : Location) (part : String) : Location :=
  if part = "" || part = "." then place
  else if part = ".." then place.dropLast
  else place ++ [part]

def parts (path : String) : List String := path.splitOn "/"

def startOf (files : Files) (path : String) : Location := if path.startsWith "/" then [] else files.working

def nameLimit : Nat := 255

def pathLimit : Nat := 4096

def checkName (part : String) : Except FileFault Unit :=
  if nameLimit < part.utf8ByteSize then .error .nameTooLong else .ok ()

def checkPath (path : String) : Except FileFault Unit :=
  if path.toList.contains '\x00' then .error .nulInName
  else if pathLimit ≤ path.utf8ByteSize then .error .nameTooLong
  else .ok ()

def follow (files : Files) (place : Location) : List String → Except FileFault Location
  | [] => .ok place
  | part :: rest =>
    match files.node? place with
    | none => .error .missing
    | some .directory => do
      checkName part
      follow files (advance place part) rest
    | some _ => .error .notDirectory

def locate (files : Files) (path : String) : Except FileFault Location := do
  checkPath path
  if path.isEmpty then throw .missing
  files.follow (files.startOf path) (parts path)

def read (files : Files) (path : String) : Except FileFault ByteArray := do
  match files.node? (← files.locate path) with
  | none => throw .missing
  | some .directory => throw .isDirectory
  | some (.file contents) => return contents
  | some .device => return .empty

def checkDirectory (files : Files) (place : Location) : Except FileFault Unit :=
  match files.node? place with
  | none => .error .missing
  | some .directory => .ok ()
  | some _ => .error .notDirectory

/-- The place of the directory that a path with slashes at its end is in, or is if it ends in dots. -/
def locateAbove (files : Files) (path : String) : Except FileFault Location :=
  let named := ((parts path).reverse.dropWhile (· == "")).reverse
  let isDots := named.getLast? == some "." || named.getLast? == some ".."
  files.follow (files.startOf path) (if isDots then named else named.dropLast)

def locateFile (files : Files) (path : String) : Except FileFault Location := do
  if path.endsWith "/" then
    checkPath path
    files.checkDirectory (← files.locateAbove path)
    throw .isDirectory
  let place ← files.locate path
  if (files.checkDirectory place).isOk then throw .isDirectory else return place

def obtain (files : Files) (path : String) : Except FileFault (ByteArray × Files) := do
  let place ← files.locateFile path
  match files.node? place with
  | some (.file contents) => return (contents, files)
  | some .device => throw .notResizable
  | _ => return (.empty, files.put place (.file .empty))

def write (files : Files) (path : String) (contents : ByteArray) : Except FileFault Files := do
  let place ← files.locateFile path
  return files.put place (.file contents)

/-- A change of the files that may fail. What was done before a failure stays. -/
abbrev Change := ExceptT FileFault (StateM Files)

def child (files : Files) (start : Location) (above : List String) (part : String) :
    Except FileFault Location := do
  let place ← files.follow start above
  files.checkDirectory place
  checkName part
  return advance place part

def makeDirectory (start : Location) (above : List String) (part : String) : Change Unit := do
  let files ← get
  let place ← MonadExcept.ofExcept (files.child start above part)
  match files.node? place with
  | none => set (files.put place .directory)
  | some .directory => return
  | some _ => throw .alreadyThere

/-- The parts of the path come last first. Directories above are made only when it takes them. -/
def makeFrom (start : Location) : List String → Change Unit
  | [] => return
  | part :: above =>
    tryCatch (makeDirectory start above.reverse part) fun fault => do
      if fault = .missing then
        makeFrom start above
        makeDirectory start above.reverse part
      else throw fault

def makeDirectories (path : String) : Change Unit := do
  if !path.isEmpty then
    MonadExcept.ofExcept (checkPath path)
    let parts := (parts path).filter fun part => part != "" && part != "."
    makeFrom ((← get).startOf path) parts.reverse

def attempt (change : Files → Except FileFault Files) : StateM Files (Except FileFault Unit) := fun files =>
  match change files with
  | .ok files => (.ok (), files)
  | .error fault => (.error fault, files)

/-- A machine that has these files, and no host but itself. -/
def disk : Machine (StateM Files) where
  read path := fun files => (files.read path, files)
  obtain path := fun files =>
    match files.obtain path with
    | .ok (contents, files) => (.ok contents, files)
    | .error fault => (.error fault, files)
  write path contents := attempt (·.write path contents)
  makeDirectories path := (Files.makeDirectories path).run
  isAssigned host := pure host.isOwn

end Files

end ReplicaAtlas
