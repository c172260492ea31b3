import ReplicaAtlas.Atlas.Basic
import ReplicaAtlas.Command.Arguments
import ReplicaAtlas.Command.Machine
import ReplicaAtlas.Config
import ReplicaAtlas.Store.File

/-!
What the commands do. Importing reads the configuration and the snapshot before it touches the store;
serving opens the store before it looks at the address, whose host has to be the machine's. The first failure ends
a command.
-/
namespace ReplicaAtlas

inductive CommandFault where
  | unreadableConfig (path : String) (fault : FileFault)
  | config (fault : ConfigFault)
  | unwritableConfig
  | unreadableSnapshot (path : String)
  | malformedSnapshot (path : String)
  | storeDirectory (path : String)
  | directory (fault : FileFault)
  | store (fault : StoreFault)
  | address (text : String)
  | unassigned
  deriving DecidableEq, Repr

def CommandFault.message : CommandFault → String
  | .unreadableConfig path fault => s!"failed to read config file {path}: {fault.message}"
  | .config fault => fault.message
  | .unwritableConfig => "failed to render config"
  | .unreadableSnapshot path => s!"read snapshot {path}"
  | .malformedSnapshot path => s!"parse snapshot {path}"
  | .storeDirectory path => s!"create state directory {path}"
  | .directory fault => fault.message
  | .store fault => fault.message
  | .address text => s!"invalid listen address {text}"
  | .unassigned => "Cannot assign requested address (os error 99)"

inductive Outcome where
  | printed (text : String)
  | done
  /-- An atlas is to be served at an address until the service is told to stop. -/
  | serving (address : Http.Address) (atlas : Atlas) (endpoints : List ClusterEndpoint)

namespace Command
variable {m : Type → Type} [Monad m]

abbrev Action (m : Type → Type) (α : Type) := ExceptT CommandFault m α

def attempt {α : Type} (action : m (Except FileFault α)) (fault : FileFault → CommandFault) : Action m α := do
  match ← action with
  | .ok a => return a
  | .error f => throw (fault f)

def loadConfig (machine : Machine m) : Option String → Action m Config
  | none => return .default
  | some path => do
    let contents ← attempt (machine.read path) (.unreadableConfig path)
    match (String.fromUTF8? contents).map Config.ofToml with
    | none => throw (.unreadableConfig path .notText)
    | some (.ok config) => return config
    | some (.error fault) => throw (.config fault)

def isIdle (part : String) : Bool := part = "" || part = "."

def splitPath (path : String) : String × List String :=
  match path.splitOn "/" with
  | "" :: part :: parts => ("/", part :: parts)
  | "." :: parts => (".", "" :: parts)
  | parts => ("", parts)

/-- The directory that a path is in, as the path spells it; none for the root and for the empty path. -/
def parent? (path : String) : Option String :=
  let (start, parts) := splitPath path
  match parts.reverse.dropWhile isIdle with
  | [] => if start = "." then some "" else none
  | _ :: above => some (start ++ "/".intercalate (above.dropWhile isIdle).reverse)

def storeFault (detail : String) : CommandFault := .store ⟨.opening, "I/O error: " ++ detail⟩

def openStore (machine : Machine m) (path : String) : Action m Store := do
  let contents ← attempt (machine.obtain path) fun fault => storeFault fault.message
  match Store.ofBytes? contents with
  | none => throw (storeFault "invalid data")
  | some store =>
    if contents.isEmpty then attempt (machine.write path store.toBytes) fun fault => storeFault fault.message
    return store

def makeParent (machine : Machine m) (path : String) (fault : String → FileFault → CommandFault) : Action m Unit :=
  match parent? path with
  | none => return
  | some directory => attempt (machine.makeDirectories directory) (fault directory)

def readSnapshot (machine : Machine m) (file : String) : Action m Snapshot := do
  let contents ← attempt (machine.read file) fun _ => .unreadableSnapshot file
  let reading := (String.fromUTF8? contents).map Json.read
  match reading.map fun reading => Snapshot.layout.decode.ofText (reading.document, reading.trailing) with
  | some (.ok snapshot) => return snapshot
  | _ => throw (.malformedSnapshot file)

def runImport (machine : Machine m) (file : String) (config store : Option String) : Action m Outcome := do
  let config ← loadConfig machine config
  let path := store.getD config.storePath
  let snapshot ← readSnapshot machine file
  makeParent machine path fun _ fault => .directory fault
  let found ← openStore machine path
  attempt (machine.write path (found.importSnapshot snapshot).toBytes) fun fault => storeFault fault.message
  return .done

def surveyOptions (config : Config) : Action m SurveyOptions :=
  match config.survey.options with
  | .ok options => return options
  | .error fault => throw (.config fault)

def runServe (machine : Machine m) (config listen store : Option String) : Action m Outcome := do
  let config ← loadConfig machine config
  let path := store.getD config.storePath
  let address := listen.getD config.listen
  makeParent machine path fun directory _ => .storeDirectory directory
  let found ← openStore machine path
  let options ← surveyOptions config
  let atlas : Atlas := ⟨found, .none, .empty, options, ⟨config.replicaLimit⟩⟩
  match Http.Address.parse? address with
  | none => throw (.address address)
  | some address =>
    if ← machine.isAssigned address.host then return .serving address atlas config.endpoints
    else throw .unassigned

def run (machine : Machine m) : Command → Action m Outcome
  | .serve config listen store => runServe machine config listen store
  | .importFile file config store => runImport machine file config store
  | .printConfig =>
    match Config.default.toToml? with
    | some text => return .printed text
    | none => throw .unwritableConfig

end Command

end ReplicaAtlas
