/-!
The arguments of the command line. They are read from left to right, and the first fault or the first
request for help decides. An option has its value after an equals sign or in the next argument, which must
not look like an option then; after two hyphens everything is an operand.
-/
namespace ReplicaAtlas

inductive Command where
  | serve (config listen store : Option String)
  | importFile (file : String) (config store : Option String)
  | printConfig
  deriving DecidableEq, Repr

inductive Request where
  | run (command : Command)
  | help
  | misuse
  deriving DecidableEq, Repr

namespace Command

inductive Verb where
  | serve
  | importFile
  | printConfig
  deriving DecidableEq, Repr

namespace Verb

def named? (name : String) : Option Verb :=
  if name = "serve" then some .serve
  else if name = "import" then some .importFile
  else if name = "print-config" then some .printConfig
  else none

def options : Verb → List String
  | .serve => ["config", "listen", "state"]
  | .importFile => ["config", "state"]
  | .printConfig => []

def operands : Verb → Nat
  | .importFile => 1
  | _ => 0

end Verb

inductive Argument where
  | long (name : String) (value : Option String)
  | short (letters : List Char)
  | separator
  | operand (text : String)
  deriving DecidableEq, Repr

def Argument.of (text : String) : Argument :=
  match text.toList with
  | ['-', '-'] => .separator
  | '-' :: '-' :: cs =>
    let name := cs.takeWhile (· != '=')
    .long (String.ofList name)
      (if name.length = cs.length then none else some (String.ofList (cs.drop (name.length + 1))))
  | '-' :: c :: cs => .short (c :: cs)
  | _ => .operand text

structure Progress where
  verb : Verb
  values : List (String × String)
  operands : List String
  jsonLogs : Bool
  deriving DecidableEq, Repr

namespace Progress

def finish (p : Progress) : Request :=
  let value (name : String) : Option String := (p.values.find? (·.1 == name)).map (·.2)
  match p.verb, p.operands with
  | .serve, [] => .run (.serve (value "config") (value "listen") (value "state"))
  | .importFile, [file] => .run (.importFile file (value "config") (value "state"))
  | .printConfig, [] => .run .printConfig
  | _, _ => .misuse

def addValue (p : Progress) (name value : String) : Option Progress :=
  if p.values.any (·.1 == name) || (value.isEmpty && name != "listen") then none
  else some { p with values := (name, value) :: p.values }

def addOperand (p : Progress) (text : String) : Option Progress :=
  if p.verb.operands ≤ p.operands.length || text.isEmpty then none
  else some { p with operands := p.operands ++ [text] }

def readOperands (p : Progress) (arguments : List String) : Request :=
  match arguments.foldlM addOperand p with
  | some p => p.finish
  | none => .misuse

end Progress

def readFrom (p : Progress) : List String → Request
  | [] => p.finish
  | text :: rest =>
    match Argument.of text with
    | .separator => p.readOperands rest
    | .short letters => if letters.head? = some 'h' then .help else .misuse
    | .operand text =>
      match p.addOperand text with
      | some p => readFrom p rest
      | none => .misuse
    | .long name value =>
      if name = "help" then (if value.isNone then .help else .misuse)
      else if name = "log-json" then
        if p.jsonLogs || value.isSome then .misuse else readFrom { p with jsonLogs := true } rest
      else if !p.verb.options.contains name then .misuse
      else match value, rest with
        | some value, rest =>
          match p.addValue name value with
          | some p => readFrom p rest
          | none => .misuse
        | none, next :: rest =>
          match Argument.of next with
          | .operand value =>
            match p.addValue name value with
            | some p => readFrom p rest
            | none => .misuse
          | _ => .misuse
        | none, [] => .misuse

def readHelp : List String → Request
  | [] => .help
  | [name] => if name = "help" || (Verb.named? name).isSome then .help else .misuse
  | _ => .misuse

def readTop (jsonLogs : Bool) : List String → Request
  | [] => .misuse
  | text :: rest =>
    match Argument.of text with
    | .separator => .misuse
    | .short letters => if letters.head? = some 'h' then .help else .misuse
    | .long name value =>
      if name = "help" then (if value.isNone then .help else .misuse)
      else if name = "log-json" && value.isNone && !jsonLogs then readTop true rest
      else .misuse
    | .operand name =>
      if name = "help" then readHelp rest
      else match Verb.named? name with
        | some verb => readFrom ⟨verb, [], [], false⟩ rest
        | none => .misuse

def read (arguments : List String) : Request := readTop false arguments

end Command

end ReplicaAtlas
