import ReplicaAtlas.Toml.Numeral
import ReplicaAtlas.Toml.Text
import ReplicaAtlas.Toml.Tree

/-!
Reading a TOML document. A document is a list of lines: assignments, headers, and lines without either. An
assignment takes more than one line when an array or a text in its value does.
-/
namespace ReplicaAtlas.Toml
open Text Numeral Items

def spaces : Scanner Unit := fun cs => some ((), cs.dropWhile isLineSpace)

def newline : Scanner Unit
  | '\n' :: rest => some ((), rest)
  | '\r' :: '\n' :: rest => some ((), rest)
  | _ => none

def comment : Scanner Unit := do
  symbol '#'
  let _ ← Scanner.run isPlain

def lineEnd : Scanner Unit := Scanner.either newline Scanner.atEnd

def lineRest : Scanner Unit := do
  spaces
  let _ ← Scanner.optionally comment
  lineEnd

def gap : Scanner Unit := do
  let _ ← Scanner.repeated <| Scanner.either (do let _ ← Scanner.run1 isLineSpace) <|
    Scanner.either newline (do comment; newline)

def isBare (c : Char) : Bool := c.isAlphanum || c = '-' || c = '_'

def bareKey : Scanner String := do return String.ofList (← Scanner.run1 isBare)

def keyPart : Scanner String := do
  spaces
  let part ← Scanner.either shortText bareKey
  spaces
  return part

def nestingLimit : Nat := 80

def splitLast (first : String) : List String → List String × String
  | [] => ([], first)
  | second :: rest =>
    let (path, last) := splitLast second rest
    (first :: path, last)

def key : Scanner (List String × String) := do
  let first ← keyPart
  let rest ← Scanner.repeated (symbol '.' *> keyPart)
  if nestingLimit ≤ rest.length + 1 then Scanner.fail else return splitLast first rest

def truth : Scanner Bool :=
  Scanner.either (do Scanner.exactly ['t', 'r', 'u', 'e']; return true)
    (do Scanner.exactly ['f', 'a', 'l', 's', 'e']; return false)

def scalar : Scanner Document :=
  Scanner.either (do return .text (← text)) <|
  Scanner.either (do return .bool (← truth)) number

def array (item : Scanner Document) : Scanner Document := do
  symbol '['
  let comma := symbol ','
  let items ← Scanner.separated comma (do
    gap
    let value ← item
    gap
    return value)
  if !items.isEmpty then
    let _ ← Scanner.optionally comma
  gap
  symbol ']'
  return .array items false

def assignment (value : Scanner Document) : Scanner Assignment := do
  let (path, name) ← key
  symbol '='
  spaces
  return ⟨path, name, ← value⟩

def braces (value : Scanner Document) : Scanner Document := do
  symbol '\x7b'
  let assignments ← Scanner.separated (symbol ',') (Scanner.before (assignment value) spaces)
  spaces
  symbol '\x7d'
  match inlineTable assignments with
  | some table => return table
  | none => Scanner.fail

def valueWithin : Nat → Scanner Document
  | 0 => scalar
  | levels + 1 =>
    Scanner.either (array (valueWithin levels)) <| Scanner.either (braces (valueWithin levels)) scalar

def value : Scanner Document := valueWithin (nestingLimit - 1)

inductive Line where
  | blank
  | assignment (a : Assignment)
  | header (path : List String) (name : String) (isElement : Bool)

def header (opening closing : List Char) (isElement : Bool) : Scanner Line := do
  Scanner.exactly opening
  let (path, name) ← key
  Scanner.exactly closing
  return .header path name isElement

def line : Scanner Line := do
  spaces
  Scanner.either (do newline; return .blank) <|
  Scanner.either (do comment; lineEnd; return .blank) <|
  Scanner.either (Scanner.before (header ['[', '['] [']', ']'] true) lineRest) <|
  Scanner.either (Scanner.before (header ['['] [']'] false) lineRest)
    (Scanner.before (do return .assignment (← assignment value)) lineRest)

def byteOrderMark : Char := '\uFEFF'

def lines : Scanner (List Line) := do
  let _ ← Scanner.optionally (symbol byteOrderMark)
  let lines ← Scanner.repeated line
  spaces
  Scanner.atEnd
  return lines

def sections : List Line → List Assignment × List Section
  | [] => ([], [])
  | .blank :: rest => sections rest
  | .assignment a :: rest =>
    let (assignments, parts) := sections rest
    (a :: assignments, parts)
  | .header path name isElement :: rest =>
    let (assignments, parts) := sections rest
    ([], ⟨path, name, isElement, assignments⟩ :: parts)

def parse? (text : String) : Option Document := do
  let (lines, _) ← lines text.toList
  let (top, parts) := sections lines
  assemble top parts

end ReplicaAtlas.Toml
