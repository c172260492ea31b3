import ReplicaAtlas.Number.Numeral
import ReplicaAtlas.Toml.Text

/-!
Writing texts for a TOML document. Of the four forms the first one that does without escapes is taken, in
the order basic, literal, basic over many lines, literal over many lines; when there is none the text is
written with escapes, over many lines if it has any newline. A tab is always escaped in a basic text.
-/
namespace ReplicaAtlas.Toml
open Numeral

def needsEscape (c : Char) : Bool := isControl c && c ≠ '\t' && c ≠ '\n'

/-- The length of the longest run of a character, the run up to here having some length already. -/
def longestRun (wanted : Char) (run : Nat) : List Char → Nat
  | [] => run
  | c :: rest =>
    if c = wanted then longestRun wanted (run + 1) rest else max run (longestRun wanted 0 rest)

def codeEscape (c : Char) : List Char :=
  let n := c.toNat
  ['\\', 'u', upperHexDigit (n / 4096 % 16), upperHexDigit (n / 256 % 16), upperHexDigit (n / 16 % 16),
    upperHexDigit (n % 16)]

def basicChar (long : Bool) (c : Char) : List Char :=
  if c = '\x08' then ['\\', 'b']
  else if c = '\t' then ['\\', 't']
  else if c = '\n' then (if long then [c] else ['\\', 'n'])
  else if c = '\x0c' then ['\\', 'f']
  else if c = '\r' then ['\\', 'r']
  else if c = '\\' then ['\\', '\\']
  else if isControl c then codeEscape c
  else [c]

/-- The characters of a basic text. Over many lines two quotes in a row may stand as they are. -/
def basicChars (long : Bool) (quotes : Nat) : List Char → List Char
  | [] => []
  | c :: rest =>
    if c = '"' then
      if long && quotes < 2 then c :: basicChars long (quotes + 1) rest
      else '\\' :: '"' :: basicChars long 0 rest
    else basicChar long c ++ basicChars long 0 rest

inductive TextForm where
  | basic
  | literal
  | longBasic
  | longLiteral
  deriving DecidableEq, Repr

def TextForm.of (cs : List Char) : TextForm :=
  let codes := cs.any needsEscape
  let backslash := cs.contains '\\'
  let newline := cs.contains '\n'
  let double := longestRun '"' 0 cs
  let single := longestRun '\'' 0 cs
  if !codes && !backslash && !newline && double = 0 then .basic
  else if !codes && !newline && single = 0 then .literal
  else if !codes && !backslash && double ≤ 2 then .longBasic
  else if !codes && single ≤ 2 then .longLiteral
  else if newline then .longBasic
  else .basic

def leadingNewline (cs : List Char) : List Char := if cs.contains '\n' then ['\n'] else []

def printText (cs : List Char) : List Char :=
  match TextForm.of cs with
  | .basic => '"' :: basicChars false 0 cs ++ ['"']
  | .literal => '\'' :: cs ++ ['\'']
  | .longBasic => ['"', '"', '"'] ++ leadingNewline cs ++ basicChars true 0 cs ++ ['"', '"', '"']
  | .longLiteral => ['\'', '\'', '\''] ++ leadingNewline cs ++ cs ++ ['\'', '\'', '\'']

def printLine (line : List Char) : List Char := line ++ ['\n']

def printAssignment (name : String) (value : List Char) : List Char :=
  printLine (name.toList ++ [' ', '=', ' '] ++ value)

def printHeader (name : String) : List Char := printLine ('[' :: name.toList ++ [']'])

def printElementHeader (name : String) : List Char := printLine (['[', '['] ++ name.toList ++ [']', ']'])

def printNumber (n : Nat) : List Char := Nat.toDigits 10 n

def printTruth (b : Bool) : List Char := if b then ['t', 'r', 'u', 'e'] else ['f', 'a', 'l', 's', 'e']

end ReplicaAtlas.Toml
