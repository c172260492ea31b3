import ReplicaAtlas.Number.Numeral
import ReplicaAtlas.Text.Scanner

/-!
Texts of TOML documents: basic ones with escapes, literal ones without, each on one line or over many. Over
many lines a newline directly after the opening quotes does not count, a pair of carriage return and newline
is a newline, and one or two quotes may stand right before the closing three.
-/
namespace ReplicaAtlas.Toml
open Text Numeral

def isControl (c : Char) : Bool := c.toNat < 0x20 || c.toNat = 0x7F

def isPlain (c : Char) : Bool := c = '\t' || !isControl c

def isLineSpace (c : Char) : Bool := c = ' ' || c = '\t'

def shortEscape? : Char → Option Char
  | 'b' => some '\x08'
  | 't' => some '\t'
  | 'n' => some '\n'
  | 'f' => some '\x0c'
  | 'r' => some '\r'
  | '"' => some '"'
  | '\\' => some '\\'
  | _ => none

inductive Escape where
  | none
  /-- Hexadecimal digits are still to come, after some that make up the value. -/
  | code (left value : Nat)
  /-- The line was ended with a backslash: blanks and newlines are passed over. -/
  | joining

def endsLine (cs : List Char) : Bool :=
  match cs.dropWhile isLineSpace with
  | '\n' :: _ => true
  | '\r' :: '\n' :: _ => true
  | _ => false

def prepend (c : Char) : Option (List Char × List Char) → Option (List Char × List Char)
  | none => none
  | some (text, rest) => some (c :: text, rest)

/-- The closing quotes of a text over many lines, with the quotes right before them. -/
def closing? (quote : Char) : List Char → Option (List Char × List Char)
  | a :: b :: c :: rest =>
    if a = quote && b = quote && c = quote then
      match rest with
      | d :: e :: rest =>
        if d = quote && e = quote then some ([quote, quote], rest)
        else if d = quote then some ([quote], e :: rest)
        else some ([], d :: e :: rest)
      | [d] => if d = quote then some ([quote], []) else some ([], [d])
      | [] => some ([], [])
    else none
  | _ => none

def basicRest (long : Bool) : Escape → List Char → Option (List Char × List Char)
  | _, [] => Option.none
  | .code left value, c :: rest =>
    match hexValue? c with
    | Option.none => Option.none
    | some digit =>
      let value := 16 * value + digit
      if left ≤ 1 then
        if value.isValidChar then prepend (Char.ofNat value) (basicRest long .none rest) else Option.none
      else basicRest long (.code (left - 1) value) rest
  | escape, c :: rest =>
    let joining := match escape with
      | .joining => true
      | _ => false
    if joining && (isLineSpace c || c = '\n' || (c = '\r' && rest.head? = some '\n')) then
      basicRest long .joining rest
    else if c = '"' then
      if long then
        match closing? '"' (c :: rest) with
        | some closed => some closed
        | Option.none => prepend c (basicRest long .none rest)
      else some ([], rest)
    else if c = '\\' then
      if long && endsLine rest then basicRest long .joining rest
      else match rest with
        | [] => Option.none
        | e :: rest =>
          if e = 'u' then basicRest long (.code 4 0) rest
          else if e = 'U' then basicRest long (.code 8 0) rest
          else match shortEscape? e with
            | some c => prepend c (basicRest long .none rest)
            | Option.none => Option.none
    else if long && c = '\n' then prepend '\n' (basicRest long .none rest)
    else if long && c = '\r' && rest.head? = some '\n' then basicRest long .none rest
    else if isPlain c then prepend c (basicRest long .none rest)
    else Option.none

def literalRest (long : Bool) : List Char → Option (List Char × List Char)
  | [] => none
  | c :: rest =>
    if c = '\'' then
      if long then
        match closing? '\'' (c :: rest) with
        | some closed => some closed
        | none => prepend c (literalRest long rest)
      else some ([], rest)
    else if long && c = '\n' then prepend '\n' (literalRest long rest)
    else if long && c = '\r' && rest.head? = some '\n' then literalRest long rest
    else if isPlain c then prepend c (literalRest long rest)
    else none

def dropNewline : List Char → List Char
  | '\n' :: rest => rest
  | '\r' :: '\n' :: rest => rest
  | cs => cs

def shortText : Scanner String := fun cs =>
  let read := match cs with
    | '"' :: rest => basicRest false .none rest
    | '\'' :: rest => literalRest false rest
    | _ => none
  read.map fun (text, rest) => (String.ofList text, rest)

def text : Scanner String := fun cs =>
  let read := match cs with
    | '"' :: '"' :: '"' :: rest => basicRest true .none (dropNewline rest)
    | '\'' :: '\'' :: '\'' :: rest => literalRest true (dropNewline rest)
    | '"' :: rest => basicRest false .none rest
    | '\'' :: rest => literalRest false rest
    | _ => none
  read.map fun (text, rest) => (String.ofList text, rest)

end ReplicaAtlas.Toml
