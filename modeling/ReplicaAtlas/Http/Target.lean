import ReplicaAtlas.Text.Blank

/-!
Targets of requests: a path with a query, the same at an absolute address, or an authority alone. What
follows a number sign is no part of a target. Characters beyond ASCII are allowed in paths and queries.
-/
namespace ReplicaAtlas.Http
open Text

structure Target where
  origin : Option (String × String)
  path : String
  query : Option String
  deriving DecidableEq, Repr

namespace Target

def isPathChar (c : Char) : Bool :=
  let n := c.toNat
  n = 0x21 || c = '"' || (0x24 ≤ n && n ≤ 0x3B) || n = 0x3D || (0x40 ≤ n && n ≤ 0x5F) ||
    (0x61 ≤ n && n ≤ 0x7E) || 0x80 ≤ n

def isQueryChar (c : Char) : Bool :=
  let n := c.toNat
  n = 0x21 || (0x24 ≤ n && n ≤ 0x3B) || n = 0x3D || (0x3F ≤ n && n ≤ 0x7E) || 0x80 ≤ n

def query? (cs : List Char) : Option String :=
  let query := cs.takeWhile (· != '#')
  if query.all isQueryChar then some (String.ofList query) else none

def pathAndQuery? (origin : Option (String × String)) (cs : List Char) : Option Target :=
  let path := cs.takeWhile fun c => c != '?' && c != '#'
  let name := if path.isEmpty then "/" else String.ofList path
  if !path.all isPathChar then none
  else match cs.drop path.length with
    | '?' :: rest => (query? rest).map fun query => ⟨origin, name, some query⟩
    | _ => some ⟨origin, name, none⟩

def isAuthorityChar (c : Char) : Bool :=
  c.isAlphanum || "!$&'()*+,-.:;=@[]_~".toList.contains c

structure AuthorityScan where
  colons : Nat
  opened : Bool
  closed : Bool
  percent : Bool
  /-- The last character was the sign before the host. -/
  atSign : Bool

/-- Colons and percent signs count from the end of the user's name, or of an address in brackets. -/
def AuthorityScan.step (s : AuthorityScan) (c : Char) : Option AuthorityScan :=
  let s := { s with atSign := false }
  if c = ':' then (if 8 ≤ s.colons then none else some { s with colons := s.colons + 1 })
  else if c = '[' then (if s.percent || s.opened then none else some { s with opened := true })
  else if c = ']' then
    if !s.opened || s.closed then none else some { s with closed := true, colons := 0, percent := false }
  else if c = '@' then some { s with atSign := true, colons := 0, percent := false }
  else if c = '%' then some { s with percent := true }
  else if isAuthorityChar c then some s
  else none

/-- Brackets are closed, at most one colon is left for the number behind it, and the host is not empty. -/
def isAuthority (cs : List Char) : Bool :=
  match cs.foldlM AuthorityScan.step ⟨0, false, false, false, false⟩ with
  | none => false
  | some s => s.opened == s.closed && s.colons ≤ 1 && !s.atSign && !s.percent

def endsAuthority (c : Char) : Bool := c == '/' || c == '?' || c == '#'

def isSchemeChar (c : Char) : Bool := c.isAlphanum || "+-.~".toList.contains c

def scheme? (cs : List Char) : Option (String × List Char) :=
  let scheme := cs.takeWhile isSchemeChar
  match cs.drop scheme.length with
  | ':' :: '/' :: '/' :: rest =>
    let name := String.ofList scheme
    let lower := String.ofList (scheme.map Char.toLower)
    some (if lower = "http" || lower = "https" then lower else name, rest)
  | _ => none

def schemeLimit : Nat := 64

def absolute? (scheme : String) (rest : List Char) : Option Target :=
  let authority := rest.takeWhile (!endsAuthority ·)
  if schemeLimit < scheme.length || authority.isEmpty || !isAuthority authority then none
  else pathAndQuery? (some (scheme, String.ofList authority)) (rest.drop authority.length)

def sizeLimit : Nat := 65535

def parse? (text : String) : Option Target :=
  let cs := text.toList
  if sizeLimit ≤ text.utf8ByteSize then none
  else match cs with
    | [] => none
    | ['*'] => some ⟨none, "*", none⟩
    | '/' :: _ => pathAndQuery? none cs
    | _ => match scheme? cs with
      | some (scheme, rest) => absolute? scheme rest
      | none => if isAuthority cs then some ⟨none, "", none⟩ else none

def render (t : Target) : String :=
  (match t.origin with
    | some (scheme, authority) => scheme ++ "://" ++ authority
    | none => "") ++ t.path ++
  (match t.query with
    | some query => "?" ++ query
    | none => "")

end Target

end ReplicaAtlas.Http
