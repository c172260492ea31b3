import ReplicaAtlas.Json.Reader
import ReplicaAtlas.Store

/-!
Stores as the bytes of files: a mark, and the records as a snapshot in JSON. The mark starts with a byte that
is in no text. Floats are kept to the last bit: they stand as texts of their bits, so all other texts have a
letter in front. No bytes at all are an empty store.
-/
namespace ReplicaAtlas

namespace Json

mutual

/-- A value without floats: they and the texts become texts of different first letters. -/
def spelled : Json → Json
  | .number (.float x) => .text ("f" ++ toString x.toBits.toNat)
  | .text s => .text ("t" ++ s)
  | .array items => .array (spelledItems items)
  | .object members => .object (spelledMembers members)
  | v => v

def spelledItems : List Json → List Json
  | [] => []
  | v :: vs => spelled v :: spelledItems vs

def spelledMembers : List (String × Json) → List (String × Json)
  | [] => []
  | (name, v) :: ms => (name, spelled v) :: spelledMembers ms

end

def unspelledText? (s : String) : Option Json :=
  match s.toList with
  | 'f' :: digits => (Numeral.bounded? 64 digits).map fun bits => .float (Float.ofBits bits.toUInt64)
  | 't' :: cs => some (.text (String.ofList cs))
  | _ => none

mutual

def unspelled? : Json → Option Json
  | .text s => unspelledText? s
  | .array items => (unspelledItems? items).map .array
  | .object members => (unspelledMembers? members).map .object
  | v => some v

def unspelledItems? : List Json → Option (List Json)
  | [] => some []
  | v :: vs => do
    let v ← unspelled? v
    let vs ← unspelledItems? vs
    return v :: vs

def unspelledMembers? : List (String × Json) → Option (List (String × Json))
  | [] => some []
  | (name, v) :: ms => do
    let v ← unspelled? v
    let ms ← unspelledMembers? ms
    return (name, v) :: ms

end

end Json

namespace Store

def snapshot (s : Store) : Snapshot :=
  ⟨s.clusters.values, s.bindings.values, s.propagation.values, s.overrides.values⟩

def ofSnapshot (s : Snapshot) : Store where
  bindings := .ofList (s.bindings.map fun b => (b.tableKey, b))
  propagation := .ofList (s.propagation.map fun p => (p.tableKey, p))
  overrides := .ofList (s.overrides.map fun p => (p.tableKey, p))
  clusters := .ofList (s.clusters.map fun c => (c.name, c))

def mark : ByteArray := ByteArray.mk #[255] ++ "replica-atlas store\n".toUTF8

def toBytes (s : Store) : ByteArray := mark ++ s.snapshot.toJson.spelled.render.toUTF8

def ofBytes? (bytes : ByteArray) : Option Store := do
  if bytes.isEmpty then return .empty
  if (bytes.extract 0 mark.size).data ≠ mark.data then none
  let text ← String.fromUTF8? (bytes.extract mark.size bytes.size)
  let records ← (← Json.parse? text).unspelled?
  let snapshot ← (Snapshot.layout.decode (Document.ofJson records)).toOption
  return ofSnapshot snapshot

end Store

end ReplicaAtlas
