import ReplicaAtlas.Proofs.Encoding.Records
import ReplicaAtlas.Proofs.Json.Limits

/-!
Records that come back from their encodings. What is decoded of any document is decoded again of the value that is
written for it, and what is decoded of a text is decoded again of the text of that value, as long as each float is read
as it was written. The value has a member for each field and no others, so a second encoding changes nothing.
-/
namespace ReplicaAtlas

open Document

/-- Every float in the value is read from its text as it was. -/
def Json.FloatsLegible (v : Json) : Prop := ∀ x, .float x ∈ v.numbers → (Number.float x).Legible

theorem Json.legible_of_within {levels : Nat} {v : Json} (within : v.Within levels) (floats : v.FloatsLegible) :
    ∀ n ∈ v.numbers, n.Legible := by
  intro n member
  cases n with
  | int n => exact Number.legible_int (within.whole n member)
  | float x => exact floats x member

namespace Layout
variable {ρ : Type} {layout : Layout ρ} {encode : ρ → Json}

def ofText (layout : Layout ρ) (text : String) : Except Fault ρ :=
  layout.decode.ofText ((Json.read text).document, (Json.read text).trailing)

theorem decode_of_ofText {text : String} {r : ρ} (decoded : layout.ofText text = .ok r) :
    layout.decode (Json.read text).document = .ok r := by
  obtain ⟨_, decoded, complete⟩ := bind_ok_iff.1 decoded
  split at complete
  · cases complete
  · cases complete
    exact decoded

theorem ofText_render {r : ρ} (reads : layout.decode.ReadsBack encode r) (within : (encode r).Within Json.depthLimit)
    (floats : (encode r).FloatsLegible) : layout.ofText (encode r).render = .ok r := by
  have decoded : layout.decode (ofJson (encode r)) = .ok r := reads
  rw [ofText, Json.read_render within.depth_le (Json.legible_of_within within floats), Decoder.ofText, decoded]
  rfl

/-- The value that the document is rewritten to: what is decoded of it is encoded again. -/
def rewritten (layout : Layout ρ) (encode : ρ → Json) (d : Document) : Except Fault Json :=
  (layout.decode d).map encode

structure Survives (layout : Layout ρ) (encode : ρ → Json) : Prop where
  value : ∀ d r, layout.decode d = .ok r → layout.decode (ofJson (encode r)) = .ok r
  rewrittenOnce : ∀ d v, layout.rewritten encode d = .ok v → layout.rewritten encode (ofJson v) = .ok v
  text : ∀ text r, layout.ofText text = .ok r → (encode r).FloatsLegible → layout.ofText (encode r).render = .ok r

theorem survives (reads : ∀ d r, layout.decode d = .ok r → layout.decode.ReadsBack encode r)
    (within : ∀ d r, Bounded 0 d → layout.decode d = .ok r → (encode r).Within Json.depthLimit) :
    layout.Survives encode where
  value := reads
  rewrittenOnce d v rewritten := by
    obtain ⟨r, decoded, rfl⟩ := map_ok_iff.1 rewritten
    exact map_ok_iff.2 ⟨r, reads d r decoded, rfl⟩
  text text r decoded := by
    have document := decode_of_ofText decoded
    exact ofText_render (reads _ r document) (within _ r (Json.bounded_read text) document)

end Layout

theorem Binding.survives : layout.Survives toJson := by
  refine Layout.survives (fun _ _ decoded => readsBack (kept_of_decode decoded)) fun d b bounded decoded => ?_
  have payloads : ∀ r ∈ b.reports, ∀ v ∈ r.payload, v.Within 124 := by
    intro r among v payload
    obtain ⟨-, part, below, kept⟩ := payloads_of_decode decoded r among v payload
    exact bounded 3 part v below kept
  exact within payloads

theorem Policy.survives : layout.Survives toJson :=
  Layout.survives (fun _ p _ => p.readsBack) fun _ p _ _ => p.within 119

theorem Cluster.survives : layout.Survives toJson :=
  Layout.survives (fun _ c _ => c.readsBack) fun _ c _ _ => c.within 124

theorem Snapshot.survives : layout.Survives toJson := by
  refine Layout.survives (fun _ _ decoded => readsBack (kept_of_decode decoded)) fun d s bounded decoded => ?_
  have payloads : ∀ b ∈ s.bindings, ∀ r ∈ b.reports, ∀ v ∈ r.payload, v.Within 122 := by
    intro b inSnapshot r among v payload
    obtain ⟨-, part, below, kept⟩ := payloads_of_decode decoded b inSnapshot r among v payload
    exact bounded 5 part v below kept
  exact within payloads

end ReplicaAtlas
