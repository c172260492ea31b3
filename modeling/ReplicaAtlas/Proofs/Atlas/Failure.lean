import ReplicaAtlas.Atlas.Api
import ReplicaAtlas.Proofs.Atlas.Reading

/-!
When queries fail. A query fails with the first of the sources it needs that is out of reach and is answered if none
is, whatever the store holds and whatever the member clusters tell. The view of a workload needs its policies and
then its bindings; it does without the clusters. Over HTTP a request asks a query or is refused before any source is
read, and what the query comes to is told by the status and by the body.
-/
namespace ReplicaAtlas

namespace Atlas

inductive Question where
  | view (w : Workload)
  | topology (scope : TopologyScope)
  | simulatePlacement (request : PlacementRequest)
  | simulateStrategy (request : StrategyRequest)
  | distribution (space : String)
  | clusterViews
  | health

def Question.sources : Question → List Source
  | .view _ => [.policies, .bindings]
  | .topology _ => [.clusters, .policies]
  | .simulatePlacement _ => [.clusters]
  | .simulateStrategy _ => []
  | .distribution _ => [.bindings]
  | .clusterViews => [.clusters]
  | .health => []

def ask (atlas : Atlas) : Question → Except QueryFault Json
  | .view w => (atlas.view w).map WorkloadView.toJson
  | .topology scope => (atlas.topology scope).map Topology.toJson
  | .simulatePlacement request => (atlas.simulatePlacement request).map PlacementAnswer.toJson
  | .simulateStrategy request => .ok (atlas.simulateStrategy request).toJson
  | .distribution space => (atlas.distribution space).map Distribution.toJson
  | .clusterViews => atlas.clusterViews.map (Json.list ClusterView.toJson)
  | .health => .ok (.text "ok")

namespace ApiRequest

def askedOn (r : ApiRequest) : Route → Except ApiRefusal Question
  | .workload space kind name => (readWorkload space kind name).map .view
  | .simulatePlacement => (readBody PlacementRequest.layout.decode r).map .simulatePlacement
  | .simulateStrategy => (readBody StrategyRequest.layout.decode r).map .simulateStrategy
  | .topology => (readScope r).map .topology
  | .distribution => (readSpace r).map .distribution
  | .clusterViews => .ok .clusterViews
  | .health => .ok .health

/-- What a well-formed request asks, or why it is refused. -/
def asked (r : ApiRequest) : Except ApiRefusal Question :=
  match Route.ofPath? r.target.path with
  | none => .error .notFound
  | some route => if route.allows r.method then r.askedOn route else .error .wrongMethod

def shown (r : ApiRequest) (members : List (String × Json)) : Option Json :=
  if r.method = "HEAD" then none else some (.object members)

end ApiRequest

theorem needs_ask {atlas : Atlas} (whole : atlas.outage.Whole) (q : Question) :
    Needs atlas.outage q.sources (atlas.ask q) := by
  cases q with
  | view w => exact (needs_view whole w).map _
  | topology scope => exact (needs_topology whole scope).map _
  | simulatePlacement request => exact (needs_simulatePlacement atlas request).map _
  | simulateStrategy request => exact .of_ok atlas.outage.first?_nil
  | distribution space => exact (needs_distribution atlas space).map _
  | clusterViews => exact (needs_clusterViews atlas).map _
  | health => exact .of_ok atlas.outage.first?_nil

theorem ofQuery_eq {α : Type} (encode : α → Json) (result : Except QueryFault α) :
    ApiAnswer.ofQuery encode result = .ofQuery id (result.map encode) := by
  cases result with
  | error fault => rfl
  | ok value => rfl

private theorem handled {α : Type} (atlas : Atlas) (reading : Except ApiRefusal α) {question : α → Question}
    {answer : α → ApiAnswer} (agrees : ∀ value, answer value = .ofQuery id (atlas.ask (question value))) :
    (do return answer (← reading)) = (reading.map question).map fun q => .ofQuery id (atlas.ask q) := by
  cases reading with
  | error refusal => rfl
  | ok value => exact congrArg Except.ok (agrees value)

theorem handle_eq (atlas : Atlas) (r : ApiRequest) (route : Route) :
    atlas.handle r route = (r.askedOn route).map fun q => .ofQuery id (atlas.ask q) := by
  cases route with
  | workload space kind name => exact handled atlas _ fun w => ofQuery_eq _ (atlas.view w)
  | simulatePlacement => exact handled atlas _ fun request => ofQuery_eq _ (atlas.simulatePlacement request)
  | simulateStrategy => exact handled atlas _ fun request => rfl
  | topology => exact handled atlas _ fun scope => ofQuery_eq _ (atlas.topology scope)
  | distribution => exact handled atlas _ fun space => ofQuery_eq _ (atlas.distribution space)
  | clusterViews => exact congrArg Except.ok (ofQuery_eq _ atlas.clusterViews)
  | health => rfl

/-- A request is refused or asks a query, and which of the two is settled before any source is read. -/
theorem answer_eq (atlas : Atlas) (r : ApiRequest) :
    atlas.answer r = match r.asked with
      | .error refusal => .refusal refusal
      | .ok q => if r.method = "HEAD" then { ApiAnswer.ofQuery id (atlas.ask q) with body := none }
          else .ofQuery id (atlas.ask q) := by
  unfold answer ApiRequest.asked
  cases Route.ofPath? r.target.path with
  | none => rfl
  | some route =>
    dsimp only
    rw [handle_eq]
    cases route.allows r.method with
    | false => rfl
    | true =>
      cases r.askedOn route with
      | error refusal => rfl
      | ok q => rfl

/-- A request that asks a query is told its failure, or its data if the sources that it needs are in reach. -/
structure Tells (atlas : Atlas) (r : ApiRequest) (q : Question) : Prop where
  fails : ∀ fault, atlas.outage.first? q.sources = some fault →
    atlas.answer r = ⟨503, r.shown [("success", .bool false), ("error", .text fault.message)]⟩
  answers : atlas.outage.first? q.sources = none → ∃ data, atlas.ask q = .ok data ∧
    atlas.answer r = ⟨200, r.shown [("success", .bool true), ("data", data)]⟩

theorem tells_of_asked {atlas : Atlas} (whole : atlas.outage.Whole) {r : ApiRequest} {q : Question}
    (asked : r.asked = .ok q) : atlas.Tells r q := by
  have needs := needs_ask whole q
  have answered := atlas.answer_eq r
  rw [asked] at answered
  dsimp only at answered
  constructor
  · intro fault first
    have failed := (needs.fails fault).2 first
    rw [failed] at answered
    rw [answered]
    unfold ApiRequest.shown
    split
    case isTrue head => rfl
    case isFalse other => rfl
  · intro reached
    obtain ⟨data, told⟩ := needs.answers.2 reached
    refine ⟨data, told, ?_⟩
    rw [told] at answered
    rw [answered]
    unfold ApiRequest.shown
    split
    case isTrue head => rfl
    case isFalse other => rfl

/-- How every query of the atlas comes out, and how the requests for it are answered. -/
structure FailsBySource (atlas : Atlas) : Prop where
  view : ∀ w, Needs atlas.outage [.policies, .bindings] (atlas.view w)
  topology : ∀ scope, Needs atlas.outage [.clusters, .policies] (atlas.topology scope)
  simulatePlacement : ∀ request, Needs atlas.outage [.clusters] (atlas.simulatePlacement request)
  clusterViews : Needs atlas.outage [.clusters] atlas.clusterViews
  distribution : ∀ space, Needs atlas.outage [.bindings] (atlas.distribution space)
  members : ∀ members q fault, ask { atlas with members := members } q = .error fault ↔ atlas.ask q = .error fault
  requests : ∀ r q, ApiRequest.asked r = .ok q → atlas.Tells r q

/-- Queries fail with the first of the sources they need that is out of reach, and with nothing else. -/
theorem queries_fail_by_source (atlas : Atlas) (whole : atlas.outage.Whole) : atlas.FailsBySource where
  view := needs_view whole
  topology := needs_topology whole
  simulatePlacement := needs_simulatePlacement atlas
  clusterViews := needs_clusterViews atlas
  distribution := needs_distribution atlas
  members := by
    intro members q fault
    have sameOutage : Outage.Whole { atlas with members := members }.outage := whole
    rw [(needs_ask whole q).fails, (needs_ask sameOutage q).fails]
  requests := by
    intro r q asked
    exact tells_of_asked whole asked

def policiesAlone : Atlas where
  store := .empty
  outage := { Outage.none with
    bindings := some ⟨.unavailable, "bindings"⟩
    clusters := some ⟨.unavailable, "clusters"⟩ }
  members := .empty
  options := .default
  limits := .default

def viewRequest : ApiRequest where
  method := "GET"
  target := ⟨none, "/api/v1/scheduling/workloads/shop/deployments/web", none⟩
  contentType := none
  body := ""

def bindingsLost : Atlas where
  store := (Store.empty.putCluster { Cluster.layout.blank with name := "east" }).putCluster
    { Cluster.layout.blank with name := "west" }
  outage := { Outage.none with bindings := some ⟨.unavailable, "bindings"⟩ }
  members := .empty
  options := .default
  limits := .default

def simulationRequest : ApiRequest where
  method := "POST"
  target := ⟨none, "/api/v1/scheduling/simulate", none⟩
  contentType := some "application/json"
  body := "\x7b\"workload\": \x7b\"replicas\": 5\x7d\x7d"

def fiveReplicas : PlacementRequest := ⟨⟨"", 5⟩, .unrestricted⟩

theorem asked_simulationRequest : ApiRequest.asked simulationRequest = .ok (.simulatePlacement fiveReplicas) := by
  -- The request that is read has tables, which cannot be compared, so it is told by its members.
  have told : (readBody PlacementRequest.layout.decode simulationRequest).toOption.any (fun request =>
      request.workload = fiveReplicas.workload && request.placement.affinity = none &&
        request.placement.labels.isNone && request.placement.replicas = none) = true := by decide +kernel
  refine congrArg (Except.map Question.simulatePlacement) (?_ : _ = Except.ok fiveReplicas)
  cases read : readBody PlacementRequest.layout.decode simulationRequest with
  | error refusal =>
    rw [read] at told
    cases told
  | ok request =>
    rw [read] at told
    obtain ⟨workload, affinity, labels, replicas⟩ := request
    simp only [Except.toOption, Option.any_some, Bool.and_eq_true, decide_eq_true_eq, Option.isNone_iff_eq_none] at told
    obtain ⟨⟨⟨rfl, rfl⟩, rfl⟩, rfl⟩ := told
    rfl

/-- The view needs the bindings, and placing replicas needs the clusters alone. -/
theorem queries_fail_by_source_without_bindings :
    policiesAlone.outage.Whole ∧ bindingsLost.outage.Whole ∧
      ApiRequest.asked viewRequest = .ok (.view (.named "shop" "web" "Deployment")) ∧
      ApiRequest.asked simulationRequest = .ok (.simulatePlacement fiveReplicas) ∧
      policiesAlone.answer viewRequest = ⟨503, some (.object [("success", .bool false),
        ("error", .text "binding store unreachable: store unavailable: bindings")])⟩ ∧
      policiesAlone.answer simulationRequest = ⟨503, some (.object [("success", .bool false),
        ("error", .text "cluster store unreachable: store unavailable: clusters")])⟩ ∧
      ∃ answer, bindingsLost.simulatePlacement fiveReplicas = .ok answer ∧
        answer.allocation.map (fun a => (a.cluster, a.replicas)) = [("east", 5), ("west", 5)] ∧
        bindingsLost.answer simulationRequest =
          ⟨200, some (.object [("success", .bool true), ("data", answer.toJson)])⟩ := by
  have viewAsked : ApiRequest.asked viewRequest = .ok (.view (.named "shop" "web" "Deployment")) := by rfl
  have few := queries_fail_by_source policiesAlone rfl
  have most := queries_fail_by_source bindingsLost rfl
  refine ⟨rfl, rfl, viewAsked, asked_simulationRequest, ?_, ?_, ?_⟩
  · exact (few.requests viewRequest _ viewAsked).fails ⟨.bindings, ⟨.unavailable, "bindings"⟩⟩ rfl
  · exact (few.requests simulationRequest _ asked_simulationRequest).fails ⟨.clusters, ⟨.unavailable, "clusters"⟩⟩ rfl
  · obtain ⟨data, placed, answered⟩ := (most.requests simulationRequest _ asked_simulationRequest).answers rfl
    rw [ask] at placed
    obtain ⟨answer, simulated, rfl⟩ := map_ok_iff.1 placed
    refine ⟨answer, simulated, ?_, answered⟩
    have allocated : (bindingsLost.simulatePlacement fiveReplicas).toOption.map
        (·.allocation.map fun a => (a.cluster, a.replicas)) = some [("east", 5), ("west", 5)] := by decide +kernel
    rw [simulated] at allocated
    exact Option.some.inj allocated

end Atlas

end ReplicaAtlas
