import ReplicaAtlas.Proofs.Atlas.View
import ReplicaAtlas.Proofs.Member.Calls
import ReplicaAtlas.Proofs.Member.Exchange

/-!
All that is asked of member clusters. A survey makes the calls that are needed and no others, however its tasks are
run; the view of a workload without a binding asks for no pods; and over HTTP a call is one request at most.
-/
namespace ReplicaAtlas

namespace Survey

/-- A survey makes its calls: a run of its tasks makes some of them until it ends, and all of them then. -/
structure MakesCalls (survey : Survey) (members : Table Member) (clusters : List String) : Prop where
  begun : ∀ {calls state}, (survey.clustersActivity members).Runs (clusterTasks clusters) calls state →
    calls.Subperm (survey.calls members clusters)
  whole : ∀ {calls outcomes}, survey.Concludes members clusters calls outcomes →
    calls.Perm (survey.calls members clusters) ∧ survey.NeededCalls members clusters calls
  ends : ∃ calls outcomes, survey.Concludes members clusters calls outcomes

theorem makesCalls (survey : Survey) (members : Table Member) (clusters : List String) :
    survey.MakesCalls members clusters where
  begun run := calls_subperm_of_runs run
  whole concludes := by
    have same := calls_perm_of_concludes concludes
    exact ⟨same, (survey.neededCalls_calls members clusters).of_perm same⟩
  ends := by
    obtain ⟨calls, concludes⟩ := (survey.concludes_iff members clusters _).2 rfl
    exact ⟨calls, _, concludes⟩

end Survey

namespace Atlas

structure AsksForNoPods (atlas : Atlas) (w : Workload) (view : WorkloadView) : Prop where
  shown : ∃ calls, Survey.Concludes ⟨atlas.options, w, true⟩ atlas.members (view.placements.map (·.cluster)) calls
    view.outcomes
  spared : ∀ {calls state},
    (Survey.clustersActivity ⟨atlas.options, w, true⟩ atlas.members).Runs
      (Survey.clusterTasks (view.placements.map (·.cluster))) calls state →
    ∀ cluster node, .pods cluster node ∉ calls

theorem asksForNoPods {atlas : Atlas} {w : Workload} {view : WorkloadView} (shown : atlas.view w = .ok view)
    (unbound : atlas.store.binding? w = none) : atlas.AsksForNoPods w view := by
  obtain ⟨draft, drawn, rfl⟩ := view_ok shown
  constructor
  case shown =>
    rw [viewDraft_of_unbound drawn unbound]
    exact (Survey.concludes_iff _ _ _ _).2 rfl
  case spared =>
    intro calls state run cluster node asked
    have needed := Survey.neededCalls_calls ⟨atlas.options, w, true⟩ atlas.members
      ((atlas.viewOf w draft).placements.map (·.cluster))
    have within := (Survey.calls_subperm_of_runs run).subset asked
    exact needed.potential rfl cluster node within

/-- In every order of its tasks a survey lists the nodes of each known cluster once for each of its places, and the
pods of each listed node once, also where a listing of pods fails; without a binding no pods are listed for a view;
and each call over HTTP sends its request once or not at all. -/
theorem only_needed_calls_are_made :
    (∀ (survey : Survey) (members : Table Member) (clusters : List String), survey.MakesCalls members clusters) ∧
    (∀ (atlas : Atlas) (w : Workload) (view : WorkloadView), atlas.view w = .ok view →
      (¬ ∃ key b, atlas.store.Binds w key b) → atlas.AsksForNoPods w view) ∧
    ∀ (e : ClusterEndpoint) (call : Survey.Call) (server : Server), e.AsksOnce call server := by
  refine ⟨Survey.makesCalls, ?_, ClusterEndpoint.asksOnce⟩
  intro atlas w view shown absent
  have unbound : atlas.store.binding? w = none :=
    Store.binding?_eq_none_iff.2 fun key b binds => absent ⟨key, b, binds⟩
  exact asksForNoPods shown unbound

def silentMember : Member :=
  let node (name : String) : Node := ⟨⟨name, "", .empty, [], none⟩, [], [], .empty, .empty⟩
  ⟨.now (.ok [node "n1", node "n2"]), fun name => .now (.error (.status name 503))⟩

def unboundEast : Atlas where
  store := Store.empty.putPolicy .propagation ⟨"all", none, [⟨"", "", "", ""⟩], ⟨some ["east"], none, none⟩⟩
  outage := .none
  members := Table.empty.insert "east" silentMember
  options := .default
  limits := .default

/-- A cluster that is listed twice is asked twice, a failing listing of pods is not repeated, and a cluster without a
client is left alone. -/
theorem only_needed_calls_are_made_in_the_east :
    let w : Workload := ⟨"default", "nginx", "Deployment", "apps/v1"⟩
    let survey : Survey := ⟨.default, w, false⟩
    let e : ClusterEndpoint := ⟨"east", "127.0.0.1:8001", "/k8s/", none⟩
    let server : Server := .answering fun _ => Http.Reply.write 503 ""
    (∃ calls outcomes, survey.Concludes unboundEast.members ["east", "west", "east"] calls outcomes ∧
      calls.Perm [.nodes "east", .pods "east" "n1", .pods "east" "n2",
        .nodes "east", .pods "east" "n1", .pods "east" "n2"]) ∧
    (∃ view, unboundEast.view w = .ok view ∧ (¬ ∃ key b, unboundEast.store.Binds w key b) ∧
      view.placements.map (·.cluster) = ["east"] ∧ unboundEast.AsksForNoPods w view) ∧
    ∃ request requests answer, (e.exchange (e.pathOf (.pods "east" "n1"))).Runs (.opening server) requests
        (.ended answer) ∧ requests = [request] ∧
      request.line = "GET /k8s/api/v1/pods?fieldSelector=spec.nodeName%3Dn1 HTTP/1.1" := by
  intro w survey e server
  obtain ⟨surveys, views, exchanges⟩ := only_needed_calls_are_made
  refine ⟨?_, ?_, ?_⟩
  · obtain ⟨calls, outcomes, concludes⟩ := (surveys survey unboundEast.members ["east", "west", "east"]).ends
    exact ⟨calls, outcomes, concludes, ((surveys survey _ _).whole concludes).1⟩
  · have absent : ¬ ∃ key b, unboundEast.store.Binds w key b := by
      rintro ⟨key, b, binds⟩
      have stands := binds.stands
      cases stands
    have clusters : (unboundEast.view w).map (fun view => view.placements.map (·.cluster)) = .ok ["east"] := by
      decide +kernel
    cases shown : unboundEast.view w with
    | error fault =>
      rw [shown] at clusters
      cases clusters
    | ok view =>
      rw [shown] at clusters
      exact ⟨view, rfl, absent, Except.ok.inj clusters, views unboundEast w view shown absent⟩
  · have asks := exchanges e (.pods "east" "n1") server
    have built : (e.request? (e.pathOf (.pods "east" "n1"))).isSome = true := by decide +kernel
    have rooted : e.IsRooted := ⟨by decide +kernel, by decide +kernel⟩
    obtain ⟨request, built⟩ := Option.isSome_iff_exists.1 built
    obtain ⟨requests, answer, run⟩ := asks.ends
    have sent := asks.sends.2 ⟨⟨_, rfl⟩, built⟩
    refine ⟨request, requests, answer, run, ?_, ?_⟩
    · rw [(asks.whole run).1, sent]
      rfl
    · rw [asks.line rooted built]
      decide +kernel

end Atlas

end ReplicaAtlas
