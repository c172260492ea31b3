import ReplicaAtlas.Member.Exchange
import ReplicaAtlas.Proofs.Http.Target
import ReplicaAtlas.Proofs.Member.TaskSet
import ReplicaAtlas.Proofs.Member.Trace
import ReplicaAtlas.Proofs.Text.Percent

/-!
One call over HTTP. It sends its request once if there is a server and the request can be built, and nothing
otherwise; a call that is given up early has sent the request or has not. The request is a plain one for the call's
path.
-/
namespace ReplicaAtlas
open Text

namespace Exchange
variable (e : ClusterEndpoint) (path : String)

theorem answer?_eq_some {state : Exchange} {answer : Except MemberFault (List UInt8)}
    (ended : state.answer? = some answer) : state = .ended answer := by
  cases state with
  | ended found =>
    cases ended
    rfl
  | opening server => cases ended
  | connected respond => cases ended
  | awaiting reply => cases ended

def owes : Exchange → List Http.Request
  | .opening server => (e.sent? path server).toList
  | .connected _ => (e.request? path).toList
  | .awaiting _ => []
  | .ended _ => []

theorem exchange_pays : (e.exchange path).Pays (owes e path) where
  step := by
    intro before requests after step
    cases step with
    | refuse => exact .refl _
    | connect => exact .refl _
    | giveUp malformed =>
      rw [owes, owes, malformed]
      exact .refl _
    | send built =>
      rw [owes, owes, built]
      exact .refl _
    | receive => exact .refl _
  result := by
    intro state answer ended
    rw [answer?_eq_some ended]
    rfl

def Agrees : Exchange → Except MemberFault (List UInt8) → Prop
  | .opening server, answer => answer = e.body path server
  | .connected respond, answer => answer = e.body path (.answering respond)
  | .awaiting reply, answer => answer = ClusterEndpoint.received path reply
  | .ended found, answer => found = answer

def distance : Exchange → Nat
  | .opening _ => 3
  | .connected _ => 2
  | .awaiting _ => 1
  | .ended _ => 0

theorem exchange_determines : (e.exchange path).Determines (Agrees e path) distance where
  step := by
    intro before requests after answer step agree
    cases step with
    | refuse => exact agree.symm
    | connect => exact agree
    | giveUp malformed =>
      rw [Agrees, ClusterEndpoint.body, malformed] at agree
      exact agree.symm
    | send built =>
      rw [Agrees, ClusterEndpoint.body, built] at agree
      exact agree
    | receive => exact agree.symm
  result := by
    intro state found answer ended agree
    cases answer?_eq_some ended
    exact agree
  progress := by
    intro state answer agree
    cases state with
    | ended found => exact .inl ⟨found, rfl⟩
    | awaiting reply => exact .inr ⟨_, _, .receive⟩
    | opening server =>
      cases server with
      | absent reason => exact .inr ⟨_, _, .refuse⟩
      | answering respond => exact .inr ⟨_, _, .connect⟩
    | connected respond =>
      cases built : e.request? path with
      | none => exact .inr ⟨_, _, .giveUp built⟩
      | some request => exact .inr ⟨_, _, .send built⟩
  descends := by
    intro before requests after step
    cases step with
    | refuse => exact Nat.zero_lt_succ 2
    | connect => exact Nat.lt_succ_self 2
    | giveUp malformed => exact Nat.zero_lt_succ 1
    | send built => exact Nat.lt_succ_self 1
    | receive => exact Nat.lt_succ_self 0

end Exchange

namespace ClusterEndpoint
variable {e : ClusterEndpoint} {path : String} {server : Server}

theorem exchange_atMost {requests : List Http.Request} {state : Exchange}
    (run : (e.exchange path).Runs (.opening server) requests state) :
    requests = [] ∨ ∃ request, e.sent? path server = some request ∧ requests = [request] := by
  have paid := (Exchange.exchange_pays e path).runs run
  rw [Exchange.owes] at paid
  cases sent : e.sent? path server with
  | none =>
    rw [sent] at paid
    exact .inl (List.append_eq_nil_iff.1 paid.eq_nil).1
  | some request =>
    rw [sent] at paid
    rcases List.append_eq_singleton_iff.1 (List.perm_singleton.1 paid) with ⟨none, -⟩ | ⟨one, -⟩
    · exact .inl none
    · exact .inr ⟨request, rfl, one⟩

theorem exchange_whole {requests : List Http.Request} {answer : Except MemberFault (List UInt8)}
    (run : (e.exchange path).Runs (.opening server) requests (.ended answer)) :
    requests = (e.sent? path server).toList ∧ answer = e.body path server := by
  constructor
  · have paid := (Exchange.exchange_pays e path).concludes run rfl
    rw [Exchange.owes] at paid
    cases sent : e.sent? path server with
    | none =>
      rw [sent] at paid
      exact paid.eq_nil
    | some request =>
      rw [sent] at paid
      exact List.perm_singleton.1 paid
  · exact (Exchange.exchange_determines e path).runs run rfl

theorem exchange_ends (e : ClusterEndpoint) (path : String) (server : Server) :
    ∃ requests answer, (e.exchange path).Runs (.opening server) requests (.ended answer) := by
  have agree : Exchange.Agrees e path (.opening server) (e.body path server) := rfl
  obtain ⟨requests, final, run, ended⟩ := (Exchange.exchange_determines e path).concludes agree
  cases Exchange.answer?_eq_some ended
  exact ⟨requests, e.body path server, run⟩

theorem request?_eq_some_iff {request : Http.Request} :
    e.request? path = some request ↔ Http.Target.parse? path = some request.target ∧ request.method = "GET" ∧
      request.headers = e.headers ∧ ∀ header ∈ e.headers, Http.isHeaderValue header.2 = true := by
  unfold request? Http.Request.get?
  cases parsed : Http.Target.parse? path with
  | none => simp
  | some target =>
    obtain ⟨method, found, headers⟩ := request
    simp only [Option.bind_eq_bind, Option.bind_some, ← List.all_eq_true]
    cases e.headers.all (Http.isHeaderValue ·.2) with
    | true =>
      simp only [if_true, Option.some.injEq, Http.Request.mk.injEq, and_true]
      constructor
      · rintro ⟨rfl, rfl, rfl⟩
        exact ⟨rfl, rfl, rfl⟩
      · rintro ⟨rfl, rfl, rfl⟩
        exact ⟨rfl, rfl, rfl⟩
    | false => simp

theorem sent?_eq_some_iff {request : Http.Request} : e.sent? path server = some request ↔
    (∃ respond, server = .answering respond) ∧ e.request? path = some request := by
  cases server with
  | absent reason => simp [sent?]
  | answering respond => simp [sent?]

/-- What a call asks for below the path of its endpoint begins with a slash and has no number sign. -/
theorem exists_pathOf (e : ClusterEndpoint) (call : Survey.Call) : ∃ resource : List Char,
    (e.pathOf call).toList = e.basePath ++ resource ∧ resource.head? = some '/' ∧ '#' ∉ resource := by
  cases call with
  | nodes cluster => exact ⟨"/api/v1/nodes".toList, String.toList_ofList, rfl, by simp⟩
  | pods cluster node =>
    have unmarked : '#' ∉ Percent.encode node := by
      intro marked
      exact absurd (Percent.mem_encode marked) (by decide)
    refine ⟨"/api/v1/pods?fieldSelector=spec.nodeName%3D".toList ++ Percent.encode node, ?_, ?_, ?_⟩
    · rw [pathOf, podsPath, String.toList_ofList, List.append_assoc]
    · simp
    · simp [unmarked]

structure IsRooted (e : ClusterEndpoint) : Prop where
  head : e.basePath = [] ∨ e.basePath.head? = some '/'
  unmarked : '#' ∉ e.basePath

theorem IsRooted.head?_pathOf (rooted : e.IsRooted) (call : Survey.Call) :
    (e.pathOf call).toList.head? = some '/' := by
  obtain ⟨resource, split, slash, -⟩ := e.exists_pathOf call
  rw [split]
  rcases rooted.head with empty | above
  · rw [empty, List.nil_append]
    exact slash
  · rw [List.head?_append, above]
    rfl

theorem IsRooted.mark_not_mem_pathOf (rooted : e.IsRooted) (call : Survey.Call) :
    '#' ∉ (e.pathOf call).toList := by
  obtain ⟨resource, split, -, unmarked⟩ := e.exists_pathOf call
  rw [split, List.mem_append]
  exact not_or.2 ⟨rooted.unmarked, unmarked⟩

theorem IsRooted.line_of_request? (rooted : e.IsRooted) {call : Survey.Call} {request : Http.Request}
    (built : e.request? (e.pathOf call) = some request) :
    request.line = "GET " ++ e.pathOf call ++ " HTTP/1.1" := by
  obtain ⟨parsed, get, -, -⟩ := request?_eq_some_iff.1 built
  have kept := Http.Target.render_of_rooted (rooted.head?_pathOf call) parsed
  have whole : (e.pathOf call).toList.takeWhile (· != '#') = (e.pathOf call).toList := by
    apply List.takeWhile_eq_self_iff.2
    intro c member
    exact bne_iff_ne.2 fun same => rooted.mark_not_mem_pathOf call (same ▸ member)
  have target : request.target.render = e.pathOf call := String.toList_inj.1 (kept.trans whole)
  have verb : "GET" ++ " " = "GET " := rfl
  rw [Http.Request.line, get, target, verb]

/-- One call asks a server once: no run of it sends more than its request, a whole one sends the request exactly if
there is a server and the request can be built, and the request is a plain one for the call's path. -/
structure AsksOnce (e : ClusterEndpoint) (call : Survey.Call) (server : Server) : Prop where
  atMost : ∀ {requests state}, (e.exchange (e.pathOf call)).Runs (.opening server) requests state →
    requests = [] ∨ ∃ request, e.sent? (e.pathOf call) server = some request ∧ requests = [request]
  whole : ∀ {requests answer}, (e.exchange (e.pathOf call)).Runs (.opening server) requests (.ended answer) →
    requests = (e.sent? (e.pathOf call) server).toList ∧ answer = e.body (e.pathOf call) server
  ends : ∃ requests answer, (e.exchange (e.pathOf call)).Runs (.opening server) requests (.ended answer)
  sends : ∀ {request}, e.sent? (e.pathOf call) server = some request ↔
    (∃ respond, server = .answering respond) ∧ e.request? (e.pathOf call) = some request
  form : ∀ {request}, e.request? (e.pathOf call) = some request ↔
    Http.Target.parse? (e.pathOf call) = some request.target ∧ request.method = "GET" ∧
      request.headers = e.headers ∧ ∀ header ∈ e.headers, Http.isHeaderValue header.2 = true
  line : e.IsRooted → ∀ {request}, e.request? (e.pathOf call) = some request →
    request.line = "GET " ++ e.pathOf call ++ " HTTP/1.1"

theorem asksOnce (e : ClusterEndpoint) (call : Survey.Call) (server : Server) : e.AsksOnce call server where
  atMost := exchange_atMost
  whole := exchange_whole
  ends := e.exchange_ends _ server
  sends := sent?_eq_some_iff
  form := request?_eq_some_iff
  line rooted _ built := rooted.line_of_request? built

end ClusterEndpoint

end ReplicaAtlas
