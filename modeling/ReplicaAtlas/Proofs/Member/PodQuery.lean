import ReplicaAtlas.Proofs.Http.Query
import ReplicaAtlas.Proofs.Member.Exchange

/-!
The request for the pods of a node, for nodes of any name. The name is percent-encoded as a part of one value, so it
neither ends the value nor begins another field, and whoever reads the query finds the name as it was.
-/
namespace ReplicaAtlas
open Text

namespace Text.Percent

/-- The encoding of the text has no other characters than those that may stand in a value, and loses nothing. -/
structure Faithful (text : String) : Prop where
  escaped : Escaped (encode text)
  decoded : decode (encode text) = Utf8.encode text.toList
  injective : ∀ other, encode other = encode text → other = text
  plain : (∀ c ∈ text.toList, isUnreserved c = true) → encode text = text.toList

theorem faithful (text : String) : Faithful text where
  escaped := escaped_encode text
  decoded := decode_encode text
  injective _ := encode_injective
  plain := encode_of_unreserved

theorem encode_append (text other : String) : encode (text ++ other) = encode text ++ encode other := by
  rw [encode, encode, encode, String.toList_append, Utf8.encode, List.flatMap_append, List.flatMap_append]
  rfl

theorem not_mem_encode {c : Char} (reserved : isUnreserved c = false) (noCode : c ≠ '%') (text : String) :
    c ∉ encode text := by
  intro member
  rcases mem_encode member with unreserved | percent
  · rw [reserved] at unreserved
    cases unreserved
  · exact noCode percent

end Text.Percent

namespace ClusterEndpoint

/-- A path and a query of one field that names the node, below the endpoint's path without the slashes at its end. -/
structure AsksForNode (e : ClusterEndpoint) (node : String) : Prop where
  base : ∃ slashes, e.pathPrefix.toList = e.basePath ++ List.replicate slashes '/' ∧ e.basePath.getLast? ≠ some '/'
  parts : ∃ query, Http.cutAt '?' (e.podsPath node).toList = (e.basePath ++ "/api/v1/pods".toList, query) ∧
    '#' ∉ (e.podsPath node).toList ∧
    Http.Query.parse (String.ofList query) = [("fieldSelector", "spec.nodeName=" ++ node)]
  sent : ∀ request, e.IsRooted → e.request? (e.podsPath node) = some request → ∃ query,
    request.target = ⟨none, String.ofList (e.basePath ++ "/api/v1/pods".toList), some query⟩ ∧
    Http.Query.parse query = [("fieldSelector", "spec.nodeName=" ++ node)]

def podsResource : List Char := "/api/v1/pods".toList

def selectorField : List Char := "fieldSelector".toList

def podQuery (node : String) : List Char := selectorField ++ '=' :: Percent.encode ("spec.nodeName=" ++ node)

theorem toList_podsPath (e : ClusterEndpoint) (node : String) :
    (e.podsPath node).toList = (e.basePath ++ podsResource) ++ '?' :: podQuery node := by
  have selector : Percent.encode "spec.nodeName=" = "spec.nodeName%3D".toList := by decide +kernel
  have whole : "/api/v1/pods?fieldSelector=spec.nodeName%3D".toList =
      podsResource ++ '?' :: (selectorField ++ '=' :: Percent.encode "spec.nodeName=") := by decide +kernel
  have path : (e.podsPath node).toList =
      e.basePath ++ "/api/v1/pods?fieldSelector=spec.nodeName%3D".toList ++ Percent.encode node := String.toList_ofList
  rw [path, whole, podQuery, Percent.encode_append]
  simp only [List.append_assoc, List.cons_append]

theorem basePath_spec (e : ClusterEndpoint) : ∃ slashes,
    e.pathPrefix.toList = e.basePath ++ List.replicate slashes '/' ∧ e.basePath.getLast? ≠ some '/' := by
  have slashes : ∀ c ∈ (e.pathPrefix.toList.reverse.takeWhile (· == '/')).reverse, c = '/' := by
    intro c member
    have slash := List.mem_takeWhile_imp (List.mem_reverse.1 member)
    exact beq_iff_eq.1 slash
  refine ⟨(e.pathPrefix.toList.reverse.takeWhile (· == '/')).reverse.length, ?_, ?_⟩
  · rw [← List.eq_replicate_of_mem slashes, basePath, ← List.reverse_append, List.takeWhile_append_dropWhile,
      List.reverse_reverse]
  · rw [basePath, List.getLast?_reverse]
    intro slash
    have first := List.head?_dropWhile_not (· == '/') e.pathPrefix.toList.reverse
    rw [slash] at first
    exact absurd first (by decide)

/-- The separators of queries, and the plus sign that stands for a blank, do not occur in the value of the query. -/
theorem not_mem_podQuery {c : Char} (reserved : Percent.isUnreserved c = false) (noCode : c ≠ '%') (other : c ≠ '=')
    (node : String) : c ∉ podQuery node := by
  have field : selectorField.all Percent.isUnreserved = true := by decide +kernel
  rw [podQuery, List.mem_append, List.mem_cons, not_or, not_or]
  refine ⟨fun member => ?_, other, Percent.not_mem_encode reserved noCode _⟩
  have unreserved := List.all_eq_true.1 field c member
  rw [reserved] at unreserved
  cases unreserved

theorem parse_podQuery (node : String) :
    Http.Query.parse (String.ofList (podQuery node)) = [("fieldSelector", "spec.nodeName=" ++ node)] := by
  have name : Http.Query.component selectorField = "fieldSelector" := by decide +kernel
  have noPlus := Percent.not_mem_encode (c := '+') (by decide) (by decide) ("spec.nodeName=" ++ node)
  have alone : '&' ∉ podQuery node := not_mem_podQuery (by decide) (by decide) (by decide) node
  rw [podQuery] at alone ⊢
  rw [Http.Query.parse_of_one (by decide +kernel) alone, name, Http.Query.component_of_no_plus noPlus,
    Percent.decode_encode, Utf8.mend_encode]

theorem asksForNode {e : ClusterEndpoint} (unasked : '?' ∉ e.pathPrefix.toList) (unmarked : '#' ∉ e.pathPrefix.toList)
    (node : String) : e.AsksForNode node := by
  obtain ⟨slashes, split, -⟩ := e.basePath_spec
  rw [split, List.mem_append, not_or] at unasked unmarked
  have resource : '?' ∉ podsResource ∧ '#' ∉ podsResource ∧ podsResource ≠ [] := by decide +kernel
  have pathUnasked : '?' ∉ e.basePath ++ podsResource := by
    rw [List.mem_append, not_or]
    exact ⟨unasked.1, resource.1⟩
  have pathUnmarked : '#' ∉ e.basePath ++ podsResource := by
    rw [List.mem_append, not_or]
    exact ⟨unmarked.1, resource.2.1⟩
  have queryUnmarked : '#' ∉ podQuery node := not_mem_podQuery (by decide) (by decide) (by decide) node
  constructor
  case base => exact e.basePath_spec
  case parts =>
    refine ⟨podQuery node, ?_, ?_, parse_podQuery node⟩
    · rw [toList_podsPath]
      exact Http.cutAt_append pathUnasked (podQuery node)
    · rw [toList_podsPath, List.mem_append, not_or, List.mem_cons, not_or]
      exact ⟨pathUnmarked, by decide, queryUnmarked⟩
  case sent =>
    intro request rooted built
    obtain ⟨parsed, -⟩ := request?_eq_some_iff.1 built
    have named : e.basePath ++ podsResource ≠ [] := List.append_ne_nil_of_right_ne_nil _ resource.2.2
    have inPath : ∀ c ∈ e.basePath ++ podsResource, Http.Target.isInPath c = true := by
      intro c member
      rw [Http.Target.isInPath, Bool.and_eq_true, bne_iff_ne, bne_iff_ne]
      constructor
      · rintro rfl
        exact pathUnasked member
      · rintro rfl
        exact pathUnmarked member
    have slash : (e.podsPath node).toList.head? = some '/' := rooted.head?_pathOf (.pods "" node)
    have read := Http.Target.pathAndQuery?_of_rooted slash parsed
    rw [toList_podsPath] at read
    exact ⟨_, Http.Target.pathAndQuery?_asked named inPath queryUnmarked read, parse_podQuery node⟩

/-- Whatever its name, a node is named in the request for its pods as the one value of the one field of the query. -/
theorem pod_queries_name_one_node : (∀ node, Percent.Faithful node) ∧
    ∀ (e : ClusterEndpoint) (node : String), '?' ∉ e.pathPrefix.toList → '#' ∉ e.pathPrefix.toList →
      e.AsksForNode node :=
  ⟨Percent.faithful, fun _ node unasked unmarked => asksForNode unasked unmarked node⟩

/-- A node whose name tries to end the value, to begin another field and to leave the query. -/
theorem pod_queries_name_one_node_of_forged :
    '?' ∉ "/proxy//".toList ∧ '#' ∉ "/proxy//".toList ∧
      (⟨"east", "east:80", "/proxy//", none⟩ : ClusterEndpoint).AsksForNode "a&limit=1#?%2B ü" ∧
      (⟨"east", "east:80", "/proxy//", none⟩ : ClusterEndpoint).podsPath "a&limit=1#?%2B ü" =
        "/proxy/api/v1/pods?fieldSelector=spec.nodeName%3Da%26limit%3D1%23%3F%252B%20%C3%BC" := by
  have plain : '?' ∉ "/proxy//".toList ∧ '#' ∉ "/proxy//".toList := by decide +kernel
  exact ⟨plain.1, plain.2, pod_queries_name_one_node.2 ⟨"east", "east:80", "/proxy//", none⟩ _ plain.1 plain.2,
    by decide +kernel⟩

end ClusterEndpoint

end ReplicaAtlas
