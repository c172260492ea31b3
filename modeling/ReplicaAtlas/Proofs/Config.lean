import ReplicaAtlas.Config
import ReplicaAtlas.Proofs.Json.Layout
import ReplicaAtlas.Proofs.Toml.Line
import ReplicaAtlas.Proofs.Toml.Tree

/-!
Configurations are read back from their texts. The text is put together from lines, each of which is read as what was
written, the lines make up the tables of the configuration, and these are decoded as its settings. A configuration that
was read can be surveyed with.
-/
namespace ReplicaAtlas
open Layout Toml Text.Scanner

def ClusterEndpoint.settings (e : ClusterEndpoint) : List (String × Document) :=
  [("name", .text e.name), ("endpoint", .text e.address), ("path_prefix", .text e.pathPrefix)] ++
    (e.token.map fun token => ("token", .text token)).toList

namespace Config

def natural (n : ℕ) : Document := .number (.int n)

def surveySettings (s : SurveySettings) : List (String × Document) :=
  [("timeout", .text s.timeout), ("cluster_concurrency", natural s.clusterConcurrency),
    ("node_concurrency", natural s.nodeConcurrency), ("strict_namespace", .bool s.strict)]

def values (c : Config) : List (String × Document) :=
  if c.endpoints.isEmpty then [("clusters", .array [] false)] else []

def tables (c : Config) : List (String × List (String × Document)) :=
  [("server", [("listen", .text c.listen)]), ("state", [("path", .text c.storePath)]),
    ("probe", surveySettings c.survey), ("simulation", [("max_replicas_per_cluster", natural c.replicaLimit.toNat)])]

def document (c : Config) : Document :=
  record (c.values ++ (c.tables.map fun t => (t.1, record t.2)) ++
    arrayOf "clusters" (c.endpoints.map ClusterEndpoint.settings))

/-- A configuration that has a text: its timeout is a duration, and its numbers are whole numbers of a document. -/
structure Writable (c : Config) : Prop where
  timeout : (Duration.parse? c.survey.timeout).isSome
  clusters : c.survey.clusterConcurrency < 2 ^ 63
  nodes : c.survey.nodeConcurrency < 2 ^ 63

def blankPiece : List Char × Line := (printLine [], .blank)

def headerPiece (name : String) : List Char × Line := (printHeader name, .header [] name false)

def elementPiece (name : String) : List Char × Line := (printElementHeader name, .header [] name true)

def valuePiece (name : String) (written : List Char) (d : Document) : List Char × Line :=
  (printAssignment name written, .assignment ⟨[], name, d⟩)

def textPiece (name text : String) : List Char × Line := valuePiece name (printText text.toList) (.text text)

def numberPiece (name : String) (n : ℕ) : List Char × Line := valuePiece name (printNumber n) (natural n)

def endpointPieces (e : ClusterEndpoint) : List (List Char × Line) :=
  [blankPiece, elementPiece "clusters", textPiece "name" e.name, textPiece "endpoint" e.address,
    textPiece "path_prefix" e.pathPrefix] ++ (e.token.map (textPiece "token")).toList

def surveyPieces (s : SurveySettings) : List (List Char × Line) :=
  [textPiece "timeout" s.timeout, numberPiece "cluster_concurrency" s.clusterConcurrency,
    numberPiece "node_concurrency" s.nodeConcurrency,
    valuePiece "strict_namespace" (printTruth s.strict) (.bool s.strict)]

def tablePieces (c : Config) : List (List Char × Line) :=
  [headerPiece "server", textPiece "listen" c.listen, blankPiece,
    headerPiece "state", textPiece "path" c.storePath, blankPiece, headerPiece "probe"] ++ surveyPieces c.survey ++
  [blankPiece, headerPiece "simulation", numberPiece "max_replicas_per_cluster" c.replicaLimit.toNat]

def firstPieces (c : Config) : List (List Char × Line) :=
  if c.endpoints.isEmpty then [valuePiece "clusters" ['[', ']'] (.array [] false), blankPiece] else []

def pieces (c : Config) : List (List Char × Line) :=
  c.firstPieces ++ c.tablePieces ++ c.endpoints.flatMap endpointPieces

theorem endpointLines_eq (e : ClusterEndpoint) : endpointLines e = (endpointPieces e).flatMap (·.1) := by
  obtain ⟨name, address, pathPrefix, _ | token⟩ := e
  all_goals simp [endpointLines, endpointPieces, blankPiece, elementPiece, textPiece, valuePiece, textLine]

theorem surveyLines_eq (s : SurveySettings) : surveyLines s = (surveyPieces s).flatMap (·.1) := by
  simp [surveyLines, surveyPieces, textPiece, numberPiece, valuePiece, textLine]

theorem render_eq (c : Config) : c.render = String.ofList (c.pieces.flatMap (·.1)) := by
  have endpoints : c.endpoints.flatMap endpointLines = (c.endpoints.flatMap endpointPieces).flatMap (·.1) := by
    rw [List.flatMap_assoc]
    exact congrArg c.endpoints.flatMap (funext endpointLines_eq)
  have first : (if c.endpoints.isEmpty then printAssignment "clusters" ['[', ']'] ++ printLine [] else []) =
      c.firstPieces.flatMap (·.1) := by
    rw [firstPieces]
    split <;> simp [valuePiece, blankPiece]
  refine congrArg String.ofList ?_
  rw [pieces, first, endpoints, surveyLines_eq]
  simp only [tablePieces, List.flatMap_append, List.flatMap_cons, List.flatMap_nil, List.append_assoc, List.append_nil]
  rfl

def names : List String :=
  ["clusters", "name", "endpoint", "path_prefix", "token", "server", "listen", "state", "path", "probe", "timeout",
    "cluster_concurrency", "node_concurrency", "strict_namespace", "simulation", "max_replicas_per_cluster"]

theorem isBareName_of_mem_names : ∀ name ∈ names, IsBareName name := by decide +kernel

section Pieces
variable {name : String} (known : name ∈ names)
include known

theorem isPiece_text (text : String) : IsPiece line (textPiece name text) :=
  isPiece_assignment (isBareName_of_mem_names name known) (isValue_text text)

theorem isPiece_number {n : ℕ} (fits : n < 2 ^ 63) : IsPiece line (numberPiece name n) :=
  isPiece_assignment (isBareName_of_mem_names name known) (isValue_number fits)

end Pieces

theorem isPiece_endpoint (e : ClusterEndpoint) : ∀ piece ∈ endpointPieces e, IsPiece line piece := by
  have text {name : String} (known : name ∈ names) (text : String) := isPiece_text known text
  have token : ∀ piece ∈ (e.token.map (textPiece "token")).toList, IsPiece line piece := by
    cases e.token with
    | none => exact nofun
    | some token =>
      rintro _ (_ | ⟨_, ⟨⟩⟩)
      exact text (by decide +kernel) token
  rw [endpointPieces, List.forall_mem_append]
  refine ⟨?_, token⟩
  simp only [List.forall_mem_cons, List.not_mem_nil, false_implies, implies_true, and_true]
  refine ⟨isPiece_blank, isPiece_elementHeader (isBareName_of_mem_names _ (by decide +kernel)), ?_, ?_, ?_⟩
  · exact text (by decide +kernel) _
  · exact text (by decide +kernel) _
  · exact text (by decide +kernel) _

theorem isPiece_survey {s : SurveySettings} (clusters : s.clusterConcurrency < 2 ^ 63)
    (nodes : s.nodeConcurrency < 2 ^ 63) : ∀ piece ∈ surveyPieces s, IsPiece line piece := by
  simp only [surveyPieces, List.forall_mem_cons, List.not_mem_nil, false_implies, implies_true, and_true]
  refine ⟨isPiece_text (by decide +kernel) _, ?_, ?_, ?_⟩
  · exact isPiece_number (by decide +kernel) clusters
  · exact isPiece_number (by decide +kernel) nodes
  · exact isPiece_assignment (isBareName_of_mem_names _ (by decide +kernel)) (isValue_truth s.strict)

theorem isPiece_tables {c : Config} (writable : c.Writable) : ∀ piece ∈ c.tablePieces, IsPiece line piece := by
  have header {name : String} (known : name ∈ names) : IsPiece line (headerPiece name) :=
    isPiece_header (isBareName_of_mem_names name known)
  have replicaLimit : c.replicaLimit.toNat < 2 ^ 63 := Nat.lt_of_lt_of_le c.replicaLimit.toNat_lt (by decide)
  rw [tablePieces, List.forall_mem_append, List.forall_mem_append]
  refine ⟨⟨?_, isPiece_survey writable.clusters writable.nodes⟩, ?_⟩
  · simp only [List.forall_mem_cons, List.not_mem_nil, false_implies, implies_true, and_true]
    refine ⟨header (by decide +kernel), isPiece_text (by decide +kernel) _, isPiece_blank, header (by decide +kernel),
      isPiece_text (by decide +kernel) _, isPiece_blank, header (by decide +kernel)⟩
  · simp only [List.forall_mem_cons, List.not_mem_nil, false_implies, implies_true, and_true]
    exact ⟨isPiece_blank, header (by decide +kernel), isPiece_number (by decide +kernel) replicaLimit⟩

theorem isPiece_pieces {c : Config} (writable : c.Writable) : ∀ piece ∈ c.pieces, IsPiece line piece := by
  rw [pieces, firstPieces, List.forall_mem_append, List.forall_mem_append]
  refine ⟨⟨?_, isPiece_tables writable⟩, ?_⟩
  · split
    · simp only [List.forall_mem_cons, List.not_mem_nil, false_implies, implies_true, and_true]
      exact ⟨isPiece_assignment (isBareName_of_mem_names _ (by decide +kernel)) isValue_noItems, isPiece_blank⟩
    · exact nofun
  · intro piece member
    obtain ⟨e, -, ofEndpoint⟩ := List.mem_flatMap.1 member
    exact isPiece_endpoint e piece ofEndpoint

theorem noMark (c : Config) : (c.pieces.flatMap (·.1)).head? ≠ some byteOrderMark := by
  have mark : some 'c' ≠ some byteOrderMark ∧ some '[' ≠ some byteOrderMark := by decide
  rw [pieces, firstPieces]
  split
  · exact mark.1
  · exact mark.2

theorem sections_endpoint (e : ClusterEndpoint) (rest : List Line) :
    sections ((endpointPieces e).map (·.2) ++ rest) =
      ([], ⟨[], "clusters", true, Items.assignments e.settings ++ (sections rest).1⟩ :: (sections rest).2) := by
  obtain ⟨name, address, pathPrefix, _ | token⟩ := e <;> rfl

theorem sections_endpoints (endpoints : List ClusterEndpoint) :
    sections ((endpoints.flatMap endpointPieces).map (·.2)) =
      ([], elementSections "clusters" (endpoints.map ClusterEndpoint.settings)) := by
  induction endpoints with
  | nil => rfl
  | cons e endpoints ih =>
    rw [List.flatMap_cons, List.map_append, sections_endpoint, ih, List.append_nil]
    rfl

theorem sections_tables (c : Config) {rest : List Line} {parts : List Section} (others : sections rest = ([], parts)) :
    sections (c.tablePieces.map (·.2) ++ rest) = ([], tableSections c.tables ++ parts) := by
  -- The last table takes whatever assignments follow, and what follows begins with another header.
  change ([], tableSections c.tables.dropLast ++ ⟨[], "simulation", false,
    ⟨[], "max_replicas_per_cluster", natural c.replicaLimit.toNat⟩ :: (sections rest).1⟩ :: (sections rest).2) = _
  rw [others]
  rfl

theorem sections_pieces (c : Config) : sections (c.pieces.map (·.2)) =
    (Items.assignments c.values,
      tableSections c.tables ++ elementSections "clusters" (c.endpoints.map ClusterEndpoint.settings)) := by
  have others := sections_tables c (sections_endpoints c.endpoints)
  rw [pieces, firstPieces, values, List.map_append, List.map_append, List.append_assoc]
  have first (rest : List Line) :
      sections ([valuePiece "clusters" ['[', ']'] (.array [] false), blankPiece].map (·.2) ++ rest) =
        (⟨[], "clusters", .array [] false⟩ :: (sections rest).1, (sections rest).2) := rfl
  split
  · rw [first, others]
    rfl
  · exact others

theorem parse?_render {c : Config} (writable : c.Writable) : parse? c.render = some c.document := by
  rw [render_eq, parse?_pieces (isPiece_pieces writable) c.noMark, sections_pieces]
  refine assemble_parts ?_ ?_ ?_
  · rw [values, arrayOf]
    cases c.endpoints with
    | nil =>
      change ["clusters", "server", "state", "probe", "simulation"].Nodup
      decide +kernel
    | cons e endpoints =>
      change ["server", "state", "probe", "simulation", "clusters"].Nodup
      decide +kernel
  · simp only [tables, List.forall_mem_cons, List.not_mem_nil, false_implies, implies_true, and_true]
    refine ⟨List.nodup_singleton _, List.nodup_singleton _, ?_, List.nodup_singleton _⟩
    change ["timeout", "cluster_concurrency", "node_concurrency", "strict_namespace"].Nodup
    decide +kernel
  · intro values member
    obtain ⟨e, -, rfl⟩ := List.mem_map.1 member
    obtain ⟨name, address, pathPrefix, _ | token⟩ := e
    · change ["name", "endpoint", "path_prefix"].Nodup
      decide +kernel
    · change ["name", "endpoint", "path_prefix", "token"].Nodup
      decide +kernel

theorem decode_endpoint (e : ClusterEndpoint) : ClusterEndpoint.layout.decode (record e.settings) = .ok e := by
  obtain ⟨name, address, pathPrefix, _ | token⟩ := e <;> rfl

theorem decode_endpoints (endpoints : List ClusterEndpoint) :
    Decoder.list ClusterEndpoint.layout.decode (.array ((endpoints.map ClusterEndpoint.settings).map record) false) =
      .ok endpoints := by
  change Decoder.items _ _ = _
  induction endpoints with
  | nil => rfl
  | cons e endpoints ih =>
    rw [List.map_cons, List.map_cons, Decoder.items, decode_endpoint, ih]
    rfl

theorem decode_survey {s : SurveySettings} (clusters : s.clusterConcurrency < 2 ^ 63)
    (nodes : s.nodeConcurrency < 2 ^ 63) : SurveySettings.layout.decode (record (surveySettings s)) = .ok s := by
  have wide {n : ℕ} (fits : n < 2 ^ 63) : (Decoder.natural 64).ReadsBack .nat n :=
    Decoder.natural_of_lt (Nat.lt_trans fits (by decide))
  have read : SurveySettings.layout.decode.ReadsBack SurveySettings.toJson s :=
    readsBack_of_fields [.text s.timeout, .nat s.clusterConcurrency, .nat s.nodeConcurrency, .bool s.strict] rfl
      (by decide) rfl (readItems_cons (Decoder.readsBack_text s.timeout) (readItems_cons (wide clusters)
        (readItems_cons (wide nodes) (readItems_cons (Decoder.readsBack_bool s.strict) rfl))))
  exact read

theorem decode_replicaLimit (n : UInt32) :
    replicaLimitLayout.decode (record [("max_replicas_per_cluster", natural n.toNat)]) = .ok n := by
  have read : replicaLimitLayout.decode.ReadsBack (fun n => .object [("max_replicas_per_cluster", .word n)]) n :=
    readsBack_of_fields [.word n] rfl (by decide) rfl (readItems_cons (Decoder.readsBack_word n) rfl)
  exact read

/-- Each table sets its part of the configuration. -/
theorem readMembers_tables {c before : Config} (writable : c.Writable) {seen : List String}
    (unseen : ∀ t ∈ c.tables, t.1 ∉ seen) (rest : List (Option String × Document)) :
    layout.readMembers ((c.tables.map fun t => (some t.1, record t.2)) ++ rest) seen before =
      layout.readMembers rest ("simulation" :: "probe" :: "state" :: "server" :: seen)
        { c with endpoints := before.endpoints } := by
  have survey := decode_survey writable.clusters writable.nodes
  have replicaLimit := decode_replicaLimit c.replicaLimit
  simp only [tables, List.forall_mem_cons] at unseen
  obtain ⟨server, state, probe, simulation, -⟩ := unseen
  refine (readMembers_cons rfl server rfl _).trans ?_
  refine (readMembers_cons rfl (by simp [state]) rfl _).trans ?_
  refine (readMembers_cons rfl (by simp [probe]) (read_ofDecoder survey _ _ _ _) _).trans ?_
  exact (readMembers_cons rfl (by simp [simulation]) (read_ofDecoder replicaLimit _ _ _ _) _).trans rfl

theorem decode_document {c : Config} (writable : c.Writable) : layout.decode c.document = .ok c := by
  have noneNeeded (field) (known : field ∈ layout.fields) : field.required = false := by
    simp only [layout, List.mem_cons, List.not_mem_nil, or_false] at known
    rcases known with rfl | rfl | rfl | rfl | rfl <;> rfl
  have complete {seen : List String} (field) (known : field ∈ layout.fields) (needed : field.required = true) :
      field.name ∈ seen := by
    rw [noneNeeded field known] at needed
    cases needed
  obtain ⟨listen, storePath, survey, replicaLimit, endpoints⟩ := c
  cases endpoints with
  | nil =>
    refine decode_of_members ["simulation", "probe", "state", "server", "clusters"] ?_ complete
    refine (readMembers_cons rfl List.not_mem_nil rfl _).trans ?_
    refine (readMembers_tables writable ?_ []).trans rfl
    simp [tables]
  | cons e endpoints =>
    have array := decode_endpoints (e :: endpoints)
    have unseen : "clusters" ∉ ["simulation", "probe", "state", "server"] := by decide
    refine decode_of_members ["clusters", "simulation", "probe", "state", "server"] ?_ complete
    refine (readMembers_tables writable (fun _ _ => List.not_mem_nil) _).trans ?_
    exact (readMembers_cons rfl unseen (read_ofDecoder array _ _ _ _) _).trans rfl

theorem duration_eq_ok_iff {s : SurveySettings} {d : Duration} :
    s.duration = .ok d ↔ Duration.parse? s.timeout = some d := by
  unfold SurveySettings.duration
  cases Duration.parse? s.timeout with
  | none => simp
  | some read => simp

theorem ofToml_render {c : Config} (writable : c.Writable) : ofToml c.render = .ok c := by
  obtain ⟨d, read⟩ := Option.isSome_iff_exists.1 writable.timeout
  rw [ofToml, parse?_render writable]
  dsimp only
  rw [decode_document writable]
  dsimp only
  rw [duration_eq_ok_iff.2 read]
  rfl

theorem duration_of_ofToml {text : String} {c : Config} (read : ofToml text = .ok c) :
    ∃ d, c.survey.duration = .ok d := by
  unfold ofToml at read
  split at read
  case h_1 => cases read
  case h_2 document _ =>
    split at read
    case h_1 => cases read
    case h_2 config _ =>
      obtain ⟨d, possible, rfl⟩ := map_ok_iff.1 read
      exact ⟨d, possible⟩

/-- The settings can be surveyed with: for as long as their timeout says, on no less than one cluster and one node at a
time, and otherwise as configured. -/
structure Surveys (s : SurveySettings) (options : SurveyOptions) : Prop where
  possible : s.options = .ok options
  timeout : Duration.parse? s.timeout = some options.timeout
  clusters : options.clusterConcurrency = max s.clusterConcurrency 1
  nodes : options.nodeConcurrency = max s.nodeConcurrency 1
  strict : options.strict = s.strict

theorem surveys_of_duration {s : SurveySettings} {d : Duration} (read : s.duration = .ok d) :
    Surveys s ⟨d, max s.clusterConcurrency 1, max s.nodeConcurrency 1, s.strict⟩ := by
  constructor
  case possible => rw [SurveySettings.options, read, Except.map]
  case timeout => exact duration_eq_ok_iff.1 read
  case clusters => rfl
  case nodes => rfl
  case strict => rfl

/-- A configuration with a duration as its timeout and numbers that a document has is written and read back as it was,
and whatever configuration is read allows a survey of at least one cluster and one node at a time. -/
theorem configurations_are_read_back :
    (∀ c : Config, c.Writable → ∃ text, c.toToml? = some text ∧ ofToml text = .ok c) ∧
      ∀ text c, ofToml text = .ok c →
        ∃ options, c.survey.options = .ok options ∧ 1 ≤ options.clusterConcurrency ∧ 1 ≤ options.nodeConcurrency ∧
          Surveys c.survey options := by
  constructor
  · intro c writable
    refine ⟨c.render, if_pos ?_, ofToml_render writable⟩
    rw [Bool.and_eq_true, decide_eq_true_iff, decide_eq_true_iff]
    exact ⟨writable.clusters, writable.nodes⟩
  · intro text c read
    obtain ⟨d, possible⟩ := duration_of_ofToml read
    have surveys := surveys_of_duration possible
    exact ⟨_, surveys.possible, Nat.le_max_right _ 1, Nat.le_max_right _ 1, surveys⟩

def awkward : Config :=
  ⟨"\"::\"", "C:\\'\t\x00", ⟨" 750ms\n", 4, 0, true⟩, 7,
    [⟨"'''\"\"\"\n", "é\r\n", "\\", some "\"\"\"\n\""⟩, ⟨"", "10.0.0.2:6443", "'", none⟩]⟩

theorem configurations_are_read_back_of_awkward :
    awkward.Writable ∧ ∃ text, awkward.toToml? = some text ∧ ofToml text = .ok awkward ∧
      ∃ options, awkward.survey.options = .ok options ∧ 1 ≤ options.clusterConcurrency ∧
        1 ≤ options.nodeConcurrency ∧ Surveys awkward.survey options ∧ options = ⟨⟨750⟩, 4, 1, true⟩ := by
  have writable : awkward.Writable := ⟨by decide +kernel, by decide, by decide⟩
  obtain ⟨text, written, read⟩ := configurations_are_read_back.1 awkward writable
  obtain ⟨options, possible, clusters, nodes, surveys⟩ := configurations_are_read_back.2 text awkward read
  have taken : awkward.survey.options = .ok ⟨⟨750⟩, 4, 1, true⟩ := by decide +kernel
  exact ⟨writable, text, written, read, options, possible, clusters, nodes, surveys,
    Except.ok.inj (possible.symm.trans taken)⟩

end Config

end ReplicaAtlas
