import Mathlib.Data.List.Infix
import ReplicaAtlas.Proofs.Member.Outcome

/-!
Which signs tie a pod to a workload. Only the set of a pod's owners counts, and more owners never make the tie less
certain. The middle sign goes by names alone, so a pod may be tied to two deployments, but only where the name of one
goes on from the name of the other.
-/
namespace ReplicaAtlas

/-- Objects of the second kind stand between workloads of the first kind and their pods. -/
inductive StandsBetween : String → String → Prop
  | replicaSet : StandsBetween "Deployment" "ReplicaSet"
  | job : StandsBetween "CronJob" "Job"

theorem intermediateKind?_eq_some_iff {kind between : String} :
    intermediateKind? kind = some between ↔ StandsBetween kind between := by
  constructor
  · intro stands
    unfold intermediateKind? at stands
    split at stands
    case isTrue deployment =>
      cases stands
      exact deployment ▸ .replicaSet
    case isFalse =>
      split at stands
      case isTrue cronJob =>
        cases stands
        exact cronJob ▸ .job
      case isFalse => cases stands
  · rintro (_ | _) <;> rfl

namespace Ownership

def ExtendsName (name longer : String) : Prop := ∃ rest, longer = name ++ "-" ++ rest

theorem extendsName_iff (name longer : String) : extendsName name longer = true ↔ ExtendsName name longer := by
  rw [extendsName, List.isPrefixOf_iff_prefix]
  constructor
  · rintro ⟨rest, same⟩
    exact ⟨String.ofList rest, String.toList_inj.1 (by simp [← same])⟩
  · rintro ⟨rest, rfl⟩
    exact ⟨rest.toList, by simp⟩

def confidence : Option Ownership → ℕ
  | none => 0
  | some .appLabel => 1
  | some .intermediateOwner => 2
  | some .owner => 3

def Owns (header : Metadata) (w : Workload) : Prop := ∃ o ∈ header.owners, o.kind = w.kind ∧ o.name = w.name

def OwnsThrough (header : Metadata) (w : Workload) : Prop :=
  ∃ o ∈ header.owners, StandsBetween w.kind o.kind ∧ ExtendsName w.name o.name

def Labels (header : Metadata) (w : Workload) : Prop :=
  header.labels.get? "app" = some w.name ∨ header.labels.get? "app.kubernetes.io/name" = some w.name

variable (header : Metadata) (w : Workload)

theorem owns_iff : header.owners.any (isOwnedBy w) = true ↔ Owns header w := by
  simp [Owns, isOwnedBy]

theorem ownsThrough_iff :
    ((intermediateKind? w.kind).any fun kind => header.owners.any (isOwnedThrough w kind)) = true ↔
      OwnsThrough header w := by
  simp only [Option.any_eq_true, intermediateKind?_eq_some_iff, List.any_eq_true, isOwnedThrough, Bool.and_eq_true,
    beq_iff_eq, extendsName_iff]
  constructor
  · rintro ⟨kind, stands, o, mem, rfl, longer⟩
    exact ⟨o, mem, stands, longer⟩
  · rintro ⟨o, mem, stands, longer⟩
    exact ⟨o.kind, stands, o, mem, rfl, longer⟩

theorem labels_iff : isLabelled w header.labels = true ↔ Labels header w := by
  simp [isLabelled, appLabels, Labels]

instance : Decidable (Owns header w) := decidable_of_iff _ (owns_iff header w)

instance : Decidable (OwnsThrough header w) := decidable_of_iff _ (ownsThrough_iff header w)

instance : Decidable (Labels header w) := decidable_of_iff _ (labels_iff header w)

theorem sign?_eq : sign? header w =
    if Owns header w then some .owner
    else if OwnsThrough header w then some .intermediateOwner
    else if Labels header w then some .appLabel
    else none := by
  simp only [sign?, owns_iff, ownsThrough_iff, labels_iff]

variable {header w}

/-- Owners only add signs, and labels are the same ones. -/
theorem confidence_sign?_le {more : Metadata} (owners : header.owners ⊆ more.owners)
    (labels : more.labels = header.labels) : confidence (sign? header w) ≤ confidence (sign? more w) := by
  have owns : Owns header w → Owns more w := fun ⟨o, mem, same⟩ => ⟨o, owners mem, same⟩
  have through : OwnsThrough header w → OwnsThrough more w := fun ⟨o, mem, stands⟩ => ⟨o, owners mem, stands⟩
  have labelled : Labels more w ↔ Labels header w := by rw [Labels, Labels, labels]
  rw [sign?_eq, sign?_eq]
  by_cases own : Owns header w
  · rw [if_pos own, if_pos (owns own)]
  · by_cases between : OwnsThrough header w
    · rw [if_neg own, if_pos between, if_pos (through between)]
      split_ifs <;> decide
    · rw [if_neg own, if_neg between]
      simp only [labelled]
      split_ifs <;> decide

theorem sign?_congr {other : Metadata} (owners : ∀ o, o ∈ other.owners ↔ o ∈ header.owners)
    (labels : other.labels = header.labels) : sign? other w = sign? header w := by
  have owns : Owns other w ↔ Owns header w := by simp only [Owns, owners]
  have through : OwnsThrough other w ↔ OwnsThrough header w := by simp only [OwnsThrough, owners]
  have labelled : Labels other w ↔ Labels header w := by rw [Labels, Labels, labels]
  simp only [sign?_eq, owns, through, labelled]

/-- Two names that a third one goes on from are the same, or one of them goes on from the other. -/
theorem ExtendsName.of_same {a b longer : String} (first : ExtendsName a longer) (second : ExtendsName b longer) :
    a = b ∨ ExtendsName a b ∨ ExtendsName b a := by
  simp only [← extendsName_iff, extendsName, List.isPrefixOf_iff_prefix] at first second ⊢
  have last {x y : List Char} (within : x ++ ['-'] <+: y ++ ['-']) : x = y ∨ x ++ ['-'] <+: y :=
    (List.prefix_concat_iff.1 within).imp_left List.append_cancel_right
  rcases List.prefix_or_prefix_of_prefix first second with within | within
  · exact (last within).imp String.toList_inj.1 .inl
  · exact (last within).imp (fun same => String.toList_inj.1 same.symm) .inr

theorem ExtendsName.trans {a b c : String} (first : ExtendsName a b) (second : ExtendsName b c) : ExtendsName a c := by
  obtain ⟨rest, rfl⟩ := first
  obtain ⟨more, rfl⟩ := second
  exact ⟨rest ++ "-" ++ more, by simp only [String.append_assoc]⟩

end Ownership

namespace Pod

open Ownership

def withOwners (pod : Pod) (owners : List OwnerRef) : Pod := { pod with header := { pod.header with owners := owners } }

structure MatchesBySigns (pod : Pod) (w : Workload) : Prop where
  strict : pod.ownership? w true = if pod.header.space = w.space then pod.ownership? w false else none
  owner : pod.ownership? w false = some .owner ↔ Owns pod.header w
  intermediateOwner : pod.ownership? w false = some .intermediateOwner ↔
    ¬ Owns pod.header w ∧ OwnsThrough pod.header w
  appLabel : pod.ownership? w false = some .appLabel ↔
    ¬ Owns pod.header w ∧ ¬ OwnsThrough pod.header w ∧ Labels pod.header w
  sameOwners : ∀ owners strict, (∀ o, o ∈ owners ↔ o ∈ pod.header.owners) →
    (pod.withOwners owners).ownership? w strict = pod.ownership? w strict
  moreOwners : ∀ owners strict, pod.header.owners ⊆ owners →
    confidence (pod.ownership? w strict) ≤ confidence ((pod.withOwners owners).ownership? w strict)
  otherKinds : ∀ strict, (∀ o ∈ pod.header.owners, o.kind ≠ w.kind ∧ ¬ StandsBetween w.kind o.kind) →
    pod.ownership? w strict = some .appLabel ∨ pod.ownership? w strict = none

theorem ownership?_eq (pod : Pod) (w : Workload) (strict : Bool) : pod.ownership? w strict =
    if strict = true ∧ pod.header.space ≠ w.space then none else sign? pod.header w := by
  simp only [ownership?, Bool.and_eq_true, bne_iff_ne]

theorem ownership_goes_by_signs (pod : Pod) (w : Workload) : pod.MatchesBySigns w := by
  have loose : pod.ownership? w false = sign? pod.header w := by simp [ownership?_eq]
  constructor
  case strict =>
    rw [loose, ownership?_eq]
    by_cases same : pod.header.space = w.space <;> simp [same]
  case owner =>
    rw [loose, sign?_eq]
    split_ifs with own between labelled <;> simp [*]
  case intermediateOwner =>
    rw [loose, sign?_eq]
    split_ifs with own between labelled <;> simp [*]
  case appLabel =>
    rw [loose, sign?_eq]
    split_ifs with own between labelled <;> simp [*]
  case sameOwners =>
    intro owners strict same
    have signs : sign? (pod.withOwners owners).header w = sign? pod.header w := sign?_congr same rfl
    rw [ownership?_eq, ownership?_eq, signs]
    rfl
  case moreOwners =>
    intro owners strict more
    rw [ownership?_eq, ownership?_eq]
    change _ ≤ confidence (if strict = true ∧ pod.header.space ≠ w.space then _ else _)
    split_ifs
    · exact le_rfl
    · exact confidence_sign?_le more rfl
  case otherKinds =>
    intro strict others
    have own : ¬ Owns pod.header w := fun ⟨o, mem, kind, _⟩ => (others o mem).1 kind
    have between : ¬ OwnsThrough pod.header w := fun ⟨o, mem, kind, _⟩ => (others o mem).2 kind
    rw [ownership?_eq, sign?_eq, if_neg own, if_neg between]
    split_ifs
    · exact .inr rfl
    · exact .inl rfl
    · exact .inr rfl

/-- A pod of one replica set and without an application label, next to a deployment. -/
structure BelongsByName (pod : Pod) (o : OwnerRef) (w : Workload) : Prop where
  owners : pod.header.owners = [o]
  replicaSet : o.kind = "ReplicaSet"
  unlabelled : ∀ label ∈ appLabels, pod.header.labels.get? label = none
  deployment : w.kind = "Deployment"
  space : w.space = pod.header.space

theorem BelongsByName.accepted_iff {pod : Pod} {o : OwnerRef} {w : Workload} (alone : pod.BelongsByName o w) :
    (pod.ownership? w true).isSome = true ↔ ExtendsName w.name o.name := by
  have own : ¬ Owns pod.header w := by
    rintro ⟨owner, mem, kind, -⟩
    rw [alone.owners, List.mem_singleton] at mem
    rw [mem, alone.replicaSet, alone.deployment] at kind
    exact absurd kind (by decide)
  have between : OwnsThrough pod.header w ↔ ExtendsName w.name o.name := by
    simp only [OwnsThrough, alone.owners, List.mem_singleton, exists_eq_left, alone.replicaSet, alone.deployment,
      StandsBetween.replicaSet, true_and]
  have labelled : ¬ Labels pod.header w := by
    simp [Labels, alone.unlabelled "app" (by decide), alone.unlabelled "app.kubernetes.io/name" (by decide)]
  rw [ownership?_eq, if_neg (by simp [alone.space]), sign?_eq, if_neg own, if_neg labelled]
  split_ifs with through
  · exact iff_of_true rfl (between.1 through)
  · exact iff_of_false (by decide) (mt between.2 through)

theorem ownedPods_accepted {survey : Survey} {member : Member} {node : Node} {pod : Pod}
    (shown : pod ∈ survey.ownedPods member node) :
    (pod.ownership? survey.workload survey.options.strict).isSome = true := by
  unfold Survey.ownedPods at shown
  split_ifs at shown
  · cases shown
  · split at shown
    · exact (List.mem_filter.1 shown).2
    · cases shown

/-- The pod is accepted for one of the workloads at most, unless the name of one goes on from the name of the other. -/
structure SharedByNameOnly (pod : Pod) (w other : Workload) : Prop where
  accepted : ¬ ExtendsName w.name other.name → ¬ ExtendsName other.name w.name →
    pod.ownership? w true = none ∨ pod.ownership? other true = none
  shown : ¬ ExtendsName w.name other.name → ¬ ExtendsName other.name w.name →
    ∀ (survey otherSurvey : Survey) (member otherMember : Member) (node otherNode : Node),
      survey.workload = w → survey.options.strict = true → otherSurvey.workload = other →
      otherSurvey.options.strict = true →
      ¬ (pod ∈ survey.ownedPods member node ∧ pod ∈ otherSurvey.ownedPods otherMember otherNode)
  nested : ExtendsName w.name other.name → (pod.ownership? other true).isSome = true →
    (pod.ownership? w true).isSome = true

theorem deployments_share_pods_by_name_only {pod : Pod} {o : OwnerRef} {w other : Workload}
    (first : pod.BelongsByName o w) (second : pod.BelongsByName o other) (distinct : w.name ≠ other.name) :
    pod.SharedByNameOnly w other := by
  have disjoint (apart : ¬ ExtendsName w.name other.name) (otherApart : ¬ ExtendsName other.name w.name) :
      ¬ ((pod.ownership? w true).isSome = true ∧ (pod.ownership? other true).isSome = true) := by
    rintro ⟨accepted, otherAccepted⟩
    rcases ExtendsName.of_same (first.accepted_iff.1 accepted) (second.accepted_iff.1 otherAccepted) with same | longer
    · exact distinct same
    · exact longer.elim apart otherApart
  constructor
  case accepted =>
    intro apart otherApart
    simpa only [Option.isSome_iff_ne_none, not_and_or, not_not] using disjoint apart otherApart
  case shown =>
    rintro apart otherApart survey otherSurvey member otherMember node otherNode rfl strict rfl otherStrict
      ⟨seen, otherSeen⟩
    have accepted := ownedPods_accepted seen
    have otherAccepted := ownedPods_accepted otherSeen
    rw [strict] at accepted
    rw [otherStrict] at otherAccepted
    exact disjoint apart otherApart ⟨accepted, otherAccepted⟩
  case nested =>
    intro longer accepted
    exact first.accepted_iff.2 (longer.trans (second.accepted_iff.1 accepted))

def ofNginxFoo : Pod where
  header := ⟨"nginx-foo-7c5b9d8f4-x2x9z", "default", .empty, [⟨"apps/v1", "ReplicaSet", "nginx-foo-7c5b9d8f4"⟩], none⟩
  nodeName := "n1"
  phase := "Running"
  ip := ""
  containers := []

def deploymentSurvey (name : String) : Survey :=
  ⟨{ SurveyOptions.default with strict := true }, ⟨"default", name, "Deployment", "apps/v1"⟩, false⟩

def nodeOne : Node := { Node.empty with header := { Metadata.empty with name := "n1" } }

def memberWithOnePod : Member :=
  ⟨.now (.ok [nodeOne]), fun name => .now (.ok ([ofNginxFoo].filter (·.nodeName = name)))⟩

/-- The name nginx-foo goes on from nginx, so the pod is shown for both deployments. -/
theorem deployments_share_a_pod :
    let o : OwnerRef := ⟨"apps/v1", "ReplicaSet", "nginx-foo-7c5b9d8f4"⟩
    let near := deploymentSurvey "nginx"
    let far := deploymentSurvey "nginx-foo"
    ofNginxFoo.BelongsByName o near.workload ∧ ofNginxFoo.BelongsByName o far.workload ∧
      near.workload.name ≠ far.workload.name ∧ near.workload.name ≠ "" ∧ far.workload.name ≠ "" ∧
      ofNginxFoo.ownership? near.workload true = some .intermediateOwner ∧
      ofNginxFoo.ownership? far.workload true = some .intermediateOwner ∧
      (near.placements memberWithOnePod [nodeOne]).map (fun place => place.pods.map (·.name)) =
        [[ofNginxFoo.header.name]] ∧
      (far.placements memberWithOnePod [nodeOne]).map (fun place => place.pods.map (·.name)) =
        [[ofNginxFoo.header.name]] := by
  intro o near far
  refine ⟨⟨rfl, rfl, by decide, rfl, rfl⟩, ⟨rfl, rfl, by decide, rfl, rfl⟩, by decide, by decide, by decide, ?_⟩
  decide +kernel

theorem deployments_share_pods_by_name_only_nginxfoo :
    let w := (deploymentSurvey "nginxfoo").workload
    let other := (deploymentSurvey "nginx-foo").workload
    w.name ≠ other.name ∧ ofNginxFoo.SharedByNameOnly w other ∧ ofNginxFoo.ownership? w true = none ∧
      ofNginxFoo.ownership? other true = some .intermediateOwner := by
  intro w other
  have first : ofNginxFoo.BelongsByName ⟨"apps/v1", "ReplicaSet", "nginx-foo-7c5b9d8f4"⟩ w :=
    ⟨rfl, rfl, by decide, rfl, rfl⟩
  have second : ofNginxFoo.BelongsByName ⟨"apps/v1", "ReplicaSet", "nginx-foo-7c5b9d8f4"⟩ other :=
    ⟨rfl, rfl, by decide, rfl, rfl⟩
  have distinct : w.name ≠ other.name := by decide
  exact ⟨distinct, deployments_share_pods_by_name_only first second distinct, by decide +kernel, by decide +kernel⟩

end Pod

end ReplicaAtlas
