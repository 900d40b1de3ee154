import BindingOperator.Proofs.Dialogues
import BindingOperator.Proofs.Patches
import BindingOperator.Proofs.Reading
import BindingOperator.Proofs.RoundTrip
import BindingOperator.Webhook.Admission
import Mathlib.Data.List.Sort

/-!
Answers of the admission projector. Whatever the order in which bindings are listed, those
that target the object are put into it in the order of their names, all of them or none; a
patch says exactly what that changed.
-/

namespace BindingOperator

section Order

theorem targeting_perm (kind : GroupVersionKind) (object : Object) (bindings : List Binding) :
    (targetingBindings kind object bindings).Perm (bindings.filter fun binding =>
      !binding.isDeleting && binding.spec.workload.targets kind object) :=
  List.mergeSort_perm _ _

theorem targeting_ascending (kind : GroupVersionKind) (object : Object) (bindings : List Binding)
    (distinct : (bindings.map Binding.nameAny).Nodup) :
    (targetingBindings kind object bindings).Pairwise
      fun left right => left.nameAny < right.nameAny := by
  have sorted : (targetingBindings kind object bindings).Pairwise
      fun left right => left.nameAny ≤ right.nameAny := by
    have pairs : (targetingBindings kind object bindings).Pairwise
        fun left right => decide (left.nameAny ≤ right.nameAny) = true :=
      List.pairwise_mergeSort (fun first second third => by simpa using le_trans)
        (fun first second => by simpa using le_total first.nameAny second.nameAny) _
    exact pairs.imp fun less => by simpa using less
  have names : (targetingBindings kind object bindings).Pairwise
      fun left right => left.nameAny ≠ right.nameAny :=
    List.pairwise_map.mp (((targeting_perm kind object bindings).map _).nodup_iff.mpr
      (distinct.sublist (List.filter_sublist.map _)))
  exact sorted.imp₂ (fun _ _ => lt_of_le_of_ne) names

/-- Bindings of different names are taken in one order, however they are listed. -/
theorem targeting_congr (kind : GroupVersionKind) (object : Object) {bindings others : List Binding}
    (same : others.Perm bindings) (distinct : (bindings.map Binding.nameAny).Nodup) :
    targetingBindings kind object others = targetingBindings kind object bindings := by
  have again : (others.map Binding.nameAny).Nodup := (same.map _).nodup_iff.mpr distinct
  refine List.Perm.eq_of_pairwise (fun _ _ _ _ less more => absurd more less.asymm)
    (targeting_ascending kind object others again)
    (targeting_ascending kind object bindings distinct)
    ((targeting_perm kind object others).trans ?_)
  exact (same.filter _).trans (targeting_perm kind object bindings).symm

end Order

section Folding

theorem projectEach_eq_foldlM (projector : Projector) (bindings : List Binding) (object : Object) :
    projectEach projector bindings object =
      bindings.foldlM (fun workload binding => projector.project binding workload) object := by
  induction bindings generalizing object with
  | nil => rfl
  | cons binding rest ih =>
      rw [projectEach, List.foldlM_cons]
      cases projector.project binding object with
      | error failure => rfl
      | ok projected => exact ih projected

/-- What projection may do to an object: to change its spec. -/
structure Respecified (before after : Object) : Prop where
  sound : after.Sound
  tag : after.tag = before.tag
  metadata : after.metadata = before.metadata
  fields : ∀ key, key ≠ "spec" → Table.lookup key after.body = Table.lookup key before.body

theorem Respecified.refl {object : Object} (sound : object.Sound) : Respecified object object :=
  ⟨sound, rfl, rfl, fun _ _ => rfl⟩

theorem Respecified.trans {before between after : Object} (first : Respecified before between)
    (second : Respecified between after) : Respecified before after where
  sound := second.sound
  tag := second.tag.trans first.tag
  metadata := second.metadata.trans first.metadata
  fields := fun key other => (second.fields key other).trans (first.fields key other)

theorem respecified_withTemplateAt {object : Object} {path : List String} {template : Table Json}
    (located : Located object path template) (sound : object.Sound) (changed : Table Json)
    (canonical : Json.Canonical (.object changed)) :
    Respecified object (object.withTemplateAt path changed) where
  sound := ⟨canonical_withTemplateAt located sound.body changed canonical,
    (metadata_withTemplateAt object path changed).symm ▸ sound.metadata⟩
  tag := tag_withTemplateAt object path changed
  metadata := metadata_withTemplateAt object path changed
  fields := by
    intro key other
    obtain ⟨rest, rfl⟩ := path_under_spec object path located.1
    have apart := Json.at_replaceAt_apart (.object changed) rest [] "spec" key other
      (.object object.body)
    rw [← body_withTemplateAt] at apart
    simpa [Json.at?, Json.field?] using apart

theorem respecified_project (binding : Binding) (object projected : Object) (sound : object.Sound)
    (done : PodTemplate.project binding object = .ok projected) :
    Respecified object projected := by
  cases known : binding.imprint? with
  | none =>
      rw [project_without_secret binding object known] at done
      obtain ⟨path, template, located, rfl⟩ := template_of_unproject binding object projected done
      exact respecified_withTemplateAt located sound _
        (canonical_unprojectTemplate _ _ (canonical_template located sound.body))
  | some imprint =>
      obtain ⟨path, template, located, -, rfl⟩ :=
        template_of_project binding imprint object projected known done
      exact respecified_withTemplateAt located sound _
        (canonical_projectedTemplate _ _ (canonical_template located sound.body))

theorem respecified_projectEach (bindings : List Binding) (object projected : Object)
    (sound : object.Sound)
    (done : projectEach PodTemplate.projector bindings object = .ok projected) :
    Respecified object projected := by
  induction bindings generalizing object with
  | nil =>
      obtain rfl := Except.ok.inj done
      exact .refl sound
  | cons binding rest ih =>
      rw [projectEach] at done
      cases step : PodTemplate.projector.project binding object with
      | error failure =>
          rw [step] at done
          cases done
      | ok between =>
          rw [step] at done
          have first := respecified_project binding object between sound step
          exact first.trans (ih between first.sound done)

theorem lookup_spec_toJson (object : Object) :
    object.toJson.field? "spec" = Table.lookup "spec" object.body := by
  have metadata : "spec" ≠ "metadata" := by decide
  have version : "spec" ≠ "apiVersion" := by decide
  have kind : "spec" ≠ "kind" := by decide
  rw [Object.toJson, Json.field?, Table.lookup_insert_other _ _ _ _ metadata]
  cases object.tag with
  | none => rfl
  | some tag =>
      simp only [Table.lookup_insert_other _ _ _ _ version, Table.lookup_insert_other _ _ _ _ kind]

/-- An object whose spec alone may have changed is written as before only if it is the same. -/
theorem Respecified.eq_of_toJson {before after : Object} (respecified : Respecified before after)
    (sound : before.Sound) (same : after.toJson = before.toJson) : after = before := by
  refine object_ext after before respecified.tag respecified.metadata (congrArg Json.object ?_)
  refine Table.ext _ _ (Json.canonical_ordered _ respecified.sound.body)
    (Json.canonical_ordered _ sound.body) fun key => ?_
  by_cases spec : key = "spec"
  · rw [spec, ← lookup_spec_toJson, ← lookup_spec_toJson, same]
  · exact respecified.fields key spec

end Folding

section Answers

variable (answer : (call : AdmissionCall) → call.Answer)

/-- The response to a request when every call is answered in that way. -/
def reviewed (request : AdmissionRequest) : AdmissionResponse :=
  Dialogue.run (m := Id) answer (projectRequest PodTemplate.projector request)

theorem reviewed_without_object (request : AdmissionRequest) (nothing : request.object = none) :
    reviewed answer request = .allow request := by
  rw [reviewed, projectRequest, nothing]
  rfl

theorem run_listBindings (namespaceName : String) :
    Dialogue.run (m := Id) answer (AdmissionTalk.listBindings namespaceName) =
      answer (.listBindings namespaceName) := rfl

theorem reviewed_object (request : AdmissionRequest) (object : Object)
    (submitted : request.object = some object) :
    reviewed answer request =
      match answer (.listBindings (request.namespaceOf object)) with
      | .error failure => .deny request failure.message
      | .ok bindings => projectInto PodTemplate.projector request object bindings := by
  rw [reviewed, projectRequest, submitted]
  simp only [Dialogue.run_bind, run_listBindings]
  cases answer (.listBindings (request.namespaceOf object)) <;> rfl

end Answers

/-- The write is refused, with a reason and without a change. -/
structure Denied (response : AdmissionResponse) (failure : Failure) : Prop where
  refused : response.allowed = false
  reason : response.message = some failure.message
  untouched : response.patch = none

/-- The write is let through; a patch turns what was submitted into what it becomes, and
there is none where nothing changes. -/
structure Admitted (response : AdmissionResponse) (submitted becomes : Object) : Prop where
  accepted : response.allowed = true
  silent : response.message = none
  patched : (becomes = submitted ∧ response.patch = none) ∨
    (becomes ≠ submitted ∧ ∃ patch, response.patch = some patch ∧
      patch.perform? submitted.toJson = some becomes.toJson)

theorem admitted_projectInto (request : AdmissionRequest) (object projected : Object)
    (bindings : List Binding) (sound : object.Sound)
    (done : projectEach PodTemplate.projector (targetingBindings request.kind object bindings)
      object = .ok projected) :
    Admitted (projectInto PodTemplate.projector request object bindings) object projected := by
  have respecified := respecified_projectEach _ object projected sound done
  have performed := Json.perform_diff object.toJson projected.toJson sound.canonical_toJson
    respecified.sound.canonical_toJson
  have nothing := Json.diff_eq_nil object.toJson projected.toJson sound.canonical_toJson
    respecified.sound.canonical_toJson
  rw [projectInto, done]
  by_cases same : Json.diff object.toJson projected.toJson = []
  · simp only [same, List.isEmpty_nil, ↓reduceIte]
    exact ⟨rfl, rfl, .inl ⟨respecified.eq_of_toJson sound (nothing.mp same).symm, rfl⟩⟩
  · simp only [List.isEmpty_iff, same, ↓reduceIte]
    refine ⟨rfl, rfl, .inr ⟨fun equal => same (nothing.mpr (by rw [equal])), _, rfl, performed⟩⟩

/-- Answers are complete, all or nothing, and the same for every order of the listed
bindings. The object is one that was read, whatever its document was like. -/
theorem reviewed_exact (document : Json) (request : AdmissionRequest)
    (read : AdmissionRequest.ofJson? document = some request)
    (answer : (call : AdmissionCall) → call.Answer) :
    (request.object = none → reviewed answer request = .allow request) ∧
    ∀ object, request.object = some object →
      (∀ failure, answer (.listBindings (request.namespaceOf object)) = .error failure →
        Denied (reviewed answer request) failure) ∧
      ∀ bindings, answer (.listBindings (request.namespaceOf object)) = .ok bindings →
        (bindings.map Binding.nameAny).Nodup →
        (∃ order : List Binding, order.Perm (bindings.filter fun binding =>
            !binding.isDeleting && binding.spec.workload.targets request.kind object) ∧
          order.Pairwise (fun left right => left.nameAny < right.nameAny) ∧
          match order.foldlM (fun workload binding => PodTemplate.project binding workload)
              object with
          | .error failure => Denied (reviewed answer request) failure
          | .ok projected => Admitted (reviewed answer request) object projected) ∧
        ∀ (others : List Binding) (otherwise : (call : AdmissionCall) → call.Answer),
          others.Perm bindings →
          otherwise (.listBindings (request.namespaceOf object)) = .ok others →
          reviewed otherwise request = reviewed answer request := by
  refine ⟨reviewed_without_object answer request, fun object submitted => ⟨?_, ?_⟩⟩
  · intro failure listed
    rw [reviewed_object answer request object submitted, listed]
    exact ⟨rfl, rfl, rfl⟩
  · intro bindings listed distinct
    have sound := AdmissionRequest.sound_object document request read object submitted
    have responds : reviewed answer request =
        projectInto PodTemplate.projector request object bindings := by
      rw [reviewed_object answer request object submitted, listed]
    refine ⟨⟨targetingBindings request.kind object bindings, targeting_perm _ _ _,
      targeting_ascending _ _ _ distinct, ?_⟩, ?_⟩
    · rw [responds]
      have folded := projectEach_eq_foldlM PodTemplate.projector
        (targetingBindings request.kind object bindings) object
      cases done : projectEach PodTemplate.projector
          (targetingBindings request.kind object bindings) object with
      | error failure =>
          rw [done] at folded
          simp only [PodTemplate.projector] at folded
          rw [← folded, projectInto, done]
          exact ⟨rfl, rfl, rfl⟩
      | ok projected =>
          rw [done] at folded
          simp only [PodTemplate.projector] at folded
          rw [← folded]
          exact admitted_projectInto request object projected bindings sound done
    · intro others otherwise same relisted
      rw [responds, reviewed_object otherwise request object submitted, relisted]
      simp only [projectInto, targeting_congr request.kind object same distinct]

section Sample

/-- A deployment as it is submitted, its fields out of order. -/
def submittedDocument : Json :=
  .object [("spec", .object [("template", .object rootedTemplate)]),
    ("metadata", .object [("name", .string "web")]),
    ("kind", .string "Deployment"), ("apiVersion", .string "apps/v1")]

def submittedWorkload : Object :=
  { rootedWorkload with tag := some ⟨"apps/v1", "Deployment"⟩ }

def creationDocument : Json :=
  .object [("uid", .string "1"),
    ("kind", .object [("group", .string "apps"), ("version", .string "v1"),
      ("kind", .string "Deployment")]),
    ("resource", .object [("group", .string "apps"), ("version", .string "v1"),
      ("resource", .string "deployments")]),
    ("operation", .string "CREATE"), ("userInfo", .object []), ("object", submittedDocument)]

def creationRequest : AdmissionRequest where
  uid := "1"
  kind := ⟨"apps", "v1", "Deployment"⟩
  operation := .create
  object := some submittedWorkload

/-- A server that lists these bindings in every namespace. -/
def listing (bindings : List Binding) : (call : AdmissionCall) → call.Answer
  | .listBindings _ => .ok bindings
  | .enqueue _ => true

theorem read_creation : AdmissionRequest.ofJson? creationDocument = some creationRequest := by
  decide +kernel

/-- Both bindings are put in by name, the one that is listed last before the other. -/
theorem reviewed_exact_listed :
    AdmissionRequest.ofJson? creationDocument = some creationRequest ∧
    Admitted (reviewed (listing [mappingBinding "second", mappingBinding "first"]) creationRequest)
      submittedWorkload (history submittedWorkload
        [.project (mappingBinding "first"), .project (mappingBinding "second")]) ∧
    reviewed (listing [mappingBinding "first", mappingBinding "second"]) creationRequest =
      reviewed (listing [mappingBinding "second", mappingBinding "first"]) creationRequest := by
  have told := reviewed_exact creationDocument creationRequest read_creation
    (listing [mappingBinding "second", mappingBinding "first"])
  obtain ⟨⟨order, members, ascending, answered⟩, again⟩ :=
    (told.2 submittedWorkload rfl).2 _ rfl (by decide)
  have both : ([mappingBinding "second", mappingBinding "first"].filter fun binding =>
      !binding.isDeleting && binding.spec.workload.targets creationRequest.kind submittedWorkload) =
        [mappingBinding "second", mappingBinding "first"] := by decide +kernel
  have straight : order = [mappingBinding "first", mappingBinding "second"] := by
    refine List.Perm.eq_of_pairwise (fun _ _ _ _ less more => absurd more less.asymm) ascending
      (by decide +kernel) ?_
    rw [both] at members
    exact members.trans (.swap _ _ _)
  have folded : order.foldlM (fun workload binding => PodTemplate.project binding workload)
      submittedWorkload = .ok (history submittedWorkload
        [.project (mappingBinding "first"), .project (mappingBinding "second")]) := by
    rw [straight]
    decide +kernel
  rw [folded] at answered
  exact ⟨read_creation, answered, again _ (listing _) (.swap _ _ _) rfl⟩

end Sample
end BindingOperator
