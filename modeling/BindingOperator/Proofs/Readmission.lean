import BindingOperator.Proofs.Succession

/-!
Admitting a workload that was admitted before. The bindings that target it are in it, as each
of them would project itself, and admitting it again changes nothing, unless an owner gave up
a variable that a binding before it wants: that binding had found the variable defined, and it
gets it with the next admission.
-/

namespace BindingOperator

section Projecting

variable {object : Object} {path : List String} {template : Table Json}

theorem settled_of_project (binding : Binding) (projected : Object)
    (located : Located object path template)
    (done : PodTemplate.project binding object = .ok projected) :
    projected = object.withTemplateAt path (binding.settle template) ∧
      (binding.imprint?.isSome = true → Shaped template) := by
  obtain ⟨imprint, known, -, -, -, same⟩ | ⟨unknown, -, same⟩ := binding.settle_cases
  · rcases project_located binding imprint located known with ⟨shaped, works⟩ | ⟨-, fails⟩
    · rw [works, Except.ok.injEq] at done
      rw [same]
      exact ⟨done.symm, fun _ => shaped⟩
    · rw [fails] at done
      cases done
  · rw [project_without_secret binding object unknown, unproject_located binding located,
      Except.ok.injEq] at done
    rw [same, unknown]
    exact ⟨done.symm, by simp⟩

theorem project_settles (binding : Binding) (located : Located object path template)
    (shaped : binding.imprint?.isSome = true → Shaped template) :
    PodTemplate.project binding object =
      .ok (object.withTemplateAt path (binding.settle template)) := by
  obtain ⟨imprint, known, -, -, -, same⟩ | ⟨unknown, -, same⟩ := binding.settle_cases
  · have works := (project_located binding imprint located known).resolve_right fun fails =>
      fails.1 (shaped (by simp [known]))
    rw [works.2, same]
  · rw [project_without_secret binding object unknown, unproject_located binding located, same]

/-- A run that goes well leaves the bindings' turns in the place of the template, and a shape
in which every one of them could be projected again. -/
theorem settled_of_projectEach (order : List Binding) (projected : Object)
    (canonical : object.Canonical) (located : Located object path template)
    (done : projectEach PodTemplate.projector order object = .ok projected) :
    projected = object.withTemplateAt path (settleEach order template) ∧
      ∀ binding ∈ order, binding.imprint?.isSome = true → Shaped (settleEach order template) := by
  induction order generalizing object template with
  | nil =>
      obtain rfl := Except.ok.inj done
      exact ⟨(withTemplateAt_self located canonical).symm, by simp⟩
  | cons first rest ih =>
      rw [projectEach] at done
      cases step : PodTemplate.projector.project first object with
      | error failure =>
          rw [step] at done
          cases done
      | ok between =>
          rw [step] at done
          obtain ⟨rfl, shaped⟩ := settled_of_project first between located step
          have inner := canonical_template located canonical
          have placed := located_withTemplateAt located (first.settle template)
          obtain ⟨rfl, later⟩ := ih (canonical_withTemplateAt located canonical _
            (canonical_settle first inner)) placed done
          refine ⟨withTemplateAt_twice located _ _, ?_⟩
          intro binding member known
          rcases List.mem_cons.mp member with rfl | present
          · exact shaped_settleEach rest (canonical_settle _ inner)
              (shaped_settle _ inner (shaped known))
          · exact later binding present known

theorem projectEach_settles (order : List Binding) (canonical : object.Canonical)
    (located : Located object path template)
    (shaped : ∀ binding ∈ order, binding.imprint?.isSome = true → Shaped template) :
    projectEach PodTemplate.projector order object =
      .ok (object.withTemplateAt path (settleEach order template)) := by
  induction order generalizing object template with
  | nil => rw [projectEach, settleEach, List.foldl_nil, withTemplateAt_self located canonical]
  | cons first rest ih =>
      have inner := canonical_template located canonical
      have step : PodTemplate.projector.project first object =
          .ok (object.withTemplateAt path (first.settle template)) :=
        project_settles first located (shaped first List.mem_cons_self)
      rw [projectEach, step]
      refine (ih (canonical_withTemplateAt located canonical _ (canonical_settle first inner))
        (located_withTemplateAt located _) ?_).trans ?_
      · intro binding member known
        exact shaped_settle first inner (shaped binding (List.mem_cons_of_mem first member) known)
      · rw [withTemplateAt_twice located]
        rfl

theorem projectEach_unlocated (order : List Binding) (projected : Object)
    (absent : object.templatePath? = none)
    (done : projectEach PodTemplate.projector order object = .ok projected) : order = [] := by
  cases order with
  | nil => rfl
  | cons first rest =>
      have fails : PodTemplate.projector.project first object =
          .error (PodTemplate.noTemplate object) := project_unlocated first object absent
      rw [projectEach, fails] at done
      cases done

theorem withTemplateAt_eq_iff (located : Located object path template)
    (canonical : object.Canonical) (changed : Table Json) :
    object.withTemplateAt path changed = object ↔ changed = template := by
  constructor
  · intro same
    have there := (located_withTemplateAt located changed).2
    rw [same] at there
    exact Option.some.inj (there.symm.trans located.2)
  · rintro rfl
    exact withTemplateAt_self located canonical

end Projecting

/-- In a workload, a variable that one of the bindings writes is given up by an owner behind it. -/
def Object.Unsettled (workload : Object) (order : List Binding) : Prop :=
  ∃ template, workload.template? = some template ∧ BindingOperator.Unsettled order template

theorem unsettled_located {workload : Object} {path : List String} {template : Table Json}
    (located : Located workload path template) (order : List Binding) :
    workload.Unsettled order ↔ Unsettled order template := by
  simp [Object.Unsettled, template_located located]

section Resting

variable {object projected : Object} {order : List Binding}

/-- What the bindings made of a workload that has a history: none of them would change it
again, alone or all of them in their order, unless something was given up that one wants. -/
theorem projectEach_rests (keeps : object.Keeps PartedTemplate)
    (keys : (order.map Binding.key).Nodup)
    (once : ∀ binding ∈ order, (binding.spec.env.map EnvMapping.name).Nodup)
    (done : projectEach PodTemplate.projector order object = .ok projected) :
    ((∀ binding ∈ order, PodTemplate.project binding projected = .ok projected) ↔
      ¬ object.Unsettled order) ∧
    ∃ again, projectEach PodTemplate.projector order projected = .ok again ∧
      (again = projected ↔ ¬ object.Unsettled order) := by
  cases found : object.templatePath? with
  | none =>
      obtain rfl := projectEach_unlocated order projected found done
      have settled : ¬ object.Unsettled [] := by simp [Object.Unsettled, Object.template?, found]
      exact ⟨iff_of_true (by simp) settled, projected, rfl, iff_of_true rfl settled⟩
  | some path =>
      obtain ⟨template, located⟩ := located_of_path object path found
      have parted := keeps.template path template located
      obtain ⟨rfl, shaped⟩ := settled_of_projectEach order projected keeps.canonical located done
      have placed := located_withTemplateAt located (settleEach order template)
      have canonical := canonical_withTemplateAt located keeps.canonical _
        (parted_settleEach order parted).shared.tidy.canonical
      have told := unsettled_located located order
      refine ⟨?_, _, projectEach_settles order canonical placed shaped, ?_⟩
      · rw [told, ← settled_iff order keys once parted]
        refine forall₂_congr fun binding member => ?_
        rw [project_settles binding placed (shaped binding member), Except.ok.injEq,
          withTemplateAt_eq_iff placed canonical]
      · rw [told, withTemplateAt_eq_iff placed canonical,
          settleEach_again_iff order keys once parted]

/-- Whatever the bindings gave up, they have nothing to give up the next time. -/
theorem projectEach_settled (keeps : object.Keeps PartedTemplate)
    (keys : (order.map Binding.key).Nodup)
    (done : projectEach PodTemplate.projector order object = .ok projected) :
    projected.Keeps PartedTemplate ∧ ¬ projected.Unsettled order := by
  cases found : object.templatePath? with
  | none =>
      obtain rfl := projectEach_unlocated order projected found done
      obtain rfl := Except.ok.inj done
      exact ⟨keeps, by simp [Object.Unsettled, Object.template?, found]⟩
  | some path =>
      obtain ⟨template, located⟩ := located_of_path object path found
      have parted := keeps.template path template located
      obtain ⟨rfl, -⟩ := settled_of_projectEach order projected keeps.canonical located done
      refine ⟨keeps.withTemplateAt lasting_parted located _ (parted_settleEach order parted), ?_⟩
      rw [unsettled_located (located_withTemplateAt located _)]
      exact settled_twice order keys parted

end Resting

/-- Which bindings target an object is told by its metadata. -/
theorem targetingBindings_respecified (kind : GroupVersionKind) {before after : Object}
    (respecified : Respecified before after) (bindings : List Binding) :
    targetingBindings kind after bindings = targetingBindings kind before bindings := by
  have same : ∀ reference : WorkloadReference,
      reference.targets kind after = reference.targets kind before := by
    intro reference
    simp only [WorkloadReference.targets, Object.labels, respecified.metadata]
  simp only [targetingBindings, same]

theorem mem_targetingBindings (kind : GroupVersionKind) (object : Object) (bindings : List Binding)
    (binding : Binding) :
    binding ∈ targetingBindings kind object bindings ↔
      binding ∈ bindings ∧ binding.isDeleting = false ∧
        binding.spec.workload.targets kind object = true := by
  rw [(targeting_perm kind object bindings).mem_iff]
  simp

/-- An object that was projected into is reviewed with the same bindings again. -/
theorem reviewed_resubmitted (answer : (call : AdmissionCall) → call.Answer)
    (request : AdmissionRequest) {before after : Object} (respecified : Respecified before after)
    (bindings : List Binding)
    (listed : answer (.listBindings (request.namespaceOf before)) = .ok bindings) :
    reviewed answer { request with object := some after } =
      projectInto PodTemplate.projector { request with object := some after } after bindings := by
  have place : AdmissionRequest.namespaceOf { request with object := some after } after =
      request.namespaceOf before := by
    simp only [AdmissionRequest.namespaceOf, respecified.metadata]
  rw [reviewed_object answer _ after rfl, place, listed]

theorem patch_eq_none_iff {response : AdmissionResponse} {submitted becomes : Object}
    (admitted : Admitted response submitted becomes) :
    response.patch = none ↔ becomes = submitted := by
  rcases admitted.patched with ⟨same, nothing⟩ | ⟨different, patch, made, -⟩
  · exact iff_of_true nothing same
  · exact iff_of_false (by simp [made]) different

/-- An admitted workload carries the bindings that target it, in that none of them would change
it and admitting it again makes no patch, exactly when no owner gave up a variable that a
binding before it wants. In any case the second admission is the last that makes a patch. -/
theorem admitted_rests_unless_given_up (document : Json) (request : AdmissionRequest)
    (read : AdmissionRequest.ofJson? document = some request)
    (answer : (call : AdmissionCall) → call.Answer) (object : Object)
    (submitted : request.object = some object) (reached : object.Reached)
    (bindings : List Binding)
    (listed : answer (.listBindings (request.namespaceOf object)) = .ok bindings)
    (keys : (bindings.map Binding.key).Nodup)
    (once : ∀ binding ∈ bindings, (binding.spec.env.map EnvMapping.name).Nodup)
    (allowed : (reviewed answer request).allowed = true) :
    ∃ admitted again,
      Admitted (reviewed answer request) object admitted ∧
      ((∀ binding ∈ bindings, binding.isDeleting = false →
          binding.spec.workload.targets request.kind admitted = true →
            PodTemplate.project binding admitted = .ok admitted) ↔
        ¬ object.Unsettled (targetingBindings request.kind object bindings)) ∧
      Admitted (reviewed answer { request with object := some admitted }) admitted again ∧
      ((reviewed answer { request with object := some admitted }).patch = none ↔
        ¬ object.Unsettled (targetingBindings request.kind object bindings)) ∧
      Admitted (reviewed answer { request with object := some again }) again again := by
  have sound := AdmissionRequest.sound_object document request read object submitted
  have members := mem_targetingBindings request.kind object bindings
  have distinct : ((targetingBindings request.kind object bindings).map Binding.key).Nodup :=
    ((targeting_perm request.kind object bindings).map _).nodup_iff.mpr
      (keys.sublist (List.filter_sublist.map _))
  have single := fun binding member => once binding ((members binding).mp member).1
  have keeps := reached.keeps lasting_parted
  rw [reviewed_object answer request object submitted, listed] at allowed ⊢
  cases done : projectEach PodTemplate.projector (targetingBindings request.kind object bindings)
      object with
  | error failure => simp [projectInto, done, AdmissionResponse.deny] at allowed
  | ok admitted =>
      have respecified := respecified_projectEach _ object admitted sound done
      obtain ⟨alone, again, redone, together⟩ := projectEach_rests keeps distinct single done
      obtain ⟨kept, settled⟩ := projectEach_settled keeps distinct done
      have twice := respecified_projectEach _ admitted again respecified.sound redone
      obtain ⟨-, third, thrice, rests⟩ := projectEach_rests kept distinct single redone
      obtain rfl := rests.mpr settled
      -- the bindings that target the object are the same ones each time
      have order := targetingBindings_respecified request.kind respecified bindings
      have later := targetingBindings_respecified request.kind (respecified.trans twice) bindings
      have second := admitted_projectInto { request with object := some admitted } admitted third
        bindings respecified.sound (order ▸ redone)
      have last := admitted_projectInto { request with object := some third } third third
        bindings twice.sound (later ▸ thrice)
      rw [← reviewed_resubmitted answer request respecified bindings listed] at second
      rw [← reviewed_resubmitted answer request (respecified.trans twice) bindings listed] at last
      refine ⟨admitted, third, admitted_projectInto request object admitted bindings sound done,
        ?_, second, (patch_eq_none_iff second).trans together, last⟩
      rw [← alone]
      refine forall_congr' fun binding => ?_
      rw [← order, mem_targetingBindings]
      exact ⟨fun each member => each member.1 member.2.1 member.2.2,
        fun each member living targeted => each ⟨member, living, targeted⟩⟩

section Sample

/-- The sample workload after its second binding was projected into it. -/
def forsakenWorkload : Object :=
  { history rootedWorkload [.project (mappingBinding "second")] with
    tag := some ⟨"apps/v1", "Deployment"⟩ }

/-- The second binding when it maps nothing any more. -/
def silentBinding : Binding :=
  { mappingBinding "second" with spec := { (mappingBinding "second").spec with env := [] } }

def revisedBindings : List Binding := [mappingBinding "first", silentBinding]

def revisionDocument : Json :=
  .object [("uid", .string "1"),
    ("kind", .object [("group", .string "apps"), ("version", .string "v1"),
      ("kind", .string "Deployment")]),
    ("resource", .object [("group", .string "apps"), ("version", .string "v1"),
      ("resource", .string "deployments")]),
    ("operation", .string "UPDATE"), ("userInfo", .object []),
    ("object", forsakenWorkload.toJson)]

def revisionRequest : AdmissionRequest :=
  { creationRequest with operation := .update, object := some forsakenWorkload }

theorem read_revision : AdmissionRequest.ofJson? revisionDocument = some revisionRequest := by
  decide +kernel

theorem targeting_forsakenWorkload :
    targetingBindings revisionRequest.kind forsakenWorkload revisedBindings = revisedBindings := by
  have both : (revisedBindings.filter fun binding => !binding.isDeleting &&
      binding.spec.workload.targets revisionRequest.kind forsakenWorkload) = revisedBindings := by
    decide +kernel
  have order := targeting_perm revisionRequest.kind forsakenWorkload revisedBindings
  rw [both] at order
  exact order.eq_of_pairwise (fun _ _ _ _ less more => absurd more less.asymm)
    (targeting_ascending _ _ _ (by decide)) (by decide +kernel)

theorem unsettled_forsakenWorkload :
    forsakenWorkload.Unsettled
      (targetingBindings revisionRequest.kind forsakenWorkload revisedBindings) := by
  have recorded : forsakenWorkload.template?.map (fun template =>
      (containerNames (containersOf (fieldsOf "spec" template)),
        namesIn (ownedEnvOf silentBinding.key (annotationsIn template)) "app")) =
      some (["app"], ["URL"]) := by
    decide +kernel
  obtain ⟨template, found, owned⟩ := Option.map_eq_some_iff.mp recorded
  obtain ⟨names, owned⟩ := Prod.mk.inj owned
  rw [targeting_forsakenWorkload]
  refine ⟨template, found, "app", by simp [names], "URL",
    ⟨[mappingBinding "first"], silentBinding, [], rfl, by simp [owned], ?_, by simp⟩,
    mappingBinding "first", List.mem_cons_self, rfl, _, List.mem_cons_self, rfl⟩
  rintro ⟨-, mapping, member, -⟩
  exact absurd member List.not_mem_nil

theorem allowed_revision :
    (reviewed (listing revisedBindings) revisionRequest).allowed = true := by
  have works : (projectEach PodTemplate.projector revisedBindings
      forsakenWorkload).toOption.isSome = true := by decide +kernel
  cases done : projectEach PodTemplate.projector revisedBindings forsakenWorkload with
  | error failure => simp [done, Except.toOption] at works
  | ok projected =>
      rw [← targeting_forsakenWorkload] at done
      rw [reviewed_object _ revisionRequest forsakenWorkload rfl]
      exact (admitted_projectInto revisionRequest forsakenWorkload projected _
        (AdmissionRequest.sound_object _ _ read_revision _ rfl) done).accepted

/-- The first binding finds its variable defined, the second one drops it, and only the next
admission gives it to the first. -/
theorem forsaken_variable_returns :
    ∃ admitted again,
      Admitted (reviewed (listing revisedBindings) revisionRequest) forsakenWorkload admitted ∧
      Admitted (reviewed (listing revisedBindings)
        { revisionRequest with object := some admitted }) admitted again ∧
      (reviewed (listing revisedBindings)
        { revisionRequest with object := some admitted }).patch ≠ none ∧
      Admitted (reviewed (listing revisedBindings)
        { revisionRequest with object := some again }) again again := by
  obtain ⟨admitted, again, first, -, second, patched, last⟩ := admitted_rests_unless_given_up
    revisionDocument revisionRequest read_revision (listing revisedBindings) forsakenWorkload rfl
    ⟨rootedWorkload, _, canonical_rootedWorkload, fresh_rootedWorkload, rfl⟩ revisedBindings rfl
    (by decide) (by decide) allowed_revision
  exact ⟨admitted, again, first, second,
    fun none => patched.mp none unsettled_forsakenWorkload, last⟩

end Sample

end BindingOperator
