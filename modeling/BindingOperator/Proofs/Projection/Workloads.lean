import BindingOperator.Proofs.Projection.LayeredTemplates

/-!
Workloads under projection. A workload that has a pod template keeps it in one place, and
whatever a projector does to the workload it does to that template: the place, the kind,
the metadata and the status stay as they are.
-/

namespace BindingOperator

/-- A document as the cluster keeps it: every table in it is in key order. -/
def Object.Canonical (workload : Object) : Prop := Json.Canonical (.object workload.body)

/-- A template is found in a workload at a path. -/
def Located (workload : Object) (path : List String) (template : Table Json) : Prop :=
  workload.templatePath? = some path ∧ workload.templateAt? path = some template

section Places

theorem templatePath_cases (workload : Object) (path : List String) :
    workload.templatePath? = some path ↔
      (path = ["spec", "template"] ∧ (workload.templateAt? ["spec", "template"]).isSome = true) ∨
      (path = ["spec", "jobTemplate", "spec", "template"] ∧
        workload.templateAt? ["spec", "template"] = none ∧
        (workload.templateAt? ["spec", "jobTemplate", "spec", "template"]).isSome = true) := by
  unfold Object.templatePath? templatePaths
  cases first : workload.templateAt? ["spec", "template"] with
  | some template =>
      simp only [List.find?, first, Option.isSome_some, Option.some.injEq, and_true, reduceCtorEq,
        false_and, and_false, or_false]
      exact eq_comm
  | none =>
      cases second : workload.templateAt? ["spec", "jobTemplate", "spec", "template"] with
      | some template =>
          simp only [List.find?, first, second, Option.isSome_some, Option.isSome_none,
            Option.some.injEq, and_true, Bool.false_eq_true, and_false, false_or]
          exact eq_comm
      | none => simp [List.find?, first, second]

theorem located_of_path (workload : Object) (path : List String)
    (found : workload.templatePath? = some path) : ∃ template, Located workload path template := by
  rcases (templatePath_cases workload path).mp found with ⟨rfl, some⟩ | ⟨rfl, -, some⟩
  · obtain ⟨template, present⟩ := Option.isSome_iff_exists.mp some
    exact ⟨template, found, present⟩
  · obtain ⟨template, present⟩ := Option.isSome_iff_exists.mp some
    exact ⟨template, found, present⟩

theorem template_some {workload : Object} {template : Table Json} :
    workload.template? = some template ↔ ∃ path, Located workload path template := by
  rw [Object.template?, Option.bind_eq_some_iff]
  rfl

theorem template_of_body {one other : Object} (same : one.body = other.body) :
    one.template? = other.template? := by
  unfold Object.template? Object.templatePath? Object.templateAt?
  rw [same]

/-- A path of templates starts in the spec. -/
theorem path_under_spec (workload : Object) (path : List String)
    (found : workload.templatePath? = some path) : ∃ rest, path = "spec" :: rest := by
  rcases (templatePath_cases workload path).mp found with ⟨rfl, -⟩ | ⟨rfl, -⟩
  · exact ⟨_, rfl⟩
  · exact ⟨_, rfl⟩

theorem templateAt_some (workload : Object) (path : List String) (template : Table Json) :
    workload.templateAt? path = some template ↔
      (Json.object workload.body).at? path = some (.object template) := by
  unfold Object.templateAt?
  constructor
  · intro found
    obtain ⟨value, present, object⟩ := Option.bind_eq_some_iff.mp found
    rw [present, asObject_some object]
  · intro found
    simp [found, Json.asObject?]

theorem body_withTemplateAt (workload : Object) (rest : List String) (template : Table Json) :
    Json.object (workload.withTemplateAt ("spec" :: rest) template).body =
      Json.replaceAt (.object template) ("spec" :: rest) (.object workload.body) := by
  obtain ⟨body, replaced⟩ :=
    Json.replaceAt_object (.object template) "spec" rest workload.body
  simp [Object.withTemplateAt, replaced]

theorem metadata_withTemplateAt (workload : Object) (path : List String) (template : Table Json) :
    (workload.withTemplateAt path template).metadata = workload.metadata := by
  unfold Object.withTemplateAt
  split <;> rfl

theorem tag_withTemplateAt (workload : Object) (path : List String) (template : Table Json) :
    (workload.withTemplateAt path template).tag = workload.tag := by
  unfold Object.withTemplateAt
  split <;> rfl

theorem object_ext (left right : Object) (tag : left.tag = right.tag)
    (metadata : left.metadata = right.metadata)
    (body : Json.object left.body = Json.object right.body) : left = right := by
  cases left
  cases right
  simp_all

variable {workload : Object} {path : List String} {template : Table Json}

theorem located_withTemplateAt (located : Located workload path template)
    (changed : Table Json) : Located (workload.withTemplateAt path changed) path changed := by
  obtain ⟨found, present⟩ := located
  have old := (templateAt_some workload path template).mp present
  obtain ⟨rest, under⟩ := path_under_spec workload path found
  have now : (workload.withTemplateAt path changed).templateAt? path = some changed := by
    rw [templateAt_some, under, body_withTemplateAt, ← under]
    exact Json.at_replaceAt _ _ path _ old
  refine ⟨?_, now⟩
  rcases (templatePath_cases workload path).mp found with ⟨rfl, -⟩ | ⟨rfl, absent, -⟩
  · exact (templatePath_cases _ _).mpr (.inl ⟨rfl, by rw [now]; rfl⟩)
  · refine (templatePath_cases _ _).mpr (.inr ⟨rfl, ?_, by rw [now]; rfl⟩)
    unfold Object.templateAt? at absent ⊢
    rw [body_withTemplateAt, Json.at_replaceAt_elsewhere _ _ _ _ (by decide) (by decide)]
    exact absent

theorem template_located (located : Located workload path template) :
    workload.template? = some template :=
  template_some.mpr ⟨path, located⟩

theorem template_withTemplateAt (located : Located workload path template)
    (changed : Table Json) : (workload.withTemplateAt path changed).template? = some changed :=
  template_located (located_withTemplateAt located changed)

theorem withTemplateAt_twice (located : Located workload path template)
    (first second : Table Json) :
    (workload.withTemplateAt path first).withTemplateAt path second =
      workload.withTemplateAt path second := by
  obtain ⟨rest, rfl⟩ := path_under_spec workload path located.1
  apply object_ext
  · simp only [tag_withTemplateAt]
  · simp only [metadata_withTemplateAt]
  · rw [body_withTemplateAt, body_withTemplateAt, body_withTemplateAt, Json.replaceAt_replaceAt]

theorem withTemplateAt_self (located : Located workload path template)
    (canonical : workload.Canonical) : workload.withTemplateAt path template = workload := by
  obtain ⟨found, present⟩ := located
  have old := (templateAt_some workload path template).mp present
  obtain ⟨rest, rfl⟩ := path_under_spec workload path found
  apply object_ext _ _ (tag_withTemplateAt _ _ _) (metadata_withTemplateAt _ _ _)
  rw [body_withTemplateAt]
  exact Json.replaceAt_self _ _ _ canonical old

theorem canonical_template (located : Located workload path template)
    (canonical : workload.Canonical) : Json.Canonical (.object template) :=
  Json.canonical_at path _ _ canonical ((templateAt_some workload path template).mp located.2)

theorem canonical_withTemplateAt (located : Located workload path template)
    (canonical : workload.Canonical) (changed : Table Json)
    (inner : Json.Canonical (.object changed)) :
    (workload.withTemplateAt path changed).Canonical := by
  obtain ⟨rest, rfl⟩ := path_under_spec workload path located.1
  rw [Object.Canonical, body_withTemplateAt]
  exact Json.canonical_replaceAt _ _ _ canonical inner

/-- A change of the template leaves the Secret that the object publishes. -/
theorem secretName_withTemplateAt (located : Located workload path template)
    (changed : Table Json) :
    (workload.withTemplateAt path changed).secretName = workload.secretName := by
  obtain ⟨rest, rfl⟩ := path_under_spec workload path located.1
  rw [Object.secretName, Object.secretNameIn, body_withTemplateAt,
    Json.at_replaceAt_apart _ _ _ "spec" "status" (by decide)]
  rfl

end Places

section Projectors

variable {workload : Object} {path : List String} {template : Table Json}

theorem unproject_located (binding : Binding) (located : Located workload path template) :
    PodTemplate.unproject binding workload =
      .ok (workload.withTemplateAt path (unprojectTemplate binding.key template)) := by
  simp [PodTemplate.unproject, located.1, located.2]

theorem unproject_unlocated (binding : Binding) (workload : Object)
    (absent : workload.templatePath? = none) :
    PodTemplate.unproject binding workload = .error (PodTemplate.noTemplate workload) := by
  simp [PodTemplate.unproject, absent]

theorem project_unlocated (binding : Binding) (workload : Object)
    (absent : workload.templatePath? = none) :
    PodTemplate.project binding workload = .error (PodTemplate.noTemplate workload) := by
  unfold PodTemplate.project
  cases binding.imprint? with
  | none => exact unproject_unlocated binding workload absent
  | some imprint => simp [absent]

theorem project_without_secret (binding : Binding) (workload : Object)
    (unknown : binding.imprint? = none) :
    PodTemplate.project binding workload = PodTemplate.unproject binding workload := by
  simp [PodTemplate.project, unknown]

theorem project_located (binding : Binding) (imprint : Imprint)
    (located : Located workload path template) (known : binding.imprint? = some imprint) :
    (Shaped template ∧ PodTemplate.project binding workload =
        .ok (workload.withTemplateAt path (projectedTemplate imprint template))) ∨
      (¬ Shaped template ∧
        PodTemplate.project binding workload = .error (PodTemplate.malformed workload)) := by
  by_cases shaped : Shaped template
  · have works := (projectTemplate_some imprint template _).mpr ⟨shaped, rfl⟩
    refine .inl ⟨shaped, ?_⟩
    simp [PodTemplate.project, known, located.1, located.2, works]
  · have fails : projectTemplate imprint template = none := by
      rw [Option.eq_none_iff_forall_ne_some]
      exact fun result projected =>
        shaped ((projectTemplate_some imprint template result).mp projected).1
    refine .inr ⟨shaped, ?_⟩
    simp [PodTemplate.project, known, located.1, located.2, fails]

theorem imprint_fields (binding : Binding) (imprint : Imprint)
    (known : binding.imprint? = some imprint) :
    imprint.key = binding.key ∧ imprint.env = binding.spec.env ∧
      binding.secretName = some imprint.secret := by
  obtain ⟨secret, found, rfl⟩ := Option.map_eq_some_iff.mp known
  exact ⟨rfl, rfl, found⟩

theorem imprint_of_secret {binding : Binding} {secret : String}
    (resolved : binding.secretName = some secret) :
    ∃ imprint, binding.imprint? = some imprint ∧ imprint.secret = secret :=
  ⟨_, congrArg (Option.map _) resolved, rfl⟩

/-- A removal that goes well leaves the removed template in the place of the template. -/
theorem template_of_unproject (binding : Binding) (workload copy : Object)
    (removed : PodTemplate.unproject binding workload = .ok copy) :
    ∃ path template, Located workload path template ∧
      copy = workload.withTemplateAt path (unprojectTemplate binding.key template) := by
  cases found : workload.templatePath? with
  | none =>
      rw [unproject_unlocated binding workload found] at removed
      simp at removed
  | some path =>
      obtain ⟨template, located⟩ := located_of_path workload path found
      rw [unproject_located binding located, Except.ok.injEq] at removed
      exact ⟨path, template, located, removed.symm⟩

/-- A projection that goes well found a template of the right shape. -/
theorem template_of_project (binding : Binding) (imprint : Imprint) (workload copy : Object)
    (known : binding.imprint? = some imprint)
    (projected : PodTemplate.project binding workload = .ok copy) :
    ∃ path template, Located workload path template ∧ Shaped template ∧
      copy = workload.withTemplateAt path (projectedTemplate imprint template) := by
  cases found : workload.templatePath? with
  | none =>
      rw [project_unlocated binding workload found] at projected
      simp at projected
  | some path =>
      obtain ⟨template, located⟩ := located_of_path workload path found
      rcases project_located binding imprint located known with ⟨shaped, works⟩ | ⟨-, fails⟩
      · rw [works, Except.ok.injEq] at projected
        exact ⟨path, template, located, shaped, projected.symm⟩
      · rw [fails] at projected
        simp at projected

/-- A projector that succeeds found a template and changed it and nothing else. -/
theorem located_of_project (binding : Binding) (workload copy : Object)
    (projected : PodTemplate.project binding workload = .ok copy) :
    ∃ path template changed, Located workload path template ∧
      copy = workload.withTemplateAt path changed := by
  cases known : binding.imprint? with
  | none =>
      rw [project_without_secret binding workload known] at projected
      obtain ⟨path, template, located, same⟩ :=
        template_of_unproject binding workload copy projected
      exact ⟨path, template, _, located, same⟩
  | some imprint =>
      obtain ⟨path, template, located, -, same⟩ :=
        template_of_project binding imprint workload copy known projected
      exact ⟨path, template, _, located, same⟩

theorem metadata_of_project (binding : Binding) (workload copy : Object)
    (projected : PodTemplate.project binding workload = .ok copy) :
    copy.metadata = workload.metadata := by
  obtain ⟨path, template, changed, -, rfl⟩ := located_of_project binding workload copy projected
  exact metadata_withTemplateAt workload path changed

theorem metadata_of_unproject (binding : Binding) (workload copy : Object)
    (removed : PodTemplate.unproject binding workload = .ok copy) :
    copy.metadata = workload.metadata := by
  obtain ⟨path, template, -, rfl⟩ := template_of_unproject binding workload copy removed
  exact metadata_withTemplateAt workload path _

end Projectors

end BindingOperator
