import BindingOperator.Proofs.Lasting

/-!
Projecting twice. Whatever bindings have done to a fresh workload, its containers still have
distinct names, and the root is still nobody's variable. That is all a binding needs to find
what it projected before: it then leaves the workload as it is, also under a new version.
-/

namespace BindingOperator

/-- A template whose containers have distinct names and whose root is nobody's variable. -/
structure TidyTemplate (template : Table Json) : Prop where
  canonical : Json.Canonical (.object template)
  distinct : (containerNames (containersOf (fieldsOf "spec" template))).Nodup
  unowned : ∀ key name, rootVariable ∉ namesIn (ownedEnvOf key (annotationsIn template)) name

section Templates

/-- The root is never collected, because every container defines it first. -/
theorem collected_unowned (imprint : Imprint) (previous : OwnedEnv)
    (unowned : ∀ name, rootVariable ∉ namesIn previous name) (items : List Json)
    (owned : OwnedEnv) (start : ∀ name, rootVariable ∉ namesIn owned name) (name : String) :
    rootVariable ∉ namesIn (items.foldl (collectedItem imprint previous) owned) name := by
  induction items generalizing owned with
  | nil => exact start name
  | cons item rest ih =>
      apply ih
      intro other
      unfold collectedItem
      split
      · next container inside named =>
        simp only
        split
        · exact start other
        · by_cases same : other = inside
          · rw [same, namesIn, Table.lookup_insert_same]
            exact root_unowned imprint _ container (unowned inside)
          · rw [namesIn, Table.lookup_insert_other _ _ _ _ same, ← namesIn]
            exact start other
      · exact start other

namespace TidyTemplate

variable {template : Table Json}

theorem of_fresh (canonical : Json.Canonical (.object template)) (fresh : Fresh template) :
    TidyTemplate template := by
  constructor
  · exact canonical
  · exact fresh.spec.names
  · intro key name
    rw [fresh.owned key]
    exact List.not_mem_nil

theorem project (tidy : TidyTemplate template) (imprint : Imprint) :
    TidyTemplate (projectedTemplate imprint template) := by
  constructor
  · exact canonical_projectedTemplate imprint template tidy.canonical
  · rw [containerNames_projectedTemplate]
    exact tidy.distinct
  · intro key name
    rw [ownedEnvOf_projected imprint template tidy.canonical]
    split
    · apply collected_unowned
      · exact tidy.unowned imprint.key
      · intro other
        exact List.not_mem_nil
    · exact tidy.unowned key name

theorem unproject (tidy : TidyTemplate template) (key : String) :
    TidyTemplate (unprojectTemplate key template) := by
  constructor
  · exact canonical_unprojectTemplate key template tidy.canonical
  · rw [containerNames_unprojectTemplate key template tidy.canonical]
    exact tidy.distinct
  · intro other name
    rw [ownedEnvOf_unprojectTemplate key template other tidy.canonical]
    split
    · exact List.not_mem_nil
    · exact tidy.unowned other name

variable {item : Json} {container : Table Json} {name : String}

/-- What is collected in a container is found under its name. -/
theorem collected (tidy : TidyTemplate template) (imprint : Imprint)
    (member : item ∈ containersOf (fieldsOf "spec" template))
    (named : namedContainer? item = some (container, name)) :
    namesIn (collectedTemplate imprint template) name = projectedNames imprint
      (namesIn (ownedEnvOf imprint.key (annotationsIn template)) name) container :=
  recorded_names imprint _ _ item container name tidy.distinct member named

theorem names_projected (tidy : TidyTemplate template) (imprint : Imprint)
    (member : item ∈ containersOf (fieldsOf "spec" template))
    (named : namedContainer? item = some (container, name)) :
    namesIn (ownedEnvOf imprint.key (annotationsIn (projectedTemplate imprint template))) name =
      projectedNames imprint (namesIn (ownedEnvOf imprint.key (annotationsIn template)) name)
        container := by
  rw [ownedEnvOf_projected imprint template tidy.canonical, if_pos rfl,
    tidy.collected imprint member named]

/-- What a projection records it maps, and the container is there. -/
theorem mapped_of_recorded (tidy : TidyTemplate template) (imprint : Imprint) {listed : String}
    (recorded : listed ∈ namesIn
      (ownedEnvOf imprint.key (annotationsIn (projectedTemplate imprint template))) name) :
    Mapped imprint listed ∧ name ∈ containerNames (containersOf (fieldsOf "spec" template)) := by
  by_cases known : name ∈ containerNames (containersOf (fieldsOf "spec" template))
  · obtain ⟨item, member, container, named⟩ := (mem_containerNames _ name).mp known
    rw [tidy.names_projected imprint member named] at recorded
    exact ⟨(mapped_of_owned imprint _ listed imprint.env _ recorded).resolve_left
      List.not_mem_nil, known⟩
  · rw [ownedEnvOf_projected imprint template tidy.canonical, if_pos rfl, collectedTemplate,
      namesIn_collected_other imprint _ _ name [] known] at recorded
    exact absurd recorded List.not_mem_nil

end TidyTemplate

end Templates

section Workloads

structure Object.Tidy (workload : Object) : Prop where
  canonical : workload.Canonical
  template : ∀ path template, Located workload path template → TidyTemplate template

theorem lasting_tidy : Lasting TidyTemplate where
  canonical _ tidy := tidy.canonical
  start _ := TidyTemplate.of_fresh
  project imprint _ tidy := tidy.project imprint
  unproject key _ tidy := tidy.unproject key

theorem Object.Reached.tidy {workload : Object} (reached : workload.Reached) : workload.Tidy := by
  have keeps := reached.keeps lasting_tidy
  exact ⟨keeps.canonical, keeps.template⟩

theorem unproject_again (binding : Binding) (workload copy : Object)
    (canonical : workload.Canonical) (removed : PodTemplate.unproject binding workload = .ok copy) :
    PodTemplate.unproject binding copy = .ok copy := by
  obtain ⟨path, template, located, rfl⟩ := template_of_unproject binding workload copy removed
  have placed := located_withTemplateAt located (unprojectTemplate binding.key template)
  rw [unproject_located binding placed, withTemplateAt_twice located,
    unprojectTemplate_again _ _ (canonical_template located canonical)]

/-- A copy that a binding made is left as it is when the binding is projected again. -/
theorem project_again (binding : Binding) (workload copy : Object) (tidy : workload.Tidy)
    (once : (binding.spec.env.map EnvMapping.name).Nodup)
    (projected : PodTemplate.project binding workload = .ok copy) :
    PodTemplate.project binding copy = .ok copy := by
  cases known : binding.imprint? with
  | none =>
      rw [project_without_secret binding _ known] at projected ⊢
      exact unproject_again binding workload copy tidy.canonical projected
  | some imprint =>
      obtain ⟨path, template, located, shaped, rfl⟩ :=
        template_of_project binding imprint workload copy known projected
      have inner := tidy.template path template located
      obtain ⟨-, sameEnv, -⟩ := imprint_fields binding imprint known
      have again := projectTemplate_again imprint template inner.canonical shaped
        (by rw [sameEnv]; exact once) inner.distinct (inner.unowned imprint.key)
      obtain ⟨still, same⟩ := (projectTemplate_some imprint _ _).mp again
      have placed := located_withTemplateAt located (projectedTemplate imprint template)
      rcases project_located binding imprint placed known with ⟨-, works⟩ | ⟨misshapen, -⟩
      · rw [works, withTemplateAt_twice located, ← same]
      · exact absurd still misshapen

end Workloads

section Metadata

variable (workload : Object) (metadata : Metadata)

theorem withTemplateAt_metadata (path : List String) (template : Table Json) :
    ({ workload with metadata } : Object).withTemplateAt path template =
      { workload.withTemplateAt path template with metadata } := by
  unfold Object.withTemplateAt
  simp only
  split <;> rfl

theorem unproject_metadata (binding : Binding) (copy : Object)
    (removed : PodTemplate.unproject binding workload = .ok copy) :
    PodTemplate.unproject binding { workload with metadata } = .ok { copy with metadata } := by
  obtain ⟨path, template, located, rfl⟩ := template_of_unproject binding workload copy removed
  have same : Located { workload with metadata } path template := located
  rw [unproject_located binding same, withTemplateAt_metadata]

/-- What is projected does not depend on the metadata, and leaves it as it is. -/
theorem project_metadata (binding : Binding) (copy : Object)
    (projected : PodTemplate.project binding workload = .ok copy) :
    PodTemplate.project binding { workload with metadata } = .ok { copy with metadata } := by
  cases known : binding.imprint? with
  | none =>
      rw [project_without_secret binding _ known] at projected ⊢
      exact unproject_metadata workload metadata binding copy projected
  | some imprint =>
      obtain ⟨path, template, located, shaped, rfl⟩ :=
        template_of_project binding imprint workload copy known projected
      have same : Located { workload with metadata } path template := located
      rcases project_located binding imprint same known with ⟨-, works⟩ | ⟨misshapen, -⟩
      · rw [works, withTemplateAt_metadata]
      · exact absurd shaped misshapen

end Metadata

end BindingOperator
