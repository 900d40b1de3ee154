import BindingOperator.Proofs.SharedTemplates

/-!
The projector is idempotent on every workload that it can produce. Whatever bindings did to a
fresh workload, projecting a binding that was just projected writes the same copy again, and
removing a binding that was just removed, or that is not there at all, changes nothing.
-/

namespace BindingOperator

theorem lasting_shared : Lasting SharedTemplate where
  canonical _ shared := shared.tidy.canonical
  start _ := SharedTemplate.of_fresh
  project imprint _ shared := shared.project imprint
  unproject key _ shared := shared.unproject key

/-- A binding is projected in a workload whose pod template records the binding's Secret. -/
def Object.Projects (workload : Object) (key : String) : Prop :=
  ∃ path template, Located workload path template ∧ Bound key template

theorem projects_located {workload : Object} {path : List String} {template : Table Json}
    (located : Located workload path template) (key : String) :
    workload.Projects key ↔ Bound key template := by
  constructor
  · rintro ⟨other, found, there, held⟩
    have same : found = template :=
      Option.some.inj ((template_located there).symm.trans (template_located located))
    rwa [← same]
  · exact fun held => ⟨path, template, located, held⟩

section Histories

variable {workload : Object}

/-- A step decides about its own binding and leaves the others as they are. -/
theorem projects_run (canonical : workload.Canonical) (step : ProjectionStep) (changed : Object)
    (ran : step.run workload = .ok changed) (key : String) :
    changed.Projects key ↔
      if step.key = key then step.removes = false else workload.Projects key := by
  obtain ⟨path, template, located, ⟨out, rfl⟩ | ⟨stays, imprint, sameKey, -, rfl⟩⟩ :=
    step.run_cases workload changed ran
  · rw [projects_located (located_withTemplateAt located _),
      SharedTemplate.bound_unprojected _ (canonical_template located canonical),
      projects_located located, out]
    by_cases own : step.key = key
    · simp [own]
    · simp [own, Ne.symm own]
  · rw [projects_located (located_withTemplateAt located _),
      SharedTemplate.bound_projected imprint (canonical_template located canonical),
      projects_located located, stays, sameKey]
    by_cases own : step.key = key
    · simp [own]
    · simp [own, Ne.symm own]

/-- After steps that all went well a binding is projected exactly when its last step put it in. -/
theorem projects_history (origin : Object) (steps : List ProjectionStep)
    (canonical : origin.Canonical) (fresh : origin.Fresh)
    (went : ∀ earlier step later, steps = earlier ++ step :: later →
      ∃ changed, step.run (history origin earlier) = .ok changed) (key : String) :
    (history origin steps).Projects key ↔
      ∃ step, lastStep? key steps = some step ∧ step.removes = false := by
  induction steps using List.reverseRecOn with
  | nil =>
      refine iff_of_false ?_ (by simp [lastStep?])
      rintro ⟨path, template, (located : Located origin path template), held⟩
      have untouched := fresh template (template_located located)
      exact held (untouched.annotations _ (isMark_annotationName "secret" key))
  | append_singleton steps step ih =>
      obtain ⟨changed, ran⟩ := went steps step [] rfl
      have before := ih fun earlier other later same =>
        went earlier other (later ++ [step]) (by simp [same])
      have inner := ((lasting_shared.fresh canonical fresh).history lasting_shared steps).canonical
      rw [history_concat, step.after_ok _ _ ran, projects_run inner step changed ran, before,
        lastStep_append]
      split
      · simp
      · rfl

theorem unproject_absent (shared : workload.Keeps SharedTemplate) (binding : Binding)
    (copy : Object) (removed : PodTemplate.unproject binding workload = .ok copy)
    (absent : ¬ workload.Projects binding.key) : copy = workload := by
  obtain ⟨path, template, located, rfl⟩ := template_of_unproject binding workload copy removed
  rw [projects_located located] at absent
  rw [(shared.template path template located).unproject_absent binding.key absent,
    withTemplateAt_self located shared.canonical]

end Histories

/-- Projecting a binding twice is projecting it once, and removing it twice is removing it
once; a binding that is not projected has nothing to be removed. -/
theorem projector_idempotent (workload : Object) (binding : Binding) (reached : workload.Reached)
    (once : (binding.spec.env.map EnvMapping.name).Nodup) :
    (∀ copy, PodTemplate.projector.project binding workload = .ok copy →
      PodTemplate.projector.project binding copy = .ok copy) ∧
    (∀ copy, PodTemplate.projector.unproject binding workload = .ok copy →
      PodTemplate.projector.unproject binding copy = .ok copy ∧
        (¬ workload.Projects binding.key → copy = workload)) := by
  have tidy := reached.tidy
  constructor
  · intro copy projected
    exact project_again binding workload copy tidy once projected
  · intro copy removed
    refine ⟨unproject_again binding workload copy tidy.canonical removed, ?_⟩
    exact unproject_absent (reached.keeps lasting_shared) binding copy removed

section Sample

/-- The sample workload with two bindings, the one called `first` projected last. -/
def sharedWorkload : Object :=
  history rootedWorkload [.project (mappingBinding "second"), .project (mappingBinding "first")]

theorem reached_sharedWorkload : sharedWorkload.Reached :=
  ⟨rootedWorkload, _, canonical_rootedWorkload, fresh_rootedWorkload, rfl⟩

/-- Two bindings with one variable each: the one that came last is projected once more, and a
third one that never came is removed. -/
theorem shared_workload_rests :
    PodTemplate.projector.project (mappingBinding "first") sharedWorkload = .ok sharedWorkload ∧
      PodTemplate.projector.unproject (mappingBinding "third") sharedWorkload =
        .ok sharedWorkload := by
  constructor
  · have started : (history rootedWorkload [.project (mappingBinding "second")]).Reached :=
      ⟨rootedWorkload, _, canonical_rootedWorkload, fresh_rootedWorkload, rfl⟩
    refine (projector_idempotent _ (mappingBinding "first") started (by decide)).1 _ ?_
    decide +kernel
  · cases removed : PodTemplate.projector.unproject (mappingBinding "third") sharedWorkload with
    | error failure =>
        have works : (PodTemplate.projector.unproject (mappingBinding "third")
          sharedWorkload).toOption.isSome = true := by decide +kernel
        simp [removed, Except.toOption] at works
    | ok copy =>
        have idle := projector_idempotent sharedWorkload (mappingBinding "third")
          reached_sharedWorkload (by decide)
        rw [(idle.2 copy removed).2]
        rintro ⟨path, template, located, held⟩
        have unmarked : ((sharedWorkload.template?.map annotationsIn).bind
            (Table.lookup (annotationName "secret" (mappingBinding "third").key))) = none := by
          decide +kernel
        rw [template_located located] at unmarked
        exact held unmarked

end Sample

end BindingOperator
