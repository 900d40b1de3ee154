import BindingOperator.Proofs.RoundTrip

/-!
What lasts of a pod template. A property that fresh templates have, and that neither
projecting nor removing a binding takes from a template, is found in every workload that
steps of any bindings brought about.
-/

namespace BindingOperator

/-- A property that a fresh template has, and that no step of the projector takes from it. -/
structure Lasting (holds : Table Json → Prop) : Prop where
  canonical : ∀ template, holds template → Json.Canonical (.object template)
  start : ∀ template, Json.Canonical (.object template) → Fresh template → holds template
  project : ∀ imprint template, holds template → holds (projectedTemplate imprint template)
  unproject : ∀ key template, holds template → holds (unprojectTemplate key template)

/-- The pod template of a workload, where it has one, has a property. -/
structure Object.Keeps (holds : Table Json → Prop) (workload : Object) : Prop where
  canonical : workload.Canonical
  template : ∀ path template, Located workload path template → holds template

section Workloads

variable {holds : Table Json → Prop} {workload : Object}

theorem Object.Keeps.withTemplateAt (keeps : workload.Keeps holds) (lasting : Lasting holds)
    {path : List String} {template : Table Json} (located : Located workload path template)
    (changed : Table Json) (inner : holds changed) :
    (workload.withTemplateAt path changed).Keeps holds := by
  constructor
  · exact canonical_withTemplateAt located keeps.canonical changed (lasting.canonical _ inner)
  · intro other found there
    have here := located_withTemplateAt located changed
    have samePath : other = path := Option.some.inj (there.1.symm.trans here.1)
    subst samePath
    have same : found = changed := Option.some.inj (there.2.symm.trans here.2)
    rw [same]
    exact inner

theorem Object.Keeps.of_body {other : Object} (keeps : workload.Keeps holds)
    (same : other.body = workload.body) : other.Keeps holds := by
  obtain ⟨tag, metadata, body⟩ := other
  subst same
  exact ⟨keeps.canonical, keeps.template⟩

/-- A step that goes well replaces the template by the removed or the projected one. -/
theorem ProjectionStep.run_cases (step : ProjectionStep) (workload changed : Object)
    (ran : step.run workload = .ok changed) :
    ∃ path template, Located workload path template ∧
      ((step.removes = true ∧
          changed = workload.withTemplateAt path (unprojectTemplate step.key template)) ∨
        (step.removes = false ∧ ∃ imprint, imprint.key = step.key ∧ Shaped template ∧
          changed = workload.withTemplateAt path (projectedTemplate imprint template))) := by
  cases out : step.removes with
  | true =>
      rw [step.run_removes workload out] at ran
      obtain ⟨path, template, located, same⟩ :=
        template_of_unproject step.binding workload changed ran
      exact ⟨path, template, located, .inl ⟨rfl, same⟩⟩
  | false =>
      obtain ⟨imprint, known, same⟩ := step.run_projects workload out
      rw [same] at ran
      obtain ⟨path, template, located, shaped, changes⟩ :=
        template_of_project step.binding imprint workload changed known ran
      exact ⟨path, template, located,
        .inr ⟨rfl, imprint, (imprint_fields _ _ known).1, shaped, changes⟩⟩

theorem Object.Keeps.run (keeps : workload.Keeps holds) (lasting : Lasting holds)
    (step : ProjectionStep) (changed : Object) (ran : step.run workload = .ok changed) :
    changed.Keeps holds := by
  obtain ⟨path, template, located, ⟨-, rfl⟩ | ⟨-, imprint, -, -, rfl⟩⟩ :=
    step.run_cases workload changed ran
  · exact keeps.withTemplateAt lasting located _
      (lasting.unproject _ _ (keeps.template path template located))
  · exact keeps.withTemplateAt lasting located _
      (lasting.project _ _ (keeps.template path template located))

theorem Object.Keeps.after (keeps : workload.Keeps holds) (lasting : Lasting holds)
    (step : ProjectionStep) : (step.after workload).Keeps holds := by
  cases ran : step.run workload with
  | error failure =>
      rw [step.after_error workload failure ran]
      exact keeps
  | ok changed =>
      rw [step.after_ok workload changed ran]
      exact keeps.run lasting step changed ran

theorem Object.Keeps.history (keeps : workload.Keeps holds) (lasting : Lasting holds)
    (steps : List ProjectionStep) : (history workload steps).Keeps holds := by
  induction steps generalizing workload with
  | nil => exact keeps
  | cons step rest ih => exact ih (keeps.after lasting step)

theorem Lasting.fresh (lasting : Lasting holds) (canonical : workload.Canonical)
    (fresh : workload.Fresh) : workload.Keeps holds := by
  constructor
  · exact canonical
  · intro path template located
    apply lasting.start _ (canonical_template located canonical)
    exact fresh template (template_located located)

/-- A workload that steps brought from a fresh one to the body that it has now. -/
def Object.Reached (workload : Object) : Prop :=
  ∃ (origin : Object) (steps : List ProjectionStep), origin.Canonical ∧ origin.Fresh ∧
    workload.body = (history origin steps).body

/-- What lasts is found in every workload that steps brought about. -/
theorem Object.Reached.keeps (reached : workload.Reached) (lasting : Lasting holds) :
    workload.Keeps holds := by
  obtain ⟨origin, steps, canonical, fresh, same⟩ := reached
  exact ((lasting.fresh canonical fresh).history lasting steps).of_body same

theorem lasting_canonical : Lasting fun template => Json.Canonical (.object template) where
  canonical _ := id
  start _ canonical _ := canonical
  project imprint template := canonical_projectedTemplate imprint template
  unproject key template := canonical_unprojectTemplate key template

end Workloads

end BindingOperator
