import Mathlib.Data.List.Induction
import BindingOperator.Proofs.Projection.Workloads

/-!
Whole histories of a workload. Any number of bindings are projected and removed, in any
order, each as often as it likes and with another spec or Secret each time; a step that
fails leaves the workload as it is. Once the last step of every binding has taken it out,
the workload is the one that the history began with.
-/

namespace BindingOperator

/-- One use of the projector by a binding. -/
inductive ProjectionStep where
  | project (binding : Binding)
  | unproject (binding : Binding)

namespace ProjectionStep

def binding : ProjectionStep → Binding
  | .project binding => binding
  | .unproject binding => binding

def key (step : ProjectionStep) : String := step.binding.key

def run (workload : Object) : ProjectionStep → Except Failure Object
  | .project binding => PodTemplate.projector.project binding workload
  | .unproject binding => PodTemplate.projector.unproject binding workload

def after (workload : Object) (step : ProjectionStep) : Object :=
  match step.run workload with
  | .ok changed => changed
  | .error _ => workload

/-- Whether a step takes the binding out: projecting without a Secret does. -/
def removes : ProjectionStep → Bool
  | .project binding => binding.secretName.isNone
  | .unproject _ => true

theorem after_ok (workload changed : Object) (step : ProjectionStep)
    (ran : step.run workload = .ok changed) : step.after workload = changed := by
  simp [after, ran]

theorem after_error (workload : Object) (step : ProjectionStep) (failure : Failure)
    (ran : step.run workload = .error failure) : step.after workload = workload := by
  simp [after, ran]

theorem run_removes (workload : Object) (step : ProjectionStep) (takesOut : step.removes = true) :
    step.run workload = PodTemplate.unproject step.binding workload := by
  cases step with
  | unproject binding => rfl
  | project binding =>
      apply project_without_secret binding workload
      simpa [removes, Binding.imprint?] using takesOut

theorem run_projects (workload : Object) (step : ProjectionStep) (stays : step.removes = false) :
    ∃ imprint, step.binding.imprint? = some imprint ∧
      step.run workload = PodTemplate.project step.binding workload := by
  cases step with
  | unproject binding => simp [removes] at stays
  | project binding =>
      cases found : binding.secretName with
      | none => simp [removes, found] at stays
      | some secret => exact ⟨_, congrArg (Option.map _) found, rfl⟩

end ProjectionStep

def history (workload : Object) (steps : List ProjectionStep) : Object :=
  steps.foldl ProjectionStep.after workload

def lastStep? (key : String) (steps : List ProjectionStep) : Option ProjectionStep :=
  steps.reverse.find? fun step => step.key = key

def Object.Fresh (workload : Object) : Prop :=
  ∀ template ∈ workload.template?, BindingOperator.Fresh template

theorem history_concat (workload : Object) (steps : List ProjectionStep) (step : ProjectionStep) :
    history workload (steps ++ [step]) = step.after (history workload steps) := by
  simp [history]

theorem lastStep_append (key : String) (steps : List ProjectionStep) (step : ProjectionStep) :
    lastStep? key (steps ++ [step]) =
      if step.key = key then some step else lastStep? key steps := by
  unfold lastStep?
  rw [List.reverse_append, List.reverse_singleton, List.singleton_append, List.find?_cons]
  by_cases same : step.key = key <;> simp [same]

section Unshaped

variable {workload : Object}

/-- A fresh workload that cannot be projected into is never changed. -/
theorem after_unshaped (step : ProjectionStep) (canonical : workload.Canonical)
    (fresh : workload.Fresh)
    (unshaped : ∀ path template, Located workload path template → ¬ Shaped template) :
    step.after workload = workload := by
  cases found : workload.templatePath? with
  | none =>
      apply step.after_error workload (PodTemplate.noTemplate workload)
      cases step with
      | project binding => exact project_unlocated binding workload found
      | unproject binding => exact unproject_unlocated binding workload found
  | some path =>
      obtain ⟨template, located⟩ := located_of_path workload path found
      have untouched := fresh template (template_located located)
      have inner := canonical_template located canonical
      cases out : step.removes with
      | true =>
          have ran := step.run_removes workload out
          rw [unproject_located _ located, unprojectTemplate_settled _ template inner
            (untouched.settled _), withTemplateAt_self located canonical] at ran
          exact step.after_ok workload workload ran
      | false =>
          obtain ⟨imprint, known, ran⟩ := step.run_projects workload out
          rcases project_located step.binding imprint located known with ⟨shaped, -⟩ | ⟨-, fails⟩
          · exact absurd shaped (unshaped path template located)
          · exact step.after_error workload _ (ran.trans fails)

theorem history_unshaped (steps : List ProjectionStep) (canonical : workload.Canonical)
    (fresh : workload.Fresh)
    (unshaped : ∀ path template, Located workload path template → ¬ Shaped template) :
    history workload steps = workload := by
  induction steps with
  | nil => rfl
  | cons step rest ih =>
      rw [history, List.foldl_cons, after_unshaped step canonical fresh unshaped]
      exact ih

end Unshaped

section Shaped

variable {original : Object} {path : List String} {template : Table Json}

/-- The workload is the original with a layered template. -/
def Overlaid (holding : Holding) (original : Object) (path : List String)
    (template : Table Json) (current : Object) : Prop :=
  ∃ changed, current = original.withTemplateAt path changed ∧
    Json.Canonical (.object changed) ∧ LayeredTemplate holding template changed

variable (located : Located original path template) (canonical : original.Canonical)
  (shaped : Shaped template) (fresh : Fresh template)
include located canonical shaped fresh

/-- One step keeps the layers: afterwards a binding is projected when the step put it in, or
when it was projected before and the step was another binding's. -/
theorem overlaid_after (step : ProjectionStep) (holding : Holding) (current : Object)
    (overlaid : Overlaid holding original path template current)
    (named : ∀ mapping ∈ step.binding.spec.env, mapping.name ≠ "") :
    ∃ next, Overlaid next original path template (step.after current) ∧
      ∀ key, next.bound key → (key = step.key ∧ step.removes = false) ∨
        (key ≠ step.key ∧ holding.bound key) := by
  obtain ⟨changed, rfl, inner, layered⟩ := overlaid
  have here := located_withTemplateAt located changed
  cases out : step.removes with
  | true =>
      have ran := step.run_removes (original.withTemplateAt path changed) out
      rw [unproject_located _ here, withTemplateAt_twice located] at ran
      refine ⟨holding.leave step.key, ⟨_, step.after_ok _ _ ran, ?_, ?_⟩, ?_⟩
      · exact canonical_unprojectTemplate _ changed inner
      · exact layered.leave step.key fresh inner shaped (canonical_template located canonical)
      · exact fun key bound => .inr bound
  | false =>
      obtain ⟨imprint, known, ran⟩ := step.run_projects (original.withTemplateAt path changed) out
      obtain ⟨sameKey, sameEnv, -⟩ := imprint_fields step.binding imprint known
      -- a projection that fails leaves the layers as they are
      rcases project_located step.binding imprint here known with ⟨-, works⟩ | ⟨-, fails⟩
      · rw [works, withTemplateAt_twice located] at ran
        refine ⟨_, ⟨_, step.after_ok _ _ ran, canonical_projectedTemplate imprint changed inner,
          layered.join imprint fresh inner (sameEnv ▸ named)⟩, ?_⟩
        intro key bound
        by_cases same : key = step.key
        · exact .inl ⟨same, rfl⟩
        · refine .inr ⟨same, bound.resolve_left fun own => same ?_⟩
          exact own.trans sameKey
      · refine ⟨holding, ⟨changed, step.after_error _ _ (ran.trans fails), inner, layered⟩, ?_⟩
        intro key bound
        by_cases same : key = step.key
        · exact .inl ⟨same, rfl⟩
        · exact .inr ⟨same, bound⟩

/-- After any history the bindings that are projected are those whose last step put them
in. -/
theorem overlaid_history (steps : List ProjectionStep)
    (named : ∀ step ∈ steps, ∀ mapping ∈ step.binding.spec.env, mapping.name ≠ "") :
    ∃ holding, Overlaid holding original path template (history original steps) ∧
      ∀ key, holding.bound key → ∃ step, lastStep? key steps = some step ∧
        step.removes = false := by
  induction steps using List.reverseRecOn with
  | nil =>
      refine ⟨.nothing, ⟨template, (withTemplateAt_self located canonical).symm,
        canonical_template located canonical, .start template shaped fresh⟩, ?_⟩
      exact fun key bound => absurd bound id
  -- the history grows at its end, since the last step of a binding decides
  | append_singleton steps step ih =>
      obtain ⟨holding, overlaid, projected⟩ :=
        ih fun earlier member => named earlier (List.mem_append_left _ member)
      obtain ⟨next, after, bound⟩ := overlaid_after located canonical shaped fresh step holding _
        overlaid (named step (List.mem_append_right _ (List.mem_singleton_self step)))
      refine ⟨next, history_concat original steps step ▸ after, ?_⟩
      intro key held
      rw [lastStep_append]
      rcases bound key held with ⟨rfl, stays⟩ | ⟨different, before⟩
      · exact ⟨step, if_pos rfl, stays⟩
      · rw [if_neg fun same => different same.symm]
        exact projected key before

end Shaped

/-- A fresh workload is back, down to the last empty list, once the last step of every
binding has taken it out. -/
theorem history_restores_workload (workload : Object) (steps : List ProjectionStep)
    (canonical : workload.Canonical) (fresh : workload.Fresh)
    (named : ∀ step ∈ steps, ∀ mapping ∈ step.binding.spec.env, mapping.name ≠ "")
    (withdrawn : ∀ key, ∀ step ∈ lastStep? key steps, step.removes = true) :
    history workload steps = workload := by
  by_cases shaped : ∃ path template, Located workload path template ∧ Shaped template
  · obtain ⟨path, template, located, shaped⟩ := shaped
    have untouched := fresh template (template_located located)
    obtain ⟨holding, ⟨changed, same, -, layered⟩, projected⟩ :=
      overlaid_history located canonical shaped untouched steps named
    have nobody : ¬ holding.Live := by
      rintro ⟨key, bound⟩
      obtain ⟨step, last, stays⟩ := projected key bound
      simp [withdrawn key step last] at stays
    rw [same, layered.idle nobody, withTemplateAt_self located canonical]
  -- no step ever changes a workload that cannot be projected into
  · apply history_unshaped steps canonical fresh
    exact fun path template located holds => shaped ⟨path, template, located, holds⟩

section Sample

/-- A pod template with one container that sets the root itself. -/
def rootedTemplate : Table Json :=
  [("spec", .object [("containers", .array [.object
    [("env", .array [rootEntry]), ("name", .string "app")]])])]

def rootedWorkload : Object :=
  { metadata := { name := some "web" }
    body := [("spec", .object [("template", .object rootedTemplate)])] }

/-- A binding whose Secret is resolved and which maps one variable. -/
def mappingBinding (name : String) : Binding where
  metadata := { name := some name }
  spec := {
    workload := { apiVersion := "apps/v1", kind := "Deployment", name := some "web" }
    service := { apiVersion := "v1", kind := "Secret", name := "db" }
    env := [{ name := "URL", key := "url" }] }
  status := some { secret := some "db" }

/-- Two bindings come and go, the one that came first leaving first. -/
def passingBindings : List ProjectionStep :=
  [.project (mappingBinding "first"), .project (mappingBinding "second"),
    .unproject (mappingBinding "first"), .unproject (mappingBinding "second")]

theorem canonical_rootedWorkload : rootedWorkload.Canonical := by
  have order : "env" < "name" := by decide
  have entry : Json.Canonical rootEntry := canonical_rootEntry
  simp [Object.Canonical, rootedWorkload, rootedTemplate, Json.Canonical, Json.CanonicalFields,
    Json.CanonicalItems, Table.Ordered, order, entry]

theorem fresh_rootedWorkload : rootedWorkload.Fresh := by
  intro template found
  have same : template = rootedTemplate := by
    have read : rootedWorkload.template? = some rootedTemplate := by rfl
    rw [read] at found
    exact (Option.some.inj found).symm
  subst same
  have containers : containersOf (fieldsOf "spec" rootedTemplate) =
      [.object [("env", .array [rootEntry]), ("name", .string "app")]] := by rfl
  have known : namedContainer? (.object [("env", .array [rootEntry]), ("name", .string "app")]) =
      some ([("env", .array [rootEntry]), ("name", .string "app")], "app") := by rfl
  refine ⟨fun _ _ => rfl, fun _ _ => by simp [show itemsOf "volumes" (fieldsOf "spec"
    rootedTemplate) = [] from rfl, entryNames], ?_, ?_, ?_⟩
  · intro item member container name named volume _
    rw [containers, List.mem_singleton] at member
    rw [member, known, Option.some.injEq, Prod.mk.injEq] at named
    rw [← named.1]
    exact List.not_mem_nil
  · intro fields member nameless
    rw [containers, List.mem_singleton, Json.object.injEq] at member
    subst member
    cases nameless
  · rw [containers, containerNames_cons _ _ _ _ known]
    exact List.nodup_singleton "app"

theorem passing_bindings_restore : history rootedWorkload passingBindings = rootedWorkload := by
  refine history_restores_workload rootedWorkload passingBindings canonical_rootedWorkload
    fresh_rootedWorkload ?_ ?_
  · simp [passingBindings, ProjectionStep.binding, mappingBinding]
  · intro key step last
    have steps : passingBindings = [.project (mappingBinding "first"),
        .project (mappingBinding "second")] ++ [.unproject (mappingBinding "first")] ++
        [.unproject (mappingBinding "second")] := rfl
    rw [Option.mem_def, steps, lastStep_append, lastStep_append] at last
    split at last
    · rw [← Option.some.inj last]
      rfl
    · split at last
      · rw [← Option.some.inj last]
        rfl
      · next second first =>
        unfold lastStep? at last
        have member := List.mem_of_find?_eq_some last
        have named : step.key = key := by simpa using List.find?_some last
        simp only [List.reverse_cons, List.reverse_nil, List.nil_append, List.singleton_append,
          List.mem_cons, List.not_mem_nil, or_false] at member
        rcases member with rfl | rfl
        · exact absurd named second
        · exact absurd named first

end Sample

end BindingOperator
