import BindingOperator.Proofs.CopyWrites

/-!
Projections that end in the middle. A projector works on the workload where it is, and a
malformed template is noticed late: at the volumes, at an item that is no container, at the
lists of a container, or at the annotations, with everything before already written. Whatever
is left behind, it is the pod template alone that was written to. So a copy is the object it
was made of, and no pass breaks a promise.
-/

namespace BindingOperator

open Dialogue

section Writing

/-- What is left of a value that was worked on, and what is handed on unless that failed. -/
abbrev HalfWritten (Value Next : Type) := Value × Option Next

/-- Nothing of a value counts after a failure. -/
def HalfWritten.whole {Value Next : Type} (written : HalfWritten Value Next) :
    Option (Value × Next) :=
  written.2.map fun next => (written.1, next)

/-- The variables are written before the list of mounts is looked at. -/
def writeContainer (imprint : Imprint) (name : String) (previous : NameSet)
    (container : Table Json) (ledger : Ledger) : HalfWritten (Table Json) (NameSet × Ledger) :=
  let tracked := containerFields.foldl
    (fun ledger field => trackField container field (containerMarker field name) ledger) ledger
  match listField? container "env" with
  | none => (container, none)
  | some env =>
      let rooted := match rootOf? env with
        | some root => (env, root, tracked)
        | none => (env ++ [rootEntry], defaultRoot, tracked.noteRoot name)
      let projected := projectEnv imprint previous rooted.1
      let written := Table.insert "env" (.array projected.1) container
      match listField? written "volumeMounts" with
      | none => (written, none)
      | some mounts =>
          (Table.insert "volumeMounts" (.array (putNamed (imprint.mountEntry rooted.2.1) mounts))
            written, some (projected.2, rooted.2.2))

/-- The containers before a bad item stay projected, and those after it are not reached. -/
def writeContainers (imprint : Imprint) (previous : OwnedEnv) :
    List Json → Ledger × OwnedEnv → HalfWritten (List Json) (Ledger × OwnedEnv)
  | [], state => ([], some state)
  | item :: rest, state =>
      match item.asObject?.bind fun container =>
          (containerName? container).map fun name => (container, name) with
      | none => (item :: rest, none)
      | some (container, name) =>
          let written := writeContainer imprint name ((Table.lookup name previous).getD [])
            container state.1
          match written.2 with
          | none => (.object written.1 :: rest, none)
          | some (owned, ledger) =>
              let more := writeContainers imprint previous rest
                (ledger, if owned.isEmpty then state.2 else Table.insert name owned state.2)
              (.object written.1 :: more.1, more.2)

def writeContainerLists (imprint : Imprint) (previous : OwnedEnv) :
    List String → Table Json → Ledger × OwnedEnv → HalfWritten (Table Json) (Ledger × OwnedEnv)
  | [], spec, state => (spec, some state)
  | list :: rest, spec, state =>
      match (Table.lookup list spec).bind Json.asArray? with
      | none => writeContainerLists imprint previous rest spec state
      | some containers =>
          let written := writeContainers imprint previous containers state
          let spec := Table.insert list (.array written.1) spec
          match written.2 with
          | none => (spec, none)
          | some state => writeContainerLists imprint previous rest spec state

/-- The annotations come last, so a template that cannot have them is left with its spec
projected. -/
def writeTemplate (imprint : Imprint) (template : Table Json) : HalfWritten (Table Json) Unit :=
  let annotations := annotationsIn template
  let ledger := trackField (fieldsOf "metadata" template) "annotations" "annotations"
    (trackField template "metadata" "metadata" (ledgerOf annotations))
  match (Table.lookup "spec" template).bind Json.asObject? with
  | none => (template, none)
  | some spec =>
      match listField? spec "volumes" with
      | none => (template, none)
      | some volumes =>
          let written := writeContainerLists imprint (ownedEnvOf imprint.key annotations)
            containerLists
            (Table.insert "volumes" (.array (putNamed imprint.volumeEntry volumes)) spec)
            (trackField spec "volumes" "volumes" ledger, [])
          let template := Table.insert "spec" (.object written.1) template
          match written.2 with
          | none => (template, none)
          | some (ledger, owned) =>
              match tableField? template "metadata" with
              | none => (template, none)
              | some metadata =>
                  match tableField? metadata "annotations" with
                  | none => (template, none)
                  | some annotations =>
                      (Table.insert "metadata" (.object (Table.insert "annotations" (.object
                        (markedAnnotations imprint owned ledger annotations)) metadata)) template,
                        some ())

variable (imprint : Imprint) (previous : OwnedEnv)

theorem projectContainer_whole (name : String) (owned : NameSet) (container : Table Json)
    (ledger : Ledger) :
    projectContainer imprint name owned container ledger =
      (writeContainer imprint name owned container ledger).whole.map fun written =>
        ⟨written.1, written.2.1, written.2.2⟩ := by
  unfold projectContainer writeContainer
  cases read : listField? container "env" with
  | none => rfl
  | some env =>
      -- writing the variables leaves the mounts as they are
      have apart : ∀ value, listField? (Table.insert "env" value container) "volumeMounts" =
          listField? container "volumeMounts" := by
        intro value
        rw [listField?, listField?, Table.lookup_insert_other _ _ _ _ (by decide)]
      simp only [apart]
      cases listField? container "volumeMounts" <;> rfl

theorem projectContainers_whole (items : List Json) (state : Ledger × OwnedEnv) :
    projectContainers imprint previous items state =
      (writeContainers imprint previous items state).whole := by
  induction items generalizing state with
  | nil => rfl
  | cons item rest ih =>
      rw [projectContainers, writeContainers]
      cases item.asObject? with
      | none => rfl
      | some container =>
          cases named : containerName? container with
          | none => simp [named, HalfWritten.whole]
          | some name =>
              simp only [Option.bind_eq_bind, Option.bind_some, named, Option.map_some,
                projectContainer_whole]
              cases (writeContainer imprint name ((Table.lookup name previous).getD []) container
                  state.1) with
              | mk left handed =>
                  cases handed with
                  | none => rfl
                  | some next =>
                      simp only [HalfWritten.whole, Option.map_some, Option.bind_some, ih]
                      cases (writeContainers imprint previous rest _).2 <;> rfl

theorem projectContainerLists_whole (lists : List String) (spec : Table Json)
    (state : Ledger × OwnedEnv) :
    projectContainerLists imprint previous lists (spec, state) =
      (writeContainerLists imprint previous lists spec state).whole := by
  induction lists generalizing spec state with
  | nil => rfl
  | cons list rest ih =>
      rw [projectContainerLists, writeContainerLists]
      cases (Table.lookup list spec).bind Json.asArray? with
      | none => exact ih spec state
      | some containers =>
          simp only [projectContainers_whole]
          cases writeContainers imprint previous containers state with
          | mk left handed =>
              cases handed with
              | none => rfl
              | some next => exact ih _ next

theorem projectTemplate_whole (template : Table Json) :
    projectTemplate imprint template = (writeTemplate imprint template).whole.map Prod.fst := by
  unfold projectTemplate writeTemplate
  simp only [records_eq, track_annotations_eq, projectContainerLists_whole]
  cases (Table.lookup "spec" template).bind Json.asObject? with
  | none => rfl
  | some spec =>
      simp only [Option.bind_eq_bind, Option.bind_some]
      cases listField? spec "volumes" with
      | none => rfl
      | some volumes =>
          simp only [Option.bind_some]
          generalize writeContainerLists imprint _ containerLists _ _ = written
          obtain ⟨left, handed⟩ := written
          cases handed with
          | none => rfl
          | some next =>
              simp only [HalfWritten.whole, Option.map_some, Option.bind_some]
              cases tableField? (Table.insert "spec" (.object left) template) "metadata" with
              | none => rfl
              | some metadata =>
                  simp only [Option.bind_some]
                  cases tableField? metadata "annotations" <;> rfl

end Writing

section Attempts

namespace PodTemplate

/-- An attempt on an object: what is left of it, and whether it went well. -/
abbrev Attempt := Object × Except Failure Unit

/-- The copy of an attempt that went well. -/
def Attempt.copy (attempt : Attempt) : Except Failure Object :=
  attempt.2.map fun _ => attempt.1

def attemptUnproject (binding : Binding) (workload : Object) : Attempt :=
  match workload.templatePath? with
  | none => (workload, .error (noTemplate workload))
  | some path =>
      (workload.withTemplateAt path
        (unprojectTemplate binding.key ((workload.templateAt? path).getD [])), .ok ())

def attemptProject (binding : Binding) (workload : Object) : Attempt :=
  match binding.imprint? with
  | none => attemptUnproject binding workload
  | some imprint =>
      match workload.templatePath? with
      | none => (workload, .error (noTemplate workload))
      | some path =>
          let written := writeTemplate imprint ((workload.templateAt? path).getD [])
          (workload.withTemplateAt path written.1,
            if written.2.isSome then .ok () else .error (malformed workload))

theorem unproject_attempt (binding : Binding) (workload : Object) :
    unproject binding workload = Attempt.copy (attemptUnproject binding workload) := by
  unfold unproject attemptUnproject
  cases workload.templatePath? <;> rfl

theorem project_attempt (binding : Binding) (workload : Object) :
    project binding workload = Attempt.copy (attemptProject binding workload) := by
  unfold project attemptProject
  cases binding.imprint? with
  | none => exact unproject_attempt binding workload
  | some imprint =>
      cases workload.templatePath? with
      | none => rfl
      | some path =>
          simp only [projectTemplate_whole]
          generalize writeTemplate imprint ((workload.templateAt? path).getD []) = written
          obtain ⟨left, handed⟩ := written
          cases handed <;> rfl

end PodTemplate

/-- Two objects that differ in nothing but the pod template, which is at the same place in
both. -/
structure Object.SameAround (before after : Object) : Prop where
  place : after.templatePath? = before.templatePath?
  tag : after.tag = before.tag
  metadata : after.metadata = before.metadata
  /-- With one template in both of them they are one object. -/
  around : ∀ path, before.templatePath? = some path → ∀ template,
    after.withTemplateAt path template = before.withTemplateAt path template
  elsewhere : ∀ other, (∀ path, before.templatePath? = some path →
    ¬ other <+: path ∧ ¬ path <+: other) →
      (Json.object after.body).at? other = (Json.object before.body).at? other

theorem Object.SameAround.refl (object : Object) : object.SameAround object :=
  ⟨rfl, rfl, rfl, fun _ _ _ => rfl, fun _ _ => rfl⟩

theorem sameAround_withTemplateAt {workload : Object} {path : List String}
    (found : workload.templatePath? = some path) (changed : Table Json) :
    workload.SameAround (workload.withTemplateAt path changed) := by
  obtain ⟨template, located⟩ := located_of_path workload path found
  refine ⟨?_, tag_withTemplateAt _ _ _, metadata_withTemplateAt _ _ _, ?_, ?_⟩
  · rw [(located_withTemplateAt located changed).1, found]
  · intro other same template
    obtain rfl := Option.some.inj (found.symm.trans same)
    exact withTemplateAt_twice located changed template
  · intro other apart
    obtain ⟨rest, rfl⟩ := path_under_spec workload path found
    rw [body_withTemplateAt]
    exact Json.at_replaceAt_elsewhere _ _ _ _ (apart _ found).1 (apart _ found).2

theorem sameAround_attemptUnproject (binding : Binding) (workload : Object) :
    workload.SameAround (PodTemplate.attemptUnproject binding workload).1 := by
  unfold PodTemplate.attemptUnproject
  cases found : workload.templatePath? with
  | none => exact .refl workload
  | some path => exact sameAround_withTemplateAt found _

theorem sameAround_attemptProject (binding : Binding) (workload : Object) :
    workload.SameAround (PodTemplate.attemptProject binding workload).1 := by
  unfold PodTemplate.attemptProject
  cases binding.imprint? with
  | none => exact sameAround_attemptUnproject binding workload
  | some imprint =>
      cases found : workload.templatePath? with
      | none => exact .refl workload
      | some path => exact sameAround_withTemplateAt found _

/-- The copies have the metadata of their workloads, there are as many, and workloads come
with their resource. -/
theorem runPhase_unbroken {clock : Clock} {phase : Phase} {binding ended : Binding}
    {exchanges : Talk} {outcome : Except Halt Unit}
    (run : Runs (runPhase clock PodTemplate.projector phase binding) exchanges (ended, outcome)) :
    ∀ breach, outcome ≠ .error (.breach breach) := by
  obtain ⟨progress, stages, rfl⟩ := runs_runPhase clock _ phase binding ended outcome exchanges run
  rw [ofPhase_eq] at stages
  obtain ⟨reads, found, writes, rfl, looking, after⟩ := runs_runStages_append stages
  have first := lookedUp_lookups looking
  rcases after with ⟨halt, halted, -, same⟩ | ⟨-, writing⟩
  · rw [(Prod.mk.inj same).2, ← halted]
    exact first.unbroken
  · exact (concluded_stages first.sourced writing).unbroken

/-- Of any workload, whatever is in it and however the attempt ends, a projector writes to the
pod template alone. So with any binding and under any answers a pass keeps its promises. -/
theorem projector_keeps_to_template :
    (∀ (binding : Binding) (workload : Object),
      (PodTemplate.project binding workload =
          PodTemplate.Attempt.copy (PodTemplate.attemptProject binding workload) ∧
        workload.SameAround (PodTemplate.attemptProject binding workload).1) ∧
      (PodTemplate.unproject binding workload =
          PodTemplate.Attempt.copy (PodTemplate.attemptUnproject binding workload) ∧
        workload.SameAround (PodTemplate.attemptUnproject binding workload).1)) ∧
    ∀ (clock : Clock) (phase : Phase) (binding ended : Binding) (exchanges : Talk)
      (outcome : Except Halt Unit),
      Runs (runPhase clock PodTemplate.projector phase binding) exchanges (ended, outcome) →
        ∀ breach, outcome ≠ .error (.breach breach) :=
  ⟨fun binding workload =>
    ⟨⟨PodTemplate.project_attempt binding workload, sameAround_attemptProject binding workload⟩,
      ⟨PodTemplate.unproject_attempt binding workload, sameAround_attemptUnproject binding workload⟩⟩,
    fun _ _ _ _ _ _ run => runPhase_unbroken run⟩

end Attempts

section Sample

/-- The second container has no list of mounts but a text. -/
def unmountableWorkload : Object where
  metadata := { name := some "web" }
  body := [("replicas", .string "two"), ("spec", .object [("template", .object [("spec", .object
    [("containers", .array [.object [("name", .string "app")],
      .object [("name", .string "side"), ("volumeMounts", .string "none")]])])])])]

/-- The first container is projected, the second one has its variables, and what is around the
template is as it was. -/
theorem unmountable_half_written :
    PodTemplate.project (mappingBinding "orders") unmountableWorkload =
        .error (PodTemplate.malformed unmountableWorkload) ∧
      (PodTemplate.attemptProject (mappingBinding "orders") unmountableWorkload).1 ≠
        unmountableWorkload ∧
      unmountableWorkload.SameAround
        (PodTemplate.attemptProject (mappingBinding "orders") unmountableWorkload).1 ∧
      ∀ breach, interruptedRun.2.1.2 ≠ .error (.breach breach) :=
  ⟨by decide +kernel, by decide +kernel,
    (projector_keeps_to_template.1 (mappingBinding "orders") unmountableWorkload).1.2,
    projector_keeps_to_template.2 (.ticking 0) .live selectingBinding interruptedRun.2.1.1
      interruptedRun.1 interruptedRun.2.1.2 (runs_transcript _ _ _)⟩

end Sample

end BindingOperator
