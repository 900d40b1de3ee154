import BindingOperator.Proofs.Accounts
import BindingOperator.Proofs.Departure
import BindingOperator.Proofs.Readiness

/-!
What a projection gives a pod template, and what it leaves alone. Afterwards the Secret is in
one volume and mounted once in every container, below the root that the container sets, and
every variable that is mapped is defined. Beside that, a list keeps its entries in their order:
those that are lost were the binding's and are mapped no more, and the only entry of nobody's
that is added is the root.
-/

namespace BindingOperator

section Entries

/-- A list has one entry of the name, and it is this one. -/
def Sole (name : String) (entry : Json) (entries : List Json) : Prop :=
  entriesNamed (· = name) entries = [entry]

/-- The entries of other names, and those without a name. -/
def otherEntries (mine : String → Bool) (entries : List Json) : List Json :=
  entries.filter fun entry => (entryName entry).all fun name => !mine name

variable {name : String} {entry : Json} {entries : List Json} {mine : String → Bool}

theorem length_entriesNamed (name : String) (entries : List Json) :
    (entriesNamed (· = name) entries).length = (entryNames entries).count (some name) := by
  rw [entriesNamed, ← List.countP_eq_length_filter, entryNames, List.count, List.countP_map]
  refine List.countP_congr fun entry _ => ?_
  cases named : entryName entry <;> simp [named]

theorem sole_of_once (once : Once name entries)
    (found : firstNamed (some name) entries = some entry) : Sole name entry entries := by
  rw [← firstNamed_entriesNamed (· = name) name entries (by simp)] at found
  rw [Once, ← length_entriesNamed] at once
  rw [Sole]
  generalize entriesNamed (· = name) entries = among at found once
  cases among with
  | nil => simp [firstNamed] at found
  | cons first rest =>
      obtain rfl : rest = [] := by simpa using once
      rw [List.mem_singleton.mp (List.mem_of_find?_eq_some found)]

/-- Where a name occurs at most once, putting an entry of the name makes it the only one. -/
theorem sole_putNamed (once : Once name entries) (named : entryName entry = some name) :
    Sole name entry (putNamed entry entries) :=
  sole_of_once (once.put entry) (named ▸ firstNamed_putNamed_same entry entries)

theorem otherEntries_putNamed (named : entryName entry = some name) (own : mine name = true) :
    otherEntries mine (putNamed entry entries) = otherEntries mine entries := by
  induction entries with
  | nil => simp [putNamed, otherEntries, named, own]
  | cons first rest ih =>
      by_cases same : entryName first = entryName entry
      · simp [putNamed, same, otherEntries, named, own]
      · simp only [putNamed, if_neg same, otherEntries, List.filter_cons] at ih ⊢
        rw [ih]

end Entries

section Variables

variable (imprint : Imprint) (previous : NameSet)

/-- What is written is collected, so that beside the collected names nothing changes. -/
theorem otherEntries_projectVariables (mine : String → Bool) (mappings : List EnvMapping)
    (state : List Json × NameSet)
    (own : ∀ name ∈ (projectVariables imprint previous mappings state).2, mine name = true) :
    otherEntries mine (projectVariables imprint previous mappings state).1 =
      otherEntries mine state.1 := by
  induction mappings generalizing state with
  | nil => rfl
  | cons mapping rest ih =>
      rw [projectVariables, List.foldl_cons, ← projectVariables] at own ⊢
      rw [ih _ own]
      by_cases elsewhere : Elsewhere previous state.1 mapping
      · rw [projectVariable_elsewhere imprint previous state mapping elsewhere]
      · rw [projectVariable_written imprint previous state mapping elsewhere] at own ⊢
        refine otherEntries_putNamed (entryName_variableEntry imprint mapping) (own _ ?_)
        exact mem_owned_mono imprint previous _ rest _
          ((NameSet.mem_insert _ _ _).mpr (.inl rfl))

/-- Beside what the binding owned and what it owns now, the variables stay as they are. A
nameless entry counts as a blank name, and nobody owns that. -/
theorem otherEntries_projectEnv (env : List Json) (named : "" ∉ previous) :
    otherEntries (projectEnv imprint previous env).2.contains (projectEnv imprint previous env).1 =
      otherEntries previous.contains env := by
  rw [projectEnv, ← projectVariables, otherEntries_projectVariables imprint previous _ imprint.env]
  · rw [dropStale_eq, otherEntries, List.filter_filter]
    refine List.filter_congr fun entry member => ?_
    rw [Bool.eq_iff_iff, Bool.and_eq_true, keepsEntry_iff]
    cases called : entryName entry with
    | none => simp [named]
    | some name =>
        have defined : some name ∈ entryNames env := List.mem_map.mpr ⟨entry, member, called⟩
        simp only [Option.all_some, Option.getD_some, Bool.not_eq_true', List.contains_eq_mem,
          decide_eq_false_iff_not]
        constructor
        · rintro ⟨unowned, kept⟩ before
          obtain ⟨mapping, present, rfl⟩ := kept before
          exact unowned (owned_of_previous imprint previous mapping imprint.env _ present before)
        · intro before
          refine ⟨?_, fun now => absurd now before⟩
          exact unowned_of_defined imprint previous name imprint.env _ before
            ((mem_entryNames_dropStale imprint previous name env before).mpr defined)
            List.not_mem_nil
  · simp [projectVariables]

/-- A variable that is collected is as one of the mappings of its name writes it. -/
theorem firstNamed_collected (mappings : List EnvMapping) (state : List Json × NameSet)
    (within : ∀ mapping ∈ mappings, mapping ∈ imprint.env)
    (start : ∀ name ∈ state.2, ∃ mapping ∈ imprint.env, mapping.name = name ∧
      firstNamed (some name) state.1 = some (imprint.variableEntry mapping)) :
    ∀ name ∈ (projectVariables imprint previous mappings state).2,
      ∃ mapping ∈ imprint.env, mapping.name = name ∧
        firstNamed (some name) (projectVariables imprint previous mappings state).1 =
          some (imprint.variableEntry mapping) := by
  induction mappings generalizing state with
  | nil => exact start
  | cons mapping rest ih =>
      rw [List.forall_mem_cons] at within
      rw [projectVariables, List.foldl_cons, ← projectVariables]
      apply ih _ within.2
      by_cases elsewhere : Elsewhere previous state.1 mapping
      · rw [projectVariable_elsewhere imprint previous state mapping elsewhere]
        exact start
      · rw [projectVariable_written imprint previous state mapping elsewhere]
        intro name member
        have called := entryName_variableEntry imprint mapping
        by_cases same : mapping.name = name
        · refine ⟨mapping, within.1, same, ?_⟩
          rw [← same, ← called]
          exact firstNamed_putNamed_same _ _
        · obtain ⟨other, present, named, found⟩ := start name
            (((NameSet.mem_insert _ _ _).mp member).resolve_left fun equal => same equal.symm)
          refine ⟨other, present, named, ?_⟩
          rw [firstNamed_putNamed_other _ _ _ (by simpa [called] using same), found]

end Variables

section Paths

/-- The root without the slashes at its end. -/
def Trimmed (root trimmed : String) : Prop :=
  (∃ count, root.toList = trimmed.toList ++ List.replicate count '/') ∧
    trimmed.toList.getLast? ≠ some '/'

theorem trimmed_trimRoot (root : String) : Trimmed root (Imprint.trimRoot root) := by
  have slashes : ∀ mark ∈ root.toList.reverse.takeWhile (· = '/'), mark = '/' := by
    intro mark member
    simpa using List.all_eq_true.mp List.all_takeWhile mark member
  have cut := congrArg List.reverse
    (List.takeWhile_append_dropWhile (p := (· = '/')) (l := root.toList.reverse))
  rw [List.reverse_append, List.reverse_reverse, List.eq_replicate_of_mem slashes,
    List.reverse_replicate] at cut
  refine ⟨⟨_, by rw [Imprint.trimRoot, String.toList_ofList]; exact cut.symm⟩, ?_⟩
  rw [Imprint.trimRoot, String.toList_ofList, List.getLast?_reverse]
  intro slash
  have kept := List.head?_dropWhile_not (· = '/') root.toList.reverse
  simp [slash] at kept

/-- A variable that reads the key of a Secret. -/
def RefersTo (secret key : String) (entry : Json) : Prop :=
  entry.at? ["valueFrom", "secretKeyRef", "name"] = some (.string secret) ∧
    entry.at? ["valueFrom", "secretKeyRef", "key"] = some (.string key)

theorem refersTo_variableEntry (imprint : Imprint) (mapping : EnvMapping) :
    RefersTo imprint.secret mapping.key (imprint.variableEntry mapping) := by
  simp [RefersTo, Imprint.variableEntry, Json.at?, Json.lookup_record]

theorem mountPath_mountEntry (imprint : Imprint) (root : String) :
    (imprint.mountEntry root).field? "mountPath" = some (.string (imprint.mountPath root)) := by
  simp [Imprint.mountEntry, Json.lookup_record]

end Paths

section Containers

/-- What a projection leaves in a container where the binding owned some variables before and
owns some now. -/
structure ContainerComplete (binding : Binding) (secret : String) (previous current : NameSet)
    (before after : Table Json) : Prop where
  /-- The volume is mounted once, under the name of the binding below the root that the
  container sets. -/
  mounted : ∃ root trimmed mount,
    firstNamed (some "SERVICE_BINDING_ROOT") (itemsOf "env" after) = some root ∧
    Trimmed (((root.field? "value").bind Json.asString?).getD "/bindings") trimmed ∧
    Sole (volumeName binding.key) mount (itemsOf "volumeMounts" after) ∧
    mount.field? "mountPath" = some (.string (trimmed ++ "/" ++ binding.bindingName))
  mapped : ∀ mapping ∈ binding.spec.env, some mapping.name ∈ entryNames (itemsOf "env" after)
  owned : ∀ name ∈ current, ∃ mapping ∈ binding.spec.env, mapping.name = name ∧
    ∃ entry, Sole name entry (itemsOf "env" after) ∧ RefersTo secret mapping.key entry
  /-- Variables that were owned and are mapped no more are gone. -/
  dropped : ∀ name ∈ previous, (∀ mapping ∈ binding.spec.env, mapping.name ≠ name) →
    some name ∉ entryNames (itemsOf "env" after)
  /-- Other variables stay, and only a root that was missing is added to them. -/
  env : otherEntries current.contains (itemsOf "env" after) =
    otherEntries previous.contains (itemsOf "env" before) ++
      if some "SERVICE_BINDING_ROOT" ∈ entryNames (itemsOf "env" before) then [] else [rootEntry]
  mounts : otherEntries (· = volumeName binding.key) (itemsOf "volumeMounts" after) =
    otherEntries (· = volumeName binding.key) (itemsOf "volumeMounts" before)
  fields : ∀ field ∉ containerFields, Table.lookup field after = Table.lookup field before

variable {imprint : Imprint} {previous : NameSet} {container : Table Json}

theorem otherEntries_rooted (unowned : rootVariable ∉ previous) (env : List Json) :
    otherEntries previous.contains (rooted env) = otherEntries previous.contains env ++
      if some rootVariable ∈ entryNames env then [] else [rootEntry] := by
  by_cases present : some rootVariable ∈ entryNames env
  · rw [rooted_present env present, if_pos present, List.append_nil]
  · have missing := (rootOf_eq_none env).mpr present
    rw [rooted, missing, if_neg present, otherEntries, Option.isSome_none, if_neg (by simp),
      List.filter_append]
    simp [otherEntries, unowned]

theorem imprint_name (binding : Binding) (imprint : Imprint)
    (known : binding.imprint? = some imprint) : imprint.name = binding.bindingName := by
  obtain ⟨secret, -, rfl⟩ := Option.map_eq_some_iff.mp known
  rfl

/-- Projecting into a container in which nothing of the binding is double. -/
theorem container_complete (binding : Binding) (known : binding.imprint? = some imprint)
    (once : ∀ name ∈ projectedNames imprint previous container,
      Once name (itemsOf "env" (projectedFields imprint previous container)))
    (alone : Once (volumeName imprint.key) (itemsOf "volumeMounts" container))
    (root : rootVariable ∉ previous) (blank : "" ∉ previous) :
    ContainerComplete binding imprint.secret previous (projectedNames imprint previous container)
      container (projectedFields imprint previous container) := by
  obtain ⟨key, env, -⟩ := imprint_fields binding imprint known
  have name := imprint_name binding imprint known
  constructor
  · rw [← key, ← name]
    obtain ⟨defined, -⟩ := root_projected imprint previous container root
    obtain ⟨entry, found⟩ := Option.ne_none_iff_exists'.mp
      (mt (firstNamed_eq_none _ _).mp (not_not.mpr defined))
    have path : rootPath (itemsOf "env" (projectedFields imprint previous container)) =
        rootPath (itemsOf "env" container) := rootPath_projected _ previous container root
    rw [rootPath, rootOf_eq, found, Option.map_some, Option.getD_some] at path
    refine ⟨entry, Imprint.trimRoot (rootPath (itemsOf "env" container)), _, found, ?_, ?_,
      mountPath_mountEntry _ _⟩
    · rw [← path]
      exact trimmed_trimRoot _
    · rw [itemsOf_mounts_projected]
      exact sole_putNamed alone (entryName_mountEntry _ _)
  · intro mapping member
    rw [itemsOf_env_projected, mem_entryNames_projectEnv]
    exact .inl ⟨mapping, env ▸ member, rfl⟩
  · intro name member
    obtain ⟨mapping, present, named, found⟩ :=
      firstNamed_collected imprint previous _ _ (fun _ => id) (by simp) name member
    refine ⟨mapping, env ▸ present, named, _, sole_of_once (once name member) ?_,
      refersTo_variableEntry imprint mapping⟩
    rw [itemsOf_env_projected]
    exact found
  · intro name member unmapped
    rw [itemsOf_env_projected, mem_entryNames_projectEnv]
    rintro (⟨mapping, present, named⟩ | ⟨-, unowned⟩)
    · exact unmapped mapping (env ▸ present) named
    · exact unowned member
  · rw [itemsOf_env_projected]
    exact (otherEntries_projectEnv imprint previous _ blank).trans (otherEntries_rooted root _)
  · rw [itemsOf_mounts_projected, ← key]
    exact otherEntries_putNamed (entryName_mountEntry _ _) (by simp)
  · intro field other
    simp only [mem_containerFields, not_or] at other
    rw [lookup_projectedFields, if_neg other.2, if_neg other.1]

end Containers

section Templates

/-- What a projection leaves in a template. -/
structure TemplateComplete (binding : Binding) (secret : String) (before after : Table Json) :
    Prop where
  volume : ∃ volume, Sources secret volume ∧
    Sole (volumeName binding.key) volume (itemsOf "volumes" (fieldsOf "spec" after))
  volumes : otherEntries (· = volumeName binding.key) (itemsOf "volumes" (fieldsOf "spec" after)) =
    otherEntries (· = volumeName binding.key) (itemsOf "volumes" (fieldsOf "spec" before))
  /-- Each item of a list of containers is one, and is known by the name that it had. -/
  containers : ∀ list ∈ containerLists, List.Forall₂
    (fun old new => ∃ container fields name, namedContainer? old = some (container, name) ∧
      namedContainer? new = some (fields, name) ∧
      ContainerComplete binding secret (namesIn (ownedEnvOf binding.key (annotationsIn before)) name)
        (namesIn (ownedEnvOf binding.key (annotationsIn after)) name) container fields)
    (itemsOf list (fieldsOf "spec" before)) (itemsOf list (fieldsOf "spec" after))

variable {imprint : Imprint} {template : Table Json}

/-- No name that a record of a binding lists is blank. -/
def Nonblank (template : Table Json) : Prop :=
  ∀ key name, "" ∉ namesIn (ownedEnvOf key (annotationsIn template)) name

theorem template_complete (binding : Binding) (known : binding.imprint? = some imprint)
    (counted : CountedTemplate template) (nonblank : Nonblank template) (shaped : Shaped template) :
    TemplateComplete binding imprint.secret template (projectedTemplate imprint template) := by
  obtain ⟨key, -, -⟩ := imprint_fields binding imprint known
  have tidy := counted.parted.shared.tidy
  have volumes : itemsOf "volumes" (fieldsOf "spec" (projectedTemplate imprint template)) =
      putNamed imprint.volumeEntry (itemsOf "volumes" (fieldsOf "spec" template)) := by
    rw [spec_projected, itemsOf_array _ _ _ (lookup_volumes_projectedSpec imprint _ _)]
  constructor
  · rw [volumes, ← key]
    exact ⟨imprint.volumeEntry, sources_volumeEntry imprint,
      sole_putNamed (counted.volumes imprint.key) (entryName_volumeEntry imprint)⟩
  · rw [volumes, ← key]
    exact otherEntries_putNamed (entryName_volumeEntry imprint) (by simp)
  · intro list listed
    rw [spec_projected, itemsOf_projectedSpec _ _ _ list listed, List.forall₂_map_right_iff,
      List.forall₂_same, ← key]
    intro item member
    have present := mem_containersOf list _ listed item member
    obtain ⟨container, name, named, -⟩ := shaped.containers item present
    have projected := counted.container_projected imprint present named
    have collected := tidy.names_projected imprint present named
    refine ⟨container, _, name, named, namedContainer_projectedItem _ _ _ _ _ named, ?_⟩
    rw [collected]
    exact container_complete binding known (collected ▸ projected.owned imprint.key)
      ((counted.containers item present container name named).mounts imprint.key)
      (tidy.unowned imprint.key name) (nonblank imprint.key name)

end Templates

section Workloads

/-- Steps of bindings that map no blank names list none, since a record has mapped names
alone. -/
theorem nonblank_history (origin : Object) (steps : List ProjectionStep)
    (canonical : origin.Canonical) (fresh : origin.Fresh)
    (named : ∀ step ∈ steps, ∀ mapping ∈ step.binding.spec.env, mapping.name ≠ "") :
    ∀ template ∈ (history origin steps).template?, Nonblank template := by
  by_cases shaped : ∃ path template, Located origin path template ∧ Shaped template
  · obtain ⟨path, template, located, shaped⟩ := shaped
    obtain ⟨holding, ⟨changed, same, -, layered⟩, -⟩ := overlaid_history located canonical shaped
      (fresh template (template_located located)) steps named
    intro current found key name
    rw [same, template_withTemplateAt located, Option.mem_some_iff] at found
    rw [← found, layered.records key name]
    exact layered.sound.nonblank key name
  · rw [history_unshaped steps canonical fresh
      fun path template located holds => shaped ⟨path, template, located, holds⟩]
    intro template found key name
    rw [(fresh template found).owned key]
    exact List.not_mem_nil

/-- A workload that steps of bindings brought from a fresh one, each of which maps variables
with names. -/
structure Object.ReachedByNames (workload : Object) (origin : Object)
    (steps : List ProjectionStep) : Prop where
  canonical : origin.Canonical
  fresh : origin.Fresh
  named : ∀ step ∈ steps, ∀ mapping ∈ step.binding.spec.env, mapping.name ≠ ""
  body : workload.body = (history origin steps).body

/-- Whatever other bindings have done to a workload, a projection that goes through puts the
whole binding in and keeps everything that is not its own. -/
theorem projection_complete (workload copy origin : Object) (steps : List ProjectionStep)
    (binding : Binding) (secret : String) (reached : workload.ReachedByNames origin steps)
    (resolved : binding.secretName = some secret)
    (projected : PodTemplate.projector.project binding workload = .ok copy) :
    ∃ before after, workload.template? = some before ∧ copy.template? = some after ∧
      TemplateComplete binding secret before after := by
  obtain ⟨imprint, known, rfl⟩ := imprint_of_secret resolved
  obtain ⟨path, template, located, shaped, rfl⟩ :=
    template_of_project binding imprint workload copy known projected
  have found := template_located located
  have counted := (Object.Reached.keeps
    ⟨origin, steps, reached.canonical, reached.fresh, reached.body⟩ lasting_counted).template path
      template located
  have nonblank := nonblank_history origin steps reached.canonical reached.fresh reached.named
    template (template_of_body reached.body ▸ found)
  exact ⟨template, _, found, template_withTemplateAt located _,
    template_complete binding known counted nonblank shaped⟩

end Workloads

section Sample

/-- The binding that owns the variable of the shared workload maps another one instead. -/
def remappedBinding : Binding :=
  { mappingBinding "second" with
    spec := { (mappingBinding "second").spec with env := [{ name := "HOST", key := "host" }] } }

def remappedWorkload : Object := history sharedWorkload [.project remappedBinding]

/-- The old variable makes way for the new one, and the other binding keeps its mount. -/
theorem remapped_workload_complete :
    (remappedWorkload.template?.map fun template =>
        (containersOf (fieldsOf "spec" template)).map fun item =>
          (namedContainer? item).map fun container =>
            (entryNames (itemsOf "env" container.1),
              (entryNames (itemsOf "volumeMounts" container.1)).length)) =
      some [some ([some "SERVICE_BINDING_ROOT", some "HOST"], 2)] ∧
      ∃ before after, sharedWorkload.template? = some before ∧
        remappedWorkload.template? = some after ∧
        TemplateComplete remappedBinding "db" before after :=
  ⟨by decide +kernel,
    projection_complete sharedWorkload remappedWorkload rootedWorkload
      [.project (mappingBinding "second"), .project (mappingBinding "first")] remappedBinding "db"
      ⟨canonical_rootedWorkload, fresh_rootedWorkload, by decide, rfl⟩ (by decide)
      (by decide +kernel)⟩

end Sample

end BindingOperator
