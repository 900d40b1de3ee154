import Mathlib.Data.List.Forall2
import BindingOperator.Controller.Reconcile
import BindingOperator.Proofs.Dialogues

/-!
The stages of a pass, read backwards. Each stage that talks to the cluster is one resolution
followed by a pure record of its answer; projecting makes no call; writing goes through the
workloads until one write is refused. From these a whole run of the stages is put together.
-/

namespace BindingOperator

open Dialogue

abbrev Talk := List (Exchange BindingCall.Answer)

section Resolving

def serviceOutcome : Except Failure Object → Except Failure ServiceResolution
  | .error failure =>
      if failure.isNotFound then .ok .notFound
      else if failure.isForbidden then .ok .forbidden
      else .error failure
  | .ok object =>
      match object.secretName with
      | some secret => .ok (.resolved secret)
      | none => .ok .missingBinding

def directOutcome (service : ServiceReference) : ServiceResolution :=
  if service.name = "" then .missingBinding else .resolved service.name

/-- A service is resolved by reading it, and what is read decides. -/
theorem resolveService_eq (namespaceName : String) (service : ServiceReference) :
    resolveService namespaceName service =
      if service.isDirectSecret then pure (.ok (directOutcome service))
      else BindingTalk.resolve service.kindOf >>= fun
        | .error failure => pure (.error failure)
        | .ok resource => BindingTalk.getObject resource namespaceName service.name >>= fun answer =>
            pure (serviceOutcome answer) := by
  unfold resolveService
  split
  · rfl
  · refine congrArg (BindingTalk.resolve service.kindOf >>= ·) (funext fun answer => ?_)
    cases answer with
    | error failure => rfl
    | ok resource =>
        refine congrArg (BindingTalk.getObject resource namespaceName service.name >>= ·)
          (funext fun answer => ?_)
        unfold serviceOutcome
        cases answer with
        | error failure =>
            simp only
            split
            · rfl
            · split <;> rfl
        | ok object =>
            simp only
            cases object.secretName <;> rfl

theorem runs_resolveService (namespaceName : String) (service : ServiceReference)
    (exchanges : Talk) (outcome : Except Failure ServiceResolution)
    (run : Runs (resolveService namespaceName service) exchanges outcome) :
    (service.isDirectSecret = true ∧ exchanges = [] ∧ outcome = .ok (directOutcome service)) ∨
      (service.isDirectSecret = false ∧
        ((∃ failure, exchanges = [⟨.resolve service.kindOf, .error failure⟩] ∧
            outcome = .error failure) ∨
          ∃ resource answer, exchanges = [⟨.resolve service.kindOf, .ok resource⟩,
            ⟨.getObject resource namespaceName service.name, answer⟩] ∧
              outcome = serviceOutcome answer)) := by
  rw [resolveService_eq] at run
  split at run
  · next direct =>
    obtain ⟨rfl, rfl⟩ := (runs_pure_iff _ _ _).mp run
    exact .inl ⟨direct, rfl, rfl⟩
  · next indirect =>
    have indirect : service.isDirectSecret = false := by simpa using indirect
    obtain ⟨answer, rest, rfl, after⟩ := (runs_call_bind_iff _ _ _ _).mp run
    cases answer with
    | error failure =>
        obtain ⟨rfl, rfl⟩ := (runs_pure_iff _ _ _).mp after
        exact .inr ⟨indirect, .inl ⟨failure, rfl, rfl⟩⟩
    | ok resource =>
        obtain ⟨answer, last, rfl, ended⟩ := (runs_call_bind_iff _ _ _ _).mp after
        obtain ⟨rfl, rfl⟩ := (runs_pure_iff _ _ _).mp ended
        exact .inr ⟨indirect, .inr ⟨resource, answer, rfl, rfl⟩⟩

theorem resolved_nonempty (namespaceName : String) (service : ServiceReference) (exchanges : Talk)
    (secret : String)
    (run : Runs (resolveService namespaceName service) exchanges (.ok (.resolved secret))) :
    secret ≠ "" := by
  rcases runs_resolveService namespaceName service exchanges _ run with
    ⟨-, -, same⟩ | ⟨-, ⟨failure, -, same⟩ | ⟨resource, answer, -, same⟩⟩
  · unfold directOutcome at same
    split at same
    · simp at same
    · next named =>
      simp only [Except.ok.injEq, ServiceResolution.resolved.injEq] at same
      exact same ▸ named
  · simp at same
  · cases answer with
    | error failure =>
        simp only [serviceOutcome] at same
        split at same
        · simp at same
        · split at same <;> simp at same
    | ok object =>
        simp only [serviceOutcome] at same
        cases published : object.secretName with
        | none => simp [published] at same
        | some name =>
            simp only [published, Except.ok.injEq, ServiceResolution.resolved.injEq] at same
            rw [same]
            have passes := (Option.filter_eq_some_iff.mp published).2
            simpa using passes

def namedOutcome (resource : Resource) : Except Failure Object →
    Except Failure WorkloadResolution
  | .ok object => .ok (.resolved resource [object])
  | .error failure =>
      if failure.isNotFound then .ok .notFound
      else if failure.isForbidden then .ok (.forbidden .single)
      else .error failure

def listedOutcome (resource : Resource) (query : Query) : Except Failure (List Object) →
    Except Failure WorkloadResolution
  | .ok listed => .ok (.resolved resource (listed.filter fun object => query.selects object.labels))
  | .error failure =>
      if failure.isForbidden then .ok (.forbidden .list) else .error failure

/-- Workloads of a served kind: one by its name, or those that are listed. -/
def lookUpWorkloads (resource : Resource) (namespaceName : String) (workload : WorkloadReference) :
    BindingTalk (Except Failure WorkloadResolution) :=
  match workload.name.filter (· ≠ ""), workload.selector with
  | some name, _ => BindingTalk.getObject resource namespaceName name >>= fun answer =>
      pure (namedOutcome resource answer)
  | none, none => pure (.ok (.resolved resource []))
  | none, some selector =>
      match selector.query with
      | .error failure => pure (.error failure)
      | .ok query => BindingTalk.listObjects resource namespaceName query.text >>= fun answer =>
          pure (listedOutcome resource query answer)

theorem resolveWorkloads_eq (namespaceName : String) (workload : WorkloadReference) :
    resolveWorkloads namespaceName workload =
      BindingTalk.resolve workload.kindOf >>= fun
        | .error failure => pure (.error failure)
        | .ok resource => lookUpWorkloads resource namespaceName workload := by
  unfold resolveWorkloads
  refine congrArg (BindingTalk.resolve workload.kindOf >>= ·) (funext fun answer => ?_)
  cases answer with
  | error failure => rfl
  | ok resource =>
      unfold lookUpWorkloads
      simp only
      cases workload.name.filter (· ≠ "") with
      | some name =>
          refine congrArg (BindingTalk.getObject resource namespaceName name >>= ·)
            (funext fun answer => ?_)
          unfold namedOutcome
          cases answer with
          | ok object => rfl
          | error failure =>
              simp only
              split
              · rfl
              · split <;> rfl
      | none =>
          cases workload.selector with
          | none => rfl
          | some selector =>
              simp only
              cases selector.query with
              | error failure => rfl
              | ok query =>
                  refine congrArg (BindingTalk.listObjects resource namespaceName query.text >>= ·)
                    (funext fun answer => ?_)
                  unfold listedOutcome
                  cases answer with
                  | ok listed => rfl
                  | error failure =>
                      simp only
                      split <;> rfl

theorem runs_resolveWorkloads (namespaceName : String) (workload : WorkloadReference)
    (exchanges : Talk) (outcome : Except Failure WorkloadResolution)
    (run : Runs (resolveWorkloads namespaceName workload) exchanges outcome) :
    (∃ failure, exchanges = [⟨.resolve workload.kindOf, .error failure⟩] ∧
        outcome = .error failure) ∨
      ∃ resource rest, exchanges = ⟨.resolve workload.kindOf, .ok resource⟩ :: rest ∧
        ((∃ name answer, workload.name.filter (· ≠ "") = some name ∧
            rest = [⟨.getObject resource namespaceName name, answer⟩] ∧
            outcome = namedOutcome resource answer) ∨
          (workload.name.filter (· ≠ "") = none ∧ workload.selector = none ∧ rest = [] ∧
            outcome = .ok (.resolved resource [])) ∨
          ∃ selector, workload.name.filter (· ≠ "") = none ∧ workload.selector = some selector ∧
            ((∃ failure, selector.query = .error failure ∧ rest = [] ∧ outcome = .error failure) ∨
              ∃ query answer, selector.query = .ok query ∧
                rest = [⟨.listObjects resource namespaceName query.text, answer⟩] ∧
                outcome = listedOutcome resource query answer)) := by
  rw [resolveWorkloads_eq] at run
  obtain ⟨answer, rest, rfl, after⟩ := (runs_call_bind_iff _ _ _ _).mp run
  cases answer with
  | error failure =>
      obtain ⟨rfl, rfl⟩ := (runs_pure_iff _ _ _).mp after
      exact .inl ⟨failure, rfl, rfl⟩
  | ok resource =>
      refine .inr ⟨resource, rest, rfl, ?_⟩
      simp only [lookUpWorkloads] at after
      cases named : workload.name.filter (· ≠ "") with
      | some name =>
          rw [named] at after
          obtain ⟨answer, last, rfl, ended⟩ := (runs_call_bind_iff _ _ _ _).mp after
          obtain ⟨rfl, rfl⟩ := (runs_pure_iff _ _ _).mp ended
          exact .inl ⟨name, answer, rfl, rfl, rfl⟩
      | none =>
          rw [named] at after
          cases selecting : workload.selector with
          | none =>
              rw [selecting] at after
              obtain ⟨rfl, rfl⟩ := (runs_pure_iff _ _ _).mp after
              exact .inr (.inl ⟨rfl, rfl, rfl, rfl⟩)
          | some selector =>
              rw [selecting] at after
              refine .inr (.inr ⟨selector, rfl, rfl, ?_⟩)
              cases formed : selector.query with
              | error failure =>
                  simp only [formed] at after
                  obtain ⟨rfl, rfl⟩ := (runs_pure_iff _ _ _).mp after
                  exact .inl ⟨failure, rfl, rfl, rfl⟩
              | ok query =>
                  simp only [formed] at after
                  obtain ⟨answer, last, rfl, ended⟩ := (runs_call_bind_iff _ _ _ _).mp after
                  obtain ⟨rfl, rfl⟩ := (runs_pure_iff _ _ _).mp ended
                  exact .inr ⟨query, answer, rfl, rfl, rfl⟩

end Resolving

section Recording

variable (clock : Clock)

abbrev Ending := Progress × Except Halt Unit

def afterService (progress : Progress) : Except Failure ServiceResolution → Ending
  | .error failure => (progress, .error (.failure failure))
  | .ok resolution =>
      ({ progress with binding := recordSecret clock resolution progress.binding }, .ok ())

def afterWorkloads (progress : Progress) : Except Failure WorkloadResolution → Ending
  | .error failure => (progress, .error (.failure failure))
  | .ok resolution => (recordWorkloads clock resolution progress, .ok ())

def afterProjecting (projector : Projector) (phase : Phase) (progress : Progress) : Ending :=
  match projectAll projector phase progress.binding progress.workloads with
  | .error failure => (progress, .error (.failure failure))
  | .ok projected => ({ progress with projected }, .ok ())

theorem runs_resolveSecretStage (progress : Progress) (exchanges : Talk) (ending : Ending) :
    Runs (resolveSecretStage clock progress) exchanges ending ↔
      ∃ answer, Runs (resolveService progress.binding.namespaceName
        progress.binding.spec.service) exchanges answer ∧
          ending = afterService clock progress answer := by
  have stage : resolveSecretStage clock progress =
      resolveService progress.binding.namespaceName progress.binding.spec.service >>=
        fun answer => pure (afterService clock progress answer) := by
    refine congrArg (resolveService _ _ >>= ·) (funext fun answer => ?_)
    cases answer <;> rfl
  rw [stage]
  exact runs_bind_pure_iff _ _ _ _

theorem runs_resolveWorkloadsStage (progress : Progress) (exchanges : Talk) (ending : Ending) :
    Runs (resolveWorkloadsStage clock progress) exchanges ending ↔
      ∃ answer, Runs (resolveWorkloads progress.binding.namespaceName
        progress.binding.spec.workload) exchanges answer ∧
          ending = afterWorkloads clock progress answer := by
  have stage : resolveWorkloadsStage clock progress =
      resolveWorkloads progress.binding.namespaceName progress.binding.spec.workload >>=
        fun answer => pure (afterWorkloads clock progress answer) := by
    refine congrArg (resolveWorkloads _ _ >>= ·) (funext fun answer => ?_)
    cases answer <;> rfl
  rw [stage]
  exact runs_bind_pure_iff _ _ _ _

theorem runs_projectStage (projector : Projector) (phase : Phase) (progress : Progress)
    (exchanges : Talk) (ending : Ending) :
    Runs (projectStage projector phase progress) exchanges ending ↔
      exchanges = [] ∧ ending = afterProjecting projector phase progress := by
  unfold projectStage afterProjecting
  cases projectAll projector phase progress.binding progress.workloads with
  | error failure => exact runs_pure_iff _ _ _
  | ok projected => exact runs_pure_iff _ _ _

/-- One stage, and the rest of them when it did not end early. -/
theorem runs_runStages_cons (projector : Projector) (phase : Phase) (stage : Stage)
    (rest : List Stage) (progress : Progress) (exchanges : Talk) (ending : Ending) :
    Runs (runStages clock projector phase (stage :: rest) progress) exchanges ending ↔
      ∃ first middle last, exchanges = first ++ last ∧
        Runs (stage.run clock projector phase progress) first middle ∧
          ((∃ halt, middle.2 = .error halt ∧ last = [] ∧ ending = (middle.1, .error halt)) ∨
            (middle.2 = .ok () ∧
              Runs (runStages clock projector phase rest middle.1) last ending)) := by
  rw [runStages, runs_bind_iff]
  constructor
  · rintro ⟨first, ⟨progress, outcome⟩, last, rfl, left, right⟩
    refine ⟨first, _, last, rfl, left, ?_⟩
    cases outcome with
    | error halt =>
        obtain ⟨rfl, rfl⟩ := (runs_pure_iff _ _ _).mp right
        exact .inl ⟨halt, rfl, rfl, rfl⟩
    | ok done => exact .inr ⟨rfl, right⟩
  · rintro ⟨first, ⟨progress, outcome⟩, last, rfl, left, right⟩
    refine ⟨first, _, last, rfl, left, ?_⟩
    cases outcome with
    | error halt =>
        rcases right with ⟨found, same, rfl, rfl⟩ | ⟨impossible, -⟩
        · simp only [Except.error.injEq] at same
          rw [same]
          exact .done _
        · simp at impossible
    | ok done =>
        rcases right with ⟨found, impossible, -⟩ | ⟨-, run⟩
        · simp at impossible
        · exact run

theorem runs_runStages_nil (projector : Projector) (phase : Phase) (progress : Progress)
    (exchanges : Talk) (ending : Ending) :
    Runs (runStages clock projector phase [] progress) exchanges ending ↔
      exchanges = [] ∧ ending = (progress, .ok ()) :=
  runs_pure_iff _ _ _

def applied (projector : Projector) (phase : Phase) (binding : Binding) (workload : Object) :
    Except Failure Object :=
  match phase with
  | .live => projector.project binding workload
  | .deleting => projector.unproject binding workload

theorem projectAll_cons (projector : Projector) (phase : Phase) (binding : Binding)
    (workload : Object) (rest : List Object) :
    projectAll projector phase binding (workload :: rest) =
      (applied projector phase binding workload).bind fun copy =>
        (projectAll projector phase binding rest).bind fun copies => .ok (copy :: copies) := by
  cases phase <;> rfl

/-- What cannot be projected is the first workload, or one behind it. -/
theorem projectAll_cons_error {projector : Projector} {phase : Phase} {binding : Binding}
    {workload : Object} {rest : List Object} {failure : Failure} :
    projectAll projector phase binding (workload :: rest) = .error failure ↔
      applied projector phase binding workload = .error failure ∨
        ∃ copy, applied projector phase binding workload = .ok copy ∧
          projectAll projector phase binding rest = .error failure := by
  rw [projectAll_cons]
  cases applied projector phase binding workload with
  | error cause => simp [Except.bind]
  | ok copy => cases projectAll projector phase binding rest <;> simp [Except.bind]

/-- The copies that a projector makes, one for each workload. -/
theorem projectAll_ok (projector : Projector) (phase : Phase) (binding : Binding)
    (workloads copies : List Object)
    (projected : projectAll projector phase binding workloads = .ok copies) :
    workloads.Forall₂ (fun workload copy => applied projector phase binding workload = .ok copy)
      copies := by
  induction workloads generalizing copies with
  | nil =>
      simp only [projectAll, Except.ok.injEq] at projected
      exact projected ▸ .nil
  | cons workload rest ih =>
      rw [projectAll_cons] at projected
      cases first : applied projector phase binding workload with
      | error failure => simp [first, Except.bind] at projected
      | ok copy =>
          cases others : projectAll projector phase binding rest with
          | error failure => simp [first, others, Except.bind] at projected
          | ok more =>
              simp only [first, others, Except.bind, Except.ok.injEq] at projected
              exact projected ▸ .cons first (ih more others)

theorem projectAll_zip (projector : Projector) (phase : Phase) (binding : Binding)
    (workloads copies : List Object)
    (projected : projectAll projector phase binding workloads = .ok copies)
    (pair : Object × Object) (member : pair ∈ workloads.zip copies) :
    pair.1 ∈ workloads ∧ applied projector phase binding pair.1 = .ok pair.2 :=
  ⟨(List.of_mem_zip member).1,
    (List.forall₂_iff_zip.mp (projectAll_ok projector phase binding workloads copies projected)).2
      member⟩

/-- Each workload is paired with the copy that was made of it. -/
theorem projectAll_pair (projector : Projector) (phase : Phase) (binding : Binding)
    (workloads copies : List Object)
    (projected : projectAll projector phase binding workloads = .ok copies) (workload : Object)
    (member : workload ∈ workloads) :
    ∃ copy, (workload, copy) ∈ workloads.zip copies ∧
      applied projector phase binding workload = .ok copy := by
  have made := projectAll_ok projector phase binding workloads copies projected
  clear projected
  induction made with
  | nil => simp at member
  | @cons first copy rest others this made ih =>
      rcases List.mem_cons.mp member with rfl | later
      · exact ⟨copy, List.mem_cons_self, this⟩
      · obtain ⟨found, paired, result⟩ := ih later
        exact ⟨found, List.mem_cons_of_mem _ paired, result⟩

end Recording

section Writing

variable (clock : Clock)

/-- The condition at the end of the writing, unless another one was recorded before. -/
def markWritten (conditions : List Condition) : List Condition :=
  if Conditions.isInitializing ConditionType.workloadProjected conditions then
    Conditions.markTrue (clock.atStage .patchWorkloads) ConditionType.workloadProjected
      Reason.workloadProjected conditions
  else conditions

def markRefused : List Condition → List Condition :=
  Conditions.markFalse (clock.atStage .patchWorkloads) ConditionType.workloadProjected
    Reason.workloadForbidden "the controller does not have permission to update the workloads"

/-- An answer after which the writing goes on: the copy was taken, or its workload is gone. -/
def Passes (answer : Except Failure Object) : Prop :=
  (∃ stored, answer = .ok stored) ∨ ∃ failure, answer = .error failure ∧ failure.isNotFound = true

/-- A copy needs no write, or it was written, or its workload was gone. -/
def Written (resource : Option Resource) (exchanges : Talk) (pair : Object × Object) : Prop :=
  pair.1 = pair.2 ∨ ∃ served, resource = some served ∧
    ∃ answer, (⟨.updateObject served pair.2, answer⟩ : Exchange BindingCall.Answer) ∈ exchanges ∧
      Passes answer

/-- How writing the copies ends: all are written, a write is refused, or the writing halts. -/
def Patched (progress : Progress) (pairs : List (Object × Object)) (exchanges : Talk)
    (ending : Ending) : Prop :=
  (ending = (progress.mark (markWritten clock), .ok ()) ∧
      ∀ pair ∈ pairs, Written progress.resource exchanges pair) ∨
    (ending = (progress.mark (markRefused clock), .ok ()) ∧
      ∃ served copy failure, failure.isForbidden = true ∧
        (⟨.updateObject served copy, .error failure⟩ : Exchange BindingCall.Answer) ∈ exchanges) ∨
    ∃ halt, ending = (progress, .error halt)

variable {clock} {progress : Progress} {pairs : List (Object × Object)} {exchanges : Talk}
  {ending : Ending}

theorem Written.mono {resource : Option Resource} {pair : Object × Object} {more : Talk}
    (written : Written resource exchanges pair)
    (within : ∀ exchange ∈ exchanges, exchange ∈ more) : Written resource more pair := by
  rcases written with same | ⟨served, known, answer, held, passed⟩
  · exact .inl same
  · exact .inr ⟨served, known, answer, within _ held, passed⟩

theorem Patched.cons {more : Talk} (patched : Patched clock progress pairs exchanges ending)
    (pair : Object × Object) (within : ∀ exchange ∈ exchanges, exchange ∈ more)
    (written : Written progress.resource more pair) :
    Patched clock progress (pair :: pairs) more ending := by
  rcases patched with ⟨ended, others⟩ | ⟨ended, served, copy, failure, refused, held⟩ | failed
  · refine .inl ⟨ended, ?_⟩
    intro other member
    rcases List.mem_cons.mp member with rfl | later
    · exact written
    · exact (others other later).mono within
  · exact .inr (.inl ⟨ended, served, copy, failure, refused, within _ held⟩)
  · exact .inr (.inr failed)

/-- What becomes of one workload and its copy, and of the writing after it. -/
theorem runs_patchAll_cons {workload copy : Object}
    (run : Runs (patchAll clock progress ((workload, copy) :: pairs)) exchanges ending) :
    (∃ breach, exchanges = [] ∧ ending = (progress, .error (.breach breach))) ∨
      (workload = copy ∧ Runs (patchAll clock progress pairs) exchanges ending) ∨
      ∃ served answer later, progress.resource = some served ∧
        exchanges = ⟨.updateObject served copy, answer⟩ :: later ∧
        ((Passes answer ∧ Runs (patchAll clock progress pairs) later ending) ∨
          ∃ failure, answer = .error failure ∧ failure.isNotFound = false ∧ later = [] ∧
            ((failure.isForbidden = true ∧ ending = (progress.mark (markRefused clock), .ok ())) ∨
              (failure.isForbidden = false ∧ ending = (progress, .error (.failure failure))))) := by
  rw [patchAll] at run
  split at run
  · obtain ⟨rfl, rfl⟩ := (runs_pure_iff _ _ _).mp run
    exact .inl ⟨_, rfl, rfl⟩
  · split at run
    · next same => exact .inr (.inl ⟨same, run⟩)
    · split at run
      · obtain ⟨rfl, rfl⟩ := (runs_pure_iff _ _ _).mp run
        exact .inl ⟨_, rfl, rfl⟩
      · next served known =>
        obtain ⟨answer, later, rfl, after⟩ := (runs_call_bind_iff _ _ _ _).mp run
        refine .inr (.inr ⟨served, answer, later, known, rfl, ?_⟩)
        cases answer with
        | ok stored => exact .inl ⟨.inl ⟨stored, rfl⟩, after⟩
        | error failure =>
            simp only at after
            split at after
            · next gone => exact .inl ⟨.inr ⟨failure, rfl, gone⟩, after⟩
            · next present =>
              have present : failure.isNotFound = false := by simpa using present
              split at after
              · next refused =>
                obtain ⟨rfl, rfl⟩ := (runs_pure_iff _ _ _).mp after
                exact .inr ⟨failure, rfl, present, rfl, .inl ⟨refused, rfl⟩⟩
              · next unrefused =>
                obtain ⟨rfl, rfl⟩ := (runs_pure_iff _ _ _).mp after
                exact .inr ⟨failure, rfl, present, rfl, .inr ⟨by simpa using unrefused, rfl⟩⟩

theorem runs_patchAll_nil :
    Runs (patchAll clock progress []) exchanges ending ↔
      exchanges = [] ∧ ending = (progress.mark (markWritten clock), .ok ()) :=
  runs_pure_iff _ _ _

theorem runs_patchAll (run : Runs (patchAll clock progress pairs) exchanges ending) :
    Patched clock progress pairs exchanges ending := by
  induction pairs generalizing exchanges with
  | nil =>
      obtain ⟨rfl, rfl⟩ := runs_patchAll_nil.mp run
      exact .inl ⟨rfl, by simp⟩
  -- the pair is left alone, written, or ends the writing; the rest follows by induction
  | cons pair rest ih =>
      rcases runs_patchAll_cons run with ⟨breach, -, rfl⟩ | ⟨same, later⟩ |
        ⟨served, answer, later, known, rfl, step⟩
      · exact .inr (.inr ⟨_, rfl⟩)
      · exact (ih later).cons _ (fun _ => id) (.inl same)
      · rcases step with ⟨passed, after⟩ | ⟨failure, rfl, -, rfl, ⟨refused, rfl⟩ | ⟨-, rfl⟩⟩
        · exact (ih after).cons _ (fun _ => List.mem_cons_of_mem _)
            (.inr ⟨served, known, answer, List.mem_cons_self, passed⟩)
        · exact .inr (.inl ⟨rfl, served, pair.2, failure, refused, List.mem_cons_self⟩)
        · exact .inr (.inr ⟨_, rfl⟩)

theorem patchAll_calls (run : Runs (patchAll clock progress pairs) exchanges ending)
    (exchange : Exchange BindingCall.Answer) (member : exchange ∈ exchanges) :
    ∃ served, progress.resource = some served ∧ ∃ pair ∈ pairs,
      exchange.1 = .updateObject served pair.2 := by
  induction pairs generalizing exchanges with
  | nil =>
      obtain ⟨rfl, -⟩ := runs_patchAll_nil.mp run
      simp at member
  | cons pair rest ih =>
      -- a call about the rest is one about the whole list
      have elsewhere : ∀ later, Runs (patchAll clock progress rest) later ending →
          exchange ∈ later → ∃ served, progress.resource = some served ∧ ∃ other ∈ pair :: rest,
            exchange.1 = .updateObject served other.2 := by
        intro later after inside
        obtain ⟨served, known, other, chosen, call⟩ := ih after inside
        exact ⟨served, known, other, List.mem_cons_of_mem _ chosen, call⟩
      rcases runs_patchAll_cons run with ⟨breach, rfl, -⟩ | ⟨-, later⟩ |
        ⟨served, answer, later, known, rfl, step⟩
      · simp at member
      · exact elsewhere _ later member
      · rcases List.mem_cons.mp member with rfl | inside
        · exact ⟨served, known, pair, List.mem_cons_self, rfl⟩
        · rcases step with ⟨-, after⟩ | ⟨failure, -, -, rfl, -⟩
          · exact elsewhere _ after inside
          · simp at inside

end Writing

section Phases

variable (clock : Clock) (projector : Projector)

/-- The stages that both phases end with. -/
def workloadStages : List Stage := [.resolveWorkloads, .project, .patchWorkloads]

/-- The stages that copy and write: copying fails, or the copies are written one after the
other. There are as many copies as workloads, so their numbers never differ. -/
theorem runs_writingStages (phase : Phase) (progress : Progress) (exchanges : Talk)
    (ending : Ending)
    (run : Runs (runStages clock projector phase [.project, .patchWorkloads] progress) exchanges
      ending) :
    (∃ failure, projectAll projector phase progress.binding progress.workloads = .error failure ∧
        exchanges = [] ∧ ending = (progress, .error (.failure failure))) ∨
      ∃ copies, projectAll projector phase progress.binding progress.workloads = .ok copies ∧
        Runs (patchAll clock { progress with projected := copies } (progress.workloads.zip copies))
          exchanges ending := by
  obtain ⟨none, projected, last, rfl, first, rest⟩ :=
    (runs_runStages_cons clock projector phase _ _ _ _ _).mp run
  obtain ⟨rfl, rfl⟩ := (runs_projectStage projector phase _ _ _).mp first
  simp only [afterProjecting] at rest
  cases copied : projectAll projector phase progress.binding progress.workloads with
  | error failure =>
      simp only [copied] at rest
      rcases rest with ⟨halt, same, rfl, rfl⟩ | ⟨impossible, -⟩
      · exact .inl ⟨failure, rfl, rfl, by rw [← same]⟩
      · simp at impossible
  | ok copies =>
      simp only [copied] at rest
      rcases rest with ⟨halt, impossible, -⟩ | ⟨-, rest⟩
      · simp at impossible
      · refine .inr ⟨copies, rfl, ?_⟩
        obtain ⟨writes, patched, ended, rfl, second, rest⟩ :=
          (runs_runStages_cons clock projector phase _ _ _ _ _).mp rest
        have counted := (projectAll_ok projector phase _ _ _ copied).length_eq
        have wrote : Runs (patchAll clock { progress with projected := copies }
            (progress.workloads.zip copies)) writes patched := by
          simpa [Stage.run, patchWorkloadsStage, counted] using second
        rcases rest with ⟨halt, same, rfl, rfl⟩ | ⟨done, rest⟩
        · simpa [← same] using wrote
        · obtain ⟨rfl, rfl⟩ := (runs_runStages_nil clock projector phase _ _ _).mp rest
          simpa [← done] using wrote

/-- The stages from the workloads on: resolving fails, projecting fails, or the copies are
written one after the other. -/
theorem runs_workloadStages (phase : Phase) (progress : Progress) (exchanges : Talk)
    (ending : Ending)
    (run : Runs (runStages clock projector phase workloadStages progress) exchanges ending) :
    (∃ failure, Runs (resolveWorkloads progress.binding.namespaceName
          progress.binding.spec.workload) exchanges (.error failure) ∧
        ending = (progress, .error (.failure failure))) ∨
      ∃ lists writes found recorded, exchanges = lists ++ writes ∧
        Runs (resolveWorkloads progress.binding.namespaceName
          progress.binding.spec.workload) lists (.ok found) ∧
        recorded = recordWorkloads clock found progress ∧
        ((∃ failure, projectAll projector phase recorded.binding recorded.workloads =
              .error failure ∧ writes = [] ∧ ending = (recorded, .error (.failure failure))) ∨
          ∃ copies, projectAll projector phase recorded.binding recorded.workloads = .ok copies ∧
            Runs (patchAll clock { recorded with projected := copies }
              (recorded.workloads.zip copies)) writes ending) := by
  obtain ⟨lists, resolved, writes, rfl, first, rest⟩ :=
    (runs_runStages_cons clock projector phase _ _ _ _ _).mp run
  obtain ⟨answer, read, rfl⟩ := (runs_resolveWorkloadsStage clock _ _ _).mp first
  cases answer with
  | error failure =>
      rcases rest with ⟨halt, same, rfl, rfl⟩ | ⟨impossible, -⟩
      · simp only [afterWorkloads, Except.error.injEq] at same
        exact .inl ⟨failure, by simpa using read, by rw [same]; rfl⟩
      · simp [afterWorkloads] at impossible
  | ok found =>
      rcases rest with ⟨halt, impossible, -⟩ | ⟨-, rest⟩
      · simp [afterWorkloads] at impossible
      · exact .inr ⟨lists, writes, found, _, rfl, read, rfl,
          runs_writingStages clock projector phase _ _ _ rest⟩

theorem ofPhase_live : Stage.ofPhase .live = .resolveSecret :: workloadStages := by decide

theorem ofPhase_deleting : Stage.ofPhase .deleting = workloadStages := by decide

theorem runs_runPhase (phase : Phase) (binding ended : Binding) (outcome : Except Halt Unit)
    (exchanges : Talk)
    (run : Runs (runPhase clock projector phase binding) exchanges (ended, outcome)) :
    ∃ progress, Runs (runStages clock projector phase (Stage.ofPhase phase) { binding }) exchanges
      (progress, outcome) ∧ ended = progress.binding := by
  obtain ⟨first, ⟨progress, given⟩, last, rfl, left, right⟩ := (runs_bind_iff _ _ _ _).mp run
  obtain ⟨rfl, same⟩ := (runs_pure_iff _ _ _).mp right
  simp only [Prod.mk.injEq] at same
  obtain ⟨rfl, rfl⟩ := same
  exact ⟨progress, by simpa using left, rfl⟩

/-- The stages of a live binding: its service is read first, and the workloads are looked at
only when that did not fail. -/
theorem runs_live (binding ended : Binding) (outcome : Except Halt Unit) (exchanges : Talk)
    (run : Runs (runPhase clock projector .live binding) exchanges (ended, outcome)) :
    (∃ failure, Runs (resolveService binding.namespaceName binding.spec.service) exchanges
          (.error failure) ∧ ended = binding ∧ outcome = .error (.failure failure)) ∨
      ∃ reads rest service progress, exchanges = reads ++ rest ∧
        Runs (resolveService binding.namespaceName binding.spec.service) reads (.ok service) ∧
        Runs (runStages clock projector .live workloadStages
          { binding := recordSecret clock service binding }) rest (progress, outcome) ∧
        ended = progress.binding := by
  obtain ⟨progress, stages, rfl⟩ := runs_runPhase clock projector .live binding ended outcome _ run
  rw [ofPhase_live] at stages
  obtain ⟨reads, middle, rest, rfl, first, later⟩ :=
    (runs_runStages_cons clock projector .live _ _ _ _ _).mp stages
  obtain ⟨answer, read, rfl⟩ := (runs_resolveSecretStage clock _ _ _).mp first
  cases answer with
  | error failure =>
      rcases later with ⟨halt, same, rfl, ended⟩ | ⟨impossible, -⟩
      · simp only [afterService, Except.error.injEq, Prod.mk.injEq] at same ended
        obtain ⟨rfl, rfl⟩ := ended
        exact .inl ⟨failure, by simpa using read, rfl, by rw [same]⟩
      · simp [afterService] at impossible
  | ok service =>
      rcases later with ⟨halt, impossible, -⟩ | ⟨-, later⟩
      · simp [afterService] at impossible
      · exact .inr ⟨reads, rest, service, progress, rfl, read, later, rfl⟩

end Phases

end BindingOperator
