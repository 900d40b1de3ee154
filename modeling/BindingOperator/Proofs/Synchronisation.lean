import Mathlib.Data.List.Forall2
import BindingOperator.Proofs.Interception

/-!
One synchronisation of a webhook configuration, from the answers of its calls. The bindings
and the mapper decide the desired rules, or the first failure that keeps them from being
made; only then is the first entry of the name compared and, if it says something else,
written once. What was written agrees with the same bindings and mapper again, and a server
that fills in scopes changes nothing that the comparison sees.
-/

namespace BindingOperator

open Dialogue

/-- What the calls of a synchronisation are answered. -/
structure Surroundings where
  listing : Except Failure (List Binding)
  mapper : GroupVersionKind → Except Failure Resource
  replacing : WebhookConfiguration → Except Failure WebhookConfiguration

namespace Surroundings

def answer (around : Surroundings) : (call : WebhookCall) → call.Answer
  | .resolve kind => around.mapper kind
  | .listBindings => around.listing
  | .replaceConfiguration config => around.replacing config
  | .publish .. => ()

/-- What is said in a dialogue, and how it ends. -/
def converse {α : Type} (around : Surroundings) (dialogue : WebhookTalk α) :
    List (Exchange WebhookCall.Answer) × α :=
  let done := transcript (fun () call => (around.answer call, ())) dialogue ()
  (done.1, done.2.1)

/-- The bindings are not listed, or a kind that they mention is not found. -/
def Fails (around : Surroundings) (task : WebhookTask) : Prop :=
  (∃ failure, around.listing = .error failure) ∨
    ∃ bindings, around.listing = .ok bindings ∧
      ∃ kind ∈ task.observe bindings, ∃ failure, around.mapper kind = .error failure

def located (around : Surroundings) (kind : GroupVersionKind) :
    Except Failure (String × String) :=
  (around.mapper kind).map fun resource => (resource.group, resource.plural)

/-- The rules of the kinds that the bindings mention, as the mapper finds them. -/
def desired (around : Surroundings) (task : WebhookTask) : Except Failure (List WebhookRule) := do
  let bindings ← around.listing
  let resources ← (task.observe bindings).mapM around.located
  return WebhookRule.merge task.operations resources

end Surroundings

/-- The configurations that are sent to the server. -/
def sentConfigurations (said : List (Exchange WebhookCall.Answer)) : List WebhookConfiguration :=
  said.filterMap fun
    | ⟨.replaceConfiguration config, _⟩ => some config
    | _ => none

/-- The events that are published, each with what it is about. -/
def announcedEvents (said : List (Exchange WebhookCall.Answer)) : List (ObjectReference × Event) :=
  said.filterMap fun
    | ⟨.publish about event, _⟩ => some (about, event)
    | _ => none

/-- Rules that say the same when a scope that is not set means every scope. -/
structure WebhookRule.Alike (first second : WebhookRule) : Prop where
  apiGroups : first.apiGroups = second.apiGroups
  apiVersions : first.apiVersions = second.apiVersions
  operations : first.operations = second.operations
  resources : first.resources = second.resources
  scope : first.scope.getD "*" = second.scope.getD "*"

/-- What the server may make of a rule that it stores. -/
inductive WebhookRule.Filled : WebhookRule → WebhookRule → Prop where
  | kept (rule : WebhookRule) : Filled rule rule
  | defaulted (rule : WebhookRule) (unset : rule.scope = none) :
      Filled rule { rule with scope := some "*" }

/-- A configuration as it is read after it was written: entry by entry the same names, and
scopes filled in for any of the rules. Nothing else of it matters. -/
def WebhookConfiguration.Reread (written again : WebhookConfiguration) : Prop :=
  List.Forall₂ (fun entry other : WebhookEntry => other.name = entry.name ∧
    List.Forall₂ WebhookRule.Filled (entry.rules.getD []) (other.rules.getD []))
    written.entries again.entries

variable {around : Surroundings} {task : WebhookTask} {config : WebhookConfiguration}
  {earlier later : List WebhookEntry} {entry : WebhookEntry}

section Comparing

namespace WebhookRule

theorem alike_iff (first second : WebhookRule) :
    first.withScope = second.withScope ↔ first.Alike second := by
  constructor
  · intro same
    simp only [withScope, mk.injEq, Option.some.injEq] at same
    obtain ⟨apiGroups, apiVersions, operations, resources, scope⟩ := same
    exact ⟨apiGroups, apiVersions, operations, resources, scope⟩
  · rintro ⟨apiGroups, apiVersions, operations, resources, scope⟩
    simp only [withScope, mk.injEq, Option.some.injEq]
    exact ⟨apiGroups, apiVersions, operations, resources, scope⟩

theorem agree_iff (stored desired : List WebhookRule) :
    agree stored desired = true ↔ List.Forall₂ Alike stored desired := by
  rw [agree, decide_eq_true_iff]
  induction stored generalizing desired with
  | nil => cases desired <;> simp
  | cons rule rest ih =>
      cases desired with
      | nil => simp
      | cons other more =>
          rw [List.map_cons, List.map_cons, List.cons.injEq, alike_iff, ih,
            List.forall₂_cons]

theorem Filled.alike {rule other : WebhookRule} (filled : Filled rule other) :
    Alike other rule := by
  cases filled with
  | kept => exact ⟨rfl, rfl, rfl, rfl, rfl⟩
  | defaulted unset => exact ⟨rfl, rfl, rfl, rfl, by simp [unset]⟩

/-- Rules come back agreeing with themselves, with scopes filled in or not. -/
theorem agree_of_filled {rules again : List WebhookRule}
    (filled : List.Forall₂ Filled rules again) : agree again rules = true :=
  (agree_iff again rules).mpr (filled.flip.imp fun _ _ => Filled.alike)

end WebhookRule

end Comparing

section Entries

theorem rules_absent (absent : ∀ entry ∈ config.entries, entry.name ≠ task.webhook) :
    config.rules? task.webhook = none := by
  simpa [WebhookConfiguration.rules?] using absent

theorem rules_first (entry : WebhookEntry) (split : config.entries = earlier ++ entry :: later)
    (named : entry.name = task.webhook)
    (first : ∀ other ∈ earlier, other.name ≠ task.webhook) :
    config.rules? task.webhook = some (entry.rules.getD []) := by
  have none : earlier.find? (fun entry => entry.name = task.webhook) = none := by
    simpa using first
  simp [WebhookConfiguration.rules?, split, List.find?_append, none, named]

theorem replaceRules_first (rules : List WebhookRule) (named : entry.name = task.webhook)
    (first : ∀ other ∈ earlier, other.name ≠ task.webhook) :
    WebhookConfiguration.replaceRules task.webhook rules (earlier ++ entry :: later) =
      earlier ++ { entry with rules := some rules } :: later := by
  induction earlier with
  | nil => simp [WebhookConfiguration.replaceRules, named]
  | cons other rest ih =>
      rw [List.forall_mem_cons] at first
      rw [List.cons_append, WebhookConfiguration.replaceRules, if_neg first.1, ih first.2,
        List.cons_append]

/-- Setting the rules of a name changes the first entry of that name. -/
theorem setRules_first (rules : List WebhookRule)
    (split : config.entries = earlier ++ entry :: later) (named : entry.name = task.webhook)
    (first : ∀ other ∈ earlier, other.name ≠ task.webhook) :
    config.setRules task.webhook rules = { config with
      webhooks := some (earlier ++ { entry with rules := some rules } :: later) } := by
  have stored : config.webhooks = some (earlier ++ entry :: later) := by
    cases entries : config.webhooks with
    | none => simp [WebhookConfiguration.entries, entries] at split
    | some list => simpa [WebhookConfiguration.entries, entries] using split
  rw [WebhookConfiguration.setRules, stored, Option.map_some,
    replaceRules_first rules named first]

end Entries

section Conversing

theorem converse_pure {α : Type} (value : α) :
    around.converse (pure value) = ([], value) := rfl

theorem converse_call (around : Surroundings) (call : WebhookCall) :
    around.converse (Dialogue.call call) = ([⟨call, around.answer call⟩], around.answer call) := rfl

/-- A dialogue goes on from the value of the one before. -/
theorem converse_after {α β : Type} {first : WebhookTalk α} (next : α → WebhookTalk β)
    {said : List (Exchange WebhookCall.Answer)} {value : α}
    (before : around.converse first = (said, value)) :
    around.converse (first >>= next) =
      (said ++ (around.converse (next value)).1, (around.converse (next value)).2) := by
  obtain ⟨rfl, rfl⟩ := Prod.mk.inj before
  rw [Surroundings.converse, transcript_bind]
  rfl

end Conversing

section Reading

/-- Exchanges that only read. -/
def Quiet (said : List (Exchange WebhookCall.Answer)) : Prop :=
  sentConfigurations said = [] ∧ announcedEvents said = []

theorem Quiet.append {said more : List (Exchange WebhookCall.Answer)} (first : Quiet said)
    (second : Quiet more) : Quiet (said ++ more) := by
  constructor
  · rw [sentConfigurations, List.filterMap_append]
    exact (congrArg₂ _ first.1 second.1 :)
  · rw [announcedEvents, List.filterMap_append]
    exact (congrArg₂ _ first.2 second.2 :)

theorem quiet_nil : Quiet [] := ⟨rfl, rfl⟩

theorem quiet_resolve (kind : GroupVersionKind) (answer : Except Failure Resource) :
    Quiet [⟨.resolve kind, answer⟩] := ⟨rfl, rfl⟩

theorem quiet_list (answer : Except Failure (List Binding)) :
    Quiet [⟨.listBindings, answer⟩] := ⟨rfl, rfl⟩

theorem located_error {kind : GroupVersionKind} {failure : Failure}
    (lost : around.mapper kind = .error failure) : around.located kind = .error failure := by
  rw [Surroundings.located, lost]
  rfl

theorem located_ok {kind : GroupVersionKind} {resource : Resource}
    (found : around.mapper kind = .ok resource) :
    around.located kind = .ok (resource.group, resource.plural) := by
  rw [Surroundings.located, found]
  rfl

/-- Looking up the kinds one after the other only reads, and ends as the mapper says. -/
theorem converse_resolveResources (around : Surroundings) (kinds : List GroupVersionKind) :
    ∃ said, Quiet said ∧
      around.converse (resolveResources kinds) = (said, kinds.mapM around.located) := by
  induction kinds with
  | nil => exact ⟨[], quiet_nil, rfl⟩
  | cons kind rest ih =>
      obtain ⟨said, quiet, read⟩ := ih
      have asked := converse_call around (.resolve kind)
      rw [List.mapM_cons, resolveResources, WebhookTalk.resolve, converse_after _ asked,
        Surroundings.answer]
      cases here : around.mapper kind with
      | error failure =>
          rw [located_error here]
          exact ⟨_, quiet_resolve kind (.error failure), rfl⟩
      | ok resource =>
          rw [located_ok here]
          refine ⟨_, (quiet_resolve kind (.ok resource)).append quiet, ?_⟩
          simp only [converse_after _ read]
          cases rest.mapM around.located with
          | error failure => simp only [converse_pure, List.append_nil]; rfl
          | ok more => simp only [converse_pure, List.append_nil]; rfl

/-- The rules are made of what was found, or the first failure ends it. -/
theorem converse_webhookRules (around : Surroundings) (kinds : List GroupVersionKind)
    (operations : List String) :
    ∃ said, Quiet said ∧ around.converse (webhookRules kinds operations) =
      (said, (kinds.mapM around.located).map (WebhookRule.merge operations)) := by
  obtain ⟨said, quiet, read⟩ := converse_resolveResources around kinds
  refine ⟨said, quiet, ?_⟩
  rw [webhookRules, converse_after _ read]
  cases kinds.mapM around.located with
  | error failure => simp only [converse_pure, List.append_nil]; rfl
  | ok resources => simp only [converse_pure, List.append_nil]; rfl

theorem mapM_fails (around : Surroundings) (kinds : List GroupVersionKind) :
    (∃ failure, kinds.mapM around.located = .error failure) ↔
      ∃ kind ∈ kinds, ∃ failure, around.mapper kind = .error failure := by
  induction kinds with
  | nil => simp [pure, Except.pure]
  | cons kind rest ih =>
      rw [List.mapM_cons, List.exists_mem_cons_iff, ← ih]
      cases here : around.mapper kind with
      | error failure =>
          rw [located_error here]
          exact ⟨fun _ => .inl ⟨failure, rfl⟩, fun _ => ⟨failure, rfl⟩⟩
      | ok resource =>
          rw [located_ok here]
          cases later : rest.mapM around.located with
          | error failure => exact ⟨fun _ => .inr ⟨failure, rfl⟩, fun _ => ⟨failure, rfl⟩⟩
          | ok more =>
              constructor
              · rintro ⟨failure, ⟨⟩⟩
              · rintro (⟨failure, ⟨⟩⟩ | ⟨failure, ⟨⟩⟩)

theorem desired_unlisted {failure : Failure} (listed : around.listing = .error failure) :
    around.desired task = .error failure := by
  rw [Surroundings.desired, listed]
  rfl

theorem desired_listed {bindings : List Binding} (listed : around.listing = .ok bindings) :
    around.desired task =
      ((task.observe bindings).mapM around.located).map (WebhookRule.merge task.operations) := by
  rw [Surroundings.desired, listed]
  change ((task.observe bindings).mapM around.located >>= fun resources =>
    pure (WebhookRule.merge task.operations resources)) = _
  cases (task.observe bindings).mapM around.located <;> rfl

/-- Rules are desired exactly when the bindings are listed and all their kinds are found. -/
theorem desired_fails (around : Surroundings) (task : WebhookTask) :
    (∃ failure, around.desired task = .error failure) ↔ around.Fails task := by
  cases listed : around.listing with
  | error failure =>
      exact ⟨fun _ => .inl ⟨failure, listed⟩, fun _ => ⟨failure, desired_unlisted listed⟩⟩
  | ok bindings =>
      have mapped := mapM_fails around (task.observe bindings)
      rw [desired_listed listed, Surroundings.Fails, listed]
      simp only [reduceCtorEq, exists_false, false_or, Except.ok.injEq, exists_eq_left', ← mapped]
      cases (task.observe bindings).mapM around.located <;> simp [Except.map]

end Reading

section Writing

/-- What is said when the rules have been compared and say something else, and how it ends. -/
def writing (around : Surroundings) (written : WebhookConfiguration) :
    List (Exchange WebhookCall.Answer) × Except Failure Action :=
  match around.replacing written with
  | .error failure => ([⟨.replaceConfiguration written, .error failure⟩], .error failure)
  | .ok updated =>
      ([⟨.replaceConfiguration written, .ok updated⟩,
        ⟨.publish updated.reference (.configurationUpdated updated.kind updated.nameAny), ()⟩],
        .ok .awaitChange)

theorem converse_writing (around : Surroundings) (written : WebhookConfiguration) :
    around.converse (do
      match ← WebhookTalk.replaceConfiguration written with
      | .error failure => pure (.error failure)
      | .ok updated => do
          WebhookTalk.publish updated.reference
            (.configurationUpdated updated.kind updated.nameAny)
          pure (.ok .awaitChange)) = writing around written := by
  have asked := converse_call around (.replaceConfiguration written)
  rw [WebhookTalk.replaceConfiguration, converse_after _ asked, Surroundings.answer, writing]
  cases around.replacing written <;> rfl

/-- Everything up to the comparison only reads. -/
theorem converse_syncRules (around : Surroundings) {stored : List WebhookRule}
    (present : config.rules? task.webhook = some stored) :
    ∃ said, Quiet said ∧ around.converse (syncRules task config) =
      match around.desired task with
      | .error failure => (said, .error failure)
      | .ok rules =>
          if WebhookRule.agree stored rules then (said, .ok .awaitChange)
          else
            let last := writing around (config.setRules task.webhook rules)
            (said ++ last.1, last.2) := by
  have asked := converse_call around .listBindings
  rw [syncRules, present]
  simp only [WebhookTalk.listBindings, converse_after _ asked, Surroundings.answer]
  cases listed : around.listing with
  | error failure =>
      rw [desired_unlisted listed]
      exact ⟨_, quiet_list (.error failure), rfl⟩
  | ok bindings =>
      obtain ⟨said, quiet, read⟩ := converse_webhookRules around
        (task.observe bindings) task.operations
      refine ⟨_, (quiet_list (.ok bindings)).append quiet, ?_⟩
      rw [desired_listed listed]
      simp only [converse_after _ read]
      cases (task.observe bindings).mapM around.located with
      | error failure =>
          simp only [Except.map, converse_pure, List.append_nil]
      | ok resources =>
          simp only [Except.map]
          split
          · simp only [converse_pure, List.append_nil]
          · have last := converse_writing around
              (config.setRules task.webhook (WebhookRule.merge task.operations resources))
            rw [← last]
            exact Prod.ext (List.append_assoc _ _ _).symm rfl

theorem sent_of_quiet {said more : List (Exchange WebhookCall.Answer)} (quiet : Quiet said) :
    sentConfigurations (said ++ more) = sentConfigurations more := by
  rw [sentConfigurations, List.filterMap_append]
  exact congrArg (· ++ _) quiet.1

theorem announced_of_quiet {said more : List (Exchange WebhookCall.Answer)} (quiet : Quiet said) :
    announcedEvents (said ++ more) = announcedEvents more := by
  rw [announcedEvents, List.filterMap_append]
  exact congrArg (· ++ _) quiet.2

theorem sent_writing (written : WebhookConfiguration) :
    sentConfigurations (writing around written).1 = [written] := by
  rw [writing]
  cases around.replacing written <;> rfl

/-- An event goes with an answer to the write, and with nothing else. -/
theorem announced_writing (written : WebhookConfiguration) :
    announcedEvents (writing around written).1 = match around.replacing written with
      | .error _ => []
      | .ok updated =>
          [(updated.reference, .configurationUpdated updated.kind updated.nameAny)] := by
  rw [writing]
  cases around.replacing written <;> rfl

end Writing

section Synchronising

theorem quiet_of_fails {stored : List WebhookRule}
    (present : config.rules? task.webhook = some stored) (fails : around.Fails task) :
    Quiet (around.converse (syncRules task config)).1 := by
  obtain ⟨said, quiet, talk⟩ := converse_syncRules around present
  obtain ⟨failure, failed⟩ := (desired_fails around task).mpr fails
  rw [talk, failed]
  exact quiet

theorem quiet_of_agree {stored rules : List WebhookRule}
    (present : config.rules? task.webhook = some stored)
    (wanted : around.desired task = .ok rules) (agree : WebhookRule.agree stored rules = true) :
    Quiet (around.converse (syncRules task config)).1 := by
  obtain ⟨said, quiet, talk⟩ := converse_syncRules around present
  simp only [talk, wanted, if_pos agree]
  exact quiet

/-- The first entry of the name is the same one when the configuration is read again, and its
rules are what was written but for the scopes. -/
theorem rules_reread {written again : WebhookConfiguration} {webhook : String}
    {rules : List WebhookRule} (reread : written.Reread again)
    (present : written.rules? webhook = some rules) :
    ∃ stored, again.rules? webhook = some stored ∧
      List.Forall₂ WebhookRule.Filled rules stored := by
  rw [WebhookConfiguration.Reread] at reread
  rw [WebhookConfiguration.rules?] at present ⊢
  generalize written.entries = entries at reread present
  generalize again.entries = others at reread
  induction reread with
  | nil => cases present
  | @cons entry other entries others same _ ih =>
      obtain ⟨name, filled⟩ := same
      by_cases named : entry.name = webhook
      · have found : other.name = webhook := name.trans named
        simp only [List.find?_cons, named, found, decide_true, Option.map_some,
          Option.some.injEq] at present ⊢
        exact ⟨_, rfl, present ▸ filled⟩
      · have passed : ¬ other.name = webhook := name ▸ named
        simp only [List.find?_cons, named, passed, decide_false] at present ⊢
        exact ih present

/-- A synchronisation makes no call where no entry has the name, writes nothing where the
rules cannot be made or are there already, and otherwise replaces the rules of the first entry
of the name once. What it wrote is left alone from then on. -/
theorem sync_writes_desired_rules_once (around : Surroundings) (task : WebhookTask)
    (config : WebhookConfiguration) :
    ((∀ entry ∈ config.entries, entry.name ≠ task.webhook) →
      (around.converse (syncRules task config)).1 = []) ∧
    ∀ earlier entry later, config.entries = earlier ++ entry :: later →
      entry.name = task.webhook → (∀ other ∈ earlier, other.name ≠ task.webhook) →
      let said := (around.converse (syncRules task config)).1
      (around.Fails task → Quiet said) ∧
      ∀ rules, around.desired task = .ok rules →
        (List.Forall₂ WebhookRule.Alike (entry.rules.getD []) rules → Quiet said) ∧
        (¬ List.Forall₂ WebhookRule.Alike (entry.rules.getD []) rules →
          let written := { config with
            webhooks := some (earlier ++ { entry with rules := some rules } :: later) }
          sentConfigurations said = [written] ∧
          (∀ failure, around.replacing written = .error failure → announcedEvents said = []) ∧
          (∀ updated, around.replacing written = .ok updated → announcedEvents said =
            [(updated.reference, .configurationUpdated updated.kind updated.nameAny)]) ∧
          ∀ again, written.Reread again → ∀ replacing,
            Quiet (({ around with replacing } : Surroundings).converse
              (syncRules task again)).1) := by
  constructor
  · intro absent
    rw [syncRules, rules_absent absent]
    rfl
  · intro earlier entry later split named first
    have present := rules_first entry split named first
    refine ⟨quiet_of_fails present, fun rules wanted => ?_⟩
    rw [← WebhookRule.agree_iff]
    refine ⟨quiet_of_agree present wanted, fun differ => ?_⟩
    obtain ⟨reads, quiet, talk⟩ := converse_syncRules around present
    simp only [wanted, if_neg differ] at talk
    rw [setRules_first rules split named first] at talk
    simp only [talk, sent_of_quiet quiet, announced_of_quiet quiet, sent_writing,
      announced_writing]
    refine ⟨trivial, fun failure refused => by rw [refused], fun updated taken => by rw [taken], ?_⟩
    intro again reread replacing
    -- the bindings and the mapper are the same, so the same rules are desired
    have here : WebhookConfiguration.rules? task.webhook { config with
        webhooks := some (earlier ++ { entry with rules := some rules } :: later) } =
        some rules := rules_first { entry with rules := some rules } rfl named first
    obtain ⟨kept, found, filled⟩ := rules_reread reread here
    exact quiet_of_agree found wanted (WebhookRule.agree_of_filled filled)

end Synchronising

section Sample

/-- One binding to a deployment, with every kind found and every write taken. -/
def claimedSurroundings : Surroundings where
  listing := .ok [claimingBinding "shop" "Deployment"]
  mapper kind := .ok (kind.resource (kind.kind ++ "s"))
  replacing := .ok

/-- The same, but for the bindings, which cannot be listed. -/
def unlistedSurroundings : Surroundings :=
  { claimedSurroundings with listing := .error (.internal "no route") }

def claimedRules (scope : Option String) : List WebhookRule :=
  [{ apiGroups := some ["apps"], apiVersions := some ["*"], operations := some ["CREATE", "UPDATE"]
     resources := some ["Deployments"], scope }]

/-- Two entries have the name, and the first one has no rules yet. -/
def doubledConfiguration (rules : Option (List WebhookRule)) : WebhookConfiguration where
  type := .mutating
  webhooks := some [{ name := "unrelated.example.com" },
    { name := "projector.servicebinding.io", rules },
    { name := "projector.servicebinding.io", rules := some [{}] }]

theorem doubled_configuration_synchronised :
    (claimedSurroundings.converse (syncRules AdmissionType.validating.task
      (doubledConfiguration none))).1 = [] ∧
    sentConfigurations (claimedSurroundings.converse (syncRules AdmissionType.mutating.task
      (doubledConfiguration none))).1 = [doubledConfiguration (some (claimedRules none))] ∧
    Quiet (claimedSurroundings.converse (syncRules AdmissionType.mutating.task
      (doubledConfiguration (some (claimedRules (some "*")))))).1 ∧
    Quiet (unlistedSurroundings.converse (syncRules AdmissionType.mutating.task
      (doubledConfiguration none))).1 := by
  have wanted : claimedSurroundings.desired AdmissionType.mutating.task =
      .ok (claimedRules none) := by rfl
  have differ : ¬ List.Forall₂ WebhookRule.Alike [] (claimedRules none) := by simp [claimedRules]
  have first : ∀ other ∈ [({ name := "unrelated.example.com" } : WebhookEntry)],
      other.name ≠ AdmissionType.mutating.task.webhook := by decide
  obtain ⟨absent, -⟩ := sync_writes_desired_rules_once claimedSurroundings
    AdmissionType.validating.task (doubledConfiguration none)
  obtain ⟨-, present⟩ := sync_writes_desired_rules_once claimedSurroundings
    AdmissionType.mutating.task (doubledConfiguration none)
  obtain ⟨-, failing⟩ := sync_writes_desired_rules_once unlistedSurroundings
    AdmissionType.mutating.task (doubledConfiguration none)
  have unruled := (present _ { name := "projector.servicebinding.io" } _ rfl rfl first).2 _ wanted
  obtain ⟨sent, -, -, next⟩ := unruled.2 differ
  have filled : List.Forall₂ WebhookRule.Filled (claimedRules none) (claimedRules (some "*")) :=
    .cons (.defaulted _ rfl) .nil
  have kept : ∀ rules : List WebhookRule, List.Forall₂ WebhookRule.Filled rules rules :=
    fun rules => List.forall₂_same.mpr fun rule _ => .kept rule
  refine ⟨absent (by decide), sent, next _ ?_ .ok,
    (failing _ _ _ rfl rfl first).1 (.inl ⟨_, rfl⟩)⟩
  exact .cons ⟨rfl, kept _⟩ (.cons ⟨rfl, filled⟩ (.cons ⟨rfl, kept _⟩ .nil))

end Sample

end BindingOperator
