import Mathlib.Logic.Relation
import BindingOperator.Proofs.Shares
import BindingOperator.Proofs.Snapshots

/-!
Bindings that share a workload. Any number of passes are under way, and their calls are
answered in any order. The workload is kept under a version that changes with every write,
and a write is taken only under the version that is stored, so what a taken write carries was
made of the very object that it replaces. The stored workload is therefore always what the
steps of the taken writes make of the first one, one after the other, and no write takes
anything from another binding.
-/

namespace BindingOperator

open Dialogue

/-- One workload as a server keeps it. -/
structure WorkloadStore where
  place : Place
  object : Object
  /-- What was stored before, the latest first. -/
  past : List Object

namespace WorkloadStore

def stored (store : WorkloadStore) : List Object := store.object :: store.past

def accept (object : Object) (store : WorkloadStore) : WorkloadStore :=
  { store with object, past := store.stored }

def versions (store : WorkloadStore) : List (Option String) :=
  store.stored.map fun object => object.metadata.resourceVersion

/-- Answers that leave the workload as it is. Whoever reads it is shown an object that was
stored, perhaps no longer the latest; a write of it is refused, by a conflict or otherwise;
and calls about anything else are answered in any way. -/
structure Tells (store : WorkloadStore) (exchange : Exchange BindingCall.Answer) : Prop where
  shown : ∀ resource object, Shows exchange resource object →
    object.placeIn resource = store.place → object ∈ store.stored
  kept : KeepsBinding exchange
  refused : ∀ resource copy stored, exchange = ⟨.updateObject resource copy, .ok stored⟩ →
    copy.placeIn resource ≠ store.place

end WorkloadStore

/-- A pass that is under way: what was said so far, and what is left of it. -/
structure Flight where
  binding : Binding
  said : Talk
  rest : BindingTalk (Except Halt Action)

namespace Flight

def start (clock : Clock) (binding : Binding) : Flight :=
  ⟨binding, [], reconcile clock PodTemplate.projector binding⟩

def hear (exchange : Exchange BindingCall.Answer) (rest : BindingTalk (Except Halt Action))
    (flight : Flight) : Flight :=
  { flight with said := flight.said ++ [exchange], rest }

end Flight

/-- A write that was taken: whose pass sent it, and the workload before and after it. -/
structure TakenWrite where
  binding : Binding
  before : Object
  after : Object

structure Traffic where
  store : WorkloadStore
  flights : List Flight
  /-- In the order in which they were taken. -/
  taken : List TakenWrite

namespace Traffic

def start (place : Place) (origin : Object) : Traffic :=
  ⟨⟨place, origin, []⟩, [], []⟩

/-- The write of a flight is taken under a new version. -/
def take (index : Nat) (flight : Flight) (resource : Resource) (copy : Object)
    (next : Except Failure Object → BindingTalk (Except Halt Action)) (version : Option String)
    (traffic : Traffic) : Traffic where
  store := traffic.store.accept (copy.withVersion version)
  flights := traffic.flights.set index
    (flight.hear ⟨.updateObject resource copy, .ok (copy.withVersion version)⟩
      (next (.ok (copy.withVersion version))))
  taken := traffic.taken ++ [⟨flight.binding, traffic.store.object, copy.withVersion version⟩]

/-- A pass starts, or one that is under way is answered. -/
inductive Step : Traffic → Traffic → Prop where
  | started (traffic : Traffic) (clock : Clock) (binding : Binding) :
      Step traffic { traffic with flights := traffic.flights ++ [.start clock binding] }
  | told {traffic : Traffic} {index : Nat} {flight : Flight} {call : BindingCall}
      {next : call.Answer → BindingTalk (Except Halt Action)} (answer : call.Answer)
      (flying : traffic.flights[index]? = some flight) (asks : flight.rest = .ask call next)
      (tells : traffic.store.Tells ⟨call, answer⟩) :
      Step traffic { traffic with
        flights := traffic.flights.set index (flight.hear ⟨call, answer⟩ (next answer)) }
  | taken {traffic : Traffic} {index : Nat} {flight : Flight} {resource : Resource} {copy : Object}
      {next : Except Failure Object → BindingTalk (Except Halt Action)} (version : Option String)
      (flying : traffic.flights[index]? = some flight)
      (asks : flight.rest = .ask (.updateObject resource copy) next)
      (here : copy.placeIn resource = traffic.store.place)
      (current : copy.metadata.resourceVersion = traffic.store.object.metadata.resourceVersion)
      (unused : version ∉ traffic.store.versions) :
      Step traffic (traffic.take index flight resource copy next version)

end Traffic

/-- A write carries what a step of its pass makes of the workload that it replaces. -/
def TakenWrite.By (write : TakenWrite) (step : ProjectionStep) : Prop :=
  ∃ current copy version, current.key = write.binding.key ∧ current.spec = write.binding.spec ∧
    step = (Phase.of write.binding).step current ∧ step.run write.before = .ok copy ∧
    write.after = copy.withVersion version

section Flights

variable {store : WorkloadStore} {flight : Flight}

/-- A flight says what its pass says, and it was shown only what was stored. -/
structure Flight.Sound (store : WorkloadStore) (flight : Flight) : Prop where
  leads : ∃ clock,
    Leads (reconcile clock PodTemplate.projector flight.binding) flight.said flight.rest
  shown : ∀ exchange ∈ flight.said, ∀ resource object, Shows exchange resource object →
    object.placeIn resource = store.place → object ∈ store.stored
  kept : ∀ exchange ∈ flight.said, KeepsBinding exchange

namespace Flight.Sound

theorem start (store : WorkloadStore) (clock : Clock) (binding : Binding) :
    (Flight.start clock binding).Sound store :=
  ⟨⟨clock, .nothing⟩, fun _ member => absurd member List.not_mem_nil,
    fun _ member => absurd member List.not_mem_nil⟩

theorem hear (sound : flight.Sound store) {call : BindingCall}
    {next : call.Answer → BindingTalk (Except Halt Action)} (asks : flight.rest = .ask call next)
    (answer : call.Answer)
    (shown : ∀ resource object, Shows ⟨call, answer⟩ resource object →
      object.placeIn resource = store.place → object ∈ store.stored)
    (kept : KeepsBinding ⟨call, answer⟩) :
    (flight.hear ⟨call, answer⟩ (next answer)).Sound store := by
  obtain ⟨clock, leads⟩ := sound.leads
  rw [asks] at leads
  refine ⟨⟨clock, leads.answered answer⟩, ?_, ?_⟩
  · intro exchange member
    rcases List.mem_append.mp member with early | late
    · exact sound.shown exchange early
    · rw [List.mem_singleton.mp late]
      exact shown
  · intro exchange member
    rcases List.mem_append.mp member with early | late
    · exact sound.kept exchange early
    · rw [List.mem_singleton.mp late]
      exact kept

theorem accept (sound : flight.Sound store) (object : Object) :
    flight.Sound (store.accept object) :=
  ⟨sound.leads, fun exchange member resource found shown here =>
    List.mem_cons_of_mem _ (sound.shown exchange member resource found shown here), sound.kept⟩

end Flight.Sound

/-- A copy under the stored version was made of the stored workload. -/
theorem update_current {resource : Resource} {copy : Object}
    {next : Except Failure Object → BindingTalk (Except Halt Action)} (sound : flight.Sound store)
    (distinct : store.versions.Nodup) (asks : flight.rest = .ask (.updateObject resource copy) next)
    (here : copy.placeIn resource = store.place)
    (current : copy.metadata.resourceVersion = store.object.metadata.resourceVersion) :
    ∃ working, working.key = flight.binding.key ∧ working.spec = flight.binding.spec ∧
      ((Phase.of flight.binding).step working).run store.object = .ok copy := by
  obtain ⟨clock, leads⟩ := sound.leads
  rw [asks] at leads
  obtain ⟨working, exchange, snapshot, member, shown, key, spec, ran⟩ :=
    update_derived leads sound.kept
  have metadata := ProjectionStep.metadata_run _ _ _ ran
  have stored := sound.shown exchange member resource snapshot shown
    ((Object.placeIn_of_metadata resource snapshot copy metadata).symm.trans here)
  -- versions tell what was stored apart, and the copy has that of its snapshot
  have same : snapshot = store.object :=
    List.inj_on_of_nodup_map distinct stored List.mem_cons_self (by rw [← current, metadata])
  exact ⟨working, key, spec, same ▸ ran⟩

end Flights

section Replaying

theorem ProjectionStep.run_metadata (step : ProjectionStep) (workload copy : Object)
    (metadata : Metadata) (ran : step.run workload = .ok copy) :
    step.run { workload with metadata } = .ok { copy with metadata } := by
  cases step with
  | project binding => exact project_metadata workload metadata binding copy ran
  | unproject binding => exact unproject_metadata workload metadata binding copy ran

/-- A step goes under one version as under another. -/
theorem history_versioned {origin stored copy : Object} {steps : List ProjectionStep}
    {version next : Option String} (step : ProjectionStep)
    (replayed : stored = (history origin steps).withVersion version)
    (ran : step.run stored = .ok copy) :
    copy.withVersion next = (history origin (steps ++ [step])).withVersion next := by
  subst replayed
  have metadata := step.metadata_run _ _ ran
  have again : step.run (history origin steps) =
      .ok { copy with metadata := (history origin steps).metadata } :=
    step.run_metadata ((history origin steps).withVersion version) copy _ ran
  rw [history_concat, step.after_ok _ _ again, Object.withVersion, Object.withVersion, metadata]
  rfl

end Replaying

section Serializing

variable {origin : Object} {before after traffic : Traffic}

/-- What holds of the traffic at every moment. -/
structure Traffic.Sound (origin : Object) (traffic : Traffic) : Prop where
  flights : ∀ flight ∈ traffic.flights, flight.Sound traffic.store
  distinct : traffic.store.versions.Nodup
  replayed : ∃ steps version, List.Forall₂ TakenWrite.By traffic.taken steps ∧
    traffic.store.object = (history origin steps).withVersion version
  made : ∀ write ∈ traffic.taken, ∃ steps version step,
    write.before = (history origin steps).withVersion version ∧ write.By step

theorem Traffic.Sound.start (place : Place) (origin : Object) :
    (Traffic.start place origin).Sound origin where
  flights _ member := absurd member List.not_mem_nil
  distinct := List.nodup_singleton _
  replayed := ⟨[], origin.metadata.resourceVersion, .nil, rfl⟩
  made _ member := absurd member List.not_mem_nil

theorem Traffic.Sound.step (sound : before.Sound origin) (step : before.Step after) :
    after.Sound origin := by
  cases step with
  | started clock binding =>
      refine ⟨?_, sound.distinct, sound.replayed, sound.made⟩
      intro flight member
      rcases List.mem_append.mp member with old | new
      · exact sound.flights flight old
      · rw [List.mem_singleton.mp new]
        exact .start before.store clock binding
  | @told index flight call next answer flying asks tells =>
      refine ⟨?_, sound.distinct, sound.replayed, sound.made⟩
      intro other member
      rcases List.mem_or_eq_of_mem_set member with old | rfl
      · exact sound.flights other old
      · exact (sound.flights flight (List.mem_of_getElem? flying)).hear asks answer tells.shown
          tells.kept
  | @taken index flight resource copy next version flying asks here current unused =>
      have own := sound.flights flight (List.mem_of_getElem? flying)
      obtain ⟨working, key, spec, ran⟩ := update_current own sound.distinct asks here current
      obtain ⟨steps, last, writes, replayed⟩ := sound.replayed
      have sent : TakenWrite.By
          ⟨flight.binding, before.store.object, copy.withVersion version⟩
          ((Phase.of flight.binding).step working) :=
        ⟨working, copy, version, key, spec, rfl, ran, rfl⟩
      refine ⟨?_, ?_, ?_, ?_⟩
      · intro other member
        rcases List.mem_or_eq_of_mem_set member with old | rfl
        · exact (sound.flights other old).accept _
        · refine (own.accept (copy.withVersion version)).hear asks _ ?_ trivial
          intro resource object shown
          cases shown
      · exact List.nodup_cons.mpr ⟨unused, sound.distinct⟩
      · exact ⟨_, version, List.rel_append writes (.cons sent .nil),
          history_versioned _ replayed ran⟩
      · intro write member
        rcases List.mem_append.mp member with old | new
        · exact sound.made write old
        · rw [List.mem_singleton.mp new]
          exact ⟨steps, last, _, replayed, sent⟩

theorem Traffic.Sound.reach {place : Place}
    (reaches : Relation.ReflTransGen Traffic.Step (.start place origin) traffic) :
    traffic.Sound origin := by
  induction reaches with
  | refl => exact .start place origin
  | tail _ step ih => exact ih.step step

/-- At every moment the stored workload is what the steps of the taken writes make of the
first one, in the order in which they were taken, and a write of one binding leaves the share
of every other one exactly as it was. -/
theorem concurrent_writes_serialize {place : Place} (canonical : origin.Canonical)
    (fresh : origin.Fresh)
    (reaches : Relation.ReflTransGen Traffic.Step (.start place origin) traffic) :
    (∃ steps version, List.Forall₂ TakenWrite.By traffic.taken steps ∧
      traffic.store.object = (history origin steps).withVersion version) ∧
    ∀ write ∈ traffic.taken, ∀ key, key ≠ write.binding.key →
      write.after.share? key = write.before.share? key := by
  have sound := Traffic.Sound.reach reaches
  refine ⟨sound.replayed, ?_⟩
  intro write member other different
  obtain ⟨earlier, last, step, replayed, working, copy, version, key, -, rfl, ran, made⟩ :=
    sound.made write member
  have parted : write.before.Keeps PartedTemplate :=
    Object.Reached.keeps ⟨origin, earlier, canonical, fresh, by rw [replayed]; rfl⟩ lasting_parted
  rw [made]
  exact share_run parted _ ran other (by rw [Phase.key_step, key]; exact different)

end Serializing

section Sample

/-- What a server that keeps no lists answers by the workload that it has, unless it takes a
write. -/
def WorkloadStore.reply (store : WorkloadStore) : (call : BindingCall) → call.Answer
  | .resolve kind => .ok (kind.resource "deployments")
  | .getObject resource namespaceName name =>
      if store.place = ⟨resource, namespaceName, name⟩ then .ok store.object
      else .error (.notFound resource.kind name)
  | .listObjects _ _ _ => .error (.internal "no lists")
  | .updateObject resource copy =>
      .error (.conflict resource.kind copy.nameAny "the object has been modified")
  | .patchFinalizers binding finalizers => .ok (binding.withFinalizers finalizers)
  | .updateStatus binding => .ok binding
  | .publish _ _ => ()

theorem tells_reply (store : WorkloadStore) (call : BindingCall) :
    store.Tells ⟨call, store.reply call⟩ := by
  constructor
  · intro resource object shown here
    cases call with
    | getObject resource namespaceName name =>
        by_cases there : store.place = ⟨resource, namespaceName, name⟩
        · simp only [WorkloadStore.reply, if_pos there] at shown
          cases shown
          exact List.mem_cons_self
        · simp only [WorkloadStore.reply, if_neg there] at shown
          cases shown
    | listObjects resource namespaceName query => cases shown
    | _ => cases shown
  · cases call <;> trivial
  · intro resource copy stored same
    cases call <;> cases same

namespace Traffic

def hear (index : Nat) (flight : Flight) (call : BindingCall)
    (next : call.Answer → BindingTalk (Except Halt Action)) (traffic : Traffic) : Traffic :=
  { traffic with
    flights := traffic.flights.set index
      (flight.hear ⟨call, traffic.store.reply call⟩ (next (traffic.store.reply call))) }

/-- Answers what a flight asks, taking its write where that can be taken. -/
def answer (index : Nat) (flight : Flight) (traffic : Traffic) :
    BindingTalk (Except Halt Action) → Traffic
  | .done _ => traffic
  | .ask (.updateObject resource copy) next =>
      let version := some (Nat.repr traffic.store.stored.length)
      if copy.placeIn resource = traffic.store.place ∧
          copy.metadata.resourceVersion = traffic.store.object.metadata.resourceVersion ∧
          version ∉ traffic.store.versions then
        traffic.take index flight resource copy next version
      else traffic.hear index flight (.updateObject resource copy) next
  | .ask call next => traffic.hear index flight call next

inductive Move where
  | start (binding : Binding)
  | answer (index : Nat)

def move (traffic : Traffic) : Move → Traffic
  | .start binding => { traffic with flights := traffic.flights ++ [.start (.ticking 0) binding] }
  | .answer index =>
      match traffic.flights[index]? with
      | none => traffic
      | some flight => traffic.answer index flight flight.rest

theorem move_reaches (traffic : Traffic) (move : Move) :
    Relation.ReflTransGen Step traffic (traffic.move move) := by
  cases move with
  | start binding => exact .single (.started traffic (.ticking 0) binding)
  | answer index =>
      cases flying : traffic.flights[index]? with
      | none =>
          simp only [Traffic.move, flying]
          exact .refl
      | some flight =>
          simp only [Traffic.move, flying]
          have heard : ∀ call next, flight.rest = .ask call next →
              Relation.ReflTransGen Step traffic (traffic.hear index flight call next) :=
            fun call next asks => .single (.told _ flying asks (tells_reply traffic.store call))
          cases asks : flight.rest with
          | done result => exact .refl
          | ask call next =>
              cases call with
              | updateObject resource copy =>
                  simp only [Traffic.answer]
                  split
                  · next takes => exact .single (.taken _ flying asks takes.1 takes.2.1 takes.2.2)
                  · exact heard _ next asks
              | _ => exact heard _ next asks

theorem moves_reach (traffic : Traffic) (moves : List Move) :
    Relation.ReflTransGen Step traffic (moves.foldl Traffic.move traffic) := by
  induction moves generalizing traffic with
  | nil => exact .refl
  | cons first rest ih => exact (move_reaches traffic first).trans (ih _)

end Traffic

/-- The binding called `first`, when it is being deleted. -/
def leavingFirst : Binding :=
  { mappingBinding "first" with
    metadata := { name := some "first", finalizers := some [bindingFinalizer],
                  deletionTimestamp := some ⟨30, 0⟩ } }

/-- Two passes read the workload before either writes it; the second one loses the race and
is taken up again, and then the first binding is deleted. -/
def racingMoves : List Traffic.Move :=
  [.start (mappingBinding "first"), .start (mappingBinding "second")] ++
  [0, 0, 0, 0, 1, 1, 1, 1, 0, 1].map .answer ++
  .start (mappingBinding "second") :: [2, 2, 2, 2, 2].map .answer ++
  .start leavingFirst :: [3, 3, 3].map .answer

def racedTraffic : Traffic :=
  racingMoves.foldl Traffic.move (.start
    ⟨(mappingBinding "first").spec.workload.kindOf.resource "deployments", "", "web"⟩
    rootedWorkload)

def isConflict : Exchange BindingCall.Answer → Bool
  | ⟨.updateObject _ _, .error failure⟩ => failure.isConflict
  | _ => false

theorem racing_writes_serialize :
    racedTraffic.taken.map (fun write => write.binding.key) = ["first", "second", "first"] ∧
      racedTraffic.flights.map (fun flight => flight.said.any isConflict) =
        [false, true, false, false] ∧
      (∃ steps version, List.Forall₂ TakenWrite.By racedTraffic.taken steps ∧
        racedTraffic.store.object = (history rootedWorkload steps).withVersion version) ∧
      ∀ write ∈ racedTraffic.taken, ∀ key, key ≠ write.binding.key →
        write.after.share? key = write.before.share? key := by
  refine ⟨by decide +kernel, by decide +kernel, ?_⟩
  exact concurrent_writes_serialize canonical_rootedWorkload fresh_rootedWorkload
    (Traffic.moves_reach _ racingMoves)

end Sample

end BindingOperator
