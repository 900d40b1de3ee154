import Mathlib.Logic.Relation
import BindingOperator.Api.Mapper
import BindingOperator.Json.Printer
import BindingOperator.Proofs.Dialogues

/-!
Callers that resolve kinds through one cache. Any number of them are under way, their steps
interleave in any order, and the server may come to serve more kinds at any time, but what it
serves it keeps serving as it is. Nothing but such resources is ever in the cache, so every
answer is the one that the server itself would give; a failure names the kind and leaves no
trace; and once a caller has got its answer, all who start after it find it in the cache.
-/

namespace BindingOperator

open Dialogue

/-- A caller that resolves a kind: what was said to it, the requests it had sent for that, and
what is left to do. -/
structure Inquiry where
  kind : GroupVersionKind
  said : List (Exchange MapperCall.Answer)
  sent : List (Exchange HttpAnswer)
  rest : MapperTalk (Except Failure Resource)

namespace Inquiry

def start (kind : GroupVersionKind) : Inquiry := ⟨kind, [], [], resolveKind kind⟩

def hear (exchange : Exchange MapperCall.Answer) (talk : List (Exchange HttpAnswer))
    (rest : MapperTalk (Except Failure Resource)) (inquiry : Inquiry) : Inquiry :=
  { inquiry with said := inquiry.said ++ [exchange], sent := inquiry.sent ++ talk, rest }

/-- Answered from the cache. -/
def hit (kind : GroupVersionKind) (resource : Resource) : Inquiry :=
  ⟨kind, [⟨.lookup kind, some resource⟩], [], .done (.ok resource)⟩

/-- Answered by the server, and the answer was put into the cache. -/
def learned (kind : GroupVersionKind) (resource : Resource) (sent : List (Exchange HttpAnswer)) :
    Inquiry :=
  ⟨kind, [⟨.lookup kind, none⟩, ⟨.discover kind, .ok resource⟩, ⟨.remember kind resource, ()⟩],
    sent, .done (.ok resource)⟩

end Inquiry

/-- What a server serves. -/
abbrev ServedKinds := GroupVersionKind → Option Resource

/-- Nothing is withdrawn from a table of resources. -/
def Grows (before after : ServedKinds) : Prop :=
  ∀ kind resource, before kind = some resource → after kind = some resource

/-- Discovery tells what is served, or fails. It need not fail for what is not served yet when
the request is sent, since what is served when it is answered counts. -/
def ServedKinds.Told (served : ServedKinds) : Exchange MapperCall.Answer → Prop
  | ⟨.discover kind, .ok resource⟩ => served kind = some resource
  | _ => True

structure SharedMapper where
  served : ServedKinds
  cache : MapperCache
  /-- In the order in which they started. -/
  inquiries : List Inquiry

namespace SharedMapper

def start (served : ServedKinds) : SharedMapper := ⟨served, [], []⟩

/-- The server comes to serve more, a caller starts, or one that is under way has its next call
carried out. -/
inductive Step : SharedMapper → SharedMapper → Prop where
  | grown (mapper : SharedMapper) (served : ServedKinds)
      (grows : Grows mapper.served served) : Step mapper { mapper with served }
  | started (mapper : SharedMapper) (kind : GroupVersionKind) :
      Step mapper { mapper with inquiries := mapper.inquiries ++ [.start kind] }
  | answered {mapper : SharedMapper} {index : Nat} {inquiry : Inquiry} {call : MapperCall}
      {next : call.Answer → MapperTalk (Except Failure Resource)}
      {talk : List (Exchange HttpAnswer)} {answer : call.Answer} {cache : MapperCache}
      (asking : mapper.inquiries[index]? = some inquiry) (asks : inquiry.rest = .ask call next)
      (carried : Runs (call.answer mapper.cache) talk (answer, cache))
      (told : mapper.served.Told ⟨call, answer⟩) :
      Step mapper { mapper with
        cache
        inquiries := mapper.inquiries.set index (inquiry.hear ⟨call, answer⟩ talk (next answer)) }

abbrev Reaches : SharedMapper → SharedMapper → Prop := Relation.ReflTransGen Step

end SharedMapper

section Carrying

variable {kind : GroupVersionKind} {resource : Resource} {cache after : MapperCache}
  {talk : List (Exchange HttpAnswer)}

/-- A look into the cache sends nothing. -/
theorem carried_lookup {answer : Option Resource}
    (carried : Runs (MapperCall.answer (.lookup kind) cache) talk (answer, after)) :
    talk = [] ∧ answer = cache.lookup kind ∧ after = cache := by
  obtain ⟨silent, same⟩ := (runs_pure_iff _ _ _).mp carried
  exact ⟨silent, congrArg Prod.fst same, congrArg Prod.snd same⟩

theorem carried_discover {answer : Except RequestFailure Resource}
    (carried : Runs (MapperCall.answer (.discover kind) cache) talk (answer, after)) :
    after = cache := by
  obtain ⟨_, found, _, -, -, ended⟩ := (runs_bind_iff _ _ _ _).mp carried
  exact congrArg Prod.snd ((runs_pure_iff _ _ _).mp ended).2

theorem carried_remember {answer : Unit}
    (carried : Runs (MapperCall.answer (.remember kind resource) cache) talk (answer, after)) :
    after = cache.insert kind resource :=
  congrArg Prod.snd ((runs_pure_iff _ _ _).mp carried).2

end Carrying

/-- What a caller does with the answer of the server. -/
def afterMiss (kind : GroupVersionKind) :
    Except RequestFailure Resource → MapperTalk (Except Failure Resource)
  | .error cause => .done (.error (kind.mappingFailure cause))
  | .ok resource => .ask (.remember kind resource) fun _ => .done (.ok resource)

def afterLookup (kind : GroupVersionKind) :
    Option Resource → MapperTalk (Except Failure Resource)
  | some resource => .done (.ok resource)
  | none => .ask (.discover kind) (afterMiss kind)

theorem resolveKind_eq (kind : GroupVersionKind) :
    resolveKind kind = .ask (.lookup kind) (afterLookup kind) := by
  refine congrArg (Dialogue.ask (MapperCall.lookup kind)) (funext fun known => ?_)
  cases known with
  | some resource => rfl
  | none =>
      refine congrArg (Dialogue.ask (MapperCall.discover kind)) (funext fun found => ?_)
      cases found <;> rfl

section Alone

variable {served : ServedKinds} {callers : List Inquiry} {inquiry : Inquiry}
  {cache after : MapperCache} {kind : GroupVersionKind} {talk : List (Exchange HttpAnswer)}

theorem SharedMapper.Step.last {call : MapperCall}
    {next : call.Answer → MapperTalk (Except Failure Resource)} {answer : call.Answer}
    (asks : inquiry.rest = .ask call next) (carried : Runs (call.answer cache) talk (answer, after))
    (told : served.Told ⟨call, answer⟩) :
    Step ⟨served, cache, callers ++ [inquiry]⟩
      ⟨served, after, callers ++ [inquiry.hear ⟨call, answer⟩ talk (next answer)]⟩ := by
  have asking : (callers ++ [inquiry])[callers.length]? = some inquiry :=
    List.getElem?_concat_length
  have step : Step ⟨served, cache, callers ++ [inquiry]⟩ _ := .answered asking asks carried told
  simpa using step

/-- What a controller runs is a caller whose calls are carried out one right after the other. -/
theorem SharedMapper.Reaches.alone {result : Except Failure Resource}
    (ran : Runs (resolveOverHttp kind cache) talk (result, after))
    (told : ∀ resource, result = .ok resource → cache.lookup kind = none →
      served kind = some resource) :
    ∃ said, Reaches ⟨served, cache, callers⟩
      ⟨served, after, callers ++ [⟨kind, said, talk, .done result⟩]⟩ := by
  rw [resolveOverHttp, resolveKind_eq] at ran
  obtain ⟨looked, ⟨known, same⟩, later, rfl, lookup, ran⟩ := (runs_bind_iff _ _ _ _).mp ran
  obtain ⟨rfl, rfl, rfl⟩ := carried_lookup lookup
  have asked : Reaches ⟨served, same, callers⟩ _ :=
    .tail (.single (.started _ kind)) (Step.last (resolveKind_eq kind) lookup trivial)
  cases here : same.lookup kind with
  | some resource =>
      rw [here] at ran asked
      obtain ⟨rfl, ended⟩ := (runs_pure_iff _ _ _).mp ran
      cases ended
      exact ⟨_, asked⟩
  | none =>
      rw [here] at ran asked
      obtain ⟨searched, ⟨found, stays⟩, last, rfl, search, ran⟩ := (runs_bind_iff _ _ _ _).mp ran
      obtain rfl := carried_discover search
      cases found with
      | error cause =>
          obtain ⟨rfl, ended⟩ := (runs_pure_iff _ _ _).mp ran
          cases ended
          have failed := asked.tail (Step.last rfl search trivial)
          exact ⟨_, by simpa [Inquiry.hear, Inquiry.start, afterMiss] using failed⟩
      | ok resource =>
          obtain ⟨written, ⟨_, kept⟩, rest, rfl, write, ran⟩ := (runs_bind_iff _ _ _ _).mp ran
          obtain ⟨rfl, ended⟩ := (runs_pure_iff _ _ _).mp ran
          cases ended
          have found := asked.tail (Step.last rfl search (told resource rfl here))
          have learned := found.tail (Step.last rfl write trivial)
          exact ⟨_, by simpa [Inquiry.hear, Inquiry.start] using learned⟩

end Alone

/-- How far a caller can be, and what that says about the server and the cache. -/
inductive Inquiry.Stage (served : ServedKinds) (cache : MapperCache) : Inquiry → Prop where
  | started (kind : GroupVersionKind) : Stage served cache (.start kind)
  | hit {kind : GroupVersionKind} {resource : Resource}
      (known : cache.lookup kind = some resource) : Stage served cache (.hit kind resource)
  | missed (kind : GroupVersionKind) :
      Stage served cache ⟨kind, [⟨.lookup kind, none⟩], [], .ask (.discover kind) (afterMiss kind)⟩
  | refused (kind : GroupVersionKind) (cause : RequestFailure) (sent : List (Exchange HttpAnswer)) :
      Stage served cache ⟨kind, [⟨.lookup kind, none⟩, ⟨.discover kind, .error cause⟩], sent,
        .done (.error (kind.mappingFailure cause))⟩
  | found {kind : GroupVersionKind} {resource : Resource} (sent : List (Exchange HttpAnswer))
      (serves : served kind = some resource) :
      Stage served cache ⟨kind, [⟨.lookup kind, none⟩, ⟨.discover kind, .ok resource⟩], sent,
        .ask (.remember kind resource) fun _ => .done (.ok resource)⟩
  | learned {kind : GroupVersionKind} {resource : Resource} (sent : List (Exchange HttpAnswer))
      (known : cache.lookup kind = some resource) :
      Stage served cache (.learned kind resource sent)

namespace Inquiry.Stage

variable {served : ServedKinds} {cache after : MapperCache} {inquiry : Inquiry}

theorem mono (stage : inquiry.Stage served cache) {more : ServedKinds} (grown : Grows served more)
    (kept : Grows cache.lookup after.lookup) : inquiry.Stage more after := by
  cases stage with
  | started kind => exact .started kind
  | hit known => exact .hit (kept _ _ known)
  | missed kind => exact .missed kind
  | refused kind cause sent => exact .refused kind cause sent
  | found sent serves => exact .found sent (grown _ _ serves)
  | learned sent known => exact .learned sent (kept _ _ known)

/-- A caller that has its answer left the resource in the cache, or found it there. -/
theorem known (stage : inquiry.Stage served cache) {resource : Resource}
    (ended : inquiry.rest = .done (.ok resource)) :
    cache.lookup inquiry.kind = some resource := by
  cases stage with
  | hit known | learned _ known =>
      obtain rfl := Except.ok.inj (Dialogue.done.inj ended)
      exact known
  | refused => exact absurd (Dialogue.done.inj ended) (by simp)
  | _ => cases ended

/-- A caller that has failed was refused by the server, says which kind it was about, and put
nothing into the cache. -/
theorem failed (stage : inquiry.Stage served cache) {failure : Failure}
    (ended : inquiry.rest = .done (.error failure)) :
    (∃ cause, ⟨.discover inquiry.kind, .error cause⟩ ∈ inquiry.said ∧
      failure = inquiry.kind.mappingFailure cause) ∧
      ∀ kind resource, ⟨.remember kind resource, ()⟩ ∉ inquiry.said := by
  cases stage with
  | refused kind cause sent =>
      obtain rfl := Except.error.inj (Dialogue.done.inj ended)
      exact ⟨⟨cause, by simp, rfl⟩, by simp⟩
  | hit | learned => exact absurd (Dialogue.done.inj ended) (by simp)
  | _ => cases ended

/-- What a step makes of a caller: the cache stays, or takes the resource that was found. -/
theorem answered {call : MapperCall} {next : call.Answer → MapperTalk (Except Failure Resource)}
    {talk : List (Exchange HttpAnswer)} {answer : call.Answer}
    (stage : inquiry.Stage served cache) (asks : inquiry.rest = .ask call next)
    (carried : Runs (call.answer cache) talk (answer, after)) (told : served.Told ⟨call, answer⟩) :
    (after = cache ∧ (inquiry.hear ⟨call, answer⟩ talk (next answer)).Stage served cache) ∨
      ∃ resource sent, served inquiry.kind = some resource ∧
        after = cache.insert inquiry.kind resource ∧
        inquiry.hear ⟨call, answer⟩ talk (next answer) = .learned inquiry.kind resource sent := by
  cases stage with
  | started kind =>
      rw [Inquiry.start, resolveKind_eq] at asks
      cases asks
      obtain ⟨rfl, rfl, same⟩ := carried_lookup carried
      refine .inl ⟨same, ?_⟩
      cases known : cache.lookup kind with
      | none => exact .missed kind
      | some resource => exact .hit known
  | missed kind =>
      cases asks
      refine .inl ⟨carried_discover carried, ?_⟩
      cases answer with
      | error cause => exact .refused kind cause _
      | ok resource => exact .found _ told
  | found sent serves =>
      cases asks
      exact .inr ⟨_, _, serves, carried_remember carried, rfl⟩
  | hit | refused | learned => cases asks

end Inquiry.Stage

section Sharing

variable {before after early late : SharedMapper} {kind : GroupVersionKind} {resource : Resource}

theorem MapperCache.lookup_insert_some {cache : MapperCache} {other : GroupVersionKind}
    {stored : Resource} (known : (cache.insert kind resource).lookup other = some stored) :
    (kind = other ∧ resource = stored) ∨ cache.lookup other = some stored := by
  by_cases same : kind = other
  · subst same
    rw [MapperCache.lookup_insert_same] at known
    exact .inl ⟨rfl, Option.some.inj known⟩
  · rw [MapperCache.lookup_insert_other _ _ _ _ same] at known
    exact .inr known

theorem mem_set_other {inquiries : List Inquiry} {index : Nat} {asking inquiry other : Inquiry}
    (here : inquiries[index]? = some asking) (member : other ∈ inquiries)
    (different : other ≠ asking) : other ∈ inquiries.set index inquiry := by
  obtain ⟨place, found⟩ := List.mem_iff_getElem?.mp member
  have apart : index ≠ place := by
    rintro rfl
    exact different (Option.some.inj (found.symm.trans here))
  exact List.mem_iff_getElem?.mpr ⟨place, by rw [List.getElem?_set_ne apart, found]⟩

/-- What holds of a shared mapper at every moment. -/
structure SharedMapper.Sound (mapper : SharedMapper) : Prop where
  stages : ∀ inquiry ∈ mapper.inquiries, inquiry.Stage mapper.served mapper.cache
  cached : Grows mapper.cache.lookup mapper.served
  /-- What is in the cache was put there by a caller that got it from the server. -/
  learned : ∀ kind resource, mapper.cache.lookup kind = some resource →
    ∃ sent, .learned kind resource sent ∈ mapper.inquiries

namespace SharedMapper.Sound

theorem start (served : ServedKinds) : (SharedMapper.start served).Sound where
  stages _ member := absurd member List.not_mem_nil
  cached _ _ known := by cases known
  learned _ _ known := by cases known

/-- A resource that is served may be put into the cache again: it replaces only itself. -/
theorem grows_insert (sound : before.Sound) (serves : before.served kind = some resource) :
    Grows before.cache.lookup (before.cache.insert kind resource).lookup := by
  intro other stored known
  by_cases same : kind = other
  · subst same
    obtain rfl := Option.some.inj ((sound.cached _ _ known).symm.trans serves)
    exact MapperCache.lookup_insert_same _ _ _
  · exact (MapperCache.lookup_insert_other _ _ _ _ same).trans known

theorem grown (sound : before.Sound) {served : ServedKinds} (grows : Grows before.served served) :
    SharedMapper.Sound { before with served } where
  stages inquiry member := (sound.stages inquiry member).mono grows fun _ _ known => known
  cached kind resource known := grows _ _ (sound.cached kind resource known)
  learned := sound.learned

theorem started (sound : before.Sound) (kind : GroupVersionKind) :
    SharedMapper.Sound { before with inquiries := before.inquiries ++ [.start kind] } where
  stages inquiry member := by
    rcases List.mem_append.mp member with old | new
    · exact sound.stages inquiry old
    · rw [List.mem_singleton.mp new]
      exact .started kind
  cached := sound.cached
  learned other resource known := by
    obtain ⟨sent, member⟩ := sound.learned other resource known
    exact ⟨sent, List.mem_append_left _ member⟩

section Answered

variable {index : Nat} {inquiry : Inquiry} {call : MapperCall}
  {next : call.Answer → MapperTalk (Except Failure Resource)}
  (asking : before.inquiries[index]? = some inquiry) (asks : inquiry.rest = .ask call next)
include asking asks

/-- A caller that has put something into the cache is done, so it is not the one that asks. -/
theorem learned_stays {sent : List (Exchange HttpAnswer)} (heard : Inquiry)
    (member : .learned kind resource sent ∈ before.inquiries) :
    Inquiry.learned kind resource sent ∈ before.inquiries.set index heard :=
  mem_set_other asking member (by rintro rfl; cases asks)

theorem heard (sound : before.Sound) {heard : Inquiry}
    (stage : heard.Stage before.served before.cache) :
    SharedMapper.Sound { before with inquiries := before.inquiries.set index heard } where
  stages other member := by
    rcases List.mem_or_eq_of_mem_set member with old | rfl
    · exact sound.stages other old
    · exact stage
  cached := sound.cached
  learned kind resource known := by
    obtain ⟨sent, member⟩ := sound.learned kind resource known
    exact ⟨sent, learned_stays asking asks heard member⟩

theorem remembered (sound : before.Sound) (serves : before.served kind = some resource)
    (sent : List (Exchange HttpAnswer)) :
    SharedMapper.Sound { before with
      cache := before.cache.insert kind resource
      inquiries := before.inquiries.set index (.learned kind resource sent) } where
  stages other member := by
    rcases List.mem_or_eq_of_mem_set member with old | rfl
    · exact (sound.stages other old).mono (fun _ _ known => known) (sound.grows_insert serves)
    · exact .learned sent (MapperCache.lookup_insert_same _ _ _)
  cached other stored known := by
    rcases MapperCache.lookup_insert_some known with ⟨rfl, rfl⟩ | old
    · exact serves
    · exact sound.cached other stored old
  learned other stored known := by
    rcases MapperCache.lookup_insert_some known with ⟨rfl, rfl⟩ | old
    · refine ⟨sent, List.mem_iff_getElem?.mpr ⟨index, ?_⟩⟩
      exact List.getElem?_set_self (List.getElem?_eq_some_iff.mp asking).1
    · obtain ⟨earlier, member⟩ := sound.learned other stored old
      exact ⟨earlier, learned_stays asking asks _ member⟩

end Answered

theorem step (sound : before.Sound) (step : before.Step after) :
    after.Sound ∧ Grows before.cache.lookup after.cache.lookup := by
  cases step with
  | grown served grows => exact ⟨sound.grown grows, fun _ _ known => known⟩
  | started kind => exact ⟨sound.started kind, fun _ _ known => known⟩
  | @answered index inquiry call next talk answer cache asking asks carried told =>
      have own := sound.stages inquiry (List.mem_of_getElem? asking)
      rcases own.answered asks carried told with ⟨rfl, stage⟩ | ⟨resource, sent, serves, rfl, learned⟩
      · exact ⟨sound.heard asking asks stage, fun _ _ known => known⟩
      · rw [learned]
        exact ⟨sound.remembered asking asks serves sent, sound.grows_insert serves⟩

theorem reach {served : ServedKinds}
    (reaches : SharedMapper.Reaches (.start served) after) : after.Sound := by
  induction reaches with
  | refl => exact .start served
  | tail _ step ih => exact (ih.step step).1

end SharedMapper.Sound

/-- A resource that the cache holds, and the callers from a place on that ask for its kind. -/
structure SharedMapper.Settled (kind : GroupVersionKind) (resource : Resource) (count : Nat)
    (mapper : SharedMapper) : Prop where
  known : mapper.cache.lookup kind = some resource
  /-- None of them has done more than look into the cache. -/
  quick : ∀ index inquiry, count ≤ index → mapper.inquiries[index]? = some inquiry →
    inquiry.kind = kind → inquiry = .start kind ∨ inquiry = .hit kind resource

theorem SharedMapper.Settled.step {count : Nat} (settled : before.Settled kind resource count)
    (sound : before.Sound) (step : before.Step after) : after.Settled kind resource count := by
  refine ⟨(sound.step step).2 _ _ settled.known, ?_⟩
  intro place inquiry late found same
  cases step with
  | grown served grows => exact settled.quick place inquiry late found same
  | started other =>
      rw [List.getElem?_append] at found
      split at found
      · exact settled.quick place inquiry late found same
      · obtain rfl := List.mem_singleton.mp (List.mem_of_getElem? found)
        exact .inl (congrArg Inquiry.start same)
  | @answered index asked call next talk answer cache asking asks carried told =>
      by_cases here : index = place
      · subst here
        rw [List.getElem?_set_self (List.getElem?_eq_some_iff.mp asking).1] at found
        obtain rfl := Option.some.inj found
        rcases settled.quick index asked late asking same with rfl | rfl
        · rw [Inquiry.start, resolveKind_eq] at asks
          cases asks
          obtain ⟨rfl, rfl, -⟩ := carried_lookup carried
          rw [settled.known]
          exact .inr rfl
        · cases asks
      · rw [List.getElem?_set_ne here] at found
        exact settled.quick place inquiry late found same

theorem SharedMapper.Settled.reach {count : Nat} (settled : early.Settled kind resource count)
    (sound : early.Sound) (reaches : SharedMapper.Reaches early late) :
    late.Settled kind resource count := by
  suffices both : late.Sound ∧ late.Settled kind resource count from both.2
  induction reaches with
  | refl => exact ⟨sound, settled⟩
  | tail _ step ih => exact ⟨(ih.1.step step).1, ih.2.step ih.1 step⟩

/-- Resolving through a shared cache is resolving by discovery. At every moment an answer is
what the server serves for that kind, a failure is the server's own, about a mapping of that
kind and of a caller that put nothing into the cache, and what is in the cache was told by the
server to a caller that has its answer. Whoever starts to resolve a kind after another caller
got its answer for it sends nothing, and when it ends it has the same answer. -/
theorem shared_mapper_refines_discovery {served : ServedKinds}
    (began : SharedMapper.Reaches (.start served) early)
    (went : SharedMapper.Reaches early late) :
    (∀ inquiry ∈ late.inquiries, ∀ resource, inquiry.rest = .done (.ok resource) →
      late.served inquiry.kind = some resource) ∧
    (∀ inquiry ∈ late.inquiries, ∀ failure, inquiry.rest = .done (.error failure) →
      (∃ cause : RequestFailure, ⟨.discover inquiry.kind, .error cause⟩ ∈ inquiry.said ∧
        failure = .mapping inquiry.kind.group inquiry.kind.version inquiry.kind.kind cause.text) ∧
      ∀ kind resource, ⟨.remember kind resource, ()⟩ ∉ inquiry.said) ∧
    (∀ kind resource, late.cache.lookup kind = some resource →
      ∃ inquiry ∈ late.inquiries, inquiry.kind = kind ∧ inquiry.rest = .done (.ok resource) ∧
        ⟨.discover kind, .ok resource⟩ ∈ inquiry.said) ∧
    ∀ first ∈ early.inquiries, ∀ resource, first.rest = .done (.ok resource) →
      ∀ index inquiry, early.inquiries.length ≤ index → late.inquiries[index]? = some inquiry →
        inquiry.kind = first.kind → inquiry.sent = [] ∧
          (inquiry.rest = resolveKind inquiry.kind ∨ inquiry.rest = .done (.ok resource)) := by
  have sound := SharedMapper.Sound.reach (began.trans went)
  refine ⟨?_, ?_, ?_, ?_⟩
  · intro inquiry member resource ended
    exact sound.cached _ _ ((sound.stages inquiry member).known ended)
  · intro inquiry member failure ended
    exact (sound.stages inquiry member).failed ended
  · intro kind resource known
    obtain ⟨sent, member⟩ := sound.learned kind resource known
    exact ⟨_, member, rfl, rfl, by simp [Inquiry.learned]⟩
  · intro first member resource ended index inquiry late found same
    have earlier := SharedMapper.Sound.reach began
    have settled : early.Settled first.kind resource early.inquiries.length := by
      refine ⟨(earlier.stages first member).known ended, fun place other beyond present _ => ?_⟩
      rw [List.getElem?_eq_none beyond] at present
      cases present
    rcases (settled.reach earlier went).quick index inquiry late found same with rfl | rfl
    · exact ⟨rfl, .inl rfl⟩
    · exact ⟨rfl, .inr rfl⟩

end Sharing

section Sample

variable {server : (request : HttpRequest) → HttpAnswer request}

def talkWith {α : Type} (server : (request : HttpRequest) → HttpAnswer request)
    (talk : HttpTalk α) : List (Exchange HttpAnswer) × α :=
  let told := transcript (fun (_ : Unit) request => (server request, ())) talk ()
  (told.1, told.2.1)

def servedBy (server : (request : HttpRequest) → HttpAnswer request) : ServedKinds :=
  fun kind => (talkWith server (discover kind)).2.toOption

theorem told_servedBy (call : MapperCall) (cache : MapperCache) :
    (servedBy server).Told ⟨call, (talkWith server (call.answer cache)).2.1⟩ := by
  cases call with
  | lookup kind => trivial
  | remember kind resource => trivial
  | discover kind =>
      have same : (talkWith server (MapperCall.answer (.discover kind) cache)).2.1 =
          (talkWith server (discover kind)).2 := by
        simp only [talkWith, MapperCall.answer, transcript_bind]
        rfl
      rw [same]
      cases found : (talkWith server (discover kind)).2 with
      | error cause => trivial
      | ok resource => simp [ServedKinds.Told, servedBy, found, Except.toOption]

/-- A caller starts, or the one at a place has its next call carried out. -/
inductive SharedMapper.Turn where
  | start (kind : GroupVersionKind)
  | answer (index : Nat)

namespace SharedMapper

def turn (server : (request : HttpRequest) → HttpAnswer request) (mapper : SharedMapper) :
    Turn → SharedMapper
  | .start kind => { mapper with inquiries := mapper.inquiries ++ [.start kind] }
  | .answer index =>
      match mapper.inquiries[index]? with
      | none => mapper
      | some inquiry =>
          match inquiry.rest with
          | .done _ => mapper
          | .ask call next =>
              let told := talkWith server (call.answer mapper.cache)
              { mapper with
                cache := told.2.2
                inquiries := mapper.inquiries.set index
                  (inquiry.hear ⟨call, told.2.1⟩ told.1 (next told.2.1)) }

theorem turn_served (mapper : SharedMapper) (turn : Turn) :
    (mapper.turn server turn).served = mapper.served := by
  cases turn with
  | start kind => rfl
  | answer index =>
      simp only [SharedMapper.turn]
      split
      · rfl
      · split <;> rfl

theorem turn_reaches {mapper : SharedMapper} (served : mapper.served = servedBy server)
    (turn : Turn) : Reaches mapper (mapper.turn server turn) := by
  cases turn with
  | start kind => exact .single (.started mapper kind)
  | answer index =>
      simp only [SharedMapper.turn]
      split
      · exact .refl
      · next inquiry asking =>
          split
          · exact .refl
          · next call next asks =>
              refine .single (.answered asking asks (runs_transcript _ _ _) ?_)
              rw [served]
              exact told_servedBy call mapper.cache

theorem turns_reach (turns : List Turn) {mapper : SharedMapper}
    (served : mapper.served = servedBy server) :
    Reaches mapper (turns.foldl (turn server) mapper) ∧
      (turns.foldl (turn server) mapper).served = servedBy server := by
  induction turns generalizing mapper with
  | nil => exact ⟨.refl, served⟩
  | cons turn rest ih =>
      obtain ⟨reaches, still⟩ := ih ((turn_served mapper turn).trans served)
      exact ⟨(turn_reaches served turn).trans reaches, still⟩

end SharedMapper

instance (talk : MapperTalk (Except Failure Resource)) (result : Except Failure Resource) :
    Decidable (talk = .done result) :=
  match talk, result with
  | .ask .., _ => isFalse nofun
  | .done (.ok found), .ok resource => decidable_of_iff (found = resource) (by simp)
  | .done (.error cause), .error failure => decidable_of_iff (cause = failure) (by simp)
  | .done (.ok _), .error _ => isFalse (by simp)
  | .done (.error _), .ok _ => isFalse (by simp)

def deploymentKind : GroupVersionKind := ⟨"apps", "v1", "Deployment"⟩

def unreachableServer (_ : HttpRequest) : Except TransportFault HttpResponse :=
  .error "connection refused"

def deploymentServer (request : HttpRequest) : Except TransportFault HttpResponse :=
  if request.target.path = deploymentKind.discoveryPath then
    .ok {
      status := 200
      body := (Json.record [("kind", some (.string ResourceList.kind)),
        ("groupVersion", some (.string deploymentKind.apiVersion)),
        ("resources", some (.array [Json.record [("kind", some (.string "Deployment")),
          ("name", some (.string "deployments"))]]))]).compact }
  else .error "connection refused"

/-- A caller that was turned away. -/
def failedMapper : SharedMapper :=
  [.start deploymentKind, .answer 0, .answer 0].foldl (SharedMapper.turn unreachableServer)
    (.start (servedBy unreachableServer))

/-- Two more, which both miss and both ask before either has put the resource into the cache. -/
def racedMapper : SharedMapper :=
  [.start deploymentKind, .start deploymentKind, .answer 1, .answer 2, .answer 2, .answer 1,
    .answer 2, .answer 1].foldl (SharedMapper.turn deploymentServer)
      { failedMapper with served := servedBy deploymentServer }

/-- And one that comes after them. -/
def lateMapper : SharedMapper :=
  [.start deploymentKind, .answer 3].foldl (SharedMapper.turn deploymentServer) racedMapper

def SharedMapper.caller (mapper : SharedMapper) (index : Nat) : Inquiry :=
  mapper.inquiries.getD index (.start deploymentKind)

theorem SharedMapper.caller_present {mapper : SharedMapper} {index : Nat}
    (present : index < mapper.inquiries.length) :
    mapper.inquiries[index]? = some (mapper.caller index) := by
  rw [caller, List.getD_eq_getElem?_getD, List.getElem?_eq_getElem present, Option.getD_some]

theorem unreachable_serves_nothing (kind : GroupVersionKind) :
    servedBy unreachableServer kind = none := by
  unfold servedBy discover
  cases HttpTarget.parse? kind.discoveryPath with
  | none => rfl
  | some target => rfl

/-- The kind is not served at first. Once it is, two callers ask for it side by side, and the
one after them has the resource without asking. -/
theorem shared_deployments_resolved :
    lateMapper.served deploymentKind = some (deploymentKind.resource "deployments") ∧
      (lateMapper.caller 0).rest = .done (.error (.mapping "apps" "v1" "Deployment"
        "ServiceError: connection refused")) ∧
      (∀ kind resource, ⟨.remember kind resource, ()⟩ ∉ (lateMapper.caller 0).said) ∧
      (∃ inquiry ∈ lateMapper.inquiries, inquiry.kind = deploymentKind ∧
        inquiry.rest = .done (.ok (deploymentKind.resource "deployments")) ∧
        ⟨.discover deploymentKind, .ok (deploymentKind.resource "deployments")⟩ ∈ inquiry.said) ∧
      (lateMapper.caller 3).sent = [] ∧
      (lateMapper.caller 3).rest = .done (.ok (deploymentKind.resource "deployments")) := by
  have tried : SharedMapper.Reaches (.start (servedBy unreachableServer)) failedMapper ∧
      failedMapper.served = servedBy unreachableServer := SharedMapper.turns_reach _ rfl
  have raced : SharedMapper.Reaches { failedMapper with served := servedBy deploymentServer }
      racedMapper ∧ racedMapper.served = servedBy deploymentServer := SharedMapper.turns_reach _ rfl
  have followed : SharedMapper.Reaches racedMapper lateMapper ∧
      lateMapper.served = servedBy deploymentServer := SharedMapper.turns_reach _ raced.2
  have grows : Grows failedMapper.served (servedBy deploymentServer) := by
    intro kind resource serves
    rw [tried.2, unreachable_serves_nothing] at serves
    cases serves
  have began := tried.1.trans (.head (.grown failedMapper _ grows) raced.1)
  obtain ⟨right, failing, learned, quick⟩ := shared_mapper_refines_discovery began followed.1
  -- evaluated at once, so that the answers of the server are read only once
  obtain ⟨three, four, found, failed, known, first, same, late⟩ :
      racedMapper.inquiries.length = 3 ∧ lateMapper.inquiries.length = 4 ∧
      (racedMapper.caller 2).rest = .done (.ok (deploymentKind.resource "deployments")) ∧
      (lateMapper.caller 0).rest = .done (.error (.mapping "apps" "v1" "Deployment"
        "ServiceError: connection refused")) ∧
      lateMapper.cache.lookup deploymentKind = some (deploymentKind.resource "deployments") ∧
      (racedMapper.caller 2).kind = deploymentKind ∧ (lateMapper.caller 3).kind = deploymentKind ∧
      (lateMapper.caller 3).rest = .done (.ok (deploymentKind.resource "deployments")) := by
    decide +kernel
  have here {index : Nat} (present : index < 4) :
      lateMapper.inquiries[index]? = some (lateMapper.caller index) :=
    SharedMapper.caller_present (four ▸ present)
  have finder : racedMapper.caller 2 ∈ racedMapper.inquiries :=
    List.mem_of_getElem? (SharedMapper.caller_present (three ▸ by decide))
  have last := here (show 3 < 4 by decide)
  have served := right _ (List.mem_of_getElem? last) _ late
  rw [same] at served
  exact ⟨served, failed,
    (failing _ (List.mem_of_getElem? (here (show 0 < 4 by decide))) _ failed).2,
    learned deploymentKind _ known,
    (quick _ finder _ found 3 _ (Nat.le_of_eq three) last (same.trans first.symm)).1, late⟩

end Sample

end BindingOperator
