import BindingOperator.Proofs.Selections

/-!
Writing copies to a cluster. While the copies go out, every object is what it was before or
one of them; and once the writing has gone through all of them without a refusal, what is
found at the place of a copy is that copy, under some version.
-/

namespace BindingOperator

open Dialogue

/-- An object at a place is one of the copies under some version. -/
def Copied (resource : Resource) (pairs : List (Object × Object)) (place : Place)
    (object : Object) : Prop :=
  ∃ pair ∈ pairs, place = pair.2.placeIn resource ∧ ∃ version, object = pair.2.withVersion version

/-- Every object is an old one or a copy. -/
structure Grown (resource : Resource) (pairs : List (Object × Object)) (first last : Cluster) :
    Prop where
  objects : ∀ place object, last.objects place = some object →
    first.objects place = some object ∨ Copied resource pairs place object
  serves : last.serves = first.serves

section Growing

variable {resource : Resource} {pairs : List (Object × Object)} {first second third : Cluster}

theorem Grown.refl (cluster : Cluster) : Grown resource pairs cluster cluster :=
  ⟨fun _ _ => .inl, rfl⟩

theorem Grown.trans (one : Grown resource pairs first second)
    (two : Grown resource pairs second third) : Grown resource pairs first third := by
  refine ⟨?_, two.serves.trans one.serves⟩
  intro place object present
  rcases two.objects place object present with old | copied
  · exact one.objects place object old
  · exact .inr copied

theorem Grown.of_loses (loses : first.Loses second) : Grown resource pairs first second :=
  ⟨fun place object present => .inl (loses.objects place object present), loses.serves⟩

variable {refuses : Refusing} {drift : Cluster → Cluster → Prop}

theorem grown_update (pair : Object × Object) (member : pair ∈ pairs)
    (answer : Except Failure Object)
    (given : Answers refuses first (.updateObject resource pair.2) answer second) :
    Grown resource pairs first second := by
  cases answer with
  | error failure =>
      rw [given.2]
      exact .refl first
  | ok stored =>
      obtain ⟨-, ⟨version, rfl⟩, rfl⟩ := given
      refine ⟨?_, rfl⟩
      intro place object present
      rw [Cluster.objects_store] at present
      split at present
      · next here => exact .inr ⟨pair, member, here, version, (Option.some.inj present).symm⟩
      · exact .inl present

variable {clock : Clock} {progress : Progress} {rest : List (Object × Object)} {exchanges : Talk}
  {ending : Ending} {last : Cluster}

theorem grown_patchAll (pairs : List (Object × Object))
    (known : progress.resource = some resource)
    (losing : ∀ before after, drift before after → before.Loses after)
    (run : Runs (patchAll clock progress rest) exchanges ending)
    (inside : ∀ pair ∈ rest, pair ∈ pairs)
    (history : History refuses drift first exchanges last) : Grown resource pairs first last := by
  refine history_keeps (Grown resource pairs first) history ?_ ?_ (.refl first)
  · rintro ⟨call, answer⟩ member before after grown given
    obtain ⟨served, known', pair, chosen, rfl⟩ := patchAll_calls run _ member
    rw [known, Option.some.injEq] at known'
    subst known'
    exact grown.trans (grown_update pair (inside pair chosen) answer given)
  · exact fun before after grown drifted => grown.trans (.of_loses (losing before after drifted))

/-- After a write that was passed, the place has the copy or nothing. -/
theorem copied_passed (truthful : Truthful refuses) (pair : Object × Object)
    (member : pair ∈ pairs) (answer : Except Failure Object) (passed : Passes answer)
    (given : Answers refuses first (.updateObject resource pair.2) answer second)
    (object : Object) (present : second.objects (pair.2.placeIn resource) = some object) :
    Copied resource pairs (pair.2.placeIn resource) object := by
  rcases passed with ⟨stored, rfl⟩ | ⟨failure, rfl, gone⟩
  · obtain ⟨-, ⟨version, rfl⟩, rfl⟩ := given
    rw [Cluster.objects_store, if_pos (by simp), Option.some.injEq] at present
    exact ⟨pair, member, rfl, version, present.symm⟩
  · obtain ⟨⟨-, absent⟩ | denied, rfl⟩ := given
    · simp [absent] at present
    · simp [truthful.update _ _ _ denied] at gone

/-- Where all copies went out without a refusal, each place has its copy. -/
theorem copied_patchAll (pairs : List (Object × Object))
    (known : progress.resource = some resource)
    (losing : ∀ before after, drift before after → before.Loses after)
    (truthful : Truthful refuses)
    (run : Runs (patchAll clock progress rest) exchanges ending) (ended : ending.2 = .ok ())
    (unrefused : ∀ exchange ∈ exchanges, ¬ Refused exchange)
    (inside : ∀ pair ∈ rest, pair ∈ pairs)
    (history : History refuses drift first exchanges last)
    (old : ∀ pair ∈ rest, ∀ object, first.objects (pair.2.placeIn resource) = some object →
      object = pair.1 ∨ Copied resource pairs (pair.2.placeIn resource) object) :
    ∀ pair ∈ rest, ∀ object, last.objects (pair.2.placeIn resource) = some object →
      Copied resource pairs (pair.2.placeIn resource) object := by
  induction rest generalizing first exchanges with
  | nil => simp
  | cons head rest ih =>
      -- `old` is the invariant: at the place of a pair that is not yet written there is what it was
      -- made of, or a copy, since two pairs may belong to one place
      have grown := grown_patchAll pairs known losing run inside history
      have tail : ∀ pair ∈ rest, pair ∈ pairs :=
        fun pair member => inside pair (List.mem_cons_of_mem _ member)
      have tailOld := fun pair member => old pair (List.mem_cons_of_mem _ member)
      rcases runs_patchAll_cons run with ⟨breach, -, rfl⟩ | ⟨same, later⟩ |
        ⟨served, answer, later, known', rfl, step⟩
      · simp at ended
      · intro pair member object present
        rcases List.mem_cons.mp member with rfl | elsewhere
        · rcases grown.objects _ _ present with before | copied
          · rcases old pair List.mem_cons_self object before with rfl | copied
            · exact ⟨pair, inside pair List.mem_cons_self, rfl, _, by
                rw [← same, Object.withVersion_self]⟩
            · exact copied
          · exact copied
        · exact ih later unrefused tail history tailOld pair elsewhere object present
      · rw [known, Option.some.injEq] at known'
        subst known'
        obtain ⟨answered, next, given, drifted, following⟩ := history
        rcases step with ⟨passed, after⟩ | ⟨failure, rfl, -, rfl, ⟨denied, -⟩ | ⟨-, rfl⟩⟩
        -- what was written stays, because later writes and losses bring back nothing older
        · have loses := losing _ _ drifted
          intro pair member object present
          rcases List.mem_cons.mp member with rfl | elsewhere
          · rcases (grown_patchAll pairs known losing after tail following).objects _ _ present with
              before | copied
            · exact copied_passed truthful pair (inside pair List.mem_cons_self) answer passed given
                object (loses.objects _ _ before)
            · exact copied
          · refine ih after (fun exchange there => unrefused exchange
              (List.mem_cons_of_mem _ there)) tail following ?_ pair elsewhere object present
            intro other chosen found there
            rcases (grown_update head (inside head List.mem_cons_self) answer given).objects _ _
              (loses.objects _ _ there) with before | copied
            · exact tailOld other chosen found before
            · exact .inr copied
        · exact absurd denied (unrefused _ List.mem_cons_self)
        · simp at ended

end Growing

section Selected

/-- Copies of objects: each object has one, and it belongs where the object is kept. -/
structure Copies (found copies : List Object) : Prop where
  kept : ∀ pair ∈ found.zip copies, pair.1 ∈ found ∧ pair.2.metadata = pair.1.metadata
  made : ∀ object ∈ found, ∃ copy, (object, copy) ∈ found.zip copies

theorem copies_of_projectAll {projector : Projector} {phase : Phase} {binding : Binding}
    {found copies : List Object}
    (projected : projectAll projector phase binding found = .ok copies)
    (keeps : ∀ workload copy, applied projector phase binding workload = .ok copy →
      copy.metadata = workload.metadata) : Copies found copies := by
  constructor
  · intro pair member
    obtain ⟨chosen, made⟩ := projectAll_zip _ _ _ _ _ projected pair member
    exact ⟨chosen, keeps _ _ made⟩
  · intro object member
    obtain ⟨copy, paired, -⟩ := projectAll_pair _ _ _ _ _ projected object member
    exact ⟨copy, paired⟩

variable {workload : WorkloadReference} {namespaceName : String} {resource : Resource}
  {found copies : List Object} {refuses : Refusing} {drift : Cluster → Cluster → Prop}
  {read first last : Cluster} {clock : Clock} {progress : Progress} {exchanges : Talk}
  {ending : Ending}

/-- Nothing is written where nothing was found, so the resource need not be known then. -/
theorem grown_copies (run : Runs (patchAll clock progress (found.zip copies)) exchanges ending)
    (known : progress.resource = some resource ∨ found = [])
    (losing : ∀ before after, drift before after → before.Loses after)
    (history : History refuses drift first exchanges last) :
    Grown resource (found.zip copies) first last := by
  rcases known with known | rfl
  · exact grown_patchAll _ known losing run (fun _ => id) history
  · obtain ⟨rfl, -⟩ := runs_patchAll_nil.mp run
    rw [show last = first from history]
    exact .refl first

/-- Once the copies went out without a refusal, the objects that are selected are copies. -/
theorem copied_selected (there : Found workload namespaceName read resource found)
    (lost : read.Loses first) (each : Copies found copies)
    (run : Runs (patchAll clock progress (found.zip copies)) exchanges ending)
    (ended : ending.2 = .ok ()) (known : progress.resource = some resource ∨ found = [])
    (losing : ∀ before after, drift before after → before.Loses after)
    (truthful : Truthful refuses) (unrefused : ∀ exchange ∈ exchanges, ¬ Refused exchange)
    (history : History refuses drift first exchanges last) {name : String} {object : Object}
    (present : last.objects ⟨resource, namespaceName, name⟩ = some object)
    (selected : workload.Selects object) :
    Copied resource (found.zip copies) ⟨resource, namespaceName, name⟩ object := by
  rcases (grown_copies run known losing history).objects _ _ present with old | copied
  · -- what was there before the writes had been found, so that a copy of it went out
    have chosen := there.complete name object (lost.objects _ _ old) selected
    rcases known with known | rfl
    · obtain ⟨copy, paired⟩ := each.made object chosen
      have place : copy.placeIn resource = ⟨resource, namespaceName, name⟩ := by
        rw [Object.placeIn_of_metadata resource object copy (each.kept _ paired).2]
        exact last.placed _ _ present
      have untouched : ∀ pair ∈ found.zip copies, ∀ object,
          first.objects (pair.2.placeIn resource) = some object → object = pair.1 := by
        intro pair member object held
        obtain ⟨among, same⟩ := each.kept pair member
        rw [Object.placeIn_of_metadata resource pair.1 pair.2 same] at held
        have before := lost.objects _ _ held
        rw [(there.kept pair.1 among).1] at before
        exact (Option.some.inj before).symm
      have copied := copied_patchAll (found.zip copies) known losing truthful run ended unrefused
        (fun _ => id) history
        (fun pair member object held => .inl (untouched pair member object held)) _ paired object
        (by rw [place]; exact present)
      rwa [place] at copied
    · simp at chosen
  · exact copied

end Selected

end BindingOperator
