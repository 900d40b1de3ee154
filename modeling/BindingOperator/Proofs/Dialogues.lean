import BindingOperator.Dialogue

/-!
Runs of dialogues, read backwards: a run of a dialogue that goes on with another one is a
run of the first followed by a run of the second, and a single call is answered once.
-/

namespace BindingOperator.Dialogue

variable {Call : Type} {Answer : Call → Type} {α β : Type}

theorem runs_done_iff (value result : α) (exchanges : List (Exchange Answer)) :
    Runs (.done value) exchanges result ↔ exchanges = [] ∧ result = value := by
  constructor
  · intro run
    cases run
    exact ⟨rfl, rfl⟩
  · rintro ⟨rfl, rfl⟩
    exact .done result

theorem runs_pure_iff (value result : α) (exchanges : List (Exchange Answer)) :
    Runs (pure value : Dialogue Answer α) exchanges result ↔ exchanges = [] ∧ result = value :=
  runs_done_iff value result exchanges

theorem runs_ask_iff (call : Call) (next : Answer call → Dialogue Answer α) (result : α)
    (exchanges : List (Exchange Answer)) :
    Runs (.ask call next) exchanges result ↔
      ∃ answer rest, exchanges = ⟨call, answer⟩ :: rest ∧ Runs (next answer) rest result := by
  constructor
  · intro run
    cases run with
    | ask _ _ answer rest _ run => exact ⟨answer, rest, rfl, run⟩
  · rintro ⟨answer, rest, rfl, run⟩
    exact .ask call next answer rest result run

theorem runs_bind_iff (dialogue : Dialogue Answer α) (next : α → Dialogue Answer β) (result : β)
    (exchanges : List (Exchange Answer)) :
    Runs (dialogue >>= next) exchanges result ↔
      ∃ first middle last, exchanges = first ++ last ∧ Runs dialogue first middle ∧
        Runs (next middle) last result := by
  constructor
  · intro run
    induction dialogue generalizing exchanges with
    | done value => exact ⟨[], value, exchanges, rfl, .done value, run⟩
    | ask call rest ih =>
        obtain ⟨answer, later, rfl, after⟩ := (runs_ask_iff _ _ _ _).mp run
        obtain ⟨first, middle, last, rfl, left, right⟩ := ih answer later after
        exact ⟨⟨call, answer⟩ :: first, middle, last, rfl, .ask _ _ _ _ _ left, right⟩
  · rintro ⟨first, middle, last, rfl, left, right⟩
    exact runs_bind left right

/-- A dialogue whose value is only rewritten. -/
theorem runs_bind_pure_iff (dialogue : Dialogue Answer α) (rewrite : α → β) (result : β)
    (exchanges : List (Exchange Answer)) :
    Runs (dialogue >>= fun value => pure (rewrite value)) exchanges result ↔
      ∃ value, Runs dialogue exchanges value ∧ result = rewrite value := by
  simp only [runs_bind_iff, runs_pure_iff]
  constructor
  · rintro ⟨first, value, last, rfl, run, rfl, rfl⟩
    exact ⟨value, by rwa [List.append_nil], rfl⟩
  · rintro ⟨value, run, rfl⟩
    exact ⟨exchanges, value, [], (List.append_nil _).symm, run, rfl, rfl⟩

theorem runs_call_bind_iff (call : Call) (next : Answer call → Dialogue Answer β) (result : β)
    (exchanges : List (Exchange Answer)) :
    Runs (Dialogue.call call >>= next) exchanges result ↔
      ∃ answer rest, exchanges = ⟨call, answer⟩ :: rest ∧ Runs (next answer) rest result :=
  runs_ask_iff call next result exchanges

/-- A dialogue is settled by its answers: of what was said in all, it takes one beginning, and
comes to one value. -/
theorem runs_unique {dialogue : Dialogue Answer α} {first other rest more : List (Exchange Answer)}
    {value result : α} (left : Runs dialogue first value) (right : Runs dialogue other result)
    (same : first ++ rest = other ++ more) : first = other ∧ value = result ∧ rest = more := by
  induction left generalizing other with
  | done value =>
      obtain ⟨rfl, rfl⟩ := (runs_done_iff _ _ _).mp right
      exact ⟨rfl, rfl, same⟩
  | ask call next answer later value _ ih =>
      obtain ⟨given, after, rfl, ran⟩ := (runs_ask_iff _ _ _ _).mp right
      obtain ⟨asked, others⟩ := List.cons.inj same
      obtain rfl := eq_of_heq (Sigma.mk.inj asked).2
      obtain ⟨rfl, rfl, rfl⟩ := ih ran others
      exact ⟨rfl, rfl, rfl⟩

/-- Exchanges that bring a dialogue to what is left of it. -/
inductive Leads (dialogue : Dialogue Answer α) :
    List (Exchange Answer) → Dialogue Answer α → Prop where
  | nothing : Leads dialogue [] dialogue
  | answered {said : List (Exchange Answer)} {call : Call} {next : Answer call → Dialogue Answer α}
      (leads : Leads dialogue said (.ask call next)) (answer : Answer call) :
      Leads dialogue (said ++ [⟨call, answer⟩]) (next answer)

/-- A dialogue runs on from wherever it was led to. -/
theorem Leads.runs {dialogue rest : Dialogue Answer α} {said later : List (Exchange Answer)}
    {value : α} (leads : Leads dialogue said rest) (run : Runs rest later value) :
    Runs dialogue (said ++ later) value := by
  induction leads generalizing later with
  | nothing => exact run
  | answered leads answer ih =>
      rw [List.append_assoc]
      exact ih (.ask _ _ answer later value run)

/-- Where every call has one answer, a dialogue goes on with the value of the one before. -/
theorem run_bind (answer : (call : Call) → Answer call) (dialogue : Dialogue Answer α)
    (next : α → Dialogue Answer β) :
    run (m := Id) answer (dialogue >>= next) =
      run (m := Id) answer (next (run (m := Id) answer dialogue)) := by
  induction dialogue with
  | done value => rfl
  | ask call rest ih => exact ih (answer call)

section Answering

variable {State : Type} (answer : State → (call : Call) → Answer call × State)

/-- What a dialogue says to a state that answers every call, its value, and the state it
leaves. -/
def transcript : Dialogue Answer α → State → List (Exchange Answer) × α × State
  | .done value, state => ([], value, state)
  | .ask call next, state =>
      let given := answer state call
      let rest := transcript (next given.1) given.2
      (⟨call, given.1⟩ :: rest.1, rest.2)

theorem transcript_bind (dialogue : Dialogue Answer α) (next : α → Dialogue Answer β)
    (state : State) :
    transcript answer (dialogue >>= next) state =
      let first := transcript answer dialogue state
      let rest := transcript answer (next first.2.1) first.2.2
      (first.1 ++ rest.1, rest.2) := by
  induction dialogue generalizing state with
  | done value => rfl
  | ask call rest ih =>
      have later := ih (answer state call).1 (answer state call).2
      exact congrArg (fun told => (⟨call, (answer state call).1⟩ :: told.1, told.2)) later

theorem runs_transcript (dialogue : Dialogue Answer α) (state : State) :
    Runs dialogue (transcript answer dialogue state).1 (transcript answer dialogue state).2.1 := by
  induction dialogue generalizing state with
  | done value => exact .done value
  | ask call next ih => exact .ask _ _ _ _ _ (ih (answer state call).1 (answer state call).2)

end Answering

end BindingOperator.Dialogue
