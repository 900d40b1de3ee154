/-!
Dialogues: programs that make calls and go on with the answers. What a call may be answered
is given by its type; who answers is left open, so a statement about every answer is a
statement about the dialogue alone. A dialogue is run by a way of answering each call, and
a dialogue over one kind of call becomes one over another when each call is itself carried
out by a dialogue.
-/

namespace BindingOperator

/-- Ends with a value, or makes a call and goes on with its answer. -/
inductive Dialogue {Call : Type} (Answer : Call → Type) (α : Type) : Type where
  | done (value : α)
  | ask (call : Call) (next : Answer call → Dialogue Answer α)

namespace Dialogue

variable {Call : Type} {Answer : Call → Type} {α β γ : Type}

def bind : Dialogue Answer α → (α → Dialogue Answer β) → Dialogue Answer β
  | .done value, next => next value
  | .ask call rest, next => .ask call fun answer => bind (rest answer) next

instance : Monad (Dialogue Answer) where
  pure := .done
  bind := bind

/-- Makes one call and ends with its answer. -/
def call (call : Call) : Dialogue Answer (Answer call) :=
  .ask call .done

def run {m : Type → Type} [Monad m] (answer : (call : Call) → m (Answer call)) :
    Dialogue Answer α → m α
  | .done value => pure value
  | .ask call next => do
      let given ← answer call
      run answer (next given)

theorem bind_done (value : α) (next : α → Dialogue Answer β) :
    bind (.done value) next = next value := rfl

theorem bind_ask (call : Call) (rest : Answer call → Dialogue Answer α)
    (next : α → Dialogue Answer β) :
    bind (.ask call rest) next = .ask call fun answer => bind (rest answer) next := rfl

theorem bind_assoc (dialogue : Dialogue Answer α) (next : α → Dialogue Answer β)
    (last : β → Dialogue Answer γ) :
    bind (bind dialogue next) last = bind dialogue fun value => bind (next value) last := by
  induction dialogue with
  | done value => rfl
  | ask call rest ih => simp only [bind, ih]

theorem bind_pure (dialogue : Dialogue Answer α) : bind dialogue .done = dialogue := by
  induction dialogue with
  | done value => rfl
  | ask call rest ih => simp only [bind, ih]

abbrev Exchange (Answer : Call → Type) := (call : Call) × Answer call

/-- The exchanges of a dialogue that ends with a value, one after the other. -/
inductive Runs : Dialogue Answer α → List (Exchange Answer) → α → Prop where
  | done (value : α) : Runs (.done value) [] value
  | ask (call : Call) (next : Answer call → Dialogue Answer α) (answer : Answer call)
      (exchanges : List (Exchange Answer)) (value : α)
      (rest : Runs (next answer) exchanges value) :
      Runs (.ask call next) (⟨call, answer⟩ :: exchanges) value

theorem runs_bind {dialogue : Dialogue Answer α} {next : α → Dialogue Answer β}
    {first last : List (Exchange Answer)} {middle : α} {value : β}
    (left : Runs dialogue first middle) (right : Runs (next middle) last value) :
    Runs (bind dialogue next) (first ++ last) value := by
  induction left with
  | done _ => exact right
  | ask call rest answer exchanges _ _ ih => exact .ask call _ answer _ _ (ih right)

end Dialogue

end BindingOperator
