import BindingOperator.Metadata

/-!
Passes that are due at a time. An object has one pass waiting at most, at the earliest time
that was asked for: asking again while a pass is waiting cannot delay it.
-/

namespace BindingOperator

abbrev Agenda := List (ObjectKey × Nat)

namespace Agenda

def time? (key : ObjectKey) (agenda : Agenda) : Option Nat :=
  (agenda.find? fun entry => entry.1 = key).map Prod.snd

def ask (key : ObjectKey) (time : Nat) : Agenda → Agenda
  | [] => [(key, time)]
  | (other, waiting) :: rest =>
      if other = key then (key, min waiting time) :: rest else (other, waiting) :: ask key time rest

def due (time : Nat) (agenda : Agenda) : List ObjectKey × Agenda :=
  let (now, later) := agenda.partition fun entry => entry.2 ≤ time
  (now.map Prod.fst, later)

theorem time?_ask_same (key : ObjectKey) (time : Nat) (agenda : Agenda) :
    (agenda.ask key time).time? key = some (((agenda.time? key).map (min · time)).getD time) := by
  induction agenda with
  | nil => simp [ask, time?]
  | cons entry rest ih =>
      obtain ⟨other, waiting⟩ := entry
      by_cases same : other = key
      · simp [ask, time?, same]
      · simpa [ask, time?, same] using ih

theorem time?_ask_other (key other : ObjectKey) (time : Nat) (agenda : Agenda)
    (different : key ≠ other) : (agenda.ask key time).time? other = agenda.time? other := by
  induction agenda with
  | nil => simp [ask, time?, different]
  | cons entry rest ih =>
      obtain ⟨known, waiting⟩ := entry
      by_cases same : known = key
      · simp [ask, time?, same, different]
      · by_cases hit : known = other
        · subst hit
          simp [ask, time?, same]
        · simpa [ask, time?, same, hit] using ih

end Agenda

end BindingOperator
