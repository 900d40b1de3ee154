import BindingOperator.Failure

/-!
Faults that a simulated cluster raises. A fault concerns the calls of one name, or only
those about one target; it passes over the first of them and then raises its failure a
number of times, or for ever.
-/

namespace BindingOperator

structure Fault where
  call : String
  target : Option String := none
  failure : Failure
  skip : Nat := 0
  times : Option Nat := none
  count : Nat := 0
  deriving Repr

namespace Fault

def concerns (call target : String) (fault : Fault) : Bool :=
  fault.call = call && fault.target.all (· = target)

def raises (fault : Fault) : Bool :=
  fault.skip < fault.count && fault.times.all fun times => fault.count ≤ fault.skip + times

/-- Counts a call on every fault that concerns it, up to the one that is raised. -/
def strike (call target : String) : List Fault → Option Failure × List Fault
  | [] => (none, [])
  | fault :: rest =>
      if fault.concerns call target then
        let counted := { fault with count := fault.count + 1 }
        if counted.raises then (some counted.failure, counted :: rest)
        else
          let more := strike call target rest
          (more.1, counted :: more.2)
      else
        let more := strike call target rest
        (more.1, fault :: more.2)

end Fault

end BindingOperator
