/-!
What a controller does with an object after a pass over it.
-/

namespace BindingOperator

inductive Action where
  | awaitChange
  | requeue (seconds : Nat)
  deriving DecidableEq, Repr, Inhabited

end BindingOperator
