import BindingOperator.Binding
import BindingOperator.Text.Quoted

/-!
Events: what the controllers report about the writes they made.
-/

namespace BindingOperator

inductive Event where
  | finalizerPatched
  | statusUpdated
  | configurationUpdated (kind name : String)
  deriving DecidableEq, Repr, Inhabited

namespace Event

def reason : Event → String
  | .finalizerPatched => "FinalizerPatched"
  | .statusUpdated => "StatusUpdated"
  | .configurationUpdated .. => "Updated"

def action : Event → String
  | .finalizerPatched => "Patch"
  | .statusUpdated | .configurationUpdated .. => "Update"

def note : Event → String
  | .finalizerPatched => "Patched finalizer " ++ Text.quoted bindingFinalizer
  | .statusUpdated => "Updated status"
  | .configurationUpdated kind name => "Updated " ++ kind ++ " " ++ Text.quoted name

end Event

end BindingOperator
