import BindingOperator.Dialogue
import BindingOperator.Event
import BindingOperator.Object

/-!
The calls that a pass over a binding makes, and what may be answered. Writes are
conditioned on the resource version they carry; reading and writing may fail, publishing an
event cannot.
-/

namespace BindingOperator

inductive BindingCall where
  | resolve (kind : GroupVersionKind)
  | getObject (resource : Resource) (namespaceName name : String)
  /-- The objects of a namespace that a query selects, in the order of the server. -/
  | listObjects (resource : Resource) (namespaceName query : String)
  | updateObject (resource : Resource) (object : Object)
  | patchFinalizers (binding : Binding) (finalizers : List String)
  | updateStatus (binding : Binding)
  | publish (about : ObjectReference) (event : Event)

namespace BindingCall

abbrev Answer : BindingCall → Type
  | .resolve _ => Except Failure Resource
  | .getObject .. => Except Failure Object
  | .listObjects .. => Except Failure (List Object)
  | .updateObject .. => Except Failure Object
  | .patchFinalizers .. => Except Failure Binding
  | .updateStatus _ => Except Failure Binding
  | .publish .. => Unit

end BindingCall

abbrev BindingTalk := Dialogue BindingCall.Answer

namespace BindingTalk

def resolve (kind : GroupVersionKind) : BindingTalk (Except Failure Resource) :=
  Dialogue.call (BindingCall.resolve kind)

def getObject (resource : Resource) (namespaceName name : String) :
    BindingTalk (Except Failure Object) :=
  Dialogue.call (BindingCall.getObject resource namespaceName name)

def listObjects (resource : Resource) (namespaceName query : String) :
    BindingTalk (Except Failure (List Object)) :=
  Dialogue.call (BindingCall.listObjects resource namespaceName query)

def updateObject (resource : Resource) (object : Object) :
    BindingTalk (Except Failure Object) :=
  Dialogue.call (BindingCall.updateObject resource object)

def patchFinalizers (binding : Binding) (finalizers : List String) :
    BindingTalk (Except Failure Binding) :=
  Dialogue.call (BindingCall.patchFinalizers binding finalizers)

def updateStatus (binding : Binding) : BindingTalk (Except Failure Binding) :=
  Dialogue.call (BindingCall.updateStatus binding)

def publish (about : ObjectReference) (event : Event) : BindingTalk Unit :=
  Dialogue.call (BindingCall.publish about event)

end BindingTalk

end BindingOperator
