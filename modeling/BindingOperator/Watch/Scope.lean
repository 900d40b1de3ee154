import BindingOperator.Api.Request

/-!
What a controller watches: the objects of a resource in all namespaces, or the only one of
a name. The objects are listed page by page first; the watch goes on from the version of
the list.
-/

namespace BindingOperator

structure WatchScope where
  resource : Resource
  /-- Only the object of this name. -/
  name : Option String := none

namespace WatchScope

/-- The most objects of a page. -/
def pageSize : Nat := 500

/-- Seconds after which the server ends a watch. It is less than what the client waits for
a sign of life, so that a quiet watch does not fail. -/
def lifetime : Nat := 25

def fieldSelector (scope : WatchScope) : List (String × String) :=
  (scope.name.map fun name => ("fieldSelector", "metadata.name=" ++ name)).toList

/-- Asks for the first page, or for the one that a token leads to. -/
def listRequest (scope : WatchScope) (token : Option String) : ApiRequest.Built :=
  ApiRequest.list (scope.resource.collectionPath none)
    (scope.fieldSelector ++ [("limit", Nat.repr pageSize)] ++
      (token.map fun token => ("continue", token)).toList)

def watchRequest (scope : WatchScope) (version : String) : ApiRequest.Built :=
  ApiRequest.list (scope.resource.collectionPath none)
    ([("watch", "true"), ("timeoutSeconds", Nat.repr lifetime)] ++ scope.fieldSelector ++
      [("allowWatchBookmarks", "true"), ("resourceVersion", version)])

end WatchScope

end BindingOperator
