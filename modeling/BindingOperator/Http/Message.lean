import BindingOperator.Dialogue
import BindingOperator.Json.Basic

/-!
Requests to a server and their answers, and programs that talk to one. A target is the path
of a request with its query; characters that a target must not hold make it unusable.
-/

namespace BindingOperator

inductive HttpMethod where
  | get
  | put
  | post
  | patch
  deriving DecidableEq, Repr, Inhabited

namespace HttpMethod

def text : HttpMethod → String
  | .get => "GET"
  | .put => "PUT"
  | .post => "POST"
  | .patch => "PATCH"

end HttpMethod

structure HttpTarget where
  path : String
  query : Option String
  deriving DecidableEq, Repr, Inhabited

namespace HttpTarget

def isPathChar (c : Char) : Bool :=
  let code := c.toNat
  0x21 ≤ code && code ≠ 0x23 && code ≠ 0x3c && code ≠ 0x3e && code ≠ 0x3f && code ≠ 0x60

def isQueryChar (c : Char) : Bool :=
  let code := c.toNat
  0x21 ≤ code && code ≠ 0x22 && code ≠ 0x23 && code ≠ 0x3c && code ≠ 0x3e

/-- What stands before the first question mark and after it, up to a number sign. -/
def parse? (text : String) : Option HttpTarget :=
  let visible := text.toList.takeWhile (· ≠ '#')
  let path := visible.takeWhile (· ≠ '?')
  match visible.dropWhile (· ≠ '?') with
  | [] => if path.all isPathChar then some ⟨String.ofList path, none⟩ else none
  | _ :: query =>
      if path.all isPathChar && query.all isQueryChar then
        some ⟨String.ofList path, some (String.ofList query)⟩
      else none

end HttpTarget

structure HttpBody where
  document : Json
  mediaType : String

structure HttpRequest where
  method : HttpMethod
  target : HttpTarget
  body : Option HttpBody := none

structure HttpResponse where
  status : Nat
  body : String
  deriving DecidableEq, Repr, Inhabited

/-- Why no answer came. -/
abbrev TransportFault := String

abbrev HttpAnswer (_ : HttpRequest) := Except TransportFault HttpResponse

abbrev HttpTalk := Dialogue HttpAnswer

namespace HttpTalk

def exchange (request : HttpRequest) : HttpTalk (Except TransportFault HttpResponse) :=
  Dialogue.call request

end HttpTalk

end BindingOperator
