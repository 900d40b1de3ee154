import BindingOperator.Http.MediaType
import BindingOperator.Webhook.Admission

/-!
The endpoints of the admission server. A path that is not served, a method that is not
meant for a path, and a body of another type are turned down before the body is read.
-/

namespace BindingOperator

structure IncomingRequest where
  method : String
  path : String
  mediaType : Option String
  body : String

inductive ReplyBody where
  | empty
  | text (text : String)
  | document (document : Json)

structure Reply where
  status : Nat
  body : ReplyBody := .empty

namespace Reply

def refused (status : Nat) : Reply := { status }

def ofReviewFault : ReviewFault → Reply
  | .malformed => refused 400
  | .undecodable => refused 422

def noRequest : Reply where
  status := 400
  body := .document (Json.record [("error",
    some (.string "failed to convert AdmissionReview into AdmissionRequest"))])

end Reply

abbrev EndpointTalk := AdmissionTalk (Except NamelessObject Reply)

def answerReview (request : IncomingRequest)
    (respond : AdmissionRequest → AdmissionTalk (Except NamelessObject AdmissionResponse)) :
    EndpointTalk :=
  if !(request.mediaType.bind MediaType.parse?).any MediaType.isJson then
    pure (.ok (Reply.refused 415))
  else
    match AdmissionReview.parse request.body with
    | .error fault => pure (.ok (Reply.ofReviewFault fault))
    | .ok review =>
        match review.request with
        | none => pure (.ok Reply.noRequest)
        | some asked => do
            match ← respond asked with
            | .error nameless => pure (.error nameless)
            | .ok response =>
                pure (.ok { status := 200, body := .document (response.inReview review) })

def onlyPost (request : IncomingRequest) (serve : EndpointTalk) : EndpointTalk :=
  if request.method = "POST" then serve else pure (.ok (Reply.refused 405))

/-- Tells that the server is up; asked for the head alone, the body is left out. -/
def healthReply (method : String) : Reply :=
  if method = "GET" then { status := 200, body := .text "ok" }
  else if method = "HEAD" then { status := 200, body := .text "" }
  else .refused 405

def serveAdmission (projector : Projector) (request : IncomingRequest) : EndpointTalk :=
  if request.path = "/projector" then
    onlyPost request (answerReview request fun asked => do
      let response ← projectRequest projector asked
      pure (.ok response))
  else if request.path = "/trigger" then
    onlyPost request (answerReview request triggerRequest)
  else if request.path = "/healthz" then pure (.ok (healthReply request.method))
  else pure (.ok (Reply.refused 404))

end BindingOperator
