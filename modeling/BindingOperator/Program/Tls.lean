import BindingOperator.Program.File

/-!
What the admission server needs before it can answer: a certificate and a private key. The
certificate is read first. The key file may hold other sections, but one private key.
-/

namespace BindingOperator

inductive TlsFailure where
  | unreadable (path : String) (fault : FileFault)
  /-- The key file holds no private key, or several. -/
  | unsupportedKey
  deriving DecidableEq, Repr

namespace TlsFailure

def message : TlsFailure → String
  | .unreadable path fault => "failed to read from file `" ++ path ++ "`: " ++ fault.text
  | .unsupportedKey => "private key format not supported"

end TlsFailure

def privateKeyLabels : List String := ["RSA PRIVATE KEY", "EC PRIVATE KEY", "PRIVATE KEY"]

/-- The labels of the sections that begin and end, line by line; an open one may precede. -/
def sectionLabels : Option String → List String → List String
  | _, [] => []
  | none, line :: rest =>
      sectionLabels (privateKeyLabels.find? fun label =>
        line = "-----BEGIN " ++ label ++ "-----") rest
  | some label, line :: rest =>
      if line = "-----END " ++ label ++ "-----" then label :: sectionLabels none rest
      else sectionLabels (some label) rest

def privateKeys (text : String) : List String :=
  sectionLabels none ((text.splitOn "\n").map fun line => line.trimAscii.toString)

def loadTls (certificate key : String) : FileTalk (Except TlsFailure Unit) := do
  match ← FileTalk.read certificate with
  | .error fault => pure (.error (.unreadable certificate fault))
  | .ok _ =>
      match ← FileTalk.read key with
      | .error fault => pure (.error (.unreadable key fault))
      | .ok text =>
          if (privateKeys text).length = 1 then pure (.ok ())
          else pure (.error .unsupportedKey)

/-- What is said when the server cannot start: what was tried, then the cause. -/
def serverFailure (certificate : String) (failure : TlsFailure) : List String :=
  ["loading TLS config from " ++ certificate, failure.message]

end BindingOperator
