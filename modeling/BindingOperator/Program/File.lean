import BindingOperator.Dialogue

/-!
Reading files. A program asks for the text of a path; who answers is left open. A fault is
told in the words of the operating system, with its number.
-/

namespace BindingOperator

inductive FileFault where
  | missing
  | directory
  /-- A part of the path that leads on is no directory. -/
  | throughFile
  | denied
  | other (text : String)
  deriving DecidableEq, Repr, Inhabited

namespace FileFault

def text : FileFault → String
  | .missing => "No such file or directory (os error 2)"
  | .directory => "Is a directory (os error 21)"
  | .throughFile => "Not a directory (os error 20)"
  | .denied => "Permission denied (os error 13)"
  | .other text => text

end FileFault

abbrev FileAnswer (_ : String) := Except FileFault String

abbrev FileTalk := Dialogue FileAnswer

namespace FileTalk

def read (path : String) : FileTalk (Except FileFault String) :=
  Dialogue.call path

end FileTalk

structure Directory where
  path : String
  files : List (String × String)

namespace Directory

/-- The parts of a path below the directory; a path that is not absolute starts in it. -/
def parts? (directory : Directory) (path : String) : Option (List String) :=
  let parts := path.splitOn "/"
  let own := directory.path.splitOn "/"
  if path.isEmpty then none
  else if own.isPrefixOf parts then some (parts.drop own.length)
  else if parts.head? = some "" then none
  else some parts

def stays (part : String) : Bool := part = "" || part = "."

def entries (directory : Directory) : List (List String × String) :=
  directory.files.map fun file => (file.1.splitOn "/", file.2)

/-- The text that a path leads to. A file is found behind its last step only. -/
def read (directory : Directory) (path : String) : Except FileFault String :=
  match directory.parts? path with
  | none => .error .missing
  | some parts =>
      let steps := parts.filter fun part => !stays part
      let names := directory.entries.map Prod.fst
      match directory.entries.lookup steps with
      | some text => if parts.getLast?.any stays then .error .throughFile else .ok text
      | none =>
          if steps.isEmpty || names.any steps.isPrefixOf then .error .directory
          else if names.any (·.isPrefixOf steps) then .error .throughFile
          else .error .missing

end Directory

end BindingOperator
