import LineCalculator.Text.Lines

/-!
# A directory of files

The working directory of a run: files under plain names, and no directories inside. Of the
directories outside nothing is known but that they are there.
-/
namespace LineCalculator

structure Directory where
  files : List (String × List UInt8) := []

namespace Directory

/-- A directory with these files; of two under one name the later one stays. -/
def ofFiles (files : List (String × List UInt8)) : Directory := ⟨files.reverse⟩

/-- The directory that a path has led to. -/
inductive Whereabouts where
  | working
  | outside
  deriving DecidableEq, Repr

def nameLimit : Nat := 255

def pathLimit : Nat := 4095

def walk (d : Directory) : Whereabouts → List String → Except Fault Input
  | _, [] => .ok .directory
  | here, part :: rest =>
    if part = "" || part = "." then d.walk here rest
    else if part = ".." then d.walk .outside rest
    else if nameLimit < part.utf8ByteSize then .error .nameTooLong
    else
      match here with
      | .outside => .error .notFound
      | .working =>
        match d.files.lookup part with
        | none => .error .notFound
        | some bytes => if rest.isEmpty then .ok (.content bytes) else .error .notADirectory

/-- Open a path for reading. A path that begins with a slash begins outside. -/
def openPath (d : Directory) (path : String) : Except Fault Input :=
  if path.isEmpty then .error .notFound
  else if path.contains '\x00' then .error .invalidName
  else if pathLimit < path.utf8ByteSize then .error .nameTooLong
  else d.walk (if path.toList.head? = some '/' then .outside else .working) (path.splitOn "/")

end Directory

end LineCalculator
