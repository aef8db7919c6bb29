import Telemetry.Command

/-!
# The files of a machine

What every machine has: some directories, and files that are no programs.  A path is followed part
by part, as far as its parts are there.
-/

namespace Telemetry
namespace Rehearsal
namespace Disk

/-- The directories of every machine, from the top. -/
def directories : List (List String) :=
  [[], ["dev"], ["etc"], ["home"], ["proc"], ["root"], ["sys"], ["tmp"], ["usr"], ["var"]]

/-- The files of every machine, from the top. -/
def files : List (List String) :=
  [["etc", "passwd"], ["dev", "null"]]

/-- The most octets of a part of a path. -/
def partLimit : Nat := 255

/-- The most octets of a path. -/
def pathLimit : Nat := 4095

/-- Follow the parts of a path from a place. -/
def follow : List String → List String → StartProblem
  | _, [] => .denied
  | place, part :: rest =>
      if files.contains place then .noDirectory
      else if part = "" ∨ part = "." then follow place rest
      else if part = ".." then follow place.dropLast rest
      else if partLimit < part.utf8ByteSize then .longName
      else if directories.contains (place ++ [part]) || files.contains (place ++ [part]) then
        follow (place ++ [part]) rest
      else .missing

/-- Follow the parts of a path from a directory with nothing in it. -/
def followHere : List String → StartProblem
  | [] => .denied
  | part :: rest =>
      if ["", ".", ".."].contains part then followHere rest
      else if partLimit < part.utf8ByteSize then .longName
      else .missing

/-- Why a program cannot be started that nobody has put on the machine. -/
def problemOf (program : String) : StartProblem :=
  if program = "" then .missing
  else if pathLimit < program.utf8ByteSize then .longName
  else match program.toList.splitOn '/' with
    | [] :: parts => follow [] (parts.map String.ofList)
    | parts => followHere (parts.map String.ofList)

example : problemOf "/" = .denied := by decide +kernel

example : problemOf "/etc/passwd/tool" = .noDirectory := by decide +kernel

example : problemOf "/no/tool" = .missing := by decide +kernel

end Disk
end Rehearsal
end Telemetry
