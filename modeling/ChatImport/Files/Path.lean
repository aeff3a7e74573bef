import ChatImport.Text.Cut
/-!
# Paths

A path is a text: names with slashes between them. A path that begins with a
slash starts at the root of all files, any other at the directory where the
run takes place.
-/

namespace ChatImport

namespace Path

/-- Does the path start at the root? -/
def fromRoot (path : String) : Bool := path.toList.head? == some '/'

/-- The path of a name below a directory. A name that starts at the root
stands for itself. -/
def join (dir name : String) : String :=
  if fromRoot name || dir.isEmpty then name
  else if dir.toList.getLast? == some '/' then dir ++ name
  else dir ++ "/" ++ name

/-- What stands between the slashes. -/
def parts (path : String) : List String := (splitAtAll '/' path.toList).map String.ofList

/-- The parts of a path without the empty ones at its end. -/
def solidParts (path : String) : List String :=
  ((parts path).reverse.dropWhile String.isEmpty).reverse

/-- The paths that lead to a path step by step, the path itself last. An empty
part is no step of its own, and a single point is one only in front. -/
def steps (path : String) : List String :=
  let parts := parts path
  let ends := parts.zipIdx.filter fun part => part.1 ≠ "" ∧ (part.1 ≠ "." ∨ part.2 = 0)
  ends.dropLast.map (fun part => "/".intercalate (parts.take (part.2 + 1))) ++ [path]

/-- The end of the name of a file that tells its type: what follows the last
point, unless nothing stands before that point. -/
def typeEnding? (name : String) : Option String :=
  let back := name.toList.reverse
  match splitAtFirst '.' back with
  | (ending, some (_ :: _)) => some (String.ofList ending.reverse)
  | _ => none

end Path

end ChatImport
