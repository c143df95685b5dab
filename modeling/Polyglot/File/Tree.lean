import Polyglot.Failure.Basic
import Polyglot.File.Path
import Polyglot.Text.Quoted

/-!
# File trees

A directory with its files, held in memory: texts by the path below the directory. A double
point in a path leaves a directory, which must exist. A name of more than 255 bytes is refused where
it is reached, and a path of 4096 bytes or more at once.
-/
namespace Polyglot

/-- A directory with files. -/
structure FileTree where
  /-- the parts of the path of the directory -/
  root : List String
  files : List (String × String)

namespace FileTree

/-- The path that some parts make up. -/
def joined (parts : List String) : String := String.intercalate "/" parts

/-- Whether there is a directory at a path below the root. -/
def hasDirectory (t : FileTree) (parts : List String) : Bool :=
  parts.isEmpty || t.files.any fun f => (joined parts ++ "/").toList.isPrefixOf f.1.toList

/-- Where a path leads. -/
inductive Target
  | found (parts : List String)
  | missing
  /-- a name on the way is too long -/
  | tooLong
  deriving DecidableEq, Repr

/-- Follows a path below the root. -/
def follow (t : FileTree) (done : List String) : List String → Target
  | [] => .found done
  | p :: rest =>
      if !t.hasDirectory done then .missing
      else if p = ".." then t.follow done.dropLast rest
      else if 255 < p.utf8ByteSize then .tooLong
      else t.follow (done ++ [p]) rest

def tooLong (path : String) : Failure :=
  .plain .system ("[Errno 36] File name too long: " ++ Text.quotedString path)

def text? (t : FileTree) (path : String) : Except Failure (Option String) :=
  let p := Path.ofString path
  if 4096 ≤ path.utf8ByteSize then .error (tooLong path)
  else if p.absolute ∧ t.root.isPrefixOf p.parts then
    match t.follow [] (p.parts.drop t.root.length) with
    | .found parts => .ok (Entries.get? t.files (joined parts))
    | .missing => .ok none
    | .tooLong => .error (tooLong path)
  else .ok none

end FileTree
end Polyglot
