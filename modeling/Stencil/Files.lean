import Stencil.Encoding
import Stencil.Text.Lines

/-!
# Files

A directory tree as the list of its files, with directories that may be empty. Paths are relative to the
root of the tree; a directory is there when a file or another one of those directories lies below it.
-/

namespace Stencil

/-- A path as its segments. -/
abbrev FilePath := List String

/-- A file with its contents. -/
structure File where
  path : FilePath
  data : List UInt8
  deriving Inhabited

/-- A directory tree. -/
structure Files where
  files : List File := []
  /-- Directories that are there even if no file lies below them. -/
  directories : List FilePath := []
  deriving Inhabited

namespace FilePath

/-- The segments of a path that is written with slashes. -/
def ofText (s : String) : FilePath :=
  ((Text.cutAt '/' s.toList).map String.ofList).filter fun p => p != "" && p != "."

/-- A path written with slashes; the root is a dot. -/
def text (p : FilePath) : String := if p.isEmpty then "." else "/".intercalate p

/-- A path without steps up, as far as they have something to undo. -/
def normal (p : FilePath) : FilePath :=
  (p.foldl (fun (acc : List String) s =>
    if s == ".." then
      match acc with
      | [] => [".."]
      | ".." :: rest => ".." :: ".." :: rest
      | _ :: rest => rest
    else s :: acc) []).reverse

/-- A path relative to a directory that it lies below. -/
def below? (directory p : FilePath) : Option FilePath :=
  if p.length > directory.length && p.take directory.length == directory then
    some (p.drop directory.length)
  else none

end FilePath

namespace Files

/-- The file at a path without steps up. -/
def find? (t : Files) (p : FilePath) : Option File := t.files.find? (·.path == p)

/-- Whether a directory is at a path without steps up. -/
def isDirectory (t : Files) (p : FilePath) : Bool :=
  p.isEmpty || t.files.any (fun f => (p.below? f.path).isSome) ||
    t.directories.any fun d => p == d || (p.below? d).isSome

/-- Follow a path from a directory; a step up needs a directory to leave. -/
def follow (t : Files) (here : FilePath) : FilePath → Option FilePath
  | [] => some here
  | ".." :: rest =>
    if here.isEmpty || !t.isDirectory here then none else t.follow here.dropLast rest
  | s :: rest => t.follow (here ++ [s]) rest

/-- The file at a path. -/
def file? (t : Files) (p : FilePath) : Option File := (t.follow [] p).bind t.find?

/-- Whether a path leads to a file or a directory. -/
def exists? (t : Files) (p : FilePath) : Bool :=
  match t.follow [] p with
  | some q => (t.find? q).isSome || t.isDirectory q
  | none => false

/-- Put a file in its place. -/
def write (t : Files) (p : FilePath) (data : List UInt8) : Files :=
  { t with files := t.files.filter (·.path != p) ++ [⟨p, data⟩] }

/-- Take a file away; the directory that it was in stays. -/
def delete (t : Files) (p : FilePath) : Files :=
  if (t.find? p).isSome then
    { files := t.files.filter (·.path != p), directories := p.dropLast :: t.directories }
  else t

/-- The paths of the files below a directory, relative to it. -/
def below (t : Files) (p : FilePath) : List FilePath :=
  match t.follow [] p with
  | none => []
  | some q => t.files.filterMap fun f => q.below? f.path

/-- The names of the files and directories in a directory. -/
def names (t : Files) (p : FilePath) : List String :=
  match t.follow [] p with
  | none => []
  | some q =>
    ((t.files.map (·.path) ++ t.directories).filterMap fun e => (q.below? e).bind List.head?).eraseDups

end Files

end Stencil
