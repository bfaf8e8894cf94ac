import Datacube.Text.Pieces

namespace Datacube

-- What there is under a path.
inductive FileEntry where
  | text (content : String)
  | directory
  | missing
  | unreadable (reason : String)
deriving DecidableEq, Repr

namespace FileEntry

-- The text of a file, or why there is none.
def read : FileEntry → Except String String
  | text content => .ok content
  | directory => .error "Is a directory (os error 21)"
  | missing => .error "No such file or directory (os error 2)"
  | unreadable reason => .error reason

def isMissing : FileEntry → Bool
  | missing => true
  | _ => false

def isDirectory : FileEntry → Bool
  | directory => true
  | _ => false

end FileEntry

-- A way to look up what there is under a path.
abbrev FileSystem (m : Type → Type) := String → m FileEntry

def joinPath (dir file : String) : String :=
  if dir = "" ∨ dir.toList.getLast? = some '/' then dir ++ file else dir ++ "/" ++ file

-- Files in memory, by their paths from the working directory.
structure FileTree where
  files : List (String × String) := []
deriving Repr

namespace FileTree

-- A place in the tree by the names that lead to it, or anywhere outside of it.
inductive Location where
  | inside (names : List String)
  | outside
deriving DecidableEq, Repr

def Location.parent : Location → Location
  | inside [] | outside => outside
  | inside names => inside names.dropLast

-- What is at a place. A directory is there if a file lies below it, and the working directory and
-- what is outside always are.
def lookup (t : FileTree) : Location → FileEntry
  | .outside => .directory
  | .inside names =>
    let files := t.files.map fun (path, content) =>
      ((Text.splitAt '/' path).filter fun name => name ≠ "" ∧ name ≠ ".", content)
    match files.lookup names with
    | some content => .text content
    | none =>
      if names = [] ∨ files.any (fun (p, _) => names.isPrefixOf p) then .directory else .missing

-- Nothing outside of the tree is known by name.
def child (t : FileTree) (place : Location) (name : String) : Option Location :=
  match place with
  | .outside => none
  | .inside names =>
    let place := .inside (names ++ [name])
    if (t.lookup place).isMissing then none else some place

-- Follow the names of a path. An empty name and a single dot stay in the same directory, two dots
-- go back, and nothing lies below a file.
def follow (t : FileTree) : Location → List String → FileEntry
  | place, [] => t.lookup place
  | place, name :: rest =>
    if !(t.lookup place).isDirectory then .unreadable "Not a directory (os error 20)"
    else if name = "" ∨ name = "." then t.follow place rest
    else if name = ".." then t.follow place.parent rest
    else
      match t.child place name with
      | some place => t.follow place rest
      | none => .missing

-- What there is under a path from the working directory or, behind a slash, from the outermost one.
def entry (t : FileTree) (path : String) : FileEntry :=
  if path = "" then .missing
  else
    let names := Text.splitAt '/' path
    t.follow (if names.head? = some "" then .outside else .inside []) names

end FileTree

end Datacube
