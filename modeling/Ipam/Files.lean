import Ipam.Text.Split

/-!
# Files

A store is kept in a database file, and credentials in files of a directory.  What a file system
holds is a value; a path is walked through it name by name.

* `FileTree` — what a file system holds before the controller starts.
* `FileTree.locate` — where a path leads, or why it leads nowhere.
* `FileTree.makeWay` — makes the directories of a path that are missing.
* `FileTree.readText` — the text of a file.
-/

namespace Ipam

/-- What a path of a directory holds. -/
inductive FileNode where
  | directory
  /-- A directory in which nothing can be made. -/
  | closedDirectory
  | file (content : ByteArray)
  /-- Something that is neither a directory nor keeps what is written to it. -/
  | device

/-- Whether names can be looked up in a node. -/
def FileNode.isDirectory : FileNode → Bool
  | .directory | .closedDirectory => true
  | .file _ | .device => false

/-- The files and directories below some directory, by the names on the way to them.  The first name
of an absolute path is a slash. -/
structure FileTree where
  nodes : List (List String × FileNode)

/-- Why a path leads nowhere. -/
inductive PathFault where
  /-- A name is not there. -/
  | missing
  /-- A name is looked up in something that is no directory. -/
  | notDirectory
  /-- A name or the whole path is too long. -/
  | tooLong
deriving DecidableEq

/-! ## Paths -/

/-- The path of a name in a directory; an absolute path stays as it is. -/
def joinPath (directory name : String) : String :=
  if name.startsWith "/" then name
  else if directory.endsWith "/" then directory ++ name
  else directory ++ "/" ++ name

/-- The number of bytes that a name may have. -/
def maxNameLength : Nat :=
  255

/-- The number of bytes that a path may have. -/
def maxPathLength : Nat :=
  4095

namespace FileTree

/-- The names of a path; empty ones and the sign of the current directory do not count. -/
def components (path : String) : List String :=
  let names := ((Text.splitOn '/' path.toList).map String.ofList).filter fun c => c ≠ "" ∧ c ≠ "."
  if path.startsWith "/" then "/" :: names else names

/-- The directory that holds a place; the outermost one holds itself. -/
def parent (place : List String) : List String :=
  if place.length ≤ 1 then place else place.dropLast

/-- The place of one name seen from another place. -/
def step (place : List String) (name : String) : List String :=
  if name = ".." then parent place else place ++ [name]

/-- What every file system holds: a device that holds nothing, and directories that show processes
and hardware. -/
def everywhere : FileTree :=
  ⟨[(["/", "dev", "null"], .device), (["/", "proc"], .closedDirectory),
    (["/", "sys"], .closedDirectory)]⟩

/-- What is at a place.  The directories on the way to a node are there, too. -/
def node? (t : FileTree) (place : List String) : Option FileNode :=
  match t.nodes.lookup place with
  | some node => some node
  | none =>
    if place = [] ∨ (t.nodes.any fun node => place.isPrefixOf node.1) then some .directory else none

/-- Where the names of a path lead from a place. -/
def locate (t : FileTree) (place : List String) : List String → Except PathFault (List String)
  | [] => if (t.node? place).isSome then .ok place else .error .missing
  | name :: rest =>
    match t.node? place with
    | none => .error .missing
    | some node =>
      if !node.isDirectory then .error .notDirectory
      else if maxNameLength < name.utf8ByteSize then .error .tooLong
      else t.locate (step place name) rest

/-- Makes the directories on a way from a place, as far as they are missing.  Answers where the way
ends, none if something is in the way. -/
def makeWay (t : FileTree) (place : List String) :
    List String → Option (FileTree × List String)
  | [] => some (t, place)
  | name :: rest =>
    let next := step place name
    match t.node? next with
    | some node => if node.isDirectory then t.makeWay next rest else none
    | none =>
      if maxNameLength < name.utf8ByteSize ∨ t.node? place matches some .closedDirectory then none
      else makeWay ⟨(next, .directory) :: t.nodes⟩ next rest

/-- The text of the file at a path, none if there is no such file.  A directory, a path through a
file and a content that is not UTF-8 cannot be read. -/
def readText (t : FileTree) (path : String) : Except Unit (Option String) :=
  if path.contains '\x00' ∨ maxPathLength < path.utf8ByteSize then .error ()
  else
    match t.locate [] (components path) with
    | .error .missing => .ok none
    | .error _ => .error ()
    | .ok place =>
      match t.node? place with
      | some (.file content) =>
        match String.fromUTF8? content with
        | some text => .ok (some text)
        | none => .error ()
      | _ => .error ()

end FileTree

end Ipam
