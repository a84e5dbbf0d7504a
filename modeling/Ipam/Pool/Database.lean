import Ipam.Files
import Ipam.Pool.Store

/-!
# Database files

Pools are kept in one database file.  A missing or empty file becomes a database; a file with
content must be one, and its header says so.

* `Database.isUsable` — whether the content of a file is a database to which tables can be added.
* `FileTree.openDatabase` — whether a store can be opened at a path, or why not.
-/

namespace Ipam

namespace Database

/-! ## The header -/

/-- The bytes with which every database starts. -/
def magic : ByteArray :=
  "SQLite format 3\x00".toUTF8

/-- The number in the `count` bytes from `start` on, the first byte counting most.  Bytes behind the
end are zero. -/
def field (content : ByteArray) (start count : Nat) : Nat :=
  (List.range count).foldl (fun n i => 256 * n + (content.toList.getD (start + i) 0).toNat) 0

/-- The size of a page. -/
def pageSize (content : ByteArray) : Nat :=
  256 * field content 16 1 + 65536 * field content 17 1

/-- The part of a page that is in use. -/
def usableSize (content : ByteArray) : Nat :=
  pageSize content - field content 20 1

/-- The number of pages that a file has room for, the last one possibly cut off. -/
def filePages (content : ByteArray) : Nat :=
  (content.size + pageSize content - 1) / pageSize content

/-- The number of pages that a database says it has.  The header counts only if it was written last
by someone who knew that it counts. -/
def pageCount (content : ByteArray) : Nat :=
  let stated := field content 28 4
  if stated = 0 ∨ field content 24 4 ≠ field content 92 4 then filePages content else stated

/-- Whether a file starts with the header of a database that can be written. -/
def hasHeader (content : ByteArray) : Bool :=
  content.toList.take 16 == magic.toList
    && field content 18 1 ≤ 2 && field content 19 1 ≤ 2
    && field content 21 3 == 0x402020
    && [512, 1024, 2048, 4096, 8192, 16384, 32768, 65536].contains (pageSize content)
    && 480 ≤ usableSize content
    && pageCount content ≤ filePages content
    && field content 44 4 ≤ 4
    && field content 52 4 ≤ pageCount content

/-- Whether the list of tables is an empty page with room for more, and no pages wait to be used
again. -/
def hasNoTables (content : ByteArray) : Bool :=
  let start := if field content 105 2 = 0 then 65536 else field content 105 2
  field content 36 4 == 0 && field content 100 1 == 0x0D && field content 101 4 == 0
    && 108 ≤ start && start + field content 107 1 ≤ usableSize content

/-- Whether the content of a file is a database to which tables can be added.  A file of a single
byte counts as empty. -/
def isUsable (content : ByteArray) : Bool :=
  content.size ≤ 1 || (hasHeader content && hasNoTables content)

/-! ## Opening -/

/-- The ends of the names of the files that are kept beside a database. -/
def companions : List String :=
  ["-journal", "-wal", "-shm"]

/-- The number of bytes that the path of a database may have. -/
def maxPathLength : Nat :=
  504

/-- The number of bytes of the path to a place. -/
def placeLength (place : List String) : Nat :=
  place.foldl (fun n name => n + name.utf8ByteSize + 1) 0

/-- Whether the files beside a database can be kept at a place. -/
def canHaveCompanions (t : FileTree) (place : List String) : Bool :=
  let directory := FileTree.parent place
  let name := place.getLast?.getD ""
  companions.all fun companion =>
    (name ++ companion).utf8ByteSize ≤ maxNameLength
      && !((t.node? (directory ++ [name ++ companion])).any FileNode.isDirectory)

/-- Whether a database can be opened at a place whose directory is there. -/
def canOpen (t : FileTree) (place : List String) : Bool :=
  placeLength place ≤ maxPathLength && canHaveCompanions t place &&
    match t.node? place with
    | none => !(t.node? (FileTree.parent place) matches some .closedDirectory)
    | some (.file content) => isUsable content
    | some _ => false

end Database

/-- Opens a store at a path: makes the directories on the way, then the database. -/
def FileTree.openDatabase (t : FileTree) (path : String) : Except StoreError Unit :=
  let parts := components path
  let way := parts.dropLast
  if way.any (·.contains '\x00') || (!way.isEmpty && maxPathLength < path.utf8ByteSize) then
    .error .noDirectory
  else
    match t.makeWay [] way, parts.getLast? with
    | none, _ => .error .noDirectory
    | _, none => .error .notADatabase
    | some (t, place), some name =>
      if !name.contains '\x00' && Database.canOpen t (step place name) then .ok ()
      else .error .notADatabase

end Ipam
