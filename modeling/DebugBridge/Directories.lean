import DebugBridge.Text.Pieces

/-!
# Directories

A path leads to a file by names with a slash between any two: each but the last is a directory that
is entered, and the last is the file's own. Whether a file can be put at a path depends on the
directories alone, since a file that is there already is replaced.
-/

namespace DebugBridge

/-- The directories of a file system, each given by the names that lead to it from the root. -/
structure Directories where
  /-- Those that take files. -/
  writable : List (List String)
  /-- Those that take none. -/
  readOnly : List (List String)
  /-- The directory that a path starts from unless it begins with a slash. -/
  working : List String
  deriving Repr, DecidableEq

namespace Directories

/-- The most bytes of a name. -/
def longestName : Nat := 255

/-- The most bytes of a path. -/
def longestPath : Nat := 4095

def has (d : Directories) (place : List String) : Bool :=
  d.writable.contains place || d.readOnly.contains place

/-- Names that lead from a directory to itself or out of it, and never to a file. -/
def isStep (name : String) : Bool := name = "" || name = "." || name = ".."

/-- Where a name leads from a directory, if to a directory at all. Nothing leads out of the root. -/
def enter (d : Directories) (place : List String) (name : String) : Option (List String) :=
  if name = ".." then some place.dropLast
  else if isStep name then some place
  else
    let inner := place ++ [name]
    if d.has inner then some inner else none

/-- The names on a path. -/
def names (path : String) : List String := (Text.pieces '/' path.toList).map String.ofList

/-- Where a path starts. -/
def start (d : Directories) (path : String) : List String :=
  if path.toList.head? = some '/' then [] else d.working

/-- Whether a path can be looked up at all. -/
def isProper (path : String) : Bool :=
  path.utf8ByteSize ≤ longestPath && !path.toList.contains '\x00'
    && (names path).all fun name => name.utf8ByteSize ≤ longestName

/-- Whether a file can be put at a path. -/
def admits (d : Directories) (path : String) : Bool :=
  let own := (names path).getLastD ""
  isProper path && !isStep own &&
    match (names path).dropLast.foldlM d.enter (d.start path) with
    | some place => d.writable.contains place && !d.has (place ++ [own])
    | none => false

/-- The directories of the customary layout. The two that show the state of the machine take no
files, and work is done in the one for passing files. -/
def customary : Directories where
  writable := [
    [], ["bin"], ["boot"], ["dev"], ["dev", "pts"], ["dev", "shm"], ["etc"], ["home"], ["lib"],
    ["media"], ["mnt"], ["opt"], ["root"], ["run"], ["sbin"], ["srv"], ["tmp"], ["usr"],
    ["usr", "bin"], ["usr", "lib"], ["usr", "local"], ["usr", "local", "bin"],
    ["usr", "local", "lib"], ["usr", "sbin"], ["usr", "share"], ["var"], ["var", "cache"],
    ["var", "lib"], ["var", "log"], ["var", "tmp"]]
  readOnly := [["proc"], ["sys"]]
  working := ["tmp"]

end Directories
end DebugBridge
