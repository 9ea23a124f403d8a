import TunnelKeeper.Config.Error

/-!
Files and directories below a working directory, as far as reading and writing one file needs them.

A path is walked name by name. A single dot stays where it is, two dots go up, but both only from a
directory. A path that ends in a slash names a directory.
-/

namespace TunnelKeeper

/-- A file or a directory. -/
inductive Node where
  | file (bytes : ByteArray)
  | directory

/-- A place below the working directory: the names on the way, the innermost first. -/
abbrev Place := List String

/-- What there is at each place. The working directory itself is always there. -/
structure Files where
  nodes : List (Place × Node) := []

namespace Files

/-- What stands at a place. -/
def node? (files : Files) (place : Place) : Option Node :=
  if place = [] then some .directory else files.nodes.lookup place

/-- The names of a path. -/
def names (path : String) : List String :=
  (path.toList.splitOn '/').map String.ofList

/-- A path that the file system takes at all. -/
def checkPath (path : String) : Except FileFault Unit :=
  if '\x00' ∈ path.toList then .error .nulInName
  else if path = "" then .error .noEntry
  else if 4096 ≤ path.utf8ByteSize then .error .nameTooLong
  else .ok ()

/-- One name further, from a place that must be a directory. -/
def enter (files : Files) (place : Place) (name : String) : Except FileFault Place :=
  match files.node? place with
  | none => .error .noEntry
  | some (.file _) => .error .notDirectory
  | some .directory =>
    if name = "" ∨ name = "." then .ok place
    else if name = ".." then .ok (place.drop 1)
    else if 255 < name.utf8ByteSize then .error .nameTooLong
    else .ok (name :: place)

/-- The place that names lead to. The last of them need not exist. -/
def walk (files : Files) : Place → List String → Except FileFault Place
  | place, [] => .ok place
  | place, name :: rest => do walk files (← files.enter place name) rest

/-- The place that a path leads to. -/
def locate (files : Files) (path : String) : Except FileFault Place := do
  checkPath path
  walk files [] (names path)

def put (files : Files) (place : Place) (node : Node) : Files :=
  ⟨(place, node) :: files.nodes⟩

/-- The bytes of a file. -/
def read (files : Files) (path : String) : Except FileFault ByteArray := do
  match files.node? (← files.locate path) with
  | none => .error .noEntry
  | some .directory => .error .isDirectory
  | some (.file bytes) => .ok bytes

/-- A file stands where a path leads to. -/
def isFile (files : Files) (path : String) : Bool :=
  match files.read path with
  | .ok _ => true
  | .error _ => false

/-- A file with new bytes, in a directory that exists. -/
def write (files : Files) (path : String) (bytes : ByteArray) : Except FileFault Files := do
  checkPath path
  let all := names path
  let named := (all.reverse.dropWhile (· = "")).reverse
  let parent ← walk files [] named.dropLast
  let place ← files.enter parent (named.getLast?.getD "")
  if named.length < all.length then .error .isDirectory
  else
    match files.node? place with
    | some .directory => .error .isDirectory
    | _ => .ok (files.put place (.file bytes))

/-- One directory more, at a place that names lead to. -/
def makeDirectory (files : Files) (path : List String) : Except FileFault Files := do
  let place ← walk files [] path
  match files.node? place with
  | some _ => .error .exists
  | none => .ok (files.put place .directory)

/-- The names lead to a directory. -/
def isDirectory (files : Files) (path : List String) : Bool :=
  match walk files [] path with
  | .ok place => match files.node? place with
    | some .directory => true
    | _ => false
  | .error _ => false

/-- A directory, and all that are missing above it. The names are given in reverse. -/
def makeDirectories (files : Files) : List String → Except FileFault Files
  | [] => .ok files
  | name :: above =>
    let path := (name :: above).reverse
    match files.makeDirectory path with
    | .ok files => .ok files
    | .error .noEntry => do
      let files ← makeDirectories files above
      match files.makeDirectory path with
      | .ok files => .ok files
      | .error fault => if files.isDirectory path then .ok files else .error fault
    | .error fault => if files.isDirectory path then .ok files else .error fault

/-- The names of the directory that a path lies in: empty names and single dots after the first
name do not count. -/
def parentNames (path : String) : List String :=
  match names path with
  | [] => []
  | first :: rest => (first :: rest.filter fun name => name ≠ "" ∧ name ≠ ".").dropLast

end Files

end TunnelKeeper
