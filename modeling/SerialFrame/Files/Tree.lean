import SerialFrame.Files.Access

/-!
# Trees of files in memory

A tree holds files and directories, one of which is the working directory. A path is a sequence of
names with slashes between them, followed from the root if a slash comes first and from the working
directory otherwise. Empty names and single dots stay where they are, two dots go up, and nothing
lies above the root. Names and paths are limited in length.
-/

namespace SerialFrame

inductive Node
  | file (contents : ByteArray)
  | directory
  /-- Reads as an empty file, and stays empty whatever is written to it. -/
  | sink

/-- A place is the names from the root down. Relative paths start at the place `here`. -/
structure FileTree where
  nodes : List (List String × Node)
  here : List String

namespace FileTree

def fresh : FileTree where
  nodes := [(["tmp", "work"], .directory), (["tmp"], .directory), (["dev", "null"], .sink),
    (["dev"], .directory)]
  here := ["tmp", "work"]

instance : Inhabited FileTree := ⟨fresh⟩

def nameLimit : Nat := 255

def pathLimit : Nat := 4095

def node? (t : FileTree) (place : List String) : Option Node :=
  if place = [] then some .directory else t.nodes.lookup place

inductive Blocked
  | missing
  | notDirectory
  /-- The path or a name in it is too long, or there is a null character in it. -/
  | malformed

def pathNames (path : String) : List String :=
  (path.toList.splitOn '/').map String.ofList

/-- Follows names from a place, each but the last through a directory. -/
def follow (t : FileTree) : List String → List String → Except Blocked (List String)
  | place, [] => .ok place
  | place, name :: rest =>
    match t.node? place with
    | some .directory =>
      if name = "" ∨ name = "." then t.follow place rest
      else if name = ".." then t.follow place.dropLast rest
      else if nameLimit < name.utf8ByteSize then .error .malformed
      else t.follow (place ++ [name]) rest
    | some (.file _) | some .sink => .error .notDirectory
    | none => .error .missing

def resolve (t : FileTree) (path : String) : Except Blocked (List String) :=
  if path = "" then .error .missing
  else if '\x00' ∈ path.toList ∨ pathLimit < path.utf8ByteSize then .error .malformed
  else t.follow (if path.toList.head? = some '/' then [] else t.here) (pathNames path)

def read (t : FileTree) (path : String) : Except ReadFailure ByteArray :=
  match t.resolve path with
  | .ok place =>
    match t.node? place with
    | some (.file contents) => .ok contents
    | some .sink => .ok .empty
    | some .directory => .error .unreadable
    | none => .error .missing
  | .error .missing => .error .missing
  | .error .notDirectory | .error .malformed => .error .unreadable

def put (t : FileTree) (place : List String) (node : Node) : FileTree :=
  { t with nodes := (place, node) :: t.nodes.filter fun entry => entry.1 ≠ place }

/-- Writes a file at a path whose directories exist; none if that is impossible. -/
def write? (t : FileTree) (path : String) (contents : ByteArray) : Option FileTree :=
  match t.resolve path with
  | .ok place =>
    match t.node? place, t.node? place.dropLast with
    | some .directory, _ => none
    | some .sink, _ => some t
    | _, some .directory =>
      if path.toList.getLast? = some '/' then none else some (t.put place (.file contents))
    | _, _ => none
  | .error _ => none

def nameHere? (t : FileTree) (place : List String) : Option String :=
  if place.dropLast = t.here then place.getLast? else none

def files (t : FileTree) : List (String × ByteArray) :=
  t.nodes.filterMap fun (place, node) =>
    match node with
    | .file contents => (t.nameHere? place).map fun name => (name, contents)
    | .directory | .sink => none

def names (t : FileTree) : List String :=
  (t.nodes.filterMap fun (place, _) => t.nameHere? place).mergeSort

def addDirectory (t : FileTree) (path : String) : FileTree :=
  let names := (pathNames path).filter fun name => name ≠ "" ∧ name ≠ "."
  (List.range names.length).foldl
    (fun t i =>
      let place := t.here ++ names.take (i + 1)
      if (t.node? place).isSome then t else t.put place .directory)
    t

def addFile (t : FileTree) (path : String) (contents : ByteArray) : FileTree :=
  let names := pathNames path
  (t.addDirectory ("/".intercalate names.dropLast)).put (t.here ++ names) (.file contents)

end FileTree

instance : FileAccess (StateM FileTree) where
  readFile path := fun t => (t.read path, t)
  writeFile path contents := fun t =>
    match t.write? path contents with
    | some t' => (true, t')
    | none => (false, t)

end SerialFrame
