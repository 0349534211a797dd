import RCart.Files.Path

/-!
A directory and what is in it.

Paths are taken from the directory itself. On the way along a path every part but the last has to be
a folder. Of what lies outside the directory only the folders on the way to it are known, and not by
name.

* `Node`: files, and folders with what is in them;
* `FileTree`: a directory, seen from the root;
* `FileTree.walk`: the nodes on the way along a path;
* `FileTree.read`, `write`: the content of a file;
* `FileTree.makeFolders`: the folders along a path;
* `FileTree.openLog`: a file to append to, with the folders on the way to it.
-/

namespace RCart

/-- The content of a file. -/
abbrev Bytes := List UInt8

/-! ### Nodes -/

/-- A folder with what is in it, or a file. -/
inductive Node where
  | folder (entries : List (String × Node))
  | file (content : Bytes)

namespace Node

/-- Whether a node is a folder. -/
def isFolder : Node → Bool
  | folder _ => true
  | file _ => false

/-- What stands under a name. -/
def entry? (name : String) : Node → Option Node
  | folder entries => entries.lookup name
  | file _ => none

/-- Puts a node under a name. -/
def setEntry (name : String) (child : Node) : Node → Node
  | folder entries => folder ((name, child) :: entries.filter fun (n, _) => n ≠ name)
  | file content => file content

/-- Puts a node at the end of names, if the way there is made of folders. -/
def put (child : Node) : List String → Node → Node
  | [], _ => child
  | name :: rest, node =>
    match rest, node.entry? name with
    | [], _ => setEntry name child node
    | _ :: _, some inner => setEntry name (put child rest inner) node
    | _ :: _, none => node

/-- What stands at the end of names. -/
def get? : List String → Node → Option Node
  | [], node => some node
  | name :: rest, node => (node.entry? name).bind (get? rest)

end Node

/-! ### Walking -/

/-- The nodes on a way, each with its name, the last first. -/
abbrev Trail := List (String × Node)

/-- The names on a way, the first first. -/
def Trail.place (trail : Trail) : List String :=
  (trail.map (·.1)).reverse

/-- A directory, seen from the root. The names of the directory and of the folder around it are
empty, so that no path can name them. -/
structure FileTree where
  root : Node := .folder [("", .folder [("", .folder [])])]

namespace FileTree

/-- The names on the way to the directory. -/
def home : List String := ["", ""]

/-- Where a way has come. -/
def reached (t : FileTree) (trail : Trail) : Node :=
  match trail with
  | [] => t.root
  | (_, node) :: _ => node

/-- What stands under a name at the end of a way, if anything. -/
def look (t : FileTree) (trail : Trail) (name : String) : Except Refusal (Option Node) :=
  match t.reached trail with
  | .file _ => .error .notFolder
  | .folder entries =>
    if Path.maxName < name.utf8ByteSize then .error .tooLong else .ok (entries.lookup name)

/-- Goes on along names. Two dots lead back; at the root they lead nowhere else. -/
def walkOn (t : FileTree) : Trail → List String → Except Refusal Trail
  | trail, [] => .ok trail
  | trail, name :: rest =>
    if name = "." ∨ name = ".." then
      if (t.reached trail).isFolder then walkOn t (if name = "." then trail else trail.tail) rest
      else .error .notFolder
    else
      match t.look trail name with
      | .ok (some node) => walkOn t ((name, node) :: trail) rest
      | .ok none => .error .notFound
      | .error refusal => .error refusal

/-- Goes along names from the root or from the directory. -/
def walk (t : FileTree) (rooted : Bool) (names : List String) : Except Refusal Trail :=
  t.walkOn [] (if rooted then names else home ++ names)

/-- Goes along names to a folder. -/
def walkToFolder (t : FileTree) (rooted : Bool) (names : List String) : Except Refusal Trail :=
  t.walk rooted (names ++ ["."])

/-- Puts a node under a name at the end of a way. -/
def putAt (t : FileTree) (place : List String) (node : Node) : FileTree :=
  ⟨node.put place t.root⟩

/-- Whether a path leads to a folder. -/
def isFolder (t : FileTree) (path : Path) : Bool :=
  path.refusal?.isNone && (t.walkToFolder path.rooted path.names).toBool

/-! ### Files -/

/-- The content of a file. A slash at the end of a path asks for a folder. -/
def read (t : FileTree) (path : String) : Except Refusal Bytes :=
  let path := Path.ofString path
  match path.refusal? with
  | some refusal => .error refusal
  | none => do
    let trail ←
      if path.slashed then t.walkToFolder path.rooted path.names else t.walk path.rooted path.names
    match t.reached trail with
    | .file content => .ok content
    | .folder _ => .error .isFolder

/-- The place of a file that is there or can be made, and whether it is there. A slash at the end of
a path asks for a folder, whatever is there. -/
def placeOfFile (t : FileTree) (path : Path) : Except Refusal (List String × Bool) :=
  match path.refusal?, path.parts.getLast? with
  | some refusal, _ => .error refusal
  | none, none => .error .isFolder
  | none, some last => do
    let trail ← t.walkToFolder path.rooted path.names.dropLast
    if path.slashed || last.isDots then .error .isFolder
    else
      match ← t.look trail last.name with
      | some (.folder _) => .error .isFolder
      | found => .ok (trail.place ++ [last.name], found.isSome)

/-- Gives a file its content, and makes it if it is missing. -/
def write (t : FileTree) (path : String) (content : Bytes) : Except Refusal FileTree := do
  let (place, _) ← t.placeOfFile (Path.ofString path)
  .ok (t.putAt place (.file content))

/-- Adds bytes to the end of the file at a place. -/
def append (t : FileTree) (place : List String) (content : Bytes) : FileTree :=
  match t.root.get? place with
  | some (.file before) => t.putAt place (.file (before ++ content))
  | _ => t

/-! ### Folders -/

/-- Makes a folder where there is nothing. -/
def makeFolder (t : FileTree) (path : Path) : Except Refusal FileTree :=
  match path.refusal?, path.parts.getLast? with
  | some refusal, _ => .error refusal
  | none, none => .error .alreadyThere
  | none, some last => do
    let trail ← t.walkToFolder path.rooted path.names.dropLast
    if last.isDots then .error .alreadyThere
    else
      match ← t.look trail last.name with
      | some _ => .error .alreadyThere
      | none => .ok (t.putAt (trail.place ++ [last.name]) (.folder []))

/-- The tree after a folder was to be made. A refusal does not count if the folder is there. -/
def settle (t : FileTree) (path : Path) : Except Refusal FileTree → FileTree × Option Refusal
  | .ok t => (t, none)
  | .error refusal => if t.isFolder path then (t, none) else (t, some refusal)

/-- Makes the folder at the end of parts, given the last first. Those around it are made only if it
finds no place without them; those that were made stay. -/
def makeFolders (t : FileTree) (rooted : Bool) : List Part → FileTree × Option Refusal
  | [] => (t, none)
  | part :: before =>
    let path := Path.upTo rooted part before
    match t.makeFolder path with
    | .error .notFound =>
      match t.makeFolders rooted before with
      | (t, none) => t.settle path (t.makeFolder path)
      | (t, some refusal) => (t, some refusal)
    | made => t.settle path made

/-- Makes the folders on the way to a file, then the file if it is missing. The place of the file,
or why there is none; folders that were made stay. A dot is no place of its own, so the last other
part is taken for the file's name. -/
def openLog (t : FileTree) (path : String) : FileTree × Except Refusal (List String) :=
  let path := Path.ofString path
  match t.makeFolders path.rooted ((path.parts.filter (!·.isDot)).reverse.drop 1) with
  | (t, some refusal) => (t, .error refusal)
  | (t, none) =>
    match t.placeOfFile path with
    | .error refusal => (t, .error refusal)
    | .ok (place, found) => (if found then t else t.putAt place (.file []), .ok place)

/-- A directory with the given folders and files, and the folders on the way to them. -/
def ofLists (folders : List String) (files : List (String × Bytes)) : FileTree :=
  let t := folders.foldl
    (fun (t : FileTree) path => (t.makeFolders false (Path.ofString path).parts.reverse).1) {}
  files.foldl (fun (t : FileTree) (path, content) =>
    let (t, place) := t.openLog path
    match place with
    | .ok place => t.putAt place (.file content)
    | .error _ => t) t

end FileTree

end RCart
