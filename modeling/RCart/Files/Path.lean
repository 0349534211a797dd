/-!
Paths as they are written.

* `Refusal`: why a file or folder is refused;
* `Path`: a path, part by part, with the number of bytes up to the end of each part;
* `Path.refusal?`: the paths that are refused wherever they lead.
-/

namespace RCart

/-! ### Refusals -/

/-- Why a file or folder is refused. -/
inductive Refusal where
  /-- There is nothing at the path. -/
  | notFound
  /-- A folder stands where a file is wanted. -/
  | isFolder
  /-- A file stands where a folder is wanted. -/
  | notFolder
  /-- Something stands where a folder is to be made. -/
  | alreadyThere
  /-- The path or a name in it is too long. -/
  | tooLong
  /-- The path holds a NUL. -/
  | holdsNul
  /-- The file holds no text. -/
  | notText
  deriving DecidableEq, Repr

/-- A refusal in words. -/
def Refusal.words : Refusal → String
  | notFound => "No such file or directory (os error 2)"
  | isFolder => "Is a directory (os error 21)"
  | notFolder => "Not a directory (os error 20)"
  | alreadyThere => "File exists (os error 17)"
  | tooLong => "File name too long (os error 36)"
  | holdsNul => "file name contained an unexpected NUL byte"
  | notText => "stream did not contain valid UTF-8"

/-! ### Paths -/

/-- A part of a path. -/
structure Part where
  /-- What stands there: a name, one dot or two. -/
  name : String
  /-- The number of bytes of the path up to the end of the part. -/
  stop : Nat
  deriving DecidableEq, Repr

/-- A dot is no place of its own. -/
def Part.isDot (p : Part) : Bool :=
  p.name == "."

/-- One dot or two are no names. -/
def Part.isDots (p : Part) : Bool :=
  p.name == "." || p.name == ".."

/-- A path. -/
structure Path where
  /-- Whether it starts at the root, and not at the directory. -/
  rooted : Bool
  /-- What stands between its slashes, empty parts left out. -/
  parts : List Part
  /-- Whether a slash follows the last part. -/
  slashed : Bool
  /-- The number of its bytes. -/
  size : Nat
  deriving DecidableEq, Repr

namespace Path

/-- The parts of a path from byte `start` on, given what stands between the slashes. -/
def partsFrom (start : Nat) : List String → List Part
  | [] => []
  | name :: rest =>
    let stop := start + name.utf8ByteSize
    let later := partsFrom (stop + 1) rest
    if name.isEmpty then later else ⟨name, stop⟩ :: later

/-- The path that a text writes. -/
def ofString (text : String) : Path where
  rooted := text.startsWith "/"
  parts := partsFrom 0 (text.splitOn "/")
  slashed := text.endsWith "/"
  size := text.utf8ByteSize

/-- The names in a path. -/
def names (p : Path) : List String :=
  p.parts.map (·.name)

/-- The path that ends with a part of another one, given that part and those before it, the last
first. -/
def upTo (rooted : Bool) (part : Part) (before : List Part) : Path :=
  ⟨rooted, (part :: before).reverse, false, part.stop⟩

/-- The longest name, in bytes. -/
def maxName : Nat := 255

/-- The longest path, in bytes. -/
def maxSize : Nat := 4095

/-- Why a path is refused wherever it leads. -/
def refusal? (p : Path) : Option Refusal :=
  if p.parts.any (·.name.toList.contains '\x00') then some .holdsNul
  else if p.size = 0 then some .notFound
  else if maxSize < p.size then some .tooLong
  else none

end Path

end RCart
