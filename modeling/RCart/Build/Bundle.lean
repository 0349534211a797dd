import RCart.Files.Tree
import RCart.Text.Utf8

/-!
The build of the library: its flags and the cartridges that are bundled with it.

* `Flag`: the flags, when they hold and how they are announced;
* `Rom`: the bundled cartridges and where they are taken from;
* `Bundle.run`: the whole build step.

A cartridge that is missing is bundled as an empty file. Without a usable output directory the step
fails, but what it has printed stays.
-/

namespace RCart

/-- Variables of the build, some of which hold no text. -/
abbrev BuildVariables := List (String × Bytes)

/-- The text of a variable; `none` when it is unset or holds no text. -/
def BuildVariables.text? (vars : BuildVariables) (name : String) : Option String :=
  (vars.lookup name).bind Text.ofBytes?

/-! ### Flags -/

/-- The flags of a build. -/
inductive Flag where
  /-- The target is WebAssembly. -/
  | wasm
  /-- An interpreter is embedded. -/
  | embeddedR
  /-- Records can be logged to a file. -/
  | fileLog
  deriving DecidableEq, Repr

namespace Flag

/-- All flags, in the order in which they are announced. -/
def all : List Flag := [.wasm, .embeddedR, .fileLog]

/-- The name of a flag. -/
def name : Flag → String
  | wasm => "wasm"
  | embeddedR => "embedded_r"
  | fileLog => "file_log"

/-- Whether the target's architecture is in the list of a variable. -/
def isWasm (vars : BuildVariables) : Bool :=
  match vars.text? "CARGO_CFG_TARGET_ARCH" with
  | some list => (list.splitOn ",").contains "wasm32"
  | none => false

/-- Whether a feature is switched on. -/
def hasFeature (vars : BuildVariables) (variableName : String) : Bool :=
  vars.text? variableName == some "1"

/-- Whether a flag holds. -/
def holds (vars : BuildVariables) : Flag → Bool
  | wasm => isWasm vars
  | embeddedR => hasFeature vars "CARGO_FEATURE_EMBEDDED_R" && !isWasm vars
  | fileLog => hasFeature vars "CARGO_FEATURE_LOG4RS" && !isWasm vars

/-- The lines that announce a flag: that it exists, and that it holds if it does. -/
def announce (vars : BuildVariables) (f : Flag) : List String :=
  ("cargo:rustc-check-cfg=cfg(" ++ f.name ++ ")")
    :: if f.holds vars then ["cargo:rustc-cfg=" ++ f.name] else []

end Flag

/-! ### Cartridges -/

/-- A cartridge that is bundled. -/
structure Rom where
  /-- The variable that names its source. -/
  source : String
  /-- Its source if the variable is unset. -/
  fallback : String
  /-- Its name in the output directory. -/
  target : String

/-- The demonstration cartridge. -/
def demoRom : Rom := ⟨"TIC_R_DEMO_ROM", "assets/rdemo.tic", "rdemo.tic.dat"⟩

/-- The benchmark cartridge. -/
def markRom : Rom := ⟨"TIC_R_MARK_ROM", "assets/rmark.tic", "rmark.tic.dat"⟩

/-- The path of a file in a directory. -/
def joinPath (directory file : String) : String :=
  if directory.isEmpty || directory.endsWith "/" then directory ++ file
  else directory ++ "/" ++ file

/-- What a build step has printed, and the directory it leaves; `none` when it failed. -/
structure Bundle where
  /-- The lines that were printed. -/
  lines : List String
  /-- The directory. -/
  tree : Option FileTree

namespace Bundle

/-- Copies a cartridge into the output directory, unless the step has failed before. -/
def stage (vars : BuildVariables) (rom : Rom) (b : Bundle) : Bundle :=
  match b.tree with
  | none => b
  | some tree =>
    let source := (vars.text? rom.source).getD rom.fallback
    let content := (tree.read source).toOption.getD []
    let warning :=
      if content.isEmpty then ["cargo:warning=" ++ source ++ " not found, bundling empty rom"]
      else []
    let lines := b.lines
      ++ ["cargo:rerun-if-env-changed=" ++ rom.source, "cargo:rerun-if-changed=" ++ source]
      ++ warning
    let written := (vars.text? "OUT_DIR").bind fun directory =>
      (tree.write (joinPath directory rom.target) content).toOption
    { lines, tree := written }

/-- The build step: flags, then cartridges. -/
def run (vars : BuildVariables) (tree : FileTree) : Bundle :=
  stage vars markRom (stage vars demoRom ⟨Flag.all.flatMap (Flag.announce vars), some tree⟩)

/-- The content of a bundled cartridge. -/
def output? (vars : BuildVariables) (rom : Rom) (b : Bundle) : Option Bytes :=
  b.tree.bind fun tree =>
    (vars.text? "OUT_DIR").bind fun directory =>
      (tree.read (joinPath directory rom.target)).toOption

end Bundle

end RCart
