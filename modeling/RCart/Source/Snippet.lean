import RCart.Source.Literal
import RCart.Source.Name

/-!
The snippets that a session evaluates besides the cart itself.

* `GuardedCall.source`: a call of a cart function that happens only when the function is defined;
* `forwarder`: the definition of a function that hands its arguments to the console;
* `bootFallback`: a `BOOT` that does nothing, for carts without one;
* `wipe`: the removal of every global binding.
-/

namespace RCart.Source

/-- The moments at which the console calls into a cart. -/
inductive Hook where
  /-- The cart has been loaded. -/
  | boot
  /-- A frame is due. -/
  | tick
  /-- A menu entry was chosen. -/
  | menu
  /-- A row of the border is drawn. -/
  | border
  /-- A row of the screen is drawn. -/
  | scanline
  deriving DecidableEq, Repr

/-- All hooks. -/
def Hook.all : List Hook :=
  [.boot, .tick, .menu, .border, .scanline]

/-- The cart function that a hook calls. -/
def Hook.functionName : Hook → String
  | .boot => "BOOT"
  | .tick => "TIC-80"
  | .menu => "MENU"
  | .border => "BDR"
  | .scanline => "SCN"

/-! ### Calls -/

/-- A call of a cart function that happens only when the function is defined. -/
structure GuardedCall where
  /-- The function's name. -/
  name : String
  /-- The arguments, in order. -/
  args : List Literal := []
  deriving DecidableEq, Repr

/-- A call as the language writes it: the function is looked up by its name as a text, then called
by its quoted symbol, so that any name will do. -/
def GuardedCall.source (c : GuardedCall) : String :=
  let symbol := quoteSymbol c.name
  "if (exists(" ++ quoteString c.name ++ ") && is.function(" ++ symbol ++ ")) " ++ symbol
    ++ "(" ++ String.intercalate ", " (c.args.map Literal.source) ++ ")"

/-- The call that a hook makes: no arguments. -/
def Hook.call (h : Hook) : GuardedCall :=
  ⟨h.functionName, []⟩

/-! ### Definitions -/

/-- A name as it stands on the left of an assignment: quoted only if it has to be. -/
def symbol (name : String) : String :=
  if isSyntactic name then name else quoteSymbol name

/-- The native routine that every forwarder calls. -/
def nativeEntry : String := "tic_api"

/-- The definition of a function named `keyword` that hands its arguments to the console under the
same name. -/
def forwarder (keyword : String) : String :=
  symbol keyword ++ " <- function(...) .Call(" ++ quoteString nativeEntry ++ ", "
    ++ quoteString keyword ++ ", list(...))"

/-- A `BOOT` that does nothing, unless the cart has one. -/
def bootFallback : String :=
  let name := Hook.boot.functionName
  "if (!(exists(" ++ quoteString name ++ ") && is.function(" ++ quoteSymbol name ++ "))) "
    ++ quoteSymbol name ++ " <- function() NULL"

/-- The removal of every binding in the global environment. -/
def wipe : String :=
  "rm(list = ls(envir = globalenv(), all.names = TRUE), envir = globalenv())"

end RCart.Source
