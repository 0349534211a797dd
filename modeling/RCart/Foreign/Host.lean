import RCart.Console.Host
import RCart.Foreign.Value

/-!
A console that is a C program.

It passes the function that answers calls, if it has one, and a list of keywords.

* `CHost.keywordList`: the functions for which carts get forwarders;
* `CHost.console`: the console that an adapter sees;
* `CHost.receives`: how the C program sees what passes to it.
-/

namespace RCart

/-- A call as the C program sees it. -/
structure CCall where
  /-- The function. -/
  name : CString
  /-- The arguments, in order. -/
  args : List CValue
  /-- How many arguments it is told that there are. -/
  count : Int32
  deriving DecidableEq, Repr

/-- A call on its way out. The texts among the arguments are put into C strings first. -/
def CCall.ofCall (request : ApiCall) : CCall :=
  let texts := request.args.map fun v => v.text?.map CString.ofText
  let args := List.zipWith CValue.withText request.args texts
  ⟨CString.ofText request.name, args, Int32.ofNat args.length⟩

/-- A console that is a C program. -/
structure CHost where
  /-- What it writes as the answer to a call after what has passed before, if it writes anything;
  `none` when it takes no calls. -/
  apiCall : Option (List Exchange → CCall → Option CValue) := none
  /-- Its keywords, or no list. -/
  keywords : Option (List (Option CString)) := none
  /-- How many keywords there are. -/
  keywordCount : Int32 := 0

namespace CHost

/-- The functions for which carts get forwarders: only `trace` when no calls are taken, all of the
console's when there is no list, else the keywords that are texts. -/
def keywordList (h : CHost) : List String :=
  match h.apiCall, h.keywords with
  | none, _ => ["trace"]
  | some _, none => apiFunctions
  | some _, some list =>
    if h.keywordCount.toInt ≤ 0 then apiFunctions
    else (list.take h.keywordCount.toInt.toNat).filterMap CString.text?

/-- The console that an adapter sees. An answer that is not written is no value. -/
def console (h : CHost) : Console where
  keywords := h.keywordList
  reply history request :=
    h.apiCall.map fun answer => ((answer history (CCall.ofCall request)).getD CValue.null).value
  unknown request := "no api_call, " ++ request.name ++ " dropped"

/-- What the C program receives. -/
inductive Received where
  /-- A line is shown in a palette colour. -/
  | trace (text : CString) (color : UInt8)
  /-- A function is called. -/
  | call (request : CCall)
  deriving DecidableEq, Repr

/-- How the C program sees what passes to it. Calls do not reach it when it takes none. -/
def receives (h : CHost) : Exchange → Option Received
  | .trace text color => some (.trace (CString.ofText text) color)
  | .call request _ => if h.apiCall.isSome then some (.call (CCall.ofCall request)) else none

end CHost

end RCart
