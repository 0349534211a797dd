import RCart.Console.Value
import RCart.Text.Utf8

/-!
Texts and values as C programs see them.

A C string is the bytes before its NUL, so a text loses its NULs on the way out, and comes in only
if its bytes are UTF-8. A C value is a kind, a number and perhaps a string; which of them counts
depends on the kind.

* `CString.ofText`, `CString.text?`: texts out and in;
* `CValue.withText`, `CValue.value`: values out and in, those that are texts with the C string that
  they are kept in.
-/

namespace RCart

/-- A text without its NULs. -/
def Text.withoutNuls (text : String) : String :=
  String.ofList (text.toList.filter (· ≠ '\x00'))

/-- A C string: the bytes before its NUL. -/
abbrev CString := List UInt8

namespace CString

/-- The C string at the start of some bytes. -/
def ofBytes (bytes : List UInt8) : CString :=
  bytes.takeWhile (· ≠ 0)

/-- The C string with the given bytes; `none` if a NUL is among them. -/
def checked? (bytes : List UInt8) : Option CString :=
  if 0 ∈ bytes then none else some bytes

/-- The C string of a text without its NULs. An empty one stands in for it if there is none. -/
def ofText (text : String) : CString :=
  (checked? (Text.toBytes (Text.withoutNuls text))).getD []

/-- The text of a C string; `none` for no string and for bytes that are no text. -/
def text? (s : Option CString) : Option String :=
  s.bind Text.ofBytes?

end CString

/-- A value as C programs see it. -/
structure CValue where
  /-- What the value is: nothing, a truth value, a number or a text. -/
  kind : UInt8
  /-- The number; truth values are zero and one. -/
  number : Binary64
  /-- The text, or no string. -/
  text : Option CString
  deriving DecidableEq, Repr

namespace CValue

/-- No value. -/
def null : CValue := ⟨0, Binary64.zero, none⟩

/-- The kind of truth values. -/
def boolKind : UInt8 := 1

/-- The kind of numbers. -/
def numberKind : UInt8 := 2

/-- The kind of texts. -/
def textKind : UInt8 := 3

/-- A value on its way out. If it is a text, it is kept in the C string that comes with it. -/
def withText : Value → Option CString → CValue
  | .null, _ => null
  | .bool b, _ => ⟨boolKind, if b then Binary64.one else Binary64.zero, none⟩
  | .number x, _ => ⟨numberKind, x, none⟩
  | .text _, s => ⟨textKind, Binary64.zero, s⟩

/-- A value on its way out, with a C string of its own. -/
def ofValue (v : Value) : CValue :=
  withText v (v.text?.map CString.ofText)

/-- A value on its way in. Every number but the zeros is true; a text that is none, and a kind that
is none, are no value. -/
def value (v : CValue) : Value :=
  if v.kind = boolKind then .bool !v.number.isZero
  else if v.kind = numberKind then .number v.number
  else if v.kind = textKind then
    match CString.text? v.text with
    | some s => .text s
    | none => .null
  else .null

end CValue

end RCart
