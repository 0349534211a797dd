import RCart.Settings.Basic
import RCart.Text.Hidden
import RCart.Toml.Document

/-!
Settings read from TOML documents.

Every key is optional and unknown keys are passed over. Keys are looked at in the order of the
document, so the first value of a wrong type or range is the one that is reported.

* `Mismatch`: a value that is not what its key wants;
* `Settings.decode`: the settings of a table;
* `Settings.parse`: the settings of a text.
-/

namespace RCart

/-! ### Mismatches -/

/-- What a key wants. -/
inductive Wanted where
  | sequence
  | string
  | map
  | unsigned32
  | unsigned8
  deriving DecidableEq, Repr

/-- What a key wants, in words. -/
def Wanted.words : Wanted → String
  | sequence => "a sequence"
  | string => "a string"
  | map => "a map"
  | unsigned32 => "u32"
  | unsigned8 => "u8"

/-- A value that is not what its key wants. -/
inductive Mismatch where
  /-- The value has another type. -/
  | wrongType (found : Toml.Value) (wanted : Wanted)
  /-- The integer is out of range. -/
  | outOfRange (found : Int) (wanted : Wanted)

/-- Numbers in messages have a point and no exponent. -/
def messageStyle : NumberStyle :=
  ⟨none, none, 1, "inf", "NaN"⟩

/-- A value in the words of a message. A date or time counts as a map. -/
def describe : Toml.Value → String
  | .string s => "string " ++ Text.debugText s
  | .integer n => "integer `" ++ String.ofList (Decimal.integerText n) ++ "`"
  | .float x => "floating point `" ++ x.write messageStyle ++ "`"
  | .boolean b => "boolean `" ++ (if b then "true" else "false") ++ "`"
  | .array _ | .tables _ => "sequence"
  | .datetime _ | .table _ _ => "map"

/-- The text of a mismatch. -/
def Mismatch.message : Mismatch → String
  | wrongType found wanted =>
    "invalid type: " ++ describe found ++ ", expected " ++ wanted.words
  | outOfRange found wanted =>
    "invalid value: " ++ describe (.integer found) ++ ", expected " ++ wanted.words

/-- Why a text is not taken as settings. -/
inductive Rejection where
  /-- It is not a document. -/
  | malformed
  /-- A value is not what its key wants. -/
  | mismatch (cause : Mismatch)

/-! ### Values of keys -/

namespace Settings

/-- A string. -/
def string : Toml.Value → Except Mismatch String
  | .string s => .ok s
  | v => .error (.wrongType v .string)

/-- An array of strings. -/
def strings : Toml.Value → Except Mismatch (List String)
  | .array items => items.mapM string
  | .tables [] => .ok []
  | .tables (t :: _) => .error (.wrongType (.table .header t) .string)
  | v => .error (.wrongType v .sequence)

/-- The key under which a date or time stands when it is taken for a map. -/
def datetimeKey : String := "$__toml_private_datetime"

/-- A table of strings. A date or time is a table with its written form. -/
def stringMap : Toml.Value → Except Mismatch Bindings
  | .table _ entries => do
    let pairs ← entries.mapM fun (k, v) => do
      let s ← string v
      pure (k, s)
    pure (Bindings.ofList pairs)
  | .datetime d => .ok (Bindings.ofList [(datetimeKey, d.text)])
  | v => .error (.wrongType v .map)

/-- An integer from zero to below `bound`. -/
def natural (bound : Nat) (wanted : Wanted) : Toml.Value → Except Mismatch Nat
  | .integer n =>
    if 0 ≤ n ∧ n < bound then .ok n.toNat else .error (.outOfRange n wanted)
  | v => .error (.wrongType v wanted)

/-- Takes one key over into the settings. -/
def take (s : Settings) (key : String) (v : Toml.Value) : Except Mismatch Settings :=
  match key with
  | "argv" => do
    let argv ← strings v
    pure { s with argv }
  | "max_start_attempts" => do
    let n ← natural (Nat.pow 2 32) .unsigned32 v
    pure { s with maxStartAttempts := UInt32.ofNat n }
  | "trace_color" => do
    let n ← natural (Nat.pow 2 8) .unsigned8 v
    pure { s with traceColor := UInt8.ofNat n }
  | "env" => do
    let env ← stringMap v
    pure { s with env }
  | "log_level" => do
    let logLevel ← string v
    pure { s with logLevel }
  | "log_file" => do
    let logFile ← string v
    pure { s with logFile }
  | _ => pure s

/-- At least one attempt, and a colour of the palette. -/
def clamp (s : Settings) : Settings :=
  { s with
    maxStartAttempts := max s.maxStartAttempts 1
    traceColor := min s.traceColor defaultColor }

/-- The settings of a table. -/
def decode (t : Toml.Table) : Except Mismatch Settings := do
  let s ← t.foldlM (fun (s : Settings) (key, v) => s.take key v) {}
  pure s.clamp

/-- The settings of a text. -/
def parse (text : String) : Except Rejection Settings :=
  match Toml.Document.parse? text with
  | none => .error .malformed
  | some t =>
    match decode t with
    | .ok s => .ok s
    | .error cause => .error (.mismatch cause)

end Settings

end RCart
