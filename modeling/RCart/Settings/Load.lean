import RCart.Files.Tree
import RCart.Settings.Decode
import RCart.Text.Utf8

/-!
Settings loaded from a file.
-/

namespace RCart

/-- Why settings could not be loaded. -/
inductive LoadFault where
  /-- The file could not be read. -/
  | unreadable (path : String) (refusal : Refusal)
  /-- Its text is not taken as settings. -/
  | rejected (text : String) (cause : Rejection)

namespace LoadFault

/-- What the message of a fault says before it comes to the cause. -/
def ownText : LoadFault → String
  | unreadable path _ => "read " ++ path ++ ": "
  | rejected _ _ => "invalid config: "

/-- What the message says of the cause. Of a text that is not taken as settings, the reader of
documents says what `wording` gives. -/
def causeText (wording : String → String) : LoadFault → String
  | unreadable _ refusal => refusal.words
  | rejected text _ => wording text

/-- The message of a fault. -/
def message (wording : String → String) (fault : LoadFault) : String :=
  fault.ownText ++ fault.causeText wording

theorem message_unreadable (wording : String → String) (path : String) (refusal : Refusal) :
    (unreadable path refusal).message wording = "read " ++ path ++ ": " ++ refusal.words := rfl

theorem message_rejected (wording : String → String) (text : String) (cause : Rejection) :
    (rejected text cause).message wording = "invalid config: " ++ wording text := rfl

end LoadFault

/-- The settings in a file. -/
def Settings.load (t : FileTree) (path : String) : Except LoadFault Settings :=
  match t.read path with
  | .error refusal => .error (.unreadable path refusal)
  | .ok content =>
    match Text.ofBytes? content with
    | none => .error (.unreadable path .notText)
    | some text =>
      match Settings.parse text with
      | .error cause => .error (.rejected text cause)
      | .ok s => .ok s

end RCart
