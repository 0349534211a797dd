import RCart.Console.Api
import RCart.Outline
import RCart.Source.Snippet

/-!
The record by which the console's editor knows the language.

It has the language's slot and file extension, what comments and strings look like, the identifier
test and the outline, the words to highlight, and the cartridges that come with it.
-/

namespace RCart

/-- A cartridge that comes with the library. -/
structure Cartridge where
  /-- Its content. -/
  data : List UInt8
  /-- Its name, if it has one. -/
  name : Option String

/-- The size of a cartridge. -/
def Cartridge.size (c : Cartridge) : Nat :=
  c.data.length

/-- What the editor knows about a language. -/
structure Language where
  /-- The language's slot. -/
  id : UInt8
  /-- The language's name. -/
  name : String
  /-- The extension of source files. -/
  fileExtension : String
  /-- What starts a comment in a project file. -/
  projectComment : String
  /-- What starts a comment over several lines. -/
  blockCommentStart : Option String
  /-- What ends it. -/
  blockCommentEnd : Option String
  /-- The second way to start a comment over several lines. -/
  blockCommentStart2 : Option String
  /-- What ends it. -/
  blockCommentEnd2 : Option String
  /-- What starts a comment up to the end of the line. -/
  singleComment : Option String
  /-- What starts a string over several lines. -/
  blockStringStart : Option String
  /-- What ends it. -/
  blockStringEnd : Option String
  /-- What starts and ends a string. -/
  stringDelimiter : Option String
  /-- What ends a block. -/
  blockEnd : Option String
  /-- The bytes that may continue an identifier. -/
  isNameByte : UInt8 → Bool
  /-- The outline of a text. -/
  outline : String → List OutlineItem
  /-- The words of the language. -/
  keywords : List String
  /-- The words of the console. -/
  apiKeywords : List String
  /-- Whether the editor works on blocks. -/
  structuredEditing : Bool
  /-- The demonstration. -/
  demo : Cartridge
  /-- The benchmark. -/
  mark : Cartridge

/-- The language of the carts. Slots count up from ten, and twenty was the last one taken. Without
bundled files both cartridges are empty. -/
def language : Language where
  id := 21
  name := "r"
  fileExtension := ".r"
  projectComment := "##"
  blockCommentStart := none
  blockCommentEnd := none
  blockCommentStart2 := none
  blockCommentEnd2 := none
  singleComment := some "##"
  blockStringStart := some "\""
  blockStringEnd := some "\""
  stringDelimiter := some "\""
  blockEnd := none
  isNameByte := Source.isNameByte
  outline := Outline.parameters
  keywords := Source.reservedWords
  apiKeywords := apiKeywords
  structuredEditing := false
  demo := ⟨[], none⟩
  mark := ⟨[], some "rmark.tic"⟩

end RCart
