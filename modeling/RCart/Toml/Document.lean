import RCart.Toml.Scalar

/-!
TOML documents.

A document is read in two steps. Its lines become statements, each of which defines a key or opens a
table; then the statements are carried out in order on a draft of the document.

* `Document.value`: a value with the arrays and tables in it;
* `Document.statements`: the statements of a text;
* `Draft.perform`: one statement carried out;
* `Document.parse?`: the table of a text, `none` when the text is not a document.
-/

namespace RCart.Toml

open Reader

namespace Document

/-! ### Keys -/

/-- The characters of keys without quotes. -/
def isKeyChar (c : Char) : Bool :=
  ('a' ≤ c && c ≤ 'z') || ('A' ≤ c && c ≤ 'Z') || ('0' ≤ c && c ≤ '9') || c == '-' || c == '_'

/-- One part of a key. -/
def keyPart : Reader String := do
  blanks
  let part ← Scalar.line '"' true <|> Scalar.line '\'' false <|> (String.ofList <$> run1 isKeyChar)
  blanks
  pure part

/-- How deep brackets and dotted keys may go. -/
def depthLimit : Nat := 80

/-- A dotted key: the path and the last part. -/
def key : Reader (List String × String) := do
  let parts ← separated keyPart (char '.')
  match parts.getLast? with
  | some last => if parts.length < depthLimit then pure (parts.dropLast, last) else failure
  | none => failure

/-! ### Values -/

/-- The table that braces make of their definitions. -/
def inlineTable (definitions : List ((List String × String) × Value)) : Option Table :=
  definitions.foldlM (fun t ((path, last), v) => Table.define .inline t path last v) []

/-- An array, given how its items are read. -/
def array (item : Reader Value) : Reader Value := do
  char '['
  trivia
  let items ← Reader.optional do
    let first ← item
    trivia
    let rest ← many do
      char ','
      trivia
      let v ← item
      trivia
      pure v
    let _ ← Reader.optional do
      char ','
      trivia
    pure (first :: rest)
  char ']'
  pure (.array (items.getD []))

/-- A table in braces, given how its values are read. It stands on one line and has no comma at its
end. -/
def braces (item : Reader Value) : Reader Value := do
  char '{'
  blanks
  let definitions ← Reader.optional (separated (do
    let k ← key
    char '='
    blanks
    let v ← item
    blanks
    pure (k, v)) (char ','))
  char '}'
  match inlineTable (definitions.getD []) with
  | some entries => pure (.table .inline entries)
  | none => failure

/-- A value with at most so many brackets around its innermost values. -/
def value : (depth : Nat) → Reader Value
  | 0 => Scalar.value
  | depth + 1 => do
    match ← peek with
    | '[' => array (value depth)
    | '{' => braces (value depth)
    | _ => Scalar.value

/-! ### Lines -/

/-- What a line says. -/
inductive Statement where
  /-- A key is defined in the open table. -/
  | define (path : List String) (key : String) (value : Value)
  /-- A table is opened. -/
  | openTable (path : List String) (key : String)
  /-- A new element of an array of tables is opened. -/
  | openElement (path : List String) (key : String)

/-- A key with its value. -/
def definition : Reader Statement := do
  let (path, last) ← key
  char '='
  blanks
  let v ← value (depthLimit - 1)
  pure (.define path last v)

/-- A header in double or single brackets. -/
def header : Reader Statement :=
  (do
    exactly ['[', '[']
    let (path, last) ← key
    exactly [']', ']']
    pure (.openElement path last))
  <|> do
    char '['
    let (path, last) ← key
    char ']'
    pure (.openTable path last)

/-- A line without its end: a statement or nothing, then perhaps a comment. -/
def line : Reader (Option Statement) := do
  blanks
  let c ← peek
  let statement ← Reader.optional (if c == '[' then header else definition)
  blanks
  let _ ← Reader.optional comment
  pure statement

/-- The statements of a text. A byte order mark in front is no part of it. -/
def statements (text : List Char) : Option (List Statement) :=
  let body := match text with
    | '\uFEFF' :: cs => cs
    | cs => cs
  match (separated line newline) body with
  | some (lines, []) => some (lines.filterMap id)
  | _ => none

end Document

/-! ### Drafts -/

/-- A document while its statements are carried out: the finished part, and the table that is
open. -/
structure Draft where
  /-- The document without the open table. -/
  root : Table := []
  /-- The path and last key of the open table; `none` at the start, when the document itself is
  open. -/
  place : Option (List String × String) := none
  /-- Whether the open table is a new element of an array of tables. -/
  isElement : Bool := false
  /-- The entries of the open table. -/
  entries : Table := []

namespace Draft

open Document (Statement)

/-- Puts the open table into the document. -/
def close (d : Draft) : Option Table :=
  match d.place with
  | none => some d.entries
  | some (path, key) =>
    let add (_ : Origin) (t : Table) : Option (Unit × Table) :=
      if d.isElement then
        match t.get? key with
        | some (.tables elements) => some ((), t.put key (.tables (elements ++ [d.entries])))
        | none => some ((), t.put key (.tables [d.entries]))
        | some _ => none
      else some ((), t.put key (.table .header d.entries))
    (Table.update .implied add path .header d.root).map (·.2)

/-- Opens a table. One that a longer header implied keeps its entries but loses its place; every
other table that is there already cannot be opened again. -/
def openTable (root : Table) (path : List String) (key : String) : Option Draft := do
  let take (_ : Origin) (t : Table) : Option (Table × Table) :=
    match t.get? key with
    | none => some ([], t)
    | some (.table .implied entries) => some (entries, t.erase key)
    | some _ => none
  let (entries, root) ← Table.update .implied take path .header root
  some { root, place := some (path, key), entries }

/-- Opens a new element of an array of tables. -/
def openElement (root : Table) (path : List String) (key : String) : Option Draft := do
  let reserve (_ : Origin) (t : Table) : Option (Unit × Table) :=
    match t.get? key with
    | none => some ((), t ++ [(key, .tables [])])
    | some (.tables _) => some ((), t)
    | some _ => none
  let (_, root) ← Table.update .implied reserve path .header root
  some { root, place := some (path, key), isElement := true }

/-- Carries out a statement. -/
def perform (d : Draft) : Statement → Option Draft
  | .define path key value => do
    let entries ← Table.define .header d.entries path key value
    some { d with entries }
  | .openTable path key => do
    let root ← d.close
    Draft.openTable root path key
  | .openElement path key => do
    let root ← d.close
    Draft.openElement root path key

end Draft

/-- The table of a text; `none` when the text is not a document. -/
def Document.parse? (text : String) : Option Table := do
  let found ← Document.statements text.toList
  let draft ← found.foldlM Draft.perform {}
  draft.close

end RCart.Toml
