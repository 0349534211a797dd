import RCart.Decimal.Binary64
import RCart.Toml.Datetime

/-!
The values of TOML documents.

A table keeps its keys in the order in which they arrived, and how it came about, because that
decides whether later lines may add to it:

* `Value`: a value;
* `Table.update`: a change below a path of keys, creating tables on the way;
* `Table.define`: a key with its value below a dotted path.
-/

namespace RCart.Toml

/-- How a table came about. -/
inductive Origin where
  /-- Its own header, or the document itself. -/
  | header
  /-- The header of a table below it. -/
  | implied
  /-- A dotted key. -/
  | dotted
  /-- Braces. -/
  | inline
  deriving DecidableEq, Repr

/-- A value of a document. -/
inductive Value where
  | string (value : String)
  | integer (value : Int)
  | float (value : Binary64)
  | boolean (value : Bool)
  | datetime (value : Datetime)
  /-- An array in brackets. -/
  | array (items : List Value)
  /-- A table. -/
  | table (origin : Origin) (entries : List (String × Value))
  /-- An array of tables, one for each header in double brackets. -/
  | tables (elements : List (List (String × Value)))

/-- The keys of a table with their values, in order of arrival. -/
abbrev Table := List (String × Value)

namespace Table

/-- The value of a key. -/
def get? (t : Table) (key : String) : Option Value :=
  t.lookup key

/-- Gives a key that is there a new value, in its place. -/
def replace (t : Table) (key : String) (value : Value) : Table :=
  t.map fun (k, v) => if k = key then (k, value) else (k, v)

/-- Gives a key a value: in its place if it is there, else as the last. -/
def put (t : Table) (key : String) (value : Value) : Table :=
  if (t.get? key).isSome then t.replace key value else t ++ [(key, value)]

/-- Removes a key. -/
def erase (t : Table) (key : String) : Table :=
  t.filter fun (k, _) => k ≠ key

/-- Changes the table at the end of a path, given how it came about, and hands on what the change
finds there. Tables that are missing on the way are created, `origin` saying how; of an array of
tables the last is meant. A dotted path does not lead into a table that has its own header, and no
path leads into braces or into anything that is not a table. -/
def update {β : Type} (origin : Origin) (change : Origin → Table → Option (β × Table)) :
    List String → Origin → Table → Option (β × Table)
  | [], own, t => change own t
  | key :: path, _, t =>
    match t.get? key with
    | none => do
      let (found, child) ← update origin change path origin []
      some (found, t ++ [(key, .table origin child)])
    | some (.table own child) =>
      if own = .inline ∨ (origin = .dotted ∧ own = .header) then none
      else do
        let (found, child) ← update origin change path own child
        some (found, t.replace key (.table own child))
    | some (.tables elements) => do
      let last ← elements.getLast?
      let (found, last) ← update origin change path .header last
      some (found, t.replace key (.tables (elements.dropLast ++ [last])))
    | some _ => none

/-- Defines a key below a dotted path in a table that came about by `own`. The key must be new, and
the table that gets it must come from dotted keys itself, unless there is no path. -/
def define (own : Origin) (t : Table) (path : List String) (key : String) (value : Value) :
    Option Table :=
  let add (own : Origin) (t : Table) : Option (Unit × Table) :=
    if !path.isEmpty && own ≠ .dotted then none
    else if (t.get? key).isSome then none
    else some ((), t ++ [(key, value)])
  (update .dotted add path own t).map (·.2)

end Table

end RCart.Toml
