import RCart.Bindings
import RCart.Log.Record

/-!
The environment of a process.

* `isSettable`: the names and values that an environment accepts;
* `Environment.value?`, `set?`: the value under a name, and a variable that is set;
* `Environment.fill`: gives the variables that are unset or empty their defaults.
-/

namespace RCart

/-- The environment of the process. -/
abbrev Environment := Bindings

/-- Whether an environment accepts a name and a value: the name is not empty and has no equals sign,
and neither holds a NUL. -/
def isSettable (name value : String) : Bool :=
  !name.isEmpty && !name.toList.contains '=' && !name.toList.contains '\x00'
    && !value.toList.contains '\x00'

namespace Environment

/-- Sets a variable; `none` when the environment does not accept it. -/
def set? (env : Environment) (name value : String) : Option Environment :=
  if isSettable name value then some (Bindings.insert env name value) else none

/-- What follows `start` in a text that starts with it. -/
def after? (start text : List Char) : Option (List Char) :=
  if start.isPrefixOf text then some (text.drop start.length) else none

/-- The value under a name. Variables are kept as texts of a name, an equals sign and a value, and
what is found is the rest of the one that starts with `name` and an equals sign. So the value of a
variable is found under its name, and the end of a value under a longer name that has an equals sign
of its own. -/
def value? (env : Environment) (name : String) : Option String :=
  match name.toList.dropWhile (· ≠ '=') with
  | [] => env.get? name
  | _ :: inner =>
    (env.get? (String.ofList (name.toList.takeWhile (· ≠ '=')))).bind fun value =>
      (after? (inner ++ ['=']) value.toList).map String.ofList

/-- Nothing is left of a list when everything that is not `a` is dropped from it and `a` is not in
it. -/
theorem dropWhile_ne_eq_nil {a : Char} : ∀ {cs : List Char}, a ∉ cs → cs.dropWhile (· ≠ a) = []
  | [], _ => rfl
  | c :: cs, h => by
    have hc : c ≠ a := fun heq => h (heq ▸ List.mem_cons_self)
    rw [List.dropWhile_cons_of_pos (by simpa using hc)]
    exact dropWhile_ne_eq_nil fun hmem => h (List.mem_cons_of_mem c hmem)

/-- Under a name without an equals sign stands the value of the variable. -/
theorem value?_eq_get? (env : Environment) {name : String} (h : '=' ∉ name.toList) :
    env.value? name = env.get? name := by
  rw [value?, dropWhile_ne_eq_nil h]

/-- Whether the value under a name is there and not empty. -/
def isPresent (env : Environment) (name : String) : Bool :=
  match env.value? name with
  | some value => !value.isEmpty
  | none => false

/-- What filling an environment has done. -/
structure Filled where
  /-- The environment afterwards. -/
  env : Environment
  /-- The names that were set, in order. -/
  names : List String
  /-- What was logged. -/
  log : List LogRecord

/-- Gives the listed variables that are unset or empty their defaults, in order; `none` when the
environment does not accept one of them. -/
def fillEntries : List (String × String) → Environment → Option Filled
  | [], env => some ⟨env, [], []⟩
  | (name, value) :: rest, env =>
    if env.isPresent name then fillEntries rest env
    else do
      let env ← env.set? name value
      let filled ← fillEntries rest env
      some { filled with
        names := name :: filled.names
        log := ⟨.info, "set " ++ name ++ "=" ++ value⟩ :: filled.log }

/-- Gives the variables of `defaults` that are unset or empty their defaults, in ascending order of
the names. -/
def fill (defaults : Bindings) (env : Environment) : Option Filled :=
  fillEntries defaults.entries env

end Environment

end RCart
