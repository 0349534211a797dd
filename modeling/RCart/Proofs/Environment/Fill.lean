import Mathlib.Tactic.Common
import RCart.Environment
import RCart.Proofs.Bindings

/-!
Environments that are given defaults.

* `value?_of_set?`: a variable that is set where it was missing takes no other away;
* `Refuses`, `fill_eq_none_iff`: what keeps an environment from taking the defaults;
* `Settled`, `settled_of_fillEntries`, `exists_fillEntries`: an environment that has taken them
  takes them again;
* `exists_fill_of_settable`: variables that can be set are taken by any environment;
* `Given`, `fill_fill`: when it does, nothing changes;
* `lacks`, `exists_fill_exact`: just the variables that are unset or empty are set.
-/

namespace RCart.Environment

variable {env next : Environment} {name value other : String}

/-! ### Setting a variable -/

lemma eq_notMem_of_isSettable (h : isSettable name value = true) : '=' ∉ name.toList := by
  simp only [isSettable, Bool.and_eq_true, Bool.not_eq_true'] at h
  have heq := h.1.1.2
  rwa [List.contains_eq_mem, decide_eq_false_iff_not] at heq

lemma set?_eq_some_iff :
    env.set? name value = some next
      ↔ isSettable name value = true ∧ Bindings.insert env name value = next := by
  rw [set?, Option.ite_none_right_eq_some, Option.some_inj]

lemma set?_eq_none_iff : env.set? name value = none ↔ isSettable name value = false := by
  rw [set?]
  cases isSettable name value <;> simp

/-- What is missing has no value, or an empty one. -/
lemma eq_empty_of_missing (hname : '=' ∉ name.toList) (h : env.isPresent name = false) :
    ∀ v ∈ env.get? name, v = "" := by
  intro v hv
  rw [isPresent, value?_eq_get? env hname, Option.mem_def.mp hv] at h
  simpa using h

lemma isPresent_iff : env.isPresent name = true ↔ ∃ v, env.value? name = some v ∧ v ≠ "" := by
  rw [isPresent]
  cases env.value? name <;> simp

/-- Setting a variable that is missing leaves the values that are found under other names. -/
lemma value?_of_set? {v : String} (hset : env.set? name value = some next)
    (hmissing : env.isPresent name = false) (hother : env.value? other = some v) (hne : v ≠ "") :
    next.value? other = some v := by
  obtain ⟨hsettable, rfl⟩ := set?_eq_some_iff.mp hset
  have hname := eq_notMem_of_isSettable hsettable
  have hempty := eq_empty_of_missing hname hmissing
  rw [value?] at hother ⊢
  split at hother
  · rw [Bindings.get?_insert, if_neg, hother]
    rintro rfl
    exact hne (hempty v hother)
  · next inner _ =>
    rw [Bindings.get?_insert, if_neg, hother]
    rintro hkey
    -- nothing ends a value that is empty
    rw [hkey] at hother
    obtain ⟨w, hw, hv⟩ := Option.bind_eq_some_iff.mp hother
    obtain rfl := hempty w hw
    simp [after?] at hv

lemma isPresent_of_set? (hset : env.set? name value = some next)
    (hmissing : env.isPresent name = false) (h : env.isPresent other = true) :
    next.isPresent other = true := by
  obtain ⟨v, hv, hne⟩ := isPresent_iff.mp h
  exact isPresent_iff.mpr ⟨v, value?_of_set? hset hmissing hv hne, hne⟩

/-! ### Giving defaults -/

variable {filled : Filled} {entries rest : List (String × String)}

lemma fillEntries_of_present (h : env.isPresent name = true) :
    fillEntries ((name, value) :: rest) env = fillEntries rest env := by
  rw [fillEntries, if_pos h]

lemma fillEntries_of_missing (h : env.isPresent name = false) :
    fillEntries ((name, value) :: rest) env
      = (env.set? name value).bind fun next => (fillEntries rest next).map fun filled =>
        { filled with
          names := name :: filled.names
          log := ⟨.info, "set " ++ name ++ "=" ++ value⟩ :: filled.log } := by
  rw [fillEntries, if_neg (ne_true_of_eq_false h)]
  refine congrArg (Option.bind (env.set? name value)) (funext fun next => ?_)
  cases fillEntries rest next <;> rfl

/-- A variable is left if it is there, and set if it is missing; then come the others. -/
lemma fillEntries_cons_cases (h : fillEntries ((name, value) :: rest) env = some filled) :
    ∃ next later, fillEntries rest next = some later ∧ filled.env = later.env
      ∧ (env.isPresent name = true ∧ next = env
        ∨ env.isPresent name = false ∧ env.set? name value = some next) := by
  cases hpresent : env.isPresent name with
  | true =>
      rw [fillEntries_of_present hpresent] at h
      exact ⟨env, filled, h, rfl, .inl ⟨rfl, rfl⟩⟩
  | false =>
      rw [fillEntries_of_missing hpresent] at h
      obtain ⟨next, hset, hnext⟩ := Option.bind_eq_some_iff.mp h
      obtain ⟨later, hlater, rfl⟩ := Option.map_eq_some_iff.mp hnext
      exact ⟨next, later, hlater, rfl, .inr ⟨rfl, hset⟩⟩

/-- Giving defaults takes no variable away. -/
lemma isPresent_of_fillEntries (h : fillEntries entries env = some filled)
    (hother : env.isPresent other = true) : filled.env.isPresent other = true := by
  induction entries generalizing env filled with
  | nil => exact Option.some.inj h ▸ hother
  | cons e rest ih =>
      obtain ⟨next, later, hlater, henv, hcases⟩ := fillEntries_cons_cases h
      rw [henv]
      refine ih hlater ?_
      rcases hcases with ⟨-, rfl⟩ | ⟨hmissing, hset⟩
      · exact hother
      · exact isPresent_of_set? hset hmissing hother

/-! ### Refusing -/

/-- An environment does not take some defaults: one of them is missing, those before it having been
given, and its name or its value is none that can be set. -/
def Refuses (env : Environment) (defaults : Bindings) : Prop :=
  ∃ before name value after filled, defaults.entries = before ++ (name, value) :: after
    ∧ fillEntries before env = some filled ∧ filled.env.isPresent name = false
    ∧ isSettable name value = false

/-- The defaults of a list are given in two parts. -/
lemma fillEntries_append (before after : List (String × String)) (env : Environment) :
    fillEntries (before ++ after) env
      = (fillEntries before env).bind fun first => (fillEntries after first.env).map fun later =>
        ⟨later.env, first.names ++ later.names, first.log ++ later.log⟩ := by
  induction before generalizing env with
  | nil =>
      change fillEntries after env = (fillEntries after env).map fun later => later
      exact Option.map_id'.symm
  | cons e before ih =>
      rw [List.cons_append]
      cases hpresent : env.isPresent e.1 with
      | true => rw [fillEntries_of_present hpresent, fillEntries_of_present hpresent, ih]
      | false =>
          rw [fillEntries_of_missing hpresent, fillEntries_of_missing hpresent]
          cases env.set? e.1 e.2 with
          | none => rfl
          | some next =>
              rw [Option.bind_some, Option.bind_some, ih]
              cases fillEntries before next with
              | none => rfl
              | some first => simp only [Option.bind_some, Option.map_some, Option.map_map]; rfl

/-- Defaults are not taken just if one of them is in the way. -/
lemma fill_eq_none_iff {defaults : Bindings} : env.fill defaults = none ↔ env.Refuses defaults := by
  rw [fill, Refuses]
  generalize defaults.entries = entries
  constructor
  · intro h
    induction entries generalizing env with
    | nil => cases h
    | cons e rest ih =>
        cases hpresent : env.isPresent e.1 with
        | true =>
            rw [fillEntries_of_present hpresent] at h
            obtain ⟨before, name, value, after, filled, rfl, hfill, hrefused⟩ := ih h
            exact ⟨e :: before, name, value, after, filled, rfl,
              (fillEntries_of_present hpresent).trans hfill, hrefused⟩
        | false =>
            rw [fillEntries_of_missing hpresent] at h
            cases hset : env.set? e.1 e.2 with
            | none =>
                exact ⟨[], e.1, e.2, rest, ⟨env, [], []⟩, rfl, rfl, hpresent,
                  set?_eq_none_iff.mp hset⟩
            | some next =>
                rw [hset, Option.bind_some, Option.map_eq_none_iff] at h
                obtain ⟨before, name, value, after, filled, rfl, hfill, hrefused⟩ := ih h
                obtain ⟨first, hfirst, henv⟩ : ∃ first,
                    fillEntries (e :: before) env = some first ∧ first.env = filled.env := by
                  rw [fillEntries_of_missing hpresent, hset, Option.bind_some, hfill]
                  exact ⟨_, rfl, rfl⟩
                exact ⟨e :: before, name, value, after, first, rfl, hfirst, henv ▸ hrefused⟩
  · rintro ⟨before, name, value, after, filled, rfl, hfill, hmissing, hrefused⟩
    rw [fillEntries_append, hfill, Option.bind_some, fillEntries_of_missing hmissing,
      set?_eq_none_iff.mpr hrefused]
    rfl

/-! ### Filling again -/

/-- Whatever of some variables is missing can be set. -/
def Settled (env : Environment) (entries : List (String × String)) : Prop :=
  ∀ e ∈ entries, env.isPresent e.1 = true ∨ isSettable e.1 e.2 = true

/-- Variables that can all be set are settled from the start. -/
lemma settled_of_settable (h : ∀ e ∈ entries, isSettable e.1 e.2 = true) (env : Environment) :
    env.Settled entries :=
  fun e he => .inr (h e he)

/-- Variables are settled once they were given their defaults. -/
lemma settled_of_fillEntries (h : fillEntries entries env = some filled) :
    filled.env.Settled entries := by
  induction entries generalizing env filled with
  | nil => nofun
  | cons e rest ih =>
      obtain ⟨next, later, hlater, henv, hcases⟩ := fillEntries_cons_cases h
      rw [henv]
      refine List.forall_mem_cons.mpr ⟨?_, ih hlater⟩
      rcases hcases with ⟨hpresent, rfl⟩ | ⟨-, hset⟩
      · exact .inl (isPresent_of_fillEntries hlater hpresent)
      · exact .inr (set?_eq_some_iff.mp hset).1

lemma exists_fillEntries (h : env.Settled entries) :
    ∃ filled, fillEntries entries env = some filled := by
  induction entries generalizing env with
  | nil => exact ⟨_, rfl⟩
  | cons e rest ih =>
      obtain ⟨hhead, hrest⟩ := List.forall_mem_cons.mp h
      cases hpresent : env.isPresent e.1 with
      | true =>
          rw [fillEntries_of_present hpresent]
          exact ih hrest
      | false =>
          have hsettable : isSettable e.1 e.2 = true := hhead.resolve_left (by simp [hpresent])
          have hset : env.set? e.1 e.2 = some (Bindings.insert env e.1 e.2) :=
            set?_eq_some_iff.mpr ⟨hsettable, rfl⟩
          obtain ⟨filled, hfilled⟩ :=
            ih fun f hf => (hrest f hf).imp_left (isPresent_of_set? hset hpresent)
          rw [fillEntries_of_missing hpresent, hset, Option.bind_some, hfilled]
          exact ⟨_, rfl⟩

/-- Variables that can all be set are taken by any environment. -/
lemma exists_fill_of_settable {defaults : Bindings}
    (h : ∀ e ∈ defaults.entries, isSettable e.1 e.2 = true) (env : Environment) :
    ∃ filled, env.fill defaults = some filled :=
  exists_fillEntries (settled_of_settable h env)

/-- A name that is given the value that it has already changes nothing. -/
lemma insertEntry_of_lookup {entries : List (String × String)} (hascending : Ascending entries)
    (h : entries.lookup name = some value) :
    Bindings.insertEntry name value entries = entries := by
  induction entries with
  | nil => cases h
  | cons e rest ih =>
      obtain ⟨n, v⟩ := e
      obtain ⟨hhead, hrest⟩ := List.pairwise_cons.mp hascending
      by_cases hname : name = n
      · rw [hname, List.lookup_cons_self] at h
        rw [Bindings.insertEntry, if_pos hname, hname, Option.some.inj h]
      · rw [List.lookup_cons, beq_eq_false_iff_ne.mpr hname] at h
        obtain ⟨_, _, rfl, -⟩ := List.lookup_eq_some_iff.mp h
        -- the name comes later, so the order does not put it here
        have hlater : ¬ name < n := by
          have hlt : n < name := hhead (name, value) (by simp)
          exact fun hgt => String.lt_irrefl n (String.lt_trans hlt hgt)
        rw [Bindings.insertEntry, if_neg hname, if_neg hlater, ih hrest h]

lemma insert_of_get? (h : env.get? name = some value) :
    Bindings.insert env name value = env := by
  obtain ⟨entries, hascending⟩ := env
  simp only [Bindings.insert, insertEntry_of_lookup hascending h]

/-- Giving defaults to other variables leaves the value of a variable. -/
lemma get?_of_fillEntries (h : fillEntries entries env = some filled)
    (hother : ∀ e ∈ entries, e.1 ≠ name) : filled.env.get? name = env.get? name := by
  induction entries generalizing env filled with
  | nil => exact Option.some.inj h ▸ rfl
  | cons e rest ih =>
      obtain ⟨next, later, hlater, henv, hcases⟩ := fillEntries_cons_cases h
      obtain ⟨hhead, hrest⟩ := List.forall_mem_cons.mp hother
      rw [henv, ih hlater hrest]
      rcases hcases with ⟨-, rfl⟩ | ⟨-, hset⟩
      · rfl
      · obtain ⟨-, rfl⟩ := set?_eq_some_iff.mp hset
        rw [Bindings.get?_insert, if_neg (Ne.symm hhead)]

/-- Some variables have their defaults: each is there, or is empty because its default is. -/
def Given (env : Environment) (entries : List (String × String)) : Prop :=
  ∀ e ∈ entries, env.isPresent e.1 = true
    ∨ isSettable e.1 e.2 = true ∧ env.get? e.1 = some e.2

/-- Where variables have their defaults, giving them again changes nothing. -/
lemma exists_fillEntries_of_given (h : env.Given entries) :
    ∃ again, fillEntries entries env = some again ∧ again.env = env := by
  induction entries with
  | nil => exact ⟨_, rfl, rfl⟩
  | cons e rest ih =>
      obtain ⟨hhead, hrest⟩ := List.forall_mem_cons.mp h
      obtain ⟨again, hagain, henv⟩ := ih hrest
      cases hpresent : env.isPresent e.1 with
      | true =>
          rw [fillEntries_of_present hpresent]
          exact ⟨again, hagain, henv⟩
      | false =>
          obtain ⟨hsettable, hvalue⟩ := hhead.resolve_left (by simp [hpresent])
          have hset : env.set? e.1 e.2 = some env :=
            set?_eq_some_iff.mpr ⟨hsettable, insert_of_get? hvalue⟩
          rw [fillEntries_of_missing hpresent, hset, Option.bind_some, hagain]
          exact ⟨_, rfl, henv⟩

/-- Variables with different names have their defaults once they were given them. -/
lemma given_of_fillEntries (h : fillEntries entries env = some filled)
    (hascending : Ascending entries) : filled.env.Given entries := by
  induction entries generalizing env filled with
  | nil => nofun
  | cons e rest ih =>
      obtain ⟨next, later, hlater, henv, hcases⟩ := fillEntries_cons_cases h
      obtain ⟨hhead, hrest⟩ := List.pairwise_cons.mp hascending
      rw [henv]
      refine List.forall_mem_cons.mpr ⟨?_, ih hlater hrest⟩
      rcases hcases with ⟨hpresent, rfl⟩ | ⟨-, hset⟩
      · exact .inl (isPresent_of_fillEntries hlater hpresent)
      · obtain ⟨hsettable, rfl⟩ := set?_eq_some_iff.mp hset
        have hothers : ∀ f ∈ rest, f.1 ≠ e.1 := fun f hf heq =>
          String.lt_irrefl e.1 (heq ▸ hhead f hf)
        refine .inr ⟨hsettable, ?_⟩
        rw [get?_of_fillEntries hlater hothers, Bindings.get?_insert, if_pos rfl]

/-- **Filling an environment twice** is filling it once. -/
lemma fill_fill {defaults : Bindings} (h : env.fill defaults = some filled) :
    ∃ again, filled.env.fill defaults = some again ∧ again.env = filled.env :=
  exists_fillEntries_of_given (given_of_fillEntries h defaults.ascending)

/-! ### What is set -/

/-- Whether a variable is unset or empty. -/
def lacks (env : Environment) (name : String) : Bool :=
  (env.get? name).all (·.isEmpty)

lemma lacks_eq_false_iff : env.lacks name = false ↔ ∃ v, env.get? name = some v ∧ v ≠ "" := by
  rw [lacks]
  cases env.get? name <;> simp

/-- A name that can be set is looked up as a variable. -/
lemma isPresent_eq_not_lacks (hname : '=' ∉ name.toList) :
    env.isPresent name = !env.lacks name := by
  rw [isPresent, value?_eq_get? env hname, lacks]
  cases env.get? name <;> rfl

/-- Variables that can all be set: those that are unset or empty are set, in their order, each to
its default, and the values of all others stay. -/
lemma exists_fillEntries_exact (hsettable : ∀ e ∈ entries, isSettable e.1 e.2 = true)
    (hascending : Ascending entries) (env : Environment) :
    ∃ filled, fillEntries entries env = some filled
      ∧ filled.names = (entries.map Prod.fst).filter env.lacks
      ∧ ∀ other, filled.env.get? other
        = if other ∈ filled.names then entries.lookup other else env.get? other := by
  induction entries generalizing env with
  | nil => exact ⟨_, rfl, rfl, fun other => rfl⟩
  | cons e rest ih =>
      obtain ⟨n, v⟩ := e
      obtain ⟨hhead, hrest⟩ := List.forall_mem_cons.mp hsettable
      have hnew : n ∉ rest.map Prod.fst := notMem_of_ascending hascending
      have hlater : Ascending rest := (List.pairwise_cons.mp hascending).2
      have hpresent : env.isPresent n = !env.lacks n :=
        isPresent_eq_not_lacks (eq_notMem_of_isSettable hhead)
      cases hlacks : env.lacks n with
      | false =>
          obtain ⟨filled, hfilled, hnames, hvalues⟩ := ih hrest hlater env
          refine ⟨filled, ?_, ?_, fun other => ?_⟩
          · rw [fillEntries_of_present (by rw [hpresent, hlacks, Bool.not_false]), hfilled]
          · rw [hnames, List.map_cons, List.filter_cons_of_neg (by simp [hlacks])]
          · rw [hvalues]
            refine ite_congr rfl (fun hmem => ?_) fun _ => rfl
            rw [lookup_cons_of_ne]
            rintro rfl
            exact hnew (List.mem_filter.mp (hnames ▸ hmem)).1
      | true =>
          -- the other variables are as they were, so the same of them are missing
          have hother {other : String} (h : other ≠ n) :
              (Bindings.insert env n v).get? other = env.get? other := by
            rw [Bindings.get?_insert, if_neg h]
          have hsame : ∀ other ∈ rest.map Prod.fst,
              lacks (Bindings.insert env n v) other = env.lacks other := by
            intro other hmem
            rw [lacks, lacks, hother (ne_of_mem_of_not_mem hmem hnew)]
          obtain ⟨filled, hfilled, hnames, hvalues⟩ := ih hrest hlater (Bindings.insert env n v)
          rw [List.filter_congr hsame] at hnames
          have hstep : fillEntries ((n, v) :: rest) env = some { filled with
              names := n :: filled.names
              log := ⟨.info, "set " ++ n ++ "=" ++ v⟩ :: filled.log } := by
            rw [fillEntries_of_missing (by rw [hpresent, hlacks, Bool.not_true]),
              set?_eq_some_iff.mpr ⟨hhead, rfl⟩, Option.bind_some, hfilled, Option.map_some]
          refine ⟨_, hstep, ?_, fun other => ?_⟩
          · rw [List.map_cons, List.filter_cons_of_pos hlacks, ← hnames]
          · simp only [hvalues, List.mem_cons]
            by_cases heq : other = n
            · have hout : other ∉ filled.names := by
                rw [hnames, heq]
                exact fun hmem => hnew (List.mem_filter.mp hmem).1
              rw [if_neg hout, if_pos (.inl heq), heq, Bindings.get?_insert, if_pos rfl,
                List.lookup_cons_self]
            · rw [hother heq, lookup_cons_of_ne heq]
              simp only [heq, false_or]

/-- **Filling is exact.** Of variables that can all be set, just those that are unset or empty are
set, in ascending order of the names, each to its default, and no other variable changes. -/
lemma exists_fill_exact {defaults : Bindings}
    (h : ∀ e ∈ defaults.entries, isSettable e.1 e.2 = true) (env : Environment) :
    ∃ filled, env.fill defaults = some filled
      ∧ filled.names = (defaults.entries.map Prod.fst).filter env.lacks
      ∧ filled.names.Pairwise (· < ·)
      ∧ ∀ other, filled.env.get? other
        = if other ∈ filled.names then defaults.get? other else env.get? other := by
  obtain ⟨filled, hfilled, hnames, hvalues⟩ := exists_fillEntries_exact h defaults.ascending env
  refine ⟨filled, hfilled, hnames, ?_, hvalues⟩
  rw [hnames]
  exact (List.pairwise_map.mpr defaults.ascending).filter _

end RCart.Environment
