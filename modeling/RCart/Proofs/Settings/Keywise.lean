import Mathlib.Data.Set.List
import RCart.Proofs.Toml.Keys
import RCart.Settings.Decode

/-!
Settings key by key.

The settings of a document are decoded by going through its entries. No key stands twice, so every
field is decided by its own key.

* `Settings.Key`: a key of the settings, with the field that it is for;
* `Key.read`, `take_name`, `take_of_ne`: what an entry does to the settings;
* `Key.Fits`, `Key.Gives`: the values that a key takes, and what they make of its field;
* `Key.read_eq_ok_iff`: a value is read just if it fits, as what it gives;
* `Settings.exists_parse_iff`, `Given`, `given_of_parse`: a document has settings just if its values
  fit, and these are the settings that its values give;
* **`Settings.parse_keywise`**: so it is with the settings of a document.
-/

namespace RCart

/-! ### Results -/

section Results

variable {ε α β : Type}

lemma bind_eq_ok_iff {x : Except ε α} {f : α → Except ε β} {b : β} :
    x >>= f = .ok b ↔ ∃ a, x = .ok a ∧ f a = .ok b := by
  cases x with
  | error e => exact iff_of_false nofun nofun
  | ok a => exact ⟨fun h => ⟨a, rfl, h⟩, fun ⟨_, ha, h⟩ => Except.ok.inj ha ▸ h⟩

lemma map_eq_ok_iff {x : Except ε α} {f : α → β} {b : β} :
    f <$> x = .ok b ↔ ∃ a, x = .ok a ∧ f a = b := by
  cases x with
  | error e => exact iff_of_false nofun nofun
  | ok a => exact ⟨fun h => ⟨a, rfl, Except.ok.inj h⟩, fun ⟨_, ha, h⟩ =>
      congrArg Except.ok (Except.ok.inj ha ▸ h)⟩

lemma toOption_eq_some_iff {x : Except ε α} {a : α} : x.toOption = some a ↔ x = .ok a := by
  cases x <;> simp [Except.toOption]

lemma toOption_congr {δ : Type} {x : Except ε α} {y : Except δ α}
    (h : ∀ a, x = .ok a ↔ y = .ok a) : x.toOption = y.toOption :=
  Option.ext fun a => toOption_eq_some_iff.trans ((h a).trans toOption_eq_some_iff.symm)

/-- Where members are read as what they are written from, so are lists. -/
lemma mapM_eq_ok_iff {f : α → Except ε β} {write : β → α}
    (h : ∀ x y, f x = .ok y ↔ x = write y) {xs : List α} {ys : List β} :
    xs.mapM f = .ok ys ↔ xs = ys.map write := by
  induction xs generalizing ys with
  | nil => cases ys <;> simp [pure, Except.pure]
  | cons x xs ih =>
      simp only [List.mapM_cons, bind_eq_ok_iff]
      constructor
      · rintro ⟨y, hy, rest, hrest, heq⟩
        cases heq
        rw [(h x y).mp hy, ih.mp hrest, List.map_cons]
      · intro heq
        cases ys with
        | nil => cases heq
        | cons y ys =>
            obtain ⟨hx, hxs⟩ := List.cons.inj heq
            exact ⟨y, (h x y).mpr hx, ys, ih.mpr hxs, rfl⟩

end Results

/-! ### Values -/

namespace Toml.Value

/-- The items of an array, in brackets or of tables. -/
def items? : Value → Option (List Value)
  | .array items => some items
  | .tables elements => some (elements.map (.table .header))
  | _ => none

/-- The number of an integer. -/
def integer? : Value → Option ℤ
  | .integer n => some n
  | _ => none

/-- The date or time of a value that is one. -/
def datetime? : Value → Option Datetime
  | .datetime d => some d
  | _ => none

lemma integer?_eq_some_iff {v : Value} {n : ℤ} : v.integer? = some n ↔ v = .integer n := by
  cases v <;> simp [integer?]

/-- The same value, but for the order of the keys of a table and for how the table came about. -/
inductive Same : Value → Value → Prop where
  | refl (v : Value) : Same v v
  | table {origin origin' : Origin} {entries entries' : Table} (h : entries.Perm entries') :
    Same (.table origin entries) (.table origin' entries')

end Toml.Value

namespace Settings

/-! ### Keys -/

/-- The keys of the settings. -/
inductive Key where
  | argv
  | maxStartAttempts
  | traceColor
  | env
  | logLevel
  | logFile
  deriving DecidableEq

namespace Key

/-- How a key is written. -/
def name : Key → String
  | argv => "argv"
  | maxStartAttempts => "max_start_attempts"
  | traceColor => "trace_color"
  | env => "env"
  | logLevel => "log_level"
  | logFile => "log_file"

/-- What stands in the field of a key. -/
abbrev Field : Key → Type
  | argv => List String
  | maxStartAttempts => UInt32
  | traceColor => UInt8
  | env => Bindings
  | logLevel => String
  | logFile => String

/-- The field of a key. -/
def get : (key : Key) → Settings → key.Field
  | argv, s => s.argv
  | maxStartAttempts, s => s.maxStartAttempts
  | traceColor, s => s.traceColor
  | env, s => s.env
  | logLevel, s => s.logLevel
  | logFile, s => s.logFile

/-- Settings with another field for a key. -/
def set : (key : Key) → Settings → key.Field → Settings
  | argv, s, x => { s with argv := x }
  | maxStartAttempts, s, x => { s with maxStartAttempts := x }
  | traceColor, s, x => { s with traceColor := x }
  | env, s, x => { s with env := x }
  | logLevel, s, x => { s with logLevel := x }
  | logFile, s, x => { s with logFile := x }

/-- What a value of a key is read as. -/
def read : (key : Key) → Toml.Value → Except Mismatch key.Field
  | argv, v => strings v
  | maxStartAttempts, v => UInt32.ofNat <$> natural 4294967296 .unsigned32 v
  | traceColor, v => UInt8.ofNat <$> natural 256 .unsigned8 v
  | env, v => stringMap v
  | logLevel, v => string v
  | logFile, v => string v

/-- The next field that is allowed. -/
def clamp : (key : Key) → key.Field → key.Field
  | maxStartAttempts, n => max n 1
  | traceColor, c => min c defaultColor
  | argv, x | env, x | logLevel, x | logFile, x => x

variable {key other : Key} {s t : Settings}

lemma name_injective : Function.Injective name := by
  intro key other h
  cases key <;> cases other <;> first | rfl | exact absurd h (by decide)

@[simp] lemma get_set (key : Key) (s : Settings) (x : key.Field) : key.get (key.set s x) = x := by
  cases key <;> rfl

lemma get_set_of_ne (h : other ≠ key) (s : Settings) (x : key.Field) :
    other.get (key.set s x) = other.get s := by
  cases key <;> cases other <;> first | rfl | exact absurd rfl h

lemma get_clamp (key : Key) (s : Settings) : key.get s.clamp = key.clamp (key.get s) := by
  cases key <;> rfl

/-- The defaults are allowed. -/
lemma clamp_get_default (key : Key) : key.clamp (key.get {}) = key.get {} := by
  cases key <;> rfl

end Key

/-- Settings are determined by their fields. -/
lemma ext_get {s t : Settings} (h : ∀ key : Key, key.get s = key.get t) : s = t := by
  obtain ⟨argv, attempts, color, env, level, file⟩ := s
  obtain rfl : argv = t.argv := h .argv
  obtain rfl : attempts = t.maxStartAttempts := h .maxStartAttempts
  obtain rfl : color = t.traceColor := h .traceColor
  obtain rfl : env = t.env := h .env
  obtain rfl : level = t.logLevel := h .logLevel
  obtain rfl : file = t.logFile := h .logFile
  rfl

/-- Settings can have any fields. -/
lemma exists_get_eq (field : (key : Key) → key.Field) :
    ∃ s : Settings, ∀ key, key.get s = field key := by
  refine ⟨⟨field .argv, field .maxStartAttempts, field .traceColor, field .env, field .logLevel,
    field .logFile⟩, fun key => ?_⟩
  cases key <;> rfl

lemma take_name (s : Settings) (key : Key) (v : Toml.Value) :
    s.take key.name v = key.set s <$> key.read v := by
  cases key with
  | maxStartAttempts =>
      change (natural 4294967296 .unsigned32 v >>= fun n =>
        pure { s with maxStartAttempts := UInt32.ofNat n }) = _
      cases hread : natural 4294967296 .unsigned32 v <;> simp only [Key.read, hread] <;> rfl
  | traceColor =>
      change (natural 256 .unsigned8 v >>= fun n =>
        pure { s with traceColor := UInt8.ofNat n }) = _
      cases hread : natural 256 .unsigned8 v <;> simp only [Key.read, hread] <;> rfl
  | _ => rfl

lemma take_of_ne {name : String} (h : ∀ key : Key, key.name ≠ name) (s : Settings)
    (v : Toml.Value) : s.take name v = .ok s := by
  rw [take]
  · rfl
  · exact fun heq => h .argv heq.symm
  · exact fun heq => h .maxStartAttempts heq.symm
  · exact fun heq => h .traceColor heq.symm
  · exact fun heq => h .env heq.symm
  · exact fun heq => h .logLevel heq.symm
  · exact fun heq => h .logFile heq.symm

/-! ### Values of keys -/

lemma string_eq_ok_iff {v : Toml.Value} {s : String} : string v = .ok s ↔ v = .string s := by
  cases v <;> simp [string]

lemma strings_eq_ok_iff {v : Toml.Value} {argv : List String} :
    strings v = .ok argv ↔ v.items? = some (argv.map .string) := by
  cases v with
  | array items =>
      rw [strings, Toml.Value.items?, Option.some_inj]
      exact mapM_eq_ok_iff fun _ _ => string_eq_ok_iff
  | tables elements => cases elements <;> cases argv <;> simp [strings, Toml.Value.items?]
  | _ => exact iff_of_false nofun nofun

lemma natural_eq_ok_iff {bound n : ℕ} {wanted : Wanted} {v : Toml.Value} :
    natural bound wanted v = .ok n ↔ v = .integer n ∧ n < bound := by
  cases v with
  | integer i =>
      rw [natural]
      split
      · simp only [Except.ok.injEq, Toml.Value.integer.injEq]
        omega
      · simp only [reduceCtorEq, Toml.Value.integer.injEq, false_iff]
        omega
  | _ => exact iff_of_false nofun nofun

/-- A name with a string, as an entry of a table. -/
def entryOf (pair : String × String) : String × Toml.Value :=
  (pair.1, .string pair.2)

lemma entryOf_injective : Function.Injective entryOf := by
  rintro ⟨name, s⟩ ⟨name', s'⟩ h
  cases h
  rfl

lemma stringMap_table_eq_ok_iff {origin : Toml.Origin} {entries : Toml.Table} {b : Bindings} :
    stringMap (.table origin entries) = .ok b
      ↔ ∃ pairs : List (String × String), pairs.map entryOf = entries ∧ .ofList pairs = b := by
  have hentry (e : String × Toml.Value) (pair : String × String) :
      (do let s ← string e.2; pure (e.1, s)) = Except.ok pair ↔ e = entryOf pair := by
    simp only [bind_eq_ok_iff, string_eq_ok_iff]
    constructor
    · rintro ⟨s, hs, heq⟩
      cases heq
      exact Prod.ext rfl hs
    · rintro rfl
      exact ⟨pair.2, rfl, rfl⟩
  refine bind_eq_ok_iff.trans (exists_congr fun pairs => ?_)
  exact and_congr ((mapM_eq_ok_iff hentry).trans eq_comm) (.of_eq (Except.ok.injEq _ _))

lemma exists_map_entryOf_eq_iff {entries : Toml.Table} :
    (∃ pairs : List (String × String), pairs.map entryOf = entries)
      ↔ ∀ e ∈ entries, ∃ s, e.2 = .string s := by
  change entries ∈ Set.range (List.map entryOf) ↔ _
  rw [Set.range_list_map]
  refine forall₂_congr fun e _ => ⟨?_, ?_⟩
  · rintro ⟨pair, rfl⟩
    exact ⟨pair.2, rfl⟩
  · rintro ⟨s, hs⟩
    exact ⟨(e.1, s), Prod.ext rfl hs.symm⟩

lemma get?_ofList_eq_some_iff {pairs : List (String × String)}
    (h : ((pairs.map entryOf).map Prod.fst).Nodup) {name s : String} :
    (Bindings.ofList pairs).get? name = some s ↔ (name, .string s) ∈ pairs.map entryOf := by
  have hnodup : (pairs.map Prod.fst).Nodup := by
    rwa [List.map_map] at h
  rw [Bindings.get?_ofList hnodup, lookup_eq_some_iff_mem hnodup]
  exact (List.mem_map_of_injective entryOf_injective (a := (name, s))).symm

/-- A table is read as bindings just if all its values are strings, and then they have its
values. -/
lemma stringMap_table_eq_ok_iff_forall {origin : Toml.Origin} {entries : Toml.Table}
    (h : (entries.map Prod.fst).Nodup) {b : Bindings} :
    stringMap (.table origin entries) = .ok b
      ↔ (∀ e ∈ entries, ∃ s, e.2 = .string s)
        ∧ ∀ name s, b.get? name = some s ↔ (name, .string s) ∈ entries := by
  rw [stringMap_table_eq_ok_iff, ← exists_map_entryOf_eq_iff]
  constructor
  · rintro ⟨pairs, rfl, rfl⟩
    exact ⟨⟨pairs, rfl⟩, fun name s => get?_ofList_eq_some_iff h⟩
  · rintro ⟨⟨pairs, rfl⟩, hvalues⟩
    refine ⟨pairs, rfl, Bindings.ext_get? fun name => Option.ext fun s => ?_⟩
    exact (get?_ofList_eq_some_iff h).trans (hvalues name s).symm

namespace Key

/-- The values that a key takes: those of its type and in its range. A date or time counts as a
table. -/
def Fits : Key → Toml.Value → Prop
  | argv, v => ∃ items, v.items? = some items ∧ ∀ item ∈ items, ∃ s, item = .string s
  | maxStartAttempts, v => ∃ n : ℤ, v = .integer n ∧ 0 ≤ n ∧ n ≤ 4294967295
  | traceColor, v => ∃ n : ℤ, v = .integer n ∧ 0 ≤ n ∧ n ≤ 255
  | env, v => (∃ origin entries, v = .table origin entries ∧ ∀ e ∈ entries, ∃ s, e.2 = .string s)
      ∨ ∃ d, v = .datetime d
  | logLevel, v => ∃ s, v = .string s
  | logFile, v => ∃ s, v = .string s

/-- What a value makes of the field of its key. -/
def Gives : (key : Key) → Toml.Value → key.Field → Prop
  | argv, v, x => v.items? = some (x.map .string)
  | maxStartAttempts, v, x => ∃ n : ℤ, v = .integer n ∧ (x.toNat : ℤ) = max 1 n
  | traceColor, v, x => ∃ n : ℤ, v = .integer n ∧ (x.toNat : ℤ) = min 15 n
  | env, v, x =>
    (∃ origin entries, v = .table origin entries
      ∧ ∀ name s, x.get? name = some s ↔ (name, .string s) ∈ entries)
    ∨ ∃ d, v = .datetime d ∧ x = .ofList [(datetimeKey, d.text)]
  | logLevel, v, s => v = .string s
  | logFile, v, s => v = .string s

/-- A value is read just if it fits. -/
lemma exists_read_iff {key : Key} {v : Toml.Value} : (∃ x, key.read v = .ok x) ↔ key.Fits v := by
  cases key with
  | argv =>
      simp only [read, strings_eq_ok_iff]
      constructor
      · rintro ⟨argv, hitems⟩
        exact ⟨_, hitems, fun item hitem => (List.mem_map.mp hitem).imp fun s hs => hs.2.symm⟩
      · rintro ⟨items, hitems, hstrings⟩
        obtain ⟨argv, rfl⟩ : items ∈ Set.range (List.map Toml.Value.string) := by
          rw [Set.range_list_map]
          exact fun item hitem => (hstrings item hitem).imp fun s hs => hs.symm
        exact ⟨argv, hitems⟩
  | maxStartAttempts =>
      simp only [read, map_eq_ok_iff, natural_eq_ok_iff]
      constructor
      · rintro ⟨_, n, ⟨rfl, hn⟩, -⟩
        exact ⟨n, rfl, by omega, by omega⟩
      · rintro ⟨n, rfl, hpos, hn⟩
        exact ⟨_, n.toNat, ⟨by rw [Int.toNat_of_nonneg hpos], by omega⟩, rfl⟩
  | traceColor =>
      simp only [read, map_eq_ok_iff, natural_eq_ok_iff]
      constructor
      · rintro ⟨_, n, ⟨rfl, hn⟩, -⟩
        exact ⟨n, rfl, by omega, by omega⟩
      · rintro ⟨n, rfl, hpos, hn⟩
        exact ⟨_, n.toNat, ⟨by rw [Int.toNat_of_nonneg hpos], by omega⟩, rfl⟩
  | env =>
      cases v with
      | table origin entries =>
          simp only [read, stringMap_table_eq_ok_iff]
          constructor
          · rintro ⟨_, pairs, hpairs, -⟩
            exact .inl ⟨origin, entries, rfl, exists_map_entryOf_eq_iff.mp ⟨pairs, hpairs⟩⟩
          · rintro (⟨_, _, heq, hstrings⟩ | ⟨d, hd⟩)
            · cases heq
              obtain ⟨pairs, hpairs⟩ := exists_map_entryOf_eq_iff.mpr hstrings
              exact ⟨_, pairs, hpairs, rfl⟩
            · cases hd
      | datetime d => exact iff_of_true ⟨_, rfl⟩ (.inr ⟨d, rfl⟩)
      | _ => exact iff_of_false (by rintro ⟨_, ⟨⟩⟩) (by rintro (⟨_, _, ⟨⟩, _⟩ | ⟨_, ⟨⟩⟩))
  | logLevel => exact exists_congr fun s => string_eq_ok_iff
  | logFile => exact exists_congr fun s => string_eq_ok_iff

lemma toNat_max_ofNat {n : ℕ} (h : n < 4294967296) :
    ((max (UInt32.ofNat n) 1).toNat : ℤ) = max 1 (n : ℤ) := by
  rw [UInt32.toNat_max, UInt32.toNat_ofNat_of_lt' h]
  change ((max n 1 : ℕ) : ℤ) = _
  omega

lemma toNat_min_ofNat {n : ℕ} (h : n < 256) :
    ((min (UInt8.ofNat n) defaultColor).toNat : ℤ) = min 15 (n : ℤ) := by
  rw [UInt8.toNat_min, UInt8.toNat_ofNat_of_lt' h]
  change ((min n 15 : ℕ) : ℤ) = _
  omega

/-- What is read is then what it gives, as far as it is allowed. -/
lemma gives_of_read {key : Key} {v : Toml.Value} (hv : v.Keyed) {x : key.Field}
    (h : key.read v = .ok x) : key.Gives v (key.clamp x) := by
  cases key with
  | argv => exact strings_eq_ok_iff.mp h
  | maxStartAttempts =>
      obtain ⟨n, hn, rfl⟩ := map_eq_ok_iff.mp h
      obtain ⟨rfl, hlt⟩ := natural_eq_ok_iff.mp hn
      exact ⟨n, rfl, toNat_max_ofNat hlt⟩
  | traceColor =>
      obtain ⟨n, hn, rfl⟩ := map_eq_ok_iff.mp h
      obtain ⟨rfl, hlt⟩ := natural_eq_ok_iff.mp hn
      exact ⟨n, rfl, toNat_min_ofNat hlt⟩
  | env =>
      cases v with
      | table origin entries =>
          have hnodup := (Toml.Value.keyed_table_iff.mp hv).nodup
          rw [read, stringMap_table_eq_ok_iff_forall hnodup] at h
          exact .inl ⟨origin, entries, rfl, h.2⟩
      | datetime d => exact .inr ⟨d, rfl, (Except.ok.inj h).symm⟩
      | _ => cases h
  | logLevel => exact string_eq_ok_iff.mp h
  | logFile => exact string_eq_ok_iff.mp h

/-- The order of the keys of a table does not matter. -/
lemma read_congr {key : Key} {v w : Toml.Value} (h : v.Same w) (hv : v.Keyed) (hw : w.Keyed)
    {x : key.Field} : key.read v = .ok x ↔ key.read w = .ok x := by
  cases h with
  | refl => rfl
  | table hperm =>
      cases key with
      | env =>
          rw [read, read, stringMap_table_eq_ok_iff_forall (Toml.Value.keyed_table_iff.mp hv).nodup,
            stringMap_table_eq_ok_iff_forall (Toml.Value.keyed_table_iff.mp hw).nodup]
          simp only [hperm.mem_iff]
      | _ => exact iff_of_false nofun nofun

/-- So it is with values that may be missing. -/
lemma field_congr {key : Key} {found other : Option Toml.Value}
    (h : Option.Rel Toml.Value.Same found other) (hfound : ∀ v, found = some v → v.Keyed)
    (hother : ∀ v, other = some v → v.Keyed) {x missing : key.Field} :
    ((found = none → x = missing) ∧ ∀ v, found = some v → key.read v = .ok x)
      ↔ (other = none → x = missing) ∧ ∀ v, other = some v → key.read v = .ok x := by
  cases h with
  | none => rfl
  | some hsame =>
      simp only [reduceCtorEq, IsEmpty.forall_iff, true_and, Option.some.injEq, forall_eq']
      exact read_congr hsame (hfound _ rfl) (hother _ rfl)

end Key

/-! ### Tables -/

/-- Entries that are gone through in order give the fields of their keys what they are read as, and
leave the others as they are. -/
lemma foldlM_take_eq_ok_iff {t : Toml.Table} (h : (t.map Prod.fst).Nodup)
    {before after : Settings} :
    t.foldlM (fun s (name, v) => s.take name v) before = .ok after
      ↔ ∀ key : Key, (t.get? key.name = none → key.get after = key.get before)
        ∧ ∀ v, t.get? key.name = some v → key.read v = .ok (key.get after) := by
  induction t generalizing before with
  | nil =>
      have hget (name : String) : Toml.Table.get? [] name = none := rfl
      simp only [hget, reduceCtorEq, IsEmpty.forall_iff, forall_true_left, implies_true, and_true]
      exact ⟨fun h key => Except.ok.inj h ▸ rfl, fun h => congrArg Except.ok (ext_get h).symm⟩
  | cons entry rest ih =>
      obtain ⟨name, v⟩ := entry
      obtain ⟨hnew, hrest⟩ := List.nodup_cons.mp h
      have hother {key : Key} (hne : key.name ≠ name) :
          Toml.Table.get? ((name, v) :: rest) key.name = Toml.Table.get? rest key.name :=
        lookup_cons_of_ne hne
      rw [List.foldlM_cons]
      by_cases hknown : ∃ key : Key, key.name = name
      · obtain ⟨key, rfl⟩ := hknown
        have hself : Toml.Table.get? ((key.name, v) :: rest) key.name = some v :=
          List.lookup_cons_self
        have hgone : Toml.Table.get? rest key.name = none := lookup_eq_none_iff_notMem.mpr hnew
        have hname {other : Key} (hne : other ≠ key) : other.name ≠ key.name :=
          Key.name_injective.ne hne
        simp only [take_name, bind_eq_ok_iff, map_eq_ok_iff]
        constructor
        · rintro ⟨_, ⟨x, hx, rfl⟩, hfold⟩ other
          have hafter := (ih hrest).mp hfold other
          by_cases heq : other = key
          · subst heq
            rw [hself]
            refine ⟨nofun, fun w hw => ?_⟩
            rw [← Option.some.inj hw, hx, hafter.1 hgone, Key.get_set]
          · rwa [hother (hname heq), ← Key.get_set_of_ne heq before x]
        · intro hall
          refine ⟨_, ⟨_, (hall key).2 v hself, rfl⟩, (ih hrest).mpr fun other => ?_⟩
          by_cases heq : other = key
          · subst heq
            rw [hgone]
            exact ⟨fun _ => (Key.get_set other before _).symm, nofun⟩
          · rw [Key.get_set_of_ne heq, ← hother (hname heq)]
            exact hall other
      · have hunknown (key : Key) : key.name ≠ name := fun heq => hknown ⟨key, heq⟩
        change (before.take name v >>= fun s => _) = _ ↔ _
        rw [take_of_ne hunknown]
        refine (ih hrest).trans (forall_congr' fun key => ?_)
        rw [hother (hunknown key)]

lemma parse_eq_ok_iff {text : String} {t : Toml.Table} (h : Toml.Document.parse? text = some t)
    {s : Settings} :
    parse text = .ok s ↔ ∃ u : Settings, u.clamp = s
      ∧ ∀ key : Key, (t.get? key.name = none → key.get u = key.get {})
        ∧ ∀ v, t.get? key.name = some v → key.read v = .ok (key.get u) := by
  have hdecode : parse text = .ok s ↔ decode t = .ok s := by
    unfold parse
    rw [h]
    dsimp only
    cases decode t with
    | ok u => simp only [Except.ok.injEq]
    | error cause => exact iff_of_false nofun nofun
  rw [hdecode, decode, bind_eq_ok_iff]
  refine exists_congr fun u => ?_
  rw [foldlM_take_eq_ok_iff (Toml.Document.keyed_of_parse? h).nodup, and_comm]
  exact and_congr_left fun _ => .of_eq (Except.ok.injEq _ _)

/-- A document has settings just if each key that is there has a value that fits. -/
lemma exists_parse_iff {text : String} {t : Toml.Table} (h : Toml.Document.parse? text = some t) :
    (∃ s, parse text = .ok s) ↔ ∀ key : Key, ∀ v, t.get? key.name = some v → key.Fits v := by
  constructor
  · rintro ⟨s, hs⟩ key v hv
    obtain ⟨raw, -, hraw⟩ := (parse_eq_ok_iff h).mp hs
    exact Key.exists_read_iff.mp ⟨_, (hraw key).2 v hv⟩
  · intro hfits
    have hfield (key : Key) : ∃ x : key.Field, (t.get? key.name = none → x = key.get {})
        ∧ ∀ v, t.get? key.name = some v → key.read v = .ok x := by
      cases hget : t.get? key.name with
      | none => exact ⟨_, fun _ => rfl, nofun⟩
      | some v =>
          obtain ⟨x, hx⟩ := Key.exists_read_iff.mpr (hfits key v hget)
          exact ⟨x, nofun, fun w hw => Option.some.inj hw ▸ hx⟩
    choose field hfield using hfield
    obtain ⟨raw, hraw⟩ := exists_get_eq field
    refine ⟨raw.clamp, (parse_eq_ok_iff h).mpr ⟨raw, rfl, fun key => ?_⟩⟩
    rw [hraw key]
    exact hfield key

/-- Settings as the values of a table give them: a field is the default when its key is missing, and
else what the value of the key gives. -/
def Given (t : Toml.Table) (s : Settings) : Prop :=
  ∀ key : Key, (t.get? key.name = none → key.get s = key.get {})
    ∧ ∀ v, t.get? key.name = some v → key.Gives v (key.get s)

lemma given_of_parse {text : String} {t : Toml.Table} (h : Toml.Document.parse? text = some t)
    {s : Settings} (hs : parse text = .ok s) : Given t s := by
  intro key
  have hkeyed := Toml.Document.keyed_of_parse? h
  obtain ⟨raw, rfl, hraw⟩ := (parse_eq_ok_iff h).mp hs
  rw [Key.get_clamp]
  refine ⟨fun hnone => ?_, fun v hv => Key.gives_of_read (hkeyed.value hv) ((hraw key).2 v hv)⟩
  rw [(hraw key).1 hnone, Key.clamp_get_default]

/-- **Settings are decoded exactly, and key by key.**

No key stands twice in a document. Its settings can be decoded just if each of the six keys that is
there has a value that fits. Then each field is decided by its own key alone: it is the default when
the key is missing, and else what the value gives. So nothing else in a document matters: any other
document that has the same values under the six keys, in whatever order and with whatever else in
it, has the same settings, or none. -/
theorem parse_keywise {text : String} {t : Toml.Table} (h : Toml.Document.parse? text = some t) :
    (t.map Prod.fst).Nodup
      ∧ ((∃ s, parse text = .ok s) ↔ ∀ key : Key, ∀ v, t.get? key.name = some v → key.Fits v)
      ∧ (∀ s, parse text = .ok s → ∀ key : Key,
        (t.get? key.name = none → key.get s = key.get {})
          ∧ ∀ v, t.get? key.name = some v → key.Gives v (key.get s))
      ∧ ∀ other u, Toml.Document.parse? other = some u →
        (∀ key : Key, Option.Rel Toml.Value.Same (t.get? key.name) (u.get? key.name)) →
        (parse other).toOption = (parse text).toOption := by
  have hkeyed := Toml.Document.keyed_of_parse? h
  refine ⟨hkeyed.nodup, exists_parse_iff h, fun s hs => given_of_parse h hs,
    fun other u hu hsame => toOption_congr fun s => ?_⟩
  rw [parse_eq_ok_iff h, parse_eq_ok_iff hu]
  refine exists_congr fun raw => and_congr_right fun _ => forall_congr' fun key => ?_
  exact (Key.field_congr (hsame key) (fun v hv => hkeyed.value hv) fun v hv =>
    (Toml.Document.keyed_of_parse? hu).value hv).symm

/-- Among keys that are not known, a colour behind the palette; the attempts are not mentioned. -/
theorem parse_keywise_color :
    let text := "more = [1.5, true]\ntrace_color = 200\n[other.table]\nargv = 1979-05-27\n"
    ∃ t s, Toml.Document.parse? text = some t ∧ parse text = .ok s
      ∧ t.get? Key.traceColor.name = some (.integer 200) ∧ s.traceColor.toNat = 15
      ∧ t.get? Key.maxStartAttempts.name = none ∧ s.maxStartAttempts = 3 := by
  intro text
  have hvalues : (Toml.Document.parse? text).map (fun t =>
      ((t.get? Key.traceColor.name).bind Toml.Value.integer?,
        (t.get? Key.maxStartAttempts.name).isNone)) = some (some 200, true) := by decide +kernel
  have hparsed : (parse text).toOption.isSome = true := by decide +kernel
  obtain ⟨t, ht, hvalues⟩ := Option.map_eq_some_iff.mp hvalues
  obtain ⟨s, hs⟩ := Option.isSome_iff_exists.mp hparsed
  rw [toOption_eq_some_iff] at hs
  obtain ⟨hnumber, habsent⟩ := Prod.mk.inj hvalues
  have hnone := Option.isNone_iff_eq_none.mp habsent
  obtain ⟨v, hcolor, hv⟩ := Option.bind_eq_some_iff.mp hnumber
  obtain rfl := Toml.Value.integer?_eq_some_iff.mp hv
  obtain ⟨-, -, hfields, -⟩ := parse_keywise ht
  obtain ⟨n, hn, hclamped⟩ := (hfields s hs .traceColor).2 _ hcolor
  cases hn
  have hattempts := (hfields s hs .maxStartAttempts).1 hnone
  exact ⟨t, s, ht, hs, hcolor, Int.ofNat.inj hclamped, hnone, hattempts⟩

/-- A date is not written as a table, but settings take it for one. -/
theorem parse_datetime_as_env :
    let text := "env = 1979-05-27"
    ∃ t v, Toml.Document.parse? text = some t ∧ t.get? Key.env.name = some v
      ∧ (∀ origin entries, v ≠ .table origin entries) ∧ ∃ s, parse text = .ok s := by
  intro text
  have hvalue : ((Toml.Document.parse? text).bind (Toml.Table.get? · Key.env.name)).map
      Toml.Value.datetime? = some (some { date := some ⟨1979, 5, 27⟩ }) := by decide +kernel
  have hparsed : (parse text).toOption.isSome = true := by decide +kernel
  obtain ⟨v, hv, hdatetime⟩ := Option.map_eq_some_iff.mp hvalue
  obtain ⟨t, ht, hget⟩ := Option.bind_eq_some_iff.mp hv
  obtain ⟨s, hs⟩ := Option.isSome_iff_exists.mp hparsed
  refine ⟨t, v, ht, hget, ?_, s, toOption_eq_some_iff.mp hs⟩
  rintro origin entries rfl
  cases hdatetime

end Settings

end RCart
