import RCart.Proofs.Bindings
import RCart.Toml.Document

/-!
The keys of TOML documents.

No table of a document has a key twice, neither the document itself nor a table in it.

* `Reader.Yields`: all that a reader reads has a property, one lemma for each way to make readers;
* `Value.Keyed`, `Table.Keyed`: no table in a value, or in a table and its values, has a key twice;
* `Table.Keyed.update`, `define`: changes below a path keep it so;
* `Document.yields_keyed_value`: values are read so;
* **`Document.keyed_of_parse?`**: documents are so.
-/

namespace RCart.Toml

/-! ### What readers read -/

namespace Reader

variable {α β : Type} {P : α → Prop} {Q : β → Prop} {p q : Reader α}

/-- All that a reader reads has a property. -/
def Yields (P : α → Prop) (p : Reader α) : Prop :=
  ∀ cs a rest, p cs = some (a, rest) → P a

lemma yields_pure {a : α} (h : P a) : Yields P (pure a) := by
  intro cs b rest hread
  cases hread
  exact h

lemma yields_failure : Yields P failure := by
  intro cs a rest hread
  cases hread

lemma Yields.bind (hp : Yields P p) {f : α → Reader β} (hf : ∀ a, P a → Yields Q (f a)) :
    Yields Q (p >>= f) := by
  intro cs b rest hread
  obtain ⟨⟨a, middle⟩, ha, hb⟩ := Option.bind_eq_some_iff.mp hread
  exact hf a (hp cs a middle ha) middle b rest hb

/-- What is read last has the property, whatever is read before. -/
lemma yields_bind {p : Reader α} {f : α → Reader β} (hf : ∀ a, Yields Q (f a)) :
    Yields Q (p >>= f) := by
  have hany : Yields (fun _ => True) p := fun _ _ _ _ => trivial
  exact hany.bind fun a _ => hf a

lemma Yields.map (hp : Yields P p) {f : α → β} (h : ∀ a, P a → Q (f a)) : Yields Q (f <$> p) :=
  hp.bind fun a ha => yields_pure (h a ha)

lemma yields_map {p : Reader α} {f : α → β} (h : ∀ a, Q (f a)) : Yields Q (f <$> p) :=
  yields_bind fun a => yields_pure (h a)

lemma Yields.orElse (hp : Yields P p) (hq : Yields P q) : Yields P (p <|> q) := by
  intro cs a rest hread
  change (p cs <|> q cs) = some (a, rest) at hread
  cases hfirst : p cs with
  | none =>
      rw [hfirst] at hread
      exact hq cs a rest hread
  | some found =>
      rw [hfirst] at hread
      exact hp cs a rest (hfirst.trans hread)

lemma Yields.optional (hp : Yields P p) : Yields (fun o => ∀ a ∈ o, P a) (Reader.optional p) := by
  refine Yields.orElse (hp.map fun a ha b hb => ?_) (yields_pure fun a ha => nomatch ha)
  exact Option.mem_some.mp hb ▸ ha

lemma Yields.mem_manyFrom (hp : Yields P p) (cs : List Char) : ∀ a ∈ (manyFrom p cs).1, P a := by
  fun_induction manyFrom p cs with
  | case1 cs hnone => exact List.forall_mem_nil _
  | case2 cs a rest hread hlt found last hmany ih =>
      rw [hmany] at ih
      exact List.forall_mem_cons.mpr ⟨hp cs a rest hread, ih⟩
  | case3 cs a rest hread hlt => exact List.forall_mem_nil _

lemma Yields.many (hp : Yields P p) : Yields (fun l => ∀ a ∈ l, P a) (Reader.many p) := by
  intro cs found rest hread
  have hfound : (manyFrom p cs).1 = found := congrArg Prod.fst (Option.some.inj hread)
  exact hfound ▸ hp.mem_manyFrom cs

lemma Yields.separated (hp : Yields P p) (separator : Reader Unit) :
    Yields (fun l => ∀ a ∈ l, P a) (Reader.separated p separator) :=
  hp.bind fun _ hfirst => (yields_bind fun _ => hp).many.bind fun _ hrest =>
    yields_pure (List.forall_mem_cons.mpr ⟨hfirst, hrest⟩)

end Reader

open Reader (Yields yields_pure yields_failure yields_bind yields_map)

/-! ### Keyed values -/

/-- No table in a value has a key twice. -/
inductive Value.Keyed : Value → Prop where
  | string (s : String) : Keyed (.string s)
  | integer (n : Int) : Keyed (.integer n)
  | float (x : Binary64) : Keyed (.float x)
  | boolean (b : Bool) : Keyed (.boolean b)
  | datetime (d : Datetime) : Keyed (.datetime d)
  | array {items : List Value} (hitems : ∀ v ∈ items, Keyed v) : Keyed (.array items)
  | table {origin : Origin} {entries : Table} (hnodup : (entries.map Prod.fst).Nodup)
    (hvalues : ∀ e ∈ entries, Keyed e.2) : Keyed (.table origin entries)
  | tables {elements : List Table} (hnodup : ∀ t ∈ elements, (t.map Prod.fst).Nodup)
    (hvalues : ∀ t ∈ elements, ∀ e ∈ t, Keyed e.2) : Keyed (.tables elements)

/-- No key stands twice in a table, nor in any table in it. -/
structure Table.Keyed (t : Table) : Prop where
  nodup : (t.map Prod.fst).Nodup
  values : ∀ e ∈ t, e.2.Keyed

lemma Value.keyed_table_iff {origin : Origin} {t : Table} :
    (Value.table origin t).Keyed ↔ t.Keyed := by
  constructor
  · rintro (_ | _ | _ | _ | _ | _ | ⟨hnodup, hvalues⟩)
    exact ⟨hnodup, hvalues⟩
  · exact fun h => .table h.nodup h.values

lemma Value.keyed_tables_iff {elements : List Table} :
    (Value.tables elements).Keyed ↔ ∀ t ∈ elements, t.Keyed := by
  constructor
  · rintro (_ | _ | _ | _ | _ | _ | _ | ⟨hnodup, hvalues⟩)
    exact fun t ht => ⟨hnodup t ht, hvalues t ht⟩
  · exact fun h => .tables (fun t ht => (h t ht).nodup) fun t ht => (h t ht).values

/-! ### Changes of tables -/

namespace Table

variable {t : Table} {key : String} {v : Value}

lemma keyed_nil : Keyed [] :=
  ⟨.nil, List.forall_mem_nil _⟩

namespace Keyed

lemma value (h : t.Keyed) (hget : t.get? key = some v) : v.Keyed :=
  h.values (key, v) ((lookup_eq_some_iff_mem h.nodup).mp hget)

lemma append (h : t.Keyed) (hnew : t.get? key = none) (hv : v.Keyed) :
    Keyed (t ++ [(key, v)]) := by
  constructor
  · rw [List.map_append, List.nodup_append]
    refine ⟨h.nodup, List.nodup_singleton _, ?_⟩
    rintro name hname _ hkey rfl
    obtain rfl := List.mem_singleton.mp hkey
    exact lookup_eq_none_iff_notMem.mp hnew hname
  · exact List.forall_mem_append.mpr ⟨h.values, List.forall_mem_singleton.mpr hv⟩

lemma replace (h : t.Keyed) (hv : v.Keyed) : Keyed (t.replace key v) := by
  constructor
  · have hkeys : (t.replace key v).map Prod.fst = t.map Prod.fst := by
      rw [Table.replace, List.map_map]
      refine List.map_congr_left fun e _ => ?_
      simp only [Function.comp]
      split <;> rfl
    rw [hkeys]
    exact h.nodup
  · intro e he
    obtain ⟨f, hf, rfl⟩ := List.mem_map.mp he
    dsimp only
    split
    · exact hv
    · exact h.values f hf

lemma put (h : t.Keyed) (hv : v.Keyed) : Keyed (t.put key v) := by
  rw [Table.put]
  split
  · exact h.replace hv
  · next hnone => exact h.append (Option.not_isSome_iff_eq_none.mp hnone) hv

lemma erase (h : t.Keyed) (key : String) : Keyed (t.erase key) :=
  ⟨h.nodup.sublist (List.filter_sublist.map _), fun e he => h.values e (List.mem_of_mem_filter he)⟩

/-- What a change keeps for the table at the end of a path, it keeps for the whole table. -/
lemma update {β : Type} {P : β → Prop} {origin : Origin}
    {change : Origin → Table → Option (β × Table)}
    (hchange : ∀ own t found changed, t.Keyed → change own t = some (found, changed) →
      P found ∧ changed.Keyed)
    {path : List String} {own : Origin} (h : t.Keyed) {found : β} {changed : Table}
    (hupdate : Table.update origin change path own t = some (found, changed)) :
    P found ∧ changed.Keyed := by
  induction path generalizing own t found changed with
  | nil => exact hchange own t found changed h hupdate
  | cons key path ih =>
      rw [Table.update] at hupdate
      split at hupdate
      · next hnone =>
        obtain ⟨⟨_, child⟩, hchild, heq⟩ := Option.bind_eq_some_iff.mp hupdate
        cases heq
        obtain ⟨hfound, hkeyed⟩ := ih keyed_nil hchild
        exact ⟨hfound, h.append hnone (Value.keyed_table_iff.mpr hkeyed)⟩
      · next below entries hget =>
        split at hupdate
        · cases hupdate
        · obtain ⟨⟨_, child⟩, hchild, heq⟩ := Option.bind_eq_some_iff.mp hupdate
          cases heq
          obtain ⟨hfound, hkeyed⟩ := ih (Value.keyed_table_iff.mp (h.value hget)) hchild
          exact ⟨hfound, h.replace (Value.keyed_table_iff.mpr hkeyed)⟩
      · next elements hget =>
        have helements := Value.keyed_tables_iff.mp (h.value hget)
        obtain ⟨last, hlast, hrest⟩ := Option.bind_eq_some_iff.mp hupdate
        obtain ⟨⟨_, child⟩, hchild, heq⟩ := Option.bind_eq_some_iff.mp hrest
        cases heq
        obtain ⟨hfound, hkeyed⟩ := ih (helements last (List.mem_of_getLast? hlast)) hchild
        refine ⟨hfound, h.replace (Value.keyed_tables_iff.mpr ?_)⟩
        exact List.forall_mem_append.mpr
          ⟨fun t ht => helements t (List.dropLast_subset elements ht),
            List.forall_mem_singleton.mpr hkeyed⟩
      · cases hupdate

lemma define (h : t.Keyed) (hv : v.Keyed) {own : Origin} {path : List String} {changed : Table}
    (hdefine : Table.define own t path key v = some changed) : changed.Keyed := by
  obtain ⟨⟨_, _⟩, hupdate, rfl⟩ := Option.map_eq_some_iff.mp hdefine
  refine (update (P := fun _ => True) (fun own t found changed h hadd => ?_) h hupdate).2
  split at hadd
  · cases hadd
  · split at hadd
    · cases hadd
    · next hnew =>
      cases hadd
      exact ⟨trivial, h.append (Option.not_isSome_iff_eq_none.mp hnew) hv⟩

end Keyed

end Table

/-! ### Values -/

namespace Scalar

lemma yields_keyed_fitting (n : Int) : Yields Value.Keyed (fitting n) := by
  rw [fitting]
  split
  · exact yields_pure (.integer n)
  · exact yields_failure

lemma yields_keyed_basedInteger (letter : Char) (base : ℕ) (p : Char → Bool) :
    Yields Value.Keyed (basedInteger letter base p) :=
  yields_bind fun _ => yields_bind fun _ => yields_keyed_fitting _

lemma yields_keyed_decimalFloat : Yields Value.Keyed decimalFloat := by
  refine yields_bind fun negative => yields_bind fun whole => yields_bind fun fraction => ?_
  have hfinite (x : Binary64) :
      Yields Value.Keyed (if x = Binary64.infinity false then failure else pure (.float x)) := by
    split
    · exact yields_failure
    · exact yields_pure (.float x)
  dsimp only
  split
  · exact yields_bind fun power => hfinite _
  · exact yields_bind fun power => hfinite _

lemma yields_keyed_wordFloat : Yields Value.Keyed wordFloat :=
  yields_bind fun _ => .orElse (yields_bind fun _ => yields_pure (.float _))
    (yields_bind fun _ => yields_pure (.float _))

lemma yields_keyed_number : Yields Value.Keyed number :=
  .orElse yields_keyed_decimalFloat <| .orElse yields_keyed_wordFloat <|
    .orElse (yields_keyed_basedInteger _ _ _) <| .orElse (yields_keyed_basedInteger _ _ _) <|
    .orElse (yields_keyed_basedInteger _ _ _) <|
    yields_bind fun _ => yields_bind fun _ => yields_keyed_fitting _

lemma yields_keyed_value : Yields Value.Keyed value := by
  refine yields_bind fun c => ?_
  split
  · exact yields_map .string
  · split
    · exact yields_bind fun _ => yields_pure (.boolean _)
    · split
      · exact yields_bind fun _ => yields_pure (.boolean _)
      · exact .orElse (yields_map .datetime) yields_keyed_number

end Scalar

namespace Document

lemma keyed_inlineTable {definitions : List ((List String × String) × Value)}
    (h : ∀ d ∈ definitions, d.2.Keyed) {t : Table} (ht : inlineTable definitions = some t) :
    t.Keyed := by
  have hfold (definitions : List ((List String × String) × Value))
      (h : ∀ d ∈ definitions, d.2.Keyed) {before after : Table} (hbefore : before.Keyed)
      (hafter : definitions.foldlM (fun t d => Table.define .inline t d.1.1 d.1.2 d.2) before
        = some after) :
      after.Keyed := by
    induction definitions generalizing before with
    | nil => exact Option.some.inj hafter ▸ hbefore
    | cons d rest ih =>
        obtain ⟨hd, hrest⟩ := List.forall_mem_cons.mp h
        obtain ⟨middle, hmiddle, hafter⟩ := Option.bind_eq_some_iff.mp hafter
        exact ih hrest (hbefore.define hd hmiddle) hafter
  exact hfold definitions h Table.keyed_nil ht

lemma yields_keyed_array {item : Reader Value} (h : Yields Value.Keyed item) :
    Yields Value.Keyed (array item) := by
  refine yields_bind fun _ => yields_bind fun _ => Yields.bind
    (P := fun found => ∀ items ∈ found, ∀ v ∈ items, v.Keyed) (.optional ?_) fun found hfound => ?_
  · refine h.bind fun first hfirst => yields_bind fun _ => (Yields.many (P := Value.Keyed) ?_).bind
      fun rest hrest => yields_bind fun _ => yields_pure ?_
    · exact yields_bind fun _ => yields_bind fun _ => h.bind fun v hv => yields_bind fun _ =>
        yields_pure hv
    · exact List.forall_mem_cons.mpr ⟨hfirst, hrest⟩
  · refine yields_bind fun _ => yields_pure (.array ?_)
    cases found with
    | none => exact List.forall_mem_nil _
    | some items => exact hfound items rfl

lemma yields_keyed_braces {item : Reader Value} (h : Yields Value.Keyed item) :
    Yields Value.Keyed (braces item) := by
  refine yields_bind fun _ => yields_bind fun _ => Yields.bind
    (P := fun found => ∀ definitions ∈ found, ∀ d ∈ definitions, d.2.Keyed)
    (.optional (.separated ?_ _)) fun found hfound => yields_bind fun _ => ?_
  · exact yields_bind fun k => yields_bind fun _ => yields_bind fun _ => h.bind fun v hv =>
      yields_bind fun _ => yields_pure hv
  · have hdefinitions : ∀ d ∈ found.getD [], d.2.Keyed := by
      cases found with
      | none => exact List.forall_mem_nil _
      | some definitions => exact hfound definitions rfl
    split
    · next entries hentries =>
      exact yields_pure (Value.keyed_table_iff.mpr (keyed_inlineTable hdefinitions hentries))
    · exact yields_failure

lemma yields_keyed_value (depth : ℕ) : Yields Value.Keyed (value depth) := by
  induction depth with
  | zero => exact Scalar.yields_keyed_value
  | succ depth ih =>
      refine yields_bind fun c => ?_
      split
      · exact yields_keyed_array ih
      · exact yields_keyed_braces ih
      · exact Scalar.yields_keyed_value

/-! ### Statements -/

/-- What a statement defines is keyed. -/
def Statement.Keyed : Statement → Prop
  | .define _ _ v => v.Keyed
  | .openTable _ _ | .openElement _ _ => True

lemma yields_keyed_header : Yields Statement.Keyed header :=
  .orElse (yields_bind fun _ => yields_bind fun _ => yields_bind fun _ => yields_pure trivial)
    (yields_bind fun _ => yields_bind fun _ => yields_bind fun _ => yields_pure trivial)

lemma yields_keyed_definition : Yields Statement.Keyed definition :=
  yields_bind fun _ => yields_bind fun _ => yields_bind fun _ =>
    (yields_keyed_value _).bind fun _ hv => yields_pure hv

lemma yields_keyed_line : Yields (fun found => ∀ s ∈ found, Statement.Keyed s) line := by
  refine yields_bind fun _ => yields_bind fun c => Yields.bind
    (P := fun found => ∀ s ∈ found, Statement.Keyed s) (.optional ?_) fun found hfound =>
    yields_bind fun _ => yields_bind fun _ => yields_pure hfound
  split
  · exact yields_keyed_header
  · exact yields_keyed_definition

lemma keyed_statements {text : List Char} {found : List Statement}
    (h : statements text = some found) : ∀ s ∈ found, s.Keyed := by
  unfold statements at h
  dsimp only at h
  split at h
  · next lines hlines =>
    obtain rfl := Option.some.inj h
    intro s hs
    obtain ⟨line, hline, hs⟩ := List.mem_filterMap.mp hs
    exact yields_keyed_line.separated newline _ lines [] hlines line hline s hs
  · cases h

end Document

/-! ### Drafts -/

namespace Draft

open Document (Statement)

variable {d : Draft}

/-- No key stands twice in the finished part of a draft, nor in the open table. -/
structure Keyed (d : Draft) : Prop where
  root : d.root.Keyed
  entries : d.entries.Keyed

lemma Keyed.close (h : d.Keyed) {t : Table} (hclose : d.close = some t) : t.Keyed := by
  rw [Draft.close] at hclose
  split at hclose
  · exact Option.some.inj hclose ▸ h.entries
  · obtain ⟨⟨_, _⟩, hupdate, rfl⟩ := Option.map_eq_some_iff.mp hclose
    refine (h.root.update (P := fun _ => True) (fun own t found changed ht hadd => ?_) hupdate).2
    refine ⟨trivial, ?_⟩
    split at hadd
    · split at hadd
      · next elements hget =>
        cases hadd
        refine ht.put (Value.keyed_tables_iff.mpr (List.forall_mem_append.mpr ⟨?_, ?_⟩))
        · exact Value.keyed_tables_iff.mp (ht.value hget)
        · exact List.forall_mem_singleton.mpr h.entries
      · cases hadd
        exact ht.put (Value.keyed_tables_iff.mpr (List.forall_mem_singleton.mpr h.entries))
      · cases hadd
    · cases hadd
      exact ht.put (Value.keyed_table_iff.mpr h.entries)

lemma keyed_openTable {root : Table} (h : root.Keyed) {path : List String} {key : String}
    (hopen : openTable root path key = some d) : d.Keyed := by
  obtain ⟨⟨entries, changed⟩, hupdate, heq⟩ := Option.bind_eq_some_iff.mp hopen
  obtain rfl := Option.some.inj heq
  suffices hkept : entries.Keyed ∧ changed.Keyed from ⟨hkept.2, hkept.1⟩
  refine h.update (fun own t found changed ht htake => ?_) hupdate
  split at htake
  · cases htake
    exact ⟨Table.keyed_nil, ht⟩
  · next entries hget =>
    cases htake
    exact ⟨Value.keyed_table_iff.mp (ht.value hget), ht.erase key⟩
  · cases htake

lemma keyed_openElement {root : Table} (h : root.Keyed) {path : List String} {key : String}
    (hopen : openElement root path key = some d) : d.Keyed := by
  obtain ⟨⟨_, changed⟩, hupdate, heq⟩ := Option.bind_eq_some_iff.mp hopen
  obtain rfl := Option.some.inj heq
  refine ⟨(h.update (P := fun _ => True) (fun own t found changed ht hreserve => ?_) hupdate).2,
    Table.keyed_nil⟩
  refine ⟨trivial, ?_⟩
  split at hreserve
  · next hnone =>
    cases hreserve
    exact ht.append hnone (Value.keyed_tables_iff.mpr (List.forall_mem_nil _))
  · cases hreserve
    exact ht
  · cases hreserve

lemma Keyed.perform (h : d.Keyed) {s : Statement} (hs : s.Keyed) {after : Draft}
    (hperform : d.perform s = some after) : after.Keyed := by
  cases s with
  | define path key v =>
      obtain ⟨entries, hdefine, heq⟩ := Option.bind_eq_some_iff.mp hperform
      obtain rfl := Option.some.inj heq
      exact ⟨h.root, h.entries.define hs hdefine⟩
  | openTable path key =>
      obtain ⟨root, hclose, hopen⟩ := Option.bind_eq_some_iff.mp hperform
      exact keyed_openTable (h.close hclose) hopen
  | openElement path key =>
      obtain ⟨root, hclose, hopen⟩ := Option.bind_eq_some_iff.mp hperform
      exact keyed_openElement (h.close hclose) hopen

lemma Keyed.performAll (h : d.Keyed) {found : List Statement} (hfound : ∀ s ∈ found, s.Keyed)
    {after : Draft} (hperform : found.foldlM Draft.perform d = some after) : after.Keyed := by
  induction found generalizing d with
  | nil => exact Option.some.inj hperform ▸ h
  | cons s rest ih =>
      obtain ⟨hs, hrest⟩ := List.forall_mem_cons.mp hfound
      obtain ⟨middle, hmiddle, hafter⟩ := Option.bind_eq_some_iff.mp hperform
      exact ih (h.perform hs hmiddle) hrest hafter

end Draft

/-- **No table of a document has a key twice**, neither the document itself nor a table in it. -/
lemma Document.keyed_of_parse? {text : String} {t : Table} (h : Document.parse? text = some t) :
    t.Keyed := by
  obtain ⟨found, hfound, h⟩ := Option.bind_eq_some_iff.mp h
  obtain ⟨draft, hdraft, hclose⟩ := Option.bind_eq_some_iff.mp h
  have hempty : Draft.Keyed {} := ⟨Table.keyed_nil, Table.keyed_nil⟩
  exact (hempty.performAll (keyed_statements hfound) hdraft).close hclose

end RCart.Toml
