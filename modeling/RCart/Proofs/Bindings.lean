import Mathlib.Data.List.Sort
import RCart.Bindings

/-!
Names with values as sets of pairs.

* `lookup_eq_some_iff_mem`: where no name stands twice, looking up is being a member;
* `Bindings.get?_eq_some_iff`, `get?_eq_none_iff`: so it is with bindings;
* `Bindings.ext_get?`: bindings are determined by the values of the names;
* `Bindings.get?_ofList`: bindings from pairs have the values of the pairs.
-/

namespace RCart

/-! ### Looking up in pairs -/

section Pairs

variable {β : Type} {pairs rest : List (String × β)} {name other : String} {value : β}

lemma lookup_cons_of_ne (h : other ≠ name) :
    List.lookup other ((name, value) :: rest) = rest.lookup other := by
  rw [List.lookup_cons, beq_eq_false_iff_ne.mpr h]

lemma lookup_eq_none_iff_notMem : pairs.lookup name = none ↔ name ∉ pairs.map Prod.fst := by
  rw [List.lookup_eq_none_iff, List.mem_map]
  constructor
  · rintro h ⟨pair, hmem, rfl⟩
    exact bne_iff_ne.mp (h pair hmem) rfl
  · intro h pair hmem
    exact bne_iff_ne.mpr fun heq => h ⟨pair, hmem, heq.symm⟩

/-- Where no name stands twice, the value of a name is what stands with it. -/
lemma lookup_eq_some_iff_mem (h : (pairs.map Prod.fst).Nodup) :
    pairs.lookup name = some value ↔ (name, value) ∈ pairs := by
  induction pairs with
  | nil => simp
  | cons pair rest ih =>
      obtain ⟨n, v⟩ := pair
      obtain ⟨hnew, hrest⟩ := List.nodup_cons.mp h
      by_cases hname : name = n
      · subst hname
        have hout : (name, value) ∉ rest := fun hmem => hnew (List.mem_map.mpr ⟨_, hmem, rfl⟩)
        rw [List.lookup_cons_self, Option.some_inj, List.mem_cons, or_iff_left hout, Prod.mk.injEq,
          and_iff_right rfl, eq_comm]
      · have hout : (name, value) ≠ (n, v) := fun heq => hname (congrArg Prod.fst heq)
        rw [lookup_cons_of_ne hname, ih hrest, List.mem_cons, or_iff_right hout]

end Pairs

/-! ### Bindings -/

variable {name value : String} {rest : List (String × String)}

/-- In ascending order, a name does not stand again behind its first entry. -/
lemma notMem_of_ascending (h : Ascending ((name, value) :: rest)) : name ∉ rest.map Prod.fst := by
  intro hmem
  obtain ⟨f, hf, hname⟩ := List.mem_map.mp hmem
  exact String.lt_irrefl name (hname ▸ (List.pairwise_cons.mp h).1 f hf)

namespace Bindings

variable {b c : Bindings}

lemma nodup_entries (b : Bindings) : (b.entries.map Prod.fst).Nodup := by
  refine List.pairwise_map.mpr (b.ascending.imp fun hlt heq => ?_)
  exact String.lt_irrefl _ (heq ▸ hlt)

lemma get?_eq_some_iff : b.get? name = some value ↔ (name, value) ∈ b.entries :=
  lookup_eq_some_iff_mem b.nodup_entries

lemma get?_eq_none_iff : b.get? name = none ↔ name ∉ b.entries.map Prod.fst :=
  lookup_eq_none_iff_notMem

/-- Bindings are determined by the values of the names. -/
lemma ext_get? (h : ∀ name, b.get? name = c.get? name) : b = c := by
  have hmem : ∀ e, e ∈ b.entries ↔ e ∈ c.entries := by
    rintro ⟨name, value⟩
    rw [← get?_eq_some_iff, ← get?_eq_some_iff, h]
  have hperm : b.entries.Perm c.entries :=
    (List.perm_ext_iff_of_nodup b.nodup_entries.of_map c.nodup_entries.of_map).mpr hmem
  have hentries : b.entries = c.entries :=
    hperm.eq_of_pairwise (fun e f _ _ hef hfe => absurd (String.lt_trans hef hfe)
      (String.lt_irrefl _)) b.ascending c.ascending
  cases b
  cases c
  cases hentries
  rfl

/-- Bindings from pairs in which no name stands twice have the values of the pairs. -/
lemma get?_ofList {pairs : List (String × String)} (h : (pairs.map Prod.fst).Nodup)
    (name : String) : (ofList pairs).get? name = pairs.lookup name := by
  -- pairs that are still to come do not change a name that they do not have
  have hfold (pairs : List (String × String)) (h : (pairs.map Prod.fst).Nodup) (b : Bindings) :
      (pairs.foldl (fun b pair => b.insert pair.1 pair.2) b).get? name
        = (pairs.lookup name).or (b.get? name) := by
    induction pairs generalizing b with
    | nil => rfl
    | cons pair rest ih =>
        obtain ⟨n, v⟩ := pair
        obtain ⟨hnew, hrest⟩ := List.nodup_cons.mp h
        rw [List.foldl_cons, ih hrest, get?_insert]
        by_cases hname : name = n
        · rw [hname, lookup_eq_none_iff_notMem.mpr hnew, if_pos rfl, List.lookup_cons_self]
          rfl
        · rw [if_neg hname, lookup_cons_of_ne hname]
  exact (hfold pairs h empty).trans Option.or_none

end Bindings

end RCart
