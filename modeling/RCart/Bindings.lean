/-!
Names with values, in ascending order of the names.

* `Bindings`: each name has one value, and the names ascend;
* `Bindings.get?`, `insert`, `ofList`: the value of a name, a name given a value, bindings from
  pairs;
* `get?_insert`: a name that is given a value has it, and no other name changes.
-/

namespace RCart

/-- Entries whose names ascend. Names are compared by their code points, which is also the order of
their bytes. -/
def Ascending (entries : List (String × String)) : Prop :=
  entries.Pairwise fun a b => a.1 < b.1

/-- Names with values, in ascending order of the names. -/
structure Bindings where
  /-- The names with their values. -/
  entries : List (String × String) := []
  /-- The names ascend, so each stands once. -/
  ascending : Ascending entries := by simp [Ascending]
  deriving DecidableEq

namespace Bindings

/-! ### Looking up -/

/-- No names. -/
def empty : Bindings := {}

/-- The value of a name. -/
def get? (b : Bindings) (name : String) : Option String :=
  b.entries.lookup name

/-! ### Giving values -/

/-- Gives a name a value, in its place in the order. -/
def insertEntry (name value : String) : List (String × String) → List (String × String)
  | [] => [(name, value)]
  | (n, v) :: rest =>
    if name = n then (name, value) :: rest
    else if name < n then (name, value) :: (n, v) :: rest
    else (n, v) :: insertEntry name value rest

/-- The names after an insertion are the new one and those that were there. -/
theorem mem_insertEntry {name value : String} {entries : List (String × String)}
    {e : String × String} (h : e ∈ insertEntry name value entries) :
    e = (name, value) ∨ e ∈ entries := by
  induction entries with
  | nil => simpa [insertEntry] using h
  | cons head rest ih =>
    obtain ⟨n, v⟩ := head
    simp only [insertEntry] at h
    split at h
    · rcases List.mem_cons.1 h with h | h
      · exact .inl h
      · exact .inr (List.mem_cons_of_mem _ h)
    · split at h
      · rcases List.mem_cons.1 h with h | h
        · exact .inl h
        · exact .inr h
      · rcases List.mem_cons.1 h with h | h
        · exact .inr (h ▸ List.mem_cons_self)
        · exact (ih h).imp id (List.mem_cons_of_mem _)

/-- An insertion keeps the order. -/
theorem ascending_insertEntry (name value : String) {entries : List (String × String)}
    (h : Ascending entries) : Ascending (insertEntry name value entries) := by
  induction entries with
  | nil => simp [insertEntry, Ascending]
  | cons head rest ih =>
    obtain ⟨n, v⟩ := head
    obtain ⟨hhead, hrest⟩ := List.pairwise_cons.1 h
    simp only [insertEntry]
    split
    · next heq => exact List.pairwise_cons.2 ⟨heq ▸ hhead, hrest⟩
    · split
      · next hlt =>
        refine List.pairwise_cons.2 ⟨fun e he => ?_, h⟩
        rcases List.mem_cons.1 he with rfl | he
        · exact hlt
        · exact String.lt_trans hlt (hhead e he)
      · next hne hlt =>
        refine List.pairwise_cons.2 ⟨fun e he => ?_, ih hrest⟩
        rcases mem_insertEntry he with rfl | he
        · exact Std.lt_of_le_of_ne (Std.not_lt.1 hlt) (Ne.symm hne)
        · exact hhead e he

/-- Gives a name a value. -/
def insert (b : Bindings) (name value : String) : Bindings :=
  ⟨insertEntry name value b.entries, ascending_insertEntry name value b.ascending⟩

/-- A name that is given a value has it, and no other name changes. -/
theorem get?_insert (b : Bindings) (name value other : String) :
    (b.insert name value).get? other = if other = name then some value else b.get? other := by
  obtain ⟨entries, h⟩ := b
  simp only [get?, insert]
  clear h
  have hit (n v : String) (rest : List (String × String)) :
      List.lookup other ((n, v) :: rest)
        = if other = n then some v else List.lookup other rest := by
    rw [List.lookup_cons]
    by_cases h : other = n
    · simp [h]
    · rw [beq_eq_false_iff_ne.2 h, if_neg h]
  induction entries with
  | nil => rw [insertEntry, hit]
  | cons head rest ih =>
    obtain ⟨n, v⟩ := head
    simp only [insertEntry]
    split
    · next heq => simp only [hit, ← heq]; split <;> rfl
    · next hne =>
      split
      · rw [hit]
      · rw [hit, hit, ih]
        by_cases h : other = n
        · simp [h, Ne.symm hne]
        · simp [h]

/-- Bindings from pairs in any order; a later value replaces an earlier one. -/
def ofList (pairs : List (String × String)) : Bindings :=
  pairs.foldl (fun b (name, value) => b.insert name value) empty

end Bindings

end RCart
