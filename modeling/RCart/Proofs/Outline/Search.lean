import Mathlib.Logic.Relation
import RCart.Proofs.Outline.Span

/-!
Searches through the bytes of a text.

A search goes through a text by positions in bytes: it looks for a mark from where it stands, reads
the bytes around the mark and goes on at a later position. What it asks for may not be there: no
part of a text starts inside a character, and no byte stands beyond the end.

* `Search.turn`: one turn of a search, which fails when it asks for what is not there;
* `IsSafe`: a search never fails and always gets on, up to its end;
* `Reads`: around each mark there is what a search asks for, and it goes on before the next mark;
* `AtPlaces`, `AtPlaces.turn_cases`: the invariant of a search, and what one turn makes of it;
* `Reads.isSafe`: such a search is safe, and finds what there is at each place of the text.
-/

namespace RCart.Outline

open Text (toBytes)

/-! ### Turns -/

/-- The bytes of a text from byte `i` on; `none` when this is inside a character or beyond the
end. -/
def bytesFrom? (code : String) (i : ℕ) : Option (List UInt8) :=
  if String.Pos.Raw.IsValid code ⟨i⟩ then some ((toBytes code).drop i) else none

/-- Where the first mark stands in some bytes. -/
def firstMark? : List UInt8 → Option ℕ
  | [] => none
  | b :: bytes =>
    if markBytes.isPrefixOf (b :: bytes) then some 0 else (firstMark? bytes).map (· + 1)

/-- Where a search stands, and what it has found. -/
structure Search where
  position : ℕ := 0
  items : List OutlineItem := []

/-- What comes of a turn. -/
inductive Turn where
  /-- The search asked for what is not there. -/
  | fails
  /-- There is no mark any more. -/
  | ends
  /-- The search goes on. -/
  | goesOn (s : Search)

/-- How a search reads the bytes around the mark at a byte: where it goes on, and what it finds.
`none` when it asks for what is not there. -/
abbrev Reader := List UInt8 → ℕ → Option (ℕ × Option OutlineItem)

/-- One turn of a search: it reads around the first mark from its position on. -/
def Search.turn (read : Reader) (code : String) (s : Search) : Turn :=
  match bytesFrom? code s.position with
  | none => .fails
  | some bytes =>
    match firstMark? bytes with
    | none => .ends
    | some i =>
      match read (toBytes code) (s.position + i) with
      | none => .fails
      | some (next, item) => .goesOn ⟨next, s.items ++ item.toList⟩

/-- A search comes to a state, turn by turn from the start of a text. -/
def Reached (read : Reader) (code : String) (s : Search) : Prop :=
  Relation.ReflTransGen (fun s t : Search => s.turn read code = .goesOn t) {} s

/-- A search is safe and finds some items: it never asks for what is not there, each turn gets on
but not beyond the end and not into a character, and it comes to its end with the items. -/
structure IsSafe (read : Reader) (code : String) (items : List OutlineItem) : Prop where
  turn_ne_fails : ∀ s, Reached read code s → s.turn read code ≠ .fails
  gets_on : ∀ s t, Reached read code s → s.turn read code = .goesOn t →
    s.position < t.position ∧ t.position ≤ (toBytes code).length
      ∧ String.Pos.Raw.IsValid code ⟨t.position⟩
  ends : ∃ s, Reached read code s ∧ s.turn read code = .ends ∧ s.items = items

/-! ### The first mark -/

/-- The first mark is a mark, with no other before it; where there is none, there is no mark. -/
lemma firstMark?_cases (bytes : List UInt8) :
    (firstMark? bytes = none ∧ ∀ m, ¬ MarkAt bytes m)
      ∨ ∃ i, firstMark? bytes = some i ∧ MarkAt bytes i ∧ ∀ m, MarkAt bytes m → i ≤ m := by
  induction bytes with
  | nil =>
      refine .inl ⟨rfl, fun m hmark => ?_⟩
      rw [MarkAt, List.drop_nil, List.prefix_nil] at hmark
      exact absurd hmark (by decide)
  | cons b bytes ih =>
      by_cases hhere : markBytes.isPrefixOf (b :: bytes) = true
      · exact .inr ⟨0, by rw [firstMark?, if_pos hhere], List.isPrefixOf_iff_prefix.mp hhere,
          fun m _ => Nat.zero_le m⟩
      · have hlater : ∀ m, MarkAt (b :: bytes) m → ∃ k, m = k + 1 ∧ MarkAt bytes k := by
          intro m hmark
          cases m with
          | zero => exact absurd (List.isPrefixOf_iff_prefix.mpr hmark) hhere
          | succ k => exact ⟨k, rfl, hmark⟩
        rw [firstMark?, if_neg hhere]
        obtain ⟨hnone, hno⟩ | ⟨i, hi, hmark, hfirst⟩ := ih
        · refine .inl ⟨by rw [hnone, Option.map_none], fun m hm => ?_⟩
          obtain ⟨k, -, hk⟩ := hlater m hm
          exact hno k hk
        · refine .inr ⟨i + 1, by rw [hi, Option.map_some], hmark, fun m hm => ?_⟩
          obtain ⟨k, rfl, hk⟩ := hlater m hm
          exact Nat.succ_le_succ (hfirst k hk)

lemma markAt_drop_iff {bytes : List UInt8} {i m : ℕ} :
    MarkAt (bytes.drop i) m ↔ MarkAt bytes (i + m) := by
  rw [MarkAt, MarkAt, List.drop_drop]

/-! ### Searches over the places of a text -/

variable {read : Reader} {code : String} {look : Place → Option OutlineItem}

/-- A reader reads the bytes around each mark of a text: it finds what there is at the place, and
goes on behind the mark, between characters and not behind the next mark. -/
def Reads (read : Reader) (code : String) (look : Place → Option OutlineItem) : Prop :=
  ∀ p ∈ places code, ∃ next, read (toBytes code) p.offset = some (next, look p)
    ∧ p.offset < next ∧ String.Pos.Raw.IsValid code ⟨next⟩
    ∧ ∀ q ∈ places code, p.offset < q.offset → next ≤ q.offset

/-- A search has been at some places of a text and has others before it. -/
structure AtPlaces (code : String) (look : Place → Option OutlineItem) (s : Search)
    (passed ahead : List Place) : Prop where
  places_eq : places code = passed ++ ahead
  items_eq : s.items = passed.filterMap look
  lt_position : ∀ p ∈ passed, p.offset < s.position
  position_le : ∀ p ∈ ahead, s.position ≤ p.offset
  isValid : String.Pos.Raw.IsValid code ⟨s.position⟩

lemma atPlaces_start (code : String) (look : Place → Option OutlineItem) :
    AtPlaces code look {} [] (places code) where
  places_eq := rfl
  items_eq := rfl
  lt_position := nofun
  position_le := fun _ _ => Nat.zero_le _
  isValid := String.Pos.Raw.isValid_zero

variable {s t : Search} {passed ahead : List Place}

/-- The marks from the position of a search on are those of the places before it. -/
lemma AtPlaces.markAt_iff (h : AtPlaces code look s passed ahead) {i : ℕ} :
    MarkAt ((toBytes code).drop s.position) i ↔ ∃ p ∈ ahead, p.offset = s.position + i := by
  rw [markAt_drop_iff, Outline.markAt_iff, h.places_eq]
  constructor
  · rintro ⟨p, hp, hoffset⟩
    obtain hpassed | hahead := List.mem_append.mp hp
    · have hlt := h.lt_position p hpassed
      omega
    · exact ⟨p, hahead, hoffset⟩
  · rintro ⟨p, hp, hoffset⟩
    exact ⟨p, List.mem_append_right _ hp, hoffset⟩

/-- The first mark is that of the first place ahead. -/
lemma AtPlaces.firstMark?_eq {p : Place} (h : AtPlaces code look s passed (p :: ahead)) :
    ∃ i, firstMark? ((toBytes code).drop s.position) = some i ∧ s.position + i = p.offset := by
  have hle := h.position_le p List.mem_cons_self
  have hmark : MarkAt ((toBytes code).drop s.position) (p.offset - s.position) :=
    h.markAt_iff.mpr ⟨p, List.mem_cons_self, by omega⟩
  obtain ⟨-, hno⟩ | ⟨i, hi, hhere, hfirst⟩ := firstMark?_cases ((toBytes code).drop s.position)
  · exact absurd hmark (hno _)
  · obtain ⟨q, hq, hoffset⟩ := h.markAt_iff.mp hhere
    have hlast := hfirst _ hmark
    have hsorted := pairwise_places code
    rw [h.places_eq] at hsorted
    obtain rfl | hq := List.mem_cons.mp hq
    · exact ⟨i, hi, hoffset.symm⟩
    · have hlt := List.rel_of_pairwise_cons (List.pairwise_append.mp hsorted).2.1 hq
      omega

/-- A turn ends the search when no place is ahead, and passes the first one otherwise. -/
lemma AtPlaces.turn_cases (hread : Reads read code look) (h : AtPlaces code look s passed ahead) :
    (ahead = [] ∧ s.turn read code = .ends)
      ∨ ∃ p rest t, ahead = p :: rest ∧ s.turn read code = .goesOn t ∧ s.position < t.position
        ∧ AtPlaces code look t (passed ++ [p]) rest := by
  have hbytes : bytesFrom? code s.position = some ((toBytes code).drop s.position) := by
    rw [bytesFrom?, if_pos h.isValid]
  cases ahead with
  | nil =>
      obtain ⟨hnone, -⟩ | ⟨i, -, hmark, -⟩ := firstMark?_cases ((toBytes code).drop s.position)
      · exact .inl ⟨rfl, by rw [Search.turn, hbytes]; simp only [hnone]⟩
      · obtain ⟨p, hp, -⟩ := h.markAt_iff.mp hmark
        cases hp
  | cons p rest =>
      obtain ⟨i, hi, hoffset⟩ := h.firstMark?_eq
      have hp : p ∈ places code := h.places_eq ▸ List.mem_append_right _ List.mem_cons_self
      obtain ⟨next, hnext, hlt, hvalid, hbefore⟩ := hread p hp
      rw [← hoffset] at hnext
      have hle := h.position_le p List.mem_cons_self
      refine .inr ⟨p, rest, ⟨next, s.items ++ (look p).toList⟩, rfl, ?_, hle.trans_lt hlt, ?_⟩
      · rw [Search.turn, hbytes]
        simp only [hi, hnext]
      · have hplaces : places code = (passed ++ [p]) ++ rest := by
          rw [h.places_eq, List.append_assoc, List.singleton_append]
        refine ⟨hplaces, ?_, fun q hq => ?_, fun q hq => ?_, hvalid⟩
        · rw [h.items_eq, List.filterMap_append, List.filterMap_cons]
          cases look p <;> rfl
        · obtain hq | hq := List.mem_append.mp hq
          · exact ((h.lt_position q hq).trans_le hle).trans hlt
          · rwa [List.mem_singleton.mp hq]
        · have hsorted := pairwise_places code
          rw [h.places_eq] at hsorted
          exact hbefore q (hplaces ▸ List.mem_append_right _ hq)
            (List.rel_of_pairwise_cons (List.pairwise_append.mp hsorted).2.1 hq)

/-- Wherever a search comes, it has passed some places. -/
lemma Reached.atPlaces (hread : Reads read code look) (h : Reached read code s) :
    ∃ passed ahead, AtPlaces code look s passed ahead := by
  induction h with
  | refl => exact ⟨[], _, atPlaces_start code look⟩
  | @tail s t _ hturn ih =>
      obtain ⟨passed, ahead, hs⟩ := ih
      obtain ⟨-, hends⟩ | ⟨p, rest, u, -, hgoes, -, hu⟩ := hs.turn_cases hread
      · rw [hends] at hturn
        cases hturn
      · rw [hgoes] at hturn
        cases hturn
        exact ⟨_, _, hu⟩

/-- A search comes to its end, with what there is at all of the places. -/
lemma AtPlaces.exists_ends (hread : Reads read code look) (h : AtPlaces code look s passed ahead)
    (hs : Reached read code s) :
    ∃ t, Reached read code t ∧ t.turn read code = .ends
      ∧ t.items = (places code).filterMap look := by
  induction ahead generalizing s passed with
  | nil =>
      obtain ⟨-, hends⟩ | ⟨p, rest, t, hahead, -⟩ := h.turn_cases hread
      · exact ⟨s, hs, hends, by rw [h.items_eq, h.places_eq, List.append_nil]⟩
      · cases hahead
  | cons p rest ih =>
      obtain ⟨hahead, -⟩ | ⟨q, rest', t, hahead, hgoes, -, ht⟩ := h.turn_cases hread
      · cases hahead
      · cases hahead
        exact ih ht (hs.tail hgoes)

/-- A search that reads around each mark is safe, and finds what there is at each place. -/
theorem Reads.isSafe (hread : Reads read code look) :
    IsSafe read code ((places code).filterMap look) where
  turn_ne_fails := by
    intro s hs hfails
    obtain ⟨passed, ahead, h⟩ := hs.atPlaces hread
    obtain ⟨-, hends⟩ | ⟨p, rest, t, -, hgoes, -⟩ := h.turn_cases hread
    · exact nomatch hfails.symm.trans hends
    · exact nomatch hfails.symm.trans hgoes
  gets_on := by
    intro s t hs hturn
    obtain ⟨passed, ahead, h⟩ := hs.atPlaces hread
    obtain ⟨-, hends⟩ | ⟨p, rest, u, -, hgoes, hlt, hu⟩ := h.turn_cases hread
    · exact nomatch hturn.symm.trans hends
    · obtain rfl : t = u := Turn.goesOn.inj (hturn.symm.trans hgoes)
      exact ⟨hlt, hu.isValid.le_rawEndPos, hu.isValid⟩
  ends := (atPlaces_start code look).exists_ends hread .refl

end RCart.Outline
