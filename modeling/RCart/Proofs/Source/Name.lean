import Mathlib.Tactic.Common
import RCart.Source.Name

/-!
Which names can be written without quotes.

* `IsArgumentForm`, `IsReserved`: the reserved words of the language, which has an argument form for
  every number;
* `IsSyntactic`: the syntactic names, a clause for each thing that is asked of them;
* `argumentForm_mem_reservedWords_iff`: the table of reserved words has the argument forms of one
  digit;
* **`isSyntactic_iff`**: what passes for a syntactic name is one, or an argument form that the table
  does not have.
-/

namespace RCart.Source

/-! ### The names of the language -/

/-- The argument form of a number: two dots and the number. -/
def argumentForm (n : ℕ) : String :=
  String.ofList ('.' :: '.' :: Nat.toDigits 10 n)

/-- A name is an argument form: there is one for every number from one on. -/
def IsArgumentForm (name : String) : Prop :=
  ∃ n, 1 ≤ n ∧ name = argumentForm n

/-- A name is reserved: it is a word of the table, or any argument form. -/
def IsReserved (name : String) : Prop :=
  name ∈ reservedWords ∨ IsArgumentForm name

/-- A name is syntactic. -/
structure IsSyntactic (name : String) : Prop where
  ne_empty : name ≠ ""
  chars : ∀ c ∈ name.toList, isNameChar c = true
  starts : ∀ c ∈ name.toList[0]?, isLetter c = true
    ∨ c = '.' ∧ ∀ d ∈ name.toList[1]?, isDigit d = false
  not_reserved : ¬ IsReserved name

/-! ### Argument forms -/

lemma toList_argumentForm (n : ℕ) :
    (argumentForm n).toList = '.' :: '.' :: Nat.toDigits 10 n :=
  String.toList_ofList

/-- An argument form has name characters only. -/
lemma isNameChar_of_mem_argumentForm {n : ℕ} {c : Char} (hc : c ∈ (argumentForm n).toList) :
    isNameChar c = true := by
  rw [toList_argumentForm, List.mem_cons, List.mem_cons] at hc
  obtain rfl | rfl | hdigit := hc
  · decide
  · decide
  · have hdigit : isDigit c = true := Nat.isDigit_of_mem_toDigits (by decide) (by decide) hdigit
    rw [isNameChar, hdigit, Bool.or_true]
    rfl

/-- The table has the argument forms of one digit. -/
lemma argumentForm_mem_reservedWords_iff {n : ℕ} (hn : 1 ≤ n) :
    argumentForm n ∈ reservedWords ↔ n < 10 := by
  constructor
  · intro hmem
    have hlength : ∀ w ∈ reservedWords, w.toList.take 2 = ['.', '.'] → w.toList.length ≤ 3 := by
      decide
    have hform := hlength _ hmem (by rw [toList_argumentForm]; rfl)
    rw [toList_argumentForm, List.length_cons, List.length_cons] at hform
    have hdigits : (Nat.toDigits 10 n).length ≤ 1 := by omega
    exact (Nat.length_toDigits_le_iff (by decide) (by decide)).mp hdigits
  · intro hlt
    have hforms : ∀ k < 10, 1 ≤ k → argumentForm k ∈ reservedWords := by decide
    exact hforms n hlt hn

/-! ### What passes for a syntactic name -/

lemma isNameChar_of_isSyntactic {name : String} (h : isSyntactic name = true) :
    ∀ c ∈ name.toList, isNameChar c = true := by
  rw [isSyntactic, Bool.and_eq_true, Bool.and_eq_true] at h
  exact List.all_eq_true.mp h.1.2

/-- A name starts well just if it is not empty and its first two characters allow it. -/
lemma startsSyntactic_iff {cs : List Char} :
    startsSyntactic cs = true
      ↔ cs ≠ [] ∧ ∀ c ∈ cs[0]?, isLetter c = true ∨ c = '.' ∧ ∀ d ∈ cs[1]?, isDigit d = false := by
  have hdot : isLetter '.' = false := by decide
  match cs with
  | [] => simp [startsSyntactic]
  | [c] => simp [startsSyntactic, or_comm]
  | c :: d :: rest =>
      by_cases hc : c = '.'
      · subst hc
        simp [startsSyntactic, hdot]
      · simp [startsSyntactic, hc]

/-- **What passes for a syntactic name** is a syntactic name or an argument form of two or more
digits: these are reserved, but the table of reserved words does not have them. -/
theorem isSyntactic_iff (name : String) :
    isSyntactic name = true ↔ IsSyntactic name ∨ ∃ n, 10 ≤ n ∧ name = argumentForm n := by
  have hempty : name.toList ≠ [] ↔ name ≠ "" := String.toList_eq_nil_iff.not
  rw [isSyntactic, Bool.and_eq_true, Bool.and_eq_true, startsSyntactic_iff, List.all_eq_true,
    hempty, Bool.not_eq_true', List.contains_eq_mem, decide_eq_false_iff_not]
  constructor
  · rintro ⟨⟨⟨hne, hstarts⟩, hchars⟩, htable⟩
    by_cases hform : IsArgumentForm name
    · obtain ⟨n, hn, rfl⟩ := hform
      rw [argumentForm_mem_reservedWords_iff hn] at htable
      exact .inr ⟨n, by omega, rfl⟩
    · exact .inl ⟨hne, hchars, hstarts, not_or.mpr ⟨htable, hform⟩⟩
  · rintro (hname | ⟨n, hn, rfl⟩)
    · exact ⟨⟨⟨hname.ne_empty, hname.starts⟩, hname.chars⟩, fun h => hname.not_reserved (.inl h)⟩
    · have htable : argumentForm n ∉ reservedWords := by
        rw [argumentForm_mem_reservedWords_iff (by omega)]
        omega
      have hne : argumentForm n ≠ "" := hempty.mp (by rw [toList_argumentForm]; exact nofun)
      refine ⟨⟨⟨hne, ?_⟩, fun c => isNameChar_of_mem_argumentForm⟩, htable⟩
      -- the dot that starts it is followed by another one
      rw [toList_argumentForm]
      rintro _ ⟨⟩
      refine .inr ⟨rfl, ?_⟩
      rintro _ ⟨⟩
      decide

example : isSyntactic "..9" = false ∧ isSyntactic "..10" = true := by
  decide

end RCart.Source
