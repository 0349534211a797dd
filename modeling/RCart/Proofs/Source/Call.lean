import RCart.Proofs.Source.Literal
import RCart.Source.Snippet

/-!
A guarded call is read in one way only.

* `CallText`: the parts of the text of a guarded call, each closed by its own rules;
* `argumentsText_inj`, `CallText.text_inj`: the parts are determined by the text;
* `CallText.Reads`: the call that the parts stand for;
* `GuardedCall.exists_callText`: a call is written as parts that stand for it;
* **`GuardedCall.source_unambiguous`**: the text of a call has no other parts, whatever stands in
  its name and arguments, so only equal calls have equal texts.
-/

namespace RCart.Source

/-! ### The text of a call -/

/-- The parts of the text of a guarded call. -/
structure CallText where
  /-- The name that is looked up. -/
  tested : QuotedText '"'
  /-- The symbol that is asked for a function. -/
  asked : QuotedText '`'
  /-- The symbol that is called. -/
  called : QuotedText '`'
  /-- The arguments. -/
  args : List Token

/-- Arguments as they stand between the parentheses. -/
def argumentsText (ts : List Token) : List Char :=
  [',', ' '].intercalate (ts.map Token.text)

/-- The text that is made of the parts. -/
def CallText.text (t : CallText) : List Char :=
  "if (exists(".toList ++ (t.tested.text ++ (") && is.function(".toList ++ (t.asked.text
    ++ (")) ".toList ++ (t.called.text ++ ("(".toList ++ (argumentsText t.args ++ [')'])))))))

/-! ### Parts of a text -/

/-- What follows an argument: the other ones, and the end. -/
def followingText : List Token → List Char
  | [] => [')']
  | t :: ts => ',' :: ' ' :: (t.text ++ followingText ts)

lemma argumentsText_cons (t : Token) (ts : List Token) :
    argumentsText (t :: ts) ++ [')'] = t.text ++ followingText ts := by
  induction ts generalizing t with
  | nil => simp [argumentsText, followingText]
  | cons u ts ih =>
      have hcons : argumentsText (t :: u :: ts)
          = t.text ++ ',' :: ' ' :: argumentsText (u :: ts) := by
        simp only [argumentsText, List.map_cons, List.intercalate_cons_cons, List.append_assoc,
          List.cons_append, List.nil_append]
      rw [hcons, followingText, ← ih u]
      simp only [List.append_assoc, List.cons_append]

/-- A comma or the end follows an argument, which no word contains. -/
lemma isBareChar_head?_followingText (ts : List Token) :
    ∀ c ∈ (followingText ts).head?, isBareChar c = false := by
  cases ts with
  | nil => simp [followingText, isBareChar]
  | cons t ts => simp [followingText, isBareChar]

lemma followingText_inj {ts us : List Token} (h : followingText ts = followingText us) :
    ts = us := by
  induction ts generalizing us with
  | nil =>
      cases us with
      | nil => rfl
      | cons u us => exact absurd (List.cons.inj h).1 (by decide)
  | cons t ts ih =>
      cases us with
      | nil => exact absurd (List.cons.inj h).1 (by decide)
      | cons u us =>
          obtain ⟨rfl, hrest⟩ := Token.append_inj (isBareChar_head?_followingText ts)
            (isBareChar_head?_followingText us) (List.cons.inj (List.cons.inj h).2).2
          rw [ih hrest]

/-- An argument does not start with the end. -/
lemma Token.text_append_ne_close (t : Token) (rest more : List Char) :
    t.text ++ rest ≠ ')' :: more := by
  obtain ⟨c, cs, htext, hc⟩ := t.exists_text_eq_cons
  rw [htext]
  intro heq
  obtain rfl := (List.cons.inj heq).1
  obtain hquote | hbare := hc
  · exact absurd hquote (by decide)
  · exact absurd hbare (by decide)

/-- The arguments are determined by the text between the parentheses. -/
lemma argumentsText_inj {ts us : List Token}
    (h : argumentsText ts ++ [')'] = argumentsText us ++ [')']) : ts = us := by
  cases ts with
  | nil =>
      cases us with
      | nil => rfl
      | cons u us =>
          rw [argumentsText_cons] at h
          exact absurd h.symm (u.text_append_ne_close _ _)
  | cons t ts =>
      cases us with
      | nil =>
          rw [argumentsText_cons] at h
          exact absurd h (t.text_append_ne_close _ _)
      | cons u us =>
          rw [argumentsText_cons, argumentsText_cons] at h
          obtain ⟨rfl, hrest⟩ := Token.append_inj (isBareChar_head?_followingText ts)
            (isBareChar_head?_followingText us) h
          rw [followingText_inj hrest]

/-- The parts are determined by the text. -/
lemma CallText.text_inj {t u : CallText} (h : t.text = u.text) : t = u := by
  obtain ⟨htested, h⟩ := QuotedText.append_inj (List.append_cancel_left h)
  obtain ⟨hasked, h⟩ := QuotedText.append_inj (List.append_cancel_left h)
  obtain ⟨hcalled, h⟩ := QuotedText.append_inj (List.append_cancel_left h)
  have hargs := argumentsText_inj (List.append_cancel_left h)
  cases t
  cases u
  cases htested
  cases hasked
  cases hcalled
  cases hargs
  rfl

/-! ### The call of a text -/

/-- The parts of a text stand for a call. -/
structure CallText.Reads (t : CallText) (c : GuardedCall) : Prop where
  tested : t.tested.value? = some c.name
  asked : t.asked.value? = some c.name
  called : t.called.value? = some c.name
  args : t.args.map Token.value? = c.args.map some

/-- Parts stand for one call at most. -/
lemma CallText.Reads.unique {t : CallText} {c d : GuardedCall} (hc : t.Reads c) (hd : t.Reads d) :
    c = d := by
  have hname : c.name = d.name := Option.some.inj (hc.tested.symm.trans hd.tested)
  have hargs : c.args = d.args :=
    List.map_injective_iff.mpr (Option.some_injective _) (hc.args.symm.trans hd.args)
  cases c
  cases d
  cases hname
  cases hargs
  rfl

/-! ### Written calls -/

/-- A call up to the many numbers that are not a number. -/
def GuardedCall.normal (c : GuardedCall) : GuardedCall :=
  { c with args := c.args.map Literal.normal }

/-- A call without NULs. -/
structure GuardedCall.NulFree (c : GuardedCall) : Prop where
  name : '\x00' ∉ c.name.toList
  args : ∀ v ∈ c.args, v.NulFree

/-- Values without NULs are written as tokens, one for each. -/
lemma exists_tokens {vs : List Literal} (h : ∀ v ∈ vs, v.NulFree) :
    ∃ ts : List Token, ts.map Token.text = vs.map (fun v => v.source.toList)
      ∧ ts.map Token.value? = (vs.map Literal.normal).map some := by
  induction vs with
  | nil => exact ⟨[], rfl, rfl⟩
  | cons v vs ih =>
      obtain ⟨hv, hvs⟩ := List.forall_mem_cons.mp h
      obtain ⟨t, htext, hvalue⟩ := Literal.exists_token hv
      obtain ⟨ts, htexts, hvalues⟩ := ih hvs
      exact ⟨t :: ts, by rw [List.map_cons, htext, htexts, List.map_cons],
        by rw [List.map_cons, hvalue, hvalues, List.map_cons, List.map_cons]⟩

/-- The parts that a name and arguments are written as. -/
def CallText.ofName (name : String) (ts : List Token) : CallText where
  tested := quotedString name
  asked := quotedSymbol name
  called := quotedSymbol name
  args := ts

lemma CallText.text_ofName (name : String) (ts : List Token) :
    (CallText.ofName name ts).text
      = "if (exists(".toList ++ ((quoteString name).toList ++ (") && is.function(".toList
        ++ ((quoteSymbol name).toList ++ (")) ".toList ++ ((quoteSymbol name).toList
        ++ ("(".toList ++ (argumentsText ts ++ [')']))))))) := by
  rw [← quotedString_text, ← quotedSymbol_text]
  rfl

-- simp cannot unfold the definition: for its equation it would run through the literals
lemma GuardedCall.source_eq (c : GuardedCall) :
    c.source = "if (exists(" ++ quoteString c.name ++ ") && is.function(" ++ quoteSymbol c.name
      ++ ")) " ++ quoteSymbol c.name ++ "(" ++ String.intercalate ", " (c.args.map Literal.source)
      ++ ")" :=
  rfl

/-- A call is written as parts that stand for it. -/
lemma GuardedCall.exists_callText {c : GuardedCall} (hc : c.NulFree) :
    ∃ t : CallText, t.text = c.source.toList ∧ t.Reads c.normal := by
  obtain ⟨ts, htexts, hvalues⟩ := exists_tokens hc.args
  have hcomma : ", ".toList = [',', ' '] := by decide
  have hclose : ")".toList = [')'] := by decide
  have hargs : argumentsText ts
      = (String.intercalate ", " (c.args.map Literal.source)).toList := by
    rw [argumentsText, htexts, String.toList_intercalate, hcomma, List.map_map]
    rfl
  have htext : (CallText.ofName c.name ts).text = c.source.toList := by
    rw [CallText.text_ofName, hargs, ← hclose, c.source_eq]
    simp only [String.toList_append, List.append_assoc]
  have hreads : (CallText.ofName c.name ts).Reads c.normal :=
    ⟨quotedString_value? hc.name, quotedSymbol_value? c.name, quotedSymbol_value? c.name, hvalues⟩
  exact ⟨_, htext, hreads⟩

/-- The text of a call has one reading only, as its name three times over and its arguments in
order; so calls with the same text are the same call. -/
theorem GuardedCall.source_unambiguous {c : GuardedCall} (hc : c.NulFree) :
    (∃ t : CallText, (∀ u : CallText, u.text = c.source.toList ↔ u = t) ∧ t.Reads c.normal)
      ∧ ∀ d : GuardedCall, d.NulFree → d.source = c.source →
        d.name = c.name ∧ d.args.map Literal.normal = c.args.map Literal.normal := by
  obtain ⟨t, htext, hreads⟩ := exists_callText hc
  refine ⟨⟨t, fun u => ⟨fun hu => CallText.text_inj (hu.trans htext.symm), ?_⟩, hreads⟩, ?_⟩
  · rintro rfl
    exact htext
  · intro d hd hsource
    obtain ⟨u, hu, hreadsd⟩ := exists_callText hd
    have hsame : u = t := CallText.text_inj (by rw [hu, hsource, htext])
    have hcall : d.normal = c.normal := (hsame ▸ hreadsd).unique hreads
    exact GuardedCall.mk.inj hcall

/-- A call whose name and argument look like the end of the quoted text that they stand in, with
something that is not a number. -/
def hostileCall (notANumber : Binary64) : GuardedCall where
  name := "f\")) `\\"
  args := [.text "\\\"), quit(\"", .number notANumber, .int Int32.minValue]

theorem GuardedCall.source_unambiguous_hostile :
    (∃ t : CallText,
        (∀ u : CallText, u.text = (hostileCall Binary64.nan).source.toList ↔ u = t)
          ∧ t.Reads (hostileCall Binary64.nan).normal)
      ∧ (hostileCall ⟨0xfff8000000000001⟩).args.map Literal.normal
        = (hostileCall Binary64.nan).args.map Literal.normal := by
  have hfree (x : Binary64) : (hostileCall x).NulFree :=
    ⟨by simp [hostileCall], by simp [hostileCall, Literal.NulFree]⟩
  have hsource : (hostileCall ⟨0xfff8000000000001⟩).source = (hostileCall Binary64.nan).source := by
    decide +kernel
  obtain ⟨hreading, hequal⟩ := GuardedCall.source_unambiguous (hfree Binary64.nan)
  exact ⟨hreading, (hequal _ (hfree _) hsource).2⟩

end RCart.Source
