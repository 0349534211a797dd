import Mathlib.Data.List.Infix
import RCart.Proofs.Interpreter.Shown
import RCart.Proofs.Text.Bytes

/-!
Which reactions fire, and what one evaluation leaves.

* `Recorder.contains_iff`: a piece of code contains a text that is a part of it;
* `Recorder.Fires`: what fires on a piece of code and how that ends, said by a cut of the reactions
  to it, with `fires_iff`: this is `fired` and `verdict`;
* `Recorder.countWith_concat`: how many pieces of code contain a text, after one more;
* `Recorder.eval_exact`: **an evaluation is refused and changes nothing, or the code is remembered
  once and exactly the right reactions fire**.
-/

namespace RCart.Recorder

/-! ### Parts of a piece of code -/

/-- A piece of code contains the texts that are parts of it, the empty one among them. -/
lemma contains_iff (code text : String) :
    contains code text = true ↔ text.toList <:+: code.toList := by
  rw [contains, Text.occursIn_iff]
  constructor
  · rintro ⟨before, after, h⟩
    exact ⟨before, after, h.symm⟩
  · rintro ⟨before, after, h⟩
    exact ⟨before, after, h.symm⟩

/-- One more piece of code counts if the text is a part of it. -/
lemma countWith_concat (r : Recorder) (code : String) (answers : List Value) (text : String) :
    ({ r with evaluated := r.evaluated ++ [code], answers } : Recorder).countWith text
      = r.countWith text + if text.toList <:+: code.toList then 1 else 0 := by
  rw [countWith, countWith, List.countP_append, List.countP_singleton]
  simp only [contains_iff]

/-! ### What fires -/

/-- The reactions whose pattern is a part of a piece of code, in the order of registration. -/
def reactionsTo (code : String) (registered : List (String × Reaction)) : List Reaction :=
  (registered.filter fun e => e.1.toList <:+: code.toList).map Prod.snd

/-- What fires on a piece of code, in the order of registration, and how the evaluation ends. -/
inductive Fires (code : String) (registered : List (String × Reaction)) :
    List Reaction → Except Fault Unit → Prop where
  /-- No reaction to the code ends the evaluation: all of them fire. -/
  | through (h : ∀ reaction ∈ reactionsTo code registered, reaction.fault? = none) :
      Fires code registered (reactionsTo code registered) (.ok ())
  /-- One ends it that none before it does: it is the last to fire. -/
  | cut {before after : List Reaction} {last : Reaction} {fault : Fault}
      (hsplit : reactionsTo code registered = before ++ last :: after)
      (hbefore : ∀ reaction ∈ before, reaction.fault? = none)
      (hlast : last.fault? = some fault) :
      Fires code registered (before ++ [last]) (.error fault)

lemma fired_eq (code : String) (registered : List (String × Reaction)) :
    fired code registered
      = (reactionsTo code registered).takeWhile (·.fault?.isNone)
        ++ ((reactionsTo code registered).dropWhile (·.fault?.isNone)).take 1 := by
  have hmatching : (registered.filter fun e => contains code e.1) =
      registered.filter fun e => e.1.toList <:+: code.toList :=
    List.filter_congr fun e _ => Bool.eq_iff_iff.mpr (by simp [contains_iff])
  rw [fired, hmatching, reactionsTo]

/-- Of the reactions to a piece of code, cut in front of the first that ends the evaluation, all
before the cut fire, and that one, if there is one. -/
lemma fired_of_cut {code : String} {registered : List (String × Reaction)}
    {before rest : List Reaction} (hsplit : reactionsTo code registered = before ++ rest)
    (hbefore : ∀ reaction ∈ before, reaction.fault? = none)
    (hrest : ∀ reaction ∈ rest.head?, reaction.fault?.isNone = false) :
    fired code registered = before ++ rest.take 1 := by
  obtain ⟨htake, hdrop⟩ := Text.takeWhile_append_of_head?
    (fun reaction h => Option.isNone_iff_eq_none.mpr (hbefore reaction h)) hrest
  rw [fired_eq, hsplit, htake, hdrop]

/-- Reactions that go on do not count for how an evaluation ends. -/
lemma verdict_append_of_going {before : List Reaction}
    (h : ∀ reaction ∈ before, reaction.fault? = none) (rest : List Reaction) :
    verdict (before ++ rest) = verdict rest := by
  rw [verdict, List.findSome?_append, List.findSome?_eq_none_iff.mpr h, Option.none_or, verdict]

/-- There is one way to fire on a piece of code: that of the recorder. -/
lemma fires_iff {code : String} {registered : List (String × Reaction)} {reactions : List Reaction}
    {result : Except Fault Unit} :
    Fires code registered reactions result
      ↔ reactions = fired code registered ∧ result = verdict reactions := by
  constructor
  · intro h
    cases h with
    | through hgoing =>
        have hsplit : reactionsTo code registered = reactionsTo code registered ++ [] :=
          (List.append_nil _).symm
        have hfired := fired_of_cut hsplit hgoing nofun
        have hverdict := verdict_append_of_going hgoing []
        rw [← hsplit] at hverdict
        exact ⟨hsplit.trans hfired.symm, hverdict.symm⟩
    | @cut before after last fault hsplit hbefore hlast =>
        have hfired := fired_of_cut hsplit hbefore (by simp [hlast])
        exact ⟨hfired.symm, ((verdict_append_of_going hbefore _).trans (verdict_of_end hlast)).symm⟩
  · rintro ⟨rfl, rfl⟩
    -- `rest` begins with the first reaction that ends the evaluation, if one does
    obtain ⟨before, rest, hsplit, hbefore, hrest⟩ :=
      Text.exists_append_head? (·.fault?.isNone) (reactionsTo code registered)
    have hgoing : ∀ reaction ∈ before, reaction.fault? = none :=
      fun reaction h => Option.isNone_iff_eq_none.mp (hbefore reaction h)
    rw [fired_of_cut hsplit hgoing hrest, verdict_append_of_going hgoing]
    cases rest with
    | nil =>
        rw [List.append_nil] at hsplit
        subst hsplit
        rw [List.take_nil, List.append_nil]
        exact .through hgoing
    | cons last after =>
        obtain ⟨fault, hfault⟩ := Option.isSome_iff_exists.mp
          (Option.isNone_eq_false_iff.mp (hrest last rfl))
        rw [List.take_succ_cons, List.take_zero, verdict_of_end hfault]
        exact .cut hsplit hgoing hfault

/-! ### One evaluation -/

/-- **An evaluation is exact**: a recorder that is not running refuses it, and neither the recorder
nor the sink changes. One that is running remembers the code once, whatever comes of it. The
reactions whose pattern is a part of the code fire in the order of registration, up to and including
the first error or death, which is then the result. The sink receives what they print and call and
nothing else, in order, after the log record; the recorder is given its answers in that order, and
nothing else of it changes. A text then stands in one more piece of code if it is a part of this
one. -/
theorem eval_exact {ω : Type} (sink : Sink ω) (code : String) (r : Recorder) (w : ω) :
    let ended := (Interpreter.eval code r).run sink w
    (r.running = false → ended = (.error .notStarted, r, w))
      ∧ (r.running = true →
        let reactions := fired code r.reactions
        let received := sink.receive (reactions.filterMap Reaction.gathered?)
          (sink.note ⟨.debug, "recording eval: " ++ code⟩ w)
        Fires code r.reactions reactions ended.1
          ∧ ended.2 = ({ r with
              evaluated := r.evaluated ++ [code], answers := r.answers ++ received.1 }, received.2)
          ∧ ∀ text, ended.2.1.countWith text
              = r.countWith text + if text.toList <:+: code.toList then 1 else 0) := by
  intro ended
  constructor
  · intro hrunning
    exact congrArg (fun e => e.run sink w) (eval_of_not_running hrunning code)
  · intro hrunning reactions received
    have hended : ended = (verdict reactions, { r with
        evaluated := r.evaluated ++ [code], answers := r.answers ++ received.1 }, received.2) :=
      run_eval_of_running sink hrunning code w
    rw [hended]
    exact ⟨fires_iff.mpr ⟨rfl, rfl⟩, rfl, r.countWith_concat code _⟩

/-- A cart that draws, and six reactions, one of which is not to it: the ink and both calls pass,
each answered by what the sink has received so far, and the error is the last to fire, so that the
recorder does not die. A recorder that was stopped refuses the cart. -/
theorem eval_exact_cut :
    let pix : ApiCall := { name := "pix", args := [.bool true] }
    let r : Recorder := { running := true, evaluated := ["pix <- 1"], reactions := [
      ("", .prints "ink"), ("pix", .calls pix), ("cls", .calls { name := "cls" }), ("", .calls pix),
      ("pix(", .raises "no ink"), ("", .dies "spilt")] }
    let sink : Sink (List Gathered) :=
      { print := fun text seen => seen ++ [.output text]
        call := fun request seen => (.bool (seen.length == 1), seen ++ [.call request])
        note := fun _ seen => seen }
    let ended := (Interpreter.eval "pix(TRUE)" r).run sink []
    let stopped : Recorder := { r with running := false }
    ended = (.error (.eval "no ink"), { r with
          evaluated := ["pix <- 1", "pix(TRUE)"], answers := [.bool true, .bool false] },
        [.output "ink", .call pix, .call pix])
      ∧ ended.2.1.countWith "pix" = 2 ∧ ended.2.1.countWith "pix(" = 1
      ∧ (Interpreter.eval "pix(TRUE)" stopped).run sink [] = (.error .notStarted, stopped, []) := by
  intro pix r sink ended stopped
  obtain ⟨hfires, hended, hcount⟩ := (eval_exact sink "pix(TRUE)" r []).2 rfl
  have hresult : verdict (fired "pix(TRUE)" r.reactions) = .error (.eval "no ink") := by
    decide +kernel
  have hreceived : sink.receive ((fired "pix(TRUE)" r.reactions).filterMap Reaction.gathered?)
      (sink.note ⟨.debug, "recording eval: " ++ "pix(TRUE)"⟩ [])
      = ([.bool true, .bool false], [.output "ink", .call pix, .call pix]) := by
    decide +kernel
  rw [hreceived] at hended
  exact ⟨Prod.ext ((fires_iff.mp hfires).2.trans hresult) hended,
    (hcount "pix").trans (by decide +kernel), (hcount "pix(").trans (by decide +kernel),
    (eval_exact sink "pix(TRUE)" stopped []).1 rfl⟩

end RCart.Recorder
