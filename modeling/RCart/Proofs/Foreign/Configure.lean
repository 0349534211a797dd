import RCart.Foreign.Program
import RCart.Proofs.Adapter.Outlined
import RCart.Proofs.Adapter.Preceded
import RCart.Proofs.Settings.Keywise

/-!
New settings in the middle of a C program.

A C program may ask for new settings at any time, also while a cart is played. What it is told is
all that it has to know: after no, the adapter of its thread is the one that it was; after yes, it
is a new one, and what was done with the old one does not count any more.

* `Foreign.Refused`, `Foreign.Loads`: whether a file has settings, by what is on the way to them;
* `Foreign.outline_cases`: what a request for an outline replies and leaves to its thread;
* `EntryCall.since`: a call by a C program that has seen something before;
* `Foreign.enterAll_precededBy`: calls over a longer transcript;
* `EntryOutcome.insertLog`, `Foreign.enterAll_logAll`: calls over a log with more records;
* `EntryOutcome.outcome`, `Foreign.enter_seenAlike`: calls whatever the array of the thread holds;
* **`Foreign.configure_replaces_or_keeps`**: one of the two happens, whatever was called before and
  whatever is called afterwards.
-/

namespace RCart

/-! ### C programs that remember -/

/-- The C program as it is when it has seen some exchanges before the first that is kept. -/
def CHost.since (history : List Exchange) (h : CHost) : CHost :=
  { h with apiCall := h.apiCall.map fun answer later call => answer (history ++ later) call }

lemma CHost.console_since (history : List Exchange) (h : CHost) :
    (h.since history).console = h.console.since history := by
  obtain ⟨apiCall, keywords, count⟩ := h
  cases apiCall with
  | none => rfl
  | some answer => cases keywords <;> rfl

/-- A call by a C program that has seen some exchanges before. -/
def EntryCall.since (history : List Exchange) : EntryCall → EntryCall
  | .configure tree path => .configure tree path
  | .init host code => .init (host.map (CHost.since history)) code
  | .close host => .close (host.map (CHost.since history))
  | .tick host => .tick (host.map (CHost.since history))
  | .boot host => .boot (host.map (CHost.since history))
  | .menu host index data => .menu (host.map (CHost.since history)) index data
  | .border host row data => .border (host.map (CHost.since history)) row data
  | .scanline host row data => .scanline (host.map (CHost.since history)) row data
  | .eval host code => .eval (host.map (CHost.since history)) code
  | .outline code hasSize => .outline code hasSize

/-- The thread with something that has passed before. -/
def Foreign.Thread.precededBy {σ : Type} (before : Transcript) (t : Foreign.Thread σ) :
    Foreign.Thread σ :=
  { t with adapter := t.adapter.precededBy before }

/-- The outcome with something that has passed before. -/
def EntryOutcome.precededBy {σ : Type} (before : Transcript) (o : EntryOutcome σ) :
    EntryOutcome σ :=
  ⟨o.ending, o.thread.precededBy before⟩

/-- The thread as if nothing had passed so far. -/
def Foreign.Thread.withoutPast {σ : Type} (t : Foreign.Thread σ) : Foreign.Thread σ :=
  { t with adapter := { t.adapter with transcript := {} } }

lemma Foreign.Thread.withoutPast_precededBy {σ : Type} (t : Foreign.Thread σ)
    (before : Transcript) :
    t.withoutPast.precededBy before
      = { t with adapter := { t.adapter with transcript := before } } := by
  simp only [withoutPast, precededBy, Adapter.precededBy, Transcript.precededBy, List.append_nil]

/-! ### Records in between -/

/-- The transcript with log records put in behind the first ones. -/
def Transcript.insertLog (position : ℕ) (records : List LogRecord) (t : Transcript) : Transcript :=
  { t with log := t.log.take position ++ records ++ t.log.drop position }

/-- The outcome with log records put in behind the first ones. -/
def EntryOutcome.insertLog {σ : Type} (position : ℕ) (records : List LogRecord)
    (o : EntryOutcome σ) : EntryOutcome σ :=
  let a := o.thread.adapter
  ⟨o.ending, { o.thread with
    adapter := { a with transcript := a.transcript.insertLog position records } }⟩

/-- Records that are put in behind a past are its last ones. -/
lemma EntryOutcome.insertLog_precededBy {σ : Type} (before : Transcript)
    (records : List LogRecord) (o : EntryOutcome σ) :
    (o.precededBy before).insertLog before.log.length records
      = o.precededBy (before.logAll records) := by
  simp only [insertLog, Transcript.insertLog, precededBy, Foreign.Thread.precededBy,
    Adapter.precededBy, Transcript.precededBy, Transcript.logAll, List.take_left, List.drop_left]

/-! ### What a call leaves to the adapter -/

/-- The outcome without the array: how the call ended, and the adapter that it leaves. -/
def EntryOutcome.outcome {σ : Type} (o : EntryOutcome σ) : Outcome σ EntryReply :=
  ⟨o.ending, o.thread.adapter⟩

namespace Foreign

/-! ### Files with settings -/

/-- A path has no settings: it is missing or no text, its file cannot be read or is no text, the
text is no document, or a value in it does not fit its key. With it comes what is said of the
refusal, which is nothing when there is no path to speak of. -/
inductive Refused (wording : String → String) (tree : FileTree) :
    Option CString → Option String → Prop where
  | noPath : Refused wording tree none none
  | pathNotText {bytes : CString} (hpath : Text.ofBytes? bytes = none) :
    Refused wording tree (some bytes) none
  | unreadable {bytes : CString} {path : String} {refusal : Refusal}
    (hpath : Text.ofBytes? bytes = some path) (hread : tree.read path = .error refusal) :
    Refused wording tree (some bytes) (some ("read " ++ path ++ ": " ++ refusal.words))
  | contentNotText {bytes : CString} {path : String} {content : Bytes}
    (hpath : Text.ofBytes? bytes = some path) (hread : tree.read path = .ok content)
    (htext : Text.ofBytes? content = none) :
    Refused wording tree (some bytes) (some ("read " ++ path ++ ": " ++ Refusal.notText.words))
  | malformed {bytes : CString} {path text : String} {content : Bytes}
    (hpath : Text.ofBytes? bytes = some path) (hread : tree.read path = .ok content)
    (htext : Text.ofBytes? content = some text) (hparse : Toml.Document.parse? text = none) :
    Refused wording tree (some bytes) (some ("invalid config: " ++ wording text))
  | mismatch {bytes : CString} {path text : String} {content : Bytes} {table : Toml.Table}
    {key : Settings.Key} {v : Toml.Value} (hpath : Text.ofBytes? bytes = some path)
    (hread : tree.read path = .ok content) (htext : Text.ofBytes? content = some text)
    (hparse : Toml.Document.parse? text = some table) (hvalue : table.get? key.name = some v)
    (hunfit : ¬ key.Fits v) :
    Refused wording tree (some bytes) (some ("invalid config: " ++ wording text))

/-- A path has settings: they are those that the values of the table in its file give, and all these
values fit. -/
def Loads (tree : FileTree) (path : Option CString) (settings : Settings) : Prop :=
  ∃ bytes name content text table, path = some bytes ∧ Text.ofBytes? bytes = some name
    ∧ tree.read name = .ok content ∧ Text.ofBytes? content = some text
    ∧ Toml.Document.parse? text = some table
    ∧ (∀ key : Settings.Key, ∀ v, table.get? key.name = some v → key.Fits v)
    ∧ Settings.Given table settings

/-- The log records of a request for new settings that is refused. -/
def refusalRecords (said : Option String) : List LogRecord :=
  said.toList.map fun text => ⟨.warn, "tic_r_configure: " ++ text⟩

variable {σ : Type}

/-- Whether settings can be loaded is decided on the way to them. -/
lemma load_cases (wording : String → String) {tree : FileTree} {bytes : CString} {name : String}
    (hpath : Text.ofBytes? bytes = some name) :
    (∃ fault, Settings.load tree name = .error fault
        ∧ Refused wording tree (some bytes) (some (fault.message wording)))
      ∨ ∃ settings, Settings.load tree name = .ok settings ∧ Loads tree (some bytes) settings := by
  rw [Settings.load]
  cases hread : tree.read name with
  | error refusal =>
      refine .inl ⟨_, rfl, ?_⟩
      rw [LoadFault.message_unreadable]
      exact .unreadable hpath hread
  | ok content =>
      dsimp only
      cases htext : Text.ofBytes? content with
      | none =>
          refine .inl ⟨_, rfl, ?_⟩
          rw [LoadFault.message_unreadable]
          exact .contentNotText hpath hread htext
      | some text =>
          dsimp only
          cases hparse : Toml.Document.parse? text with
          | none =>
              have hrejected : Settings.parse text = .error .malformed := by
                unfold Settings.parse
                rw [hparse]
              rw [hrejected]
              refine .inl ⟨_, rfl, ?_⟩
              rw [LoadFault.message_rejected]
              exact .malformed hpath hread htext hparse
          | some table =>
              have hfits := Settings.exists_parse_iff hparse
              cases hsettings : Settings.parse text with
              | ok settings =>
                  exact .inr ⟨settings, rfl, bytes, name, content, text, table, rfl, hpath, hread,
                    htext, hparse, hfits.mp ⟨settings, hsettings⟩,
                    Settings.given_of_parse hparse hsettings⟩
              | error cause =>
                  have hunfit : ¬ ∀ key : Settings.Key, ∀ v, table.get? key.name = some v →
                      key.Fits v := by
                    rw [← hfits, hsettings]
                    rintro ⟨_, ⟨⟩⟩
                  push Not at hunfit
                  obtain ⟨key, v, hvalue, hunfit⟩ := hunfit
                  refine .inl ⟨_, rfl, ?_⟩
                  rw [LoadFault.message_rejected]
                  exact .mismatch hpath hread htext hparse hvalue hunfit

/-- New settings that are refused leave the adapter as it is, but for the log; others come with a
new adapter, which takes over the environment and what has passed to the console, and nothing
else. -/
lemma configure_cases (supply : Supply σ) (tree : FileTree) (path : Option CString)
    (a : Adapter σ) :
    (∃ said, Refused supply.wording tree path said
        ∧ configure supply tree path a = (false, a.logAll (refusalRecords said)))
      ∨ ∃ settings, Loads tree path settings ∧ configure supply tree path a
        = (true, (Adapter.fresh (supply.renew a.session.interpreter) settings a.env).precededBy
          a.transcript) := by
  have hsilent : a = a.logAll (refusalRecords none) :=
    congrArg (fun log => { a with transcript := { a.transcript with log } })
      (List.append_nil _).symm
  cases path with
  | none => exact .inl ⟨none, .noPath, congrArg _ hsilent⟩
  | some bytes =>
      rw [configure, CString.text?, Option.bind_some]
      cases hpath : Text.ofBytes? bytes with
      | none => exact .inl ⟨none, .pathNotText hpath, congrArg _ hsilent⟩
      | some name =>
          dsimp only
          rcases load_cases supply.wording hpath with ⟨fault, hload, hrefused⟩
            | ⟨settings, hload, hloads⟩
          · rw [hload]
            exact .inl ⟨_, hrefused, rfl⟩
          · refine .inr ⟨settings, hloads, ?_⟩
            rw [hload, Adapter.precededBy_fresh]

/-- What is replied to a request for an outline does not depend on the thread. It stays as it is, or
its panel shows the outline of a text and its array is filled anew. -/
lemma outline_cases (code : Option CString) (hasSize : Bool) :
    ∃ reply, (∀ t : Thread σ, outline code hasSize t = (reply, t))
      ∨ ∃ text array, ∀ t : Thread σ, outline code hasSize t
        = (reply, { adapter := { t.adapter with panel := t.adapter.panel.showParameters text }
                    array }) := by
  cases hasSize with
  | false => exact ⟨_, .inl fun t => rfl⟩
  | true =>
      cases hcode : CString.text? code with
      | none => exact ⟨_, .inl fun t => outline_of_noText hcode t⟩
      | some text => exact ⟨_, .inr ⟨text, _, fun t => outline_of_text hcode t⟩⟩

/-! ### Calls over a longer transcript -/

lemma configure_precededBy (supply : Supply σ) (tree : FileTree) (path : Option CString)
    (before : Transcript) (a : Adapter σ) :
    configure supply tree path (a.precededBy before)
      = ((configure supply tree path a).1,
        (configure supply tree path a).2.precededBy before) := by
  rw [configure, configure]
  split
  · rfl
  · split
    · exact congrArg (Prod.mk false) (a.logAll_precededBy _)
    · rfl

lemma outline_precededBy (code : Option CString) (hasSize : Bool) (before : Transcript)
    (t : Thread σ) :
    outline code hasSize (t.precededBy before)
      = ((outline code hasSize t).1, (outline code hasSize t).2.precededBy before) := by
  obtain ⟨reply, h | ⟨text, array, h⟩⟩ := outline_cases (σ := σ) code hasSize
  all_goals rw [h, h]
  rfl

variable [Interpreter σ]

lemma withHost_precededBy (host : Option CHost) (operation : Operation) (before : Transcript)
    (a : Adapter σ) :
    withHost host operation (a.precededBy before)
      = (withHost (host.map (CHost.since before.exchanges)) operation a).precededBy before := by
  cases host with
  | none => rfl
  | some h =>
      rw [withHost, Option.map_some, withHost, CHost.console_since]
      exact ((Adapter.simulation_precededBy before h.console).perform rfl operation).eq_image

lemma init_precededBy (host : Option CHost) (code : Option CString) (before : Transcript)
    (a : Adapter σ) :
    init host code (a.precededBy before)
      = (init (host.map (CHost.since before.exchanges)) code a).precededBy before := by
  cases host with
  | none => rfl
  | some h =>
      rw [init, Option.map_some, init, CHost.console_since]
      exact ((Adapter.simulation_precededBy before h.console).init rfl _).eq_image

lemma eval_precededBy (host : Option CHost) (code : Option CString) (before : Transcript)
    (a : Adapter σ) :
    eval host code (a.precededBy before)
      = (eval (host.map (CHost.since before.exchanges)) code a).precededBy before := by
  rw [eval, eval]
  split
  · rfl
  · exact withHost_precededBy host _ before a

lemma ask_precededBy (host : Option CHost) (operation : Operation) (before : Transcript)
    (t : Thread σ) :
    ask host operation (t.precededBy before)
      = (ask (host.map (CHost.since before.exchanges)) operation t).precededBy before :=
  congrArg (t.after fun _ => .nothing) (withHost_precededBy host operation before t.adapter)

/-- A call does over a longer transcript what it does over a shorter one, if the C program remembers
the rest. -/
lemma enter_precededBy (supply : Supply σ) (before : Transcript) (call : EntryCall)
    (t : Thread σ) :
    enter supply call (t.precededBy before)
      = (enter supply (call.since before.exchanges) t).precededBy before := by
  cases call with
  | configure tree path =>
      exact congrArg (fun r : Bool × Adapter σ =>
          EntryOutcome.mk (.returned (.truth r.1)) { t with adapter := r.2 })
        (configure_precededBy supply tree path before t.adapter)
  | init host code => exact congrArg (t.after .truth) (init_precededBy host code before t.adapter)
  | close host => exact ask_precededBy host _ before t
  | tick host => exact ask_precededBy host _ before t
  | boot host => exact ask_precededBy host _ before t
  | menu host index data => exact ask_precededBy host _ before t
  | border host row data => exact ask_precededBy host _ before t
  | scanline host row data => exact ask_precededBy host _ before t
  | eval host code =>
      exact congrArg (t.after fun _ => .nothing) (eval_precededBy host code before t.adapter)
  | outline code hasSize =>
      exact congrArg
        (fun r : OutlineReply × Thread σ => EntryOutcome.mk (.returned (.outline r.1)) r.2)
        (outline_precededBy code hasSize before t)

/-- And so do calls in order. -/
lemma enterAll_precededBy (supply : Supply σ) (before : Transcript) (calls : List EntryCall)
    (t : Thread σ) :
    enterAll supply calls (t.precededBy before)
      = (enterAll supply (calls.map (EntryCall.since before.exchanges)) t).map
          (EntryOutcome.precededBy before) := by
  induction calls generalizing t with
  | nil => rfl
  | cons call rest ih =>
      rw [List.map_cons, enterAll, enterAll, enter_precededBy]
      generalize enter supply (call.since before.exchanges) t = outcome
      obtain ⟨ending, u⟩ := outcome
      cases ending with
      | returned reply => exact congrArg (List.cons _) (ih u)
      | terminated => rfl
      | brokeOff => rfl

/-- Calls that are made when more has been logged leave these records in its place, and do nothing
else. -/
lemma enterAll_logAll (supply : Supply σ) (records : List LogRecord) (calls : List EntryCall)
    (t : Thread σ) :
    enterAll supply calls { t with adapter := t.adapter.logAll records }
      = (enterAll supply calls t).map
          (EntryOutcome.insertLog t.adapter.transcript.log.length records) := by
  have hpast := t.withoutPast_precededBy t.adapter.transcript
  have hmore := t.withoutPast_precededBy (t.adapter.transcript.logAll records)
  -- both are the same calls on the thread without its past, once with the records behind it
  calc enterAll supply calls { t with adapter := t.adapter.logAll records }
      = enterAll supply calls (t.withoutPast.precededBy (t.adapter.transcript.logAll records)) :=
        congrArg _ hmore.symm
    _ = (enterAll supply calls (t.withoutPast.precededBy t.adapter.transcript)).map
          (EntryOutcome.insertLog t.adapter.transcript.log.length records) := by
        rw [enterAll_precededBy, enterAll_precededBy, List.map_map]
        exact List.map_congr_left fun o _ => (o.insertLog_precededBy _ records).symm
    _ = (enterAll supply calls t).map
          (EntryOutcome.insertLog t.adapter.transcript.log.length records) := by
        rw [hpast]

/-! ### The array -/

lemma enterAll_eq (supply : Supply σ) (calls : List EntryCall) (t : Thread σ) :
    enterAll supply calls t
      = inOrder EntryOutcome.ending EntryOutcome.thread (enter supply) calls t := by
  induction calls generalizing t with
  | nil => rfl
  | cons call rest ih =>
      rw [enterAll, inOrder]
      cases (enter supply call t).ending <;> simp only [ih]

/-- No call looks at the array, but to clear it. -/
lemma enter_seenAlike (supply : Supply σ) (call : EntryCall) {s t : Thread σ}
    (h : t.adapter = s.adapter) :
    SeenAlike EntryOutcome.ending EntryOutcome.thread (fun s t => t.adapter = s.adapter)
      EntryOutcome.outcome (enter supply call s) (enter supply call t) := by
  obtain ⟨a, array⟩ := s
  obtain ⟨_, other⟩ := t
  obtain rfl := h
  cases call with
  | outline code hasSize =>
      obtain ⟨reply, h | ⟨text, array, h⟩⟩ := outline_cases (σ := σ) code hasSize
      all_goals
        simp only [enter, h]
        exact ⟨rfl, rfl, rfl⟩
  | _ => exact ⟨rfl, rfl, rfl⟩

/-! ### New settings -/

/-- **A request for new settings keeps everything or replaces everything**, in whatever state
earlier calls have left the thread, and whatever is called later.

Either the path has no settings. Then the answer is no, the thread stays as it is, and the later
calls go as if there had been no request, but that the log has a record of what is said of the
refusal in its place. Or the path has settings, and the answer is yes. Then the later calls go as
they do on a new thread, whose adapter has these settings, a new interpreter and the environment of
the process. Only the console still knows what passed to it before: the calls of the new thread come
from programs that remember it, and it stands before their transcript. -/
theorem configure_replaces_or_keeps (supply : Supply σ) (tree : FileTree) (path : Option CString)
    (t : Thread σ) (later : List EntryCall) :
    let a := t.adapter
    let calls := EntryCall.configure tree path :: later
    (∃ said, Refused supply.wording tree path said ∧
        let records := refusalRecords said
        enterAll supply calls t
          = ⟨.returned (.truth false), { t with adapter := a.logAll records }⟩
            :: (enterAll supply later t).map
              (EntryOutcome.insertLog a.transcript.log.length records))
      ∨ ∃ settings, Loads tree path settings ∧
        let newThread : Thread σ :=
          { adapter := .fresh (supply.renew a.session.interpreter) settings a.env }
        (enterAll supply calls t).map EntryOutcome.outcome
          = ⟨.returned (.truth true), newThread.adapter.precededBy a.transcript⟩
            :: (enterAll supply (later.map (EntryCall.since a.transcript.exchanges)) newThread).map
              fun o => o.outcome.precededBy a.transcript := by
  intro a calls
  rcases configure_cases supply tree path a with ⟨said, hrefused, hkept⟩ | ⟨settings, hloads, hnew⟩
  · refine .inl ⟨said, hrefused, ?_⟩
    simp only [calls, enterAll, enter, a, hkept, enterAll_logAll]
  · refine .inr ⟨settings, hloads, ?_⟩
    intro newThread
    have hlater : (enterAll supply later { t with
          adapter := newThread.adapter.precededBy a.transcript }).map EntryOutcome.outcome
        = (enterAll supply later (newThread.precededBy a.transcript)).map EntryOutcome.outcome := by
      rw [enterAll_eq, enterAll_eq]
      exact inOrder_congr (fun call _ _ => enter_seenAlike supply call) later rfl
    rw [enterAll_precededBy, List.map_map] at hlater
    have hfirst : enter supply (.configure tree path) t
        = ⟨.returned (.truth true),
          { t with adapter := newThread.adapter.precededBy a.transcript }⟩ := by
      simp only [enter, a, hnew]
      rfl
    simp only [calls, enterAll, hfirst, List.map_cons, hlater]
    rfl

end Foreign

end RCart
