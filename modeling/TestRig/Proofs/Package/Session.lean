/-
  TestRig.Proofs.Package.Session

  Questions asked one after another of the same partner.  A dialogue is candid
  (`Candid`) when it ends at once with a failure of the means by which its commands run,
  and reports no failure to run a command but the last reply.  Every question about
  packages is candid, so in a session no failure of the means is turned into an answer,
  and no failure to run a command is made up (`session_keeps_failures`).
-/
import TestRig.Proofs.Command.Exchange
import TestRig.Proofs.Package.Replies

namespace TestRig.Package

open Command (Dialogue Exchange Output Reply Script)
open Text

/-! ## Candid dialogues -/

section Candid

variable {α σ : Type}

/-- What a dialogue still to be held may do after the reply `last`: after a failure of the means it
is over and the failure is its result, and a failure to run a command is its result only if that
is the reply. -/
def Candid : Option Reply → Dialogue (Except Error α) → Prop
  | last, .done result =>
    (∀ e, last = some (.error e) → e.isCommandFailure = false → result = .error (.command e)) ∧
    ∀ e, result = .error (.command e) → last = some (.error e)
  | last, .ask _ next =>
    (∀ e, last = some (.error e) → e.isCommandFailure = true) ∧
    ∀ reply, Candid (some reply) (next reply)

/-- After a failure of the means nothing is left but to report it. -/
theorem Candid.eq_done {d : Dialogue (Except Error α)} {e : Command.Error}
    (h : Candid (some (.error e)) d) (he : e.isCommandFailure = false) :
    d = .done (.error (.command e)) := by
  cases d with
  | done result => rw [h.1 e rfl he]
  | ask command next =>
    rw [h.1 e rfl] at he
    cases he

variable (respond : σ → String → Reply × σ)

/-- A failure of the means, wherever it comes, is the last reply and the result. -/
theorem Candid.result_of_failure {last : Option Reply} {d : Dialogue (Except Error α)}
    (h : Candid last d) (s : σ) {before after : List Exchange} {x : Exchange} {e : Command.Error}
    (hx : d.exchanges respond s = before ++ x :: after) (hreply : x.reply = .error e)
    (he : e.isCommandFailure = false) :
    (d.hold respond s).1 = .error (.command e) ∧ after = [] := by
  -- on the dialogue; every step makes its own reply the last one
  induction d generalizing last s before with
  | done result =>
    rw [Dialogue.exchanges_done] at hx
    exact absurd hx.symm (by simp)
  | ask command next ih =>
    rw [Dialogue.exchanges_ask] at hx
    rw [Dialogue.hold_ask]
    have hnext := h.2 (respond s command).1
    cases before with
    | nil =>
      obtain ⟨rfl, rfl⟩ := List.cons.inj hx
      rw [show (respond s command).1 = .error e from hreply] at hnext ⊢
      rw [hnext.eq_done he]
      exact ⟨rfl, rfl⟩
    | cons y before => exact ih _ hnext _ (List.cons.inj hx).2

/-- A failure to run a command that is the result was the last reply. -/
theorem Candid.reply_of_result {last : Option Reply} {d : Dialogue (Except Error α)}
    (h : Candid last d) (s : σ) {e : Command.Error}
    (hresult : (d.hold respond s).1 = .error (.command e)) :
    (d.exchanges respond s = [] ∧ last = some (.error e)) ∨
      ∃ before command, d.exchanges respond s = before ++ [⟨command, .error e⟩] := by
  -- A dialogue that asks is never in the first case, so its last reply is found further on.
  induction d generalizing last s with
  | done result => exact .inl ⟨rfl, h.2 e hresult⟩
  | ask command next ih =>
    refine .inr ?_
    rw [Dialogue.exchanges_ask]
    rw [Dialogue.hold_ask] at hresult
    rcases ih _ (h.2 _) _ hresult with ⟨hnone, hlast⟩ | ⟨before, command', hbefore⟩
    · rw [hnone, Option.some.inj hlast]
      exact ⟨[], command, rfl⟩
    · rw [hbefore]
      exact ⟨_ :: before, command', rfl⟩

end Candid

/-! ## Readings of replies that keep failures -/

/-- A reading of replies reports every failure of the means, and no failure to run a command but
the one that is the reply. -/
structure KeepsFailures {α : Type} (read : Reply → Except Error α) : Prop where
  passes : ∀ e, e.isCommandFailure = false → read (.error e) = .error (.command e)
  origin : ∀ reply e, read reply = .error (.command e) → reply = .error e

theorem keepsFailures_readReply {α : Type} {answer : Output → α}
    {excuse : Command.Error → Option α}
    (hexcuse : ∀ e, e.isCommandFailure = false → excuse e = none) :
    KeepsFailures (readReply answer excuse) where
  passes e he := readReply_eq_error_iff.2 ⟨e, rfl, hexcuse e he, rfl⟩
  origin reply e h := by
    obtain ⟨e', rfl, -, herror⟩ := readReply_eq_error_iff.1 h
    rw [Error.command.inj herror]

theorem keepsFailures_presence (expected : String) :
    KeepsFailures (Presence.ofReply expected) :=
  keepsFailures_readReply fun e he => if_neg (by simp [he])

theorem keepsFailures_output : KeepsFailures outputOfReply :=
  keepsFailures_readReply fun _ _ => rfl

theorem keepsFailures_listing : KeepsFailures Listing.ofReply :=
  keepsFailures_readReply fun e he => if_neg fun hmatch => by
    rw [isCommandFailure_of_isNoMatch hmatch] at he
    cases he

theorem keepsFailures_entries : KeepsFailures entriesOfReply :=
  keepsFailures_readReply fun e he => if_neg (by simp [he])

theorem KeepsFailures.map {α β : Type} {read : Reply → Except Error α} (h : KeepsFailures read)
    (f : α → β) : KeepsFailures fun reply => (read reply).map f where
  passes e he := by simp [h.passes e he, Except.map]
  origin reply e hmap := by
    cases hread : read reply with
    | ok a =>
      rw [hread] at hmap
      cases hmap
    | error e' =>
      rw [hread] at hmap
      exact h.origin reply e (hread.trans (congrArg Except.error (Except.error.inj hmap)))

theorem keepsFailures_state (listing : Listing) :
    KeepsFailures (MachineState.ofEntries listing) := keepsFailures_entries.map _

/-- A command whose reply is read by a reading that keeps failures is a candid dialogue. -/
theorem KeepsFailures.candid {α : Type} {read : Reply → Except Error α} (h : KeepsFailures read)
    {last : Option Reply} (hlast : ∀ e, last = some (.error e) → e.isCommandFailure = true)
    (command : String) : Candid last (.ask command fun reply => .done (read reply)) := by
  refine ⟨hlast, fun reply => ⟨?_, ?_⟩⟩
  · rintro e hreply he
    obtain rfl := Option.some.inj hreply
    exact h.passes e he
  · intro e hresult
    rw [h.origin reply e hresult]

/-! ## Calls -/

/-- A question with its arguments. -/
inductive Call where
  | isInstalled (expected : String)
  | install (package : String)
  | list (filter : String)
  | machineState (filter dir : String)
  | entries (dir : String)
  deriving DecidableEq

/-- The answers to the questions. -/
inductive Answer where
  | presence (presence : Presence)
  | output (output : Output)
  | listing (listing : Listing)
  | state (state : MachineState)
  | entries (names : List String)
  deriving DecidableEq

/-- Asks the question. -/
def Call.ask (t : Templates) : Call → Dialogue (Except Error Answer)
  | .isInstalled expected => do return (← Package.isInstalled t expected).map .presence
  | .install package => do return (← Package.install t package).map .output
  | .list filter => do return (← Package.list t filter).map .listing
  | .machineState filter dir => do return (← Package.machineState t filter dir).map .state
  | .entries dir => do return (← entriesOf t dir).map .entries

namespace Call

variable (t : Templates)

theorem ask_isInstalled (expected : String) :
    (isInstalled expected).ask t =
      .ask t.rpmList fun reply => .done ((Presence.ofReply expected reply).map .presence) := by
  rw [ask, isInstalled_eq]
  rfl

theorem ask_install (package : String) :
    (install package).ask t =
      if isBlankText package then .done (.error (.invalidArgument "empty package"))
      else .ask (Template.fill t.rpmInstall [("package", package)]) fun reply =>
        .done ((outputOfReply reply).map .output) := by
  rw [ask, install_eq]
  split
  · rfl
  · rfl

theorem ask_list (filter : String) :
    (list filter).ask t =
      .ask (listCommand t filter) fun reply => .done ((Listing.ofReply reply).map .listing) := by
  rw [ask, list_eq]
  rfl

theorem ask_machineState (filter dir : String) :
    (machineState filter dir).ask t =
      .ask (listCommand t filter) fun listed =>
        match Listing.ofReply listed with
        | .error e => .done (.error e)
        | .ok listing =>
          .ask (entriesCommand t dir) fun reply =>
            .done ((MachineState.ofEntries listing reply).map .state) := by
  rw [ask, machineState_eq, Dialogue.ask_bind]
  refine congrArg (Dialogue.ask _) (funext fun listed => ?_)
  cases Listing.ofReply listed with
  | error e => rfl
  | ok listing => rfl

theorem ask_entries (dir : String) :
    (entries dir).ask t =
      .ask (entriesCommand t dir) fun reply => .done ((entriesOfReply reply).map .entries) := by
  rw [ask, entriesOf_eq]
  rfl

/-- Every question is candid. -/
theorem candid_ask (call : Call) : Candid none (call.ask t) := by
  have hnone : ∀ e : Command.Error,
      (none : Option Reply) = some (.error e) → e.isCommandFailure = true := by
    intro e h
    cases h
  cases call with
  | isInstalled expected =>
    rw [ask_isInstalled]
    exact ((keepsFailures_presence expected).map _).candid hnone _
  | install package =>
    rw [ask_install]
    split
    · refine ⟨fun e h => ?_, fun e h => ?_⟩
      · cases h
      · cases h
    · exact (keepsFailures_output.map _).candid hnone _
  | list filter =>
    rw [ask_list]
    exact (keepsFailures_listing.map _).candid hnone _
  | machineState filter dir =>
    rw [ask_machineState]
    refine ⟨hnone, fun listed => ?_⟩
    simp only
    split
    · rename_i error hlisted
      obtain ⟨e, rfl, -, rfl⟩ := listing_ofReply_eq_error_iff.1 hlisted
      refine ⟨fun e' h _ => ?_, fun e' h => ?_⟩
      · rw [Except.error.inj (Option.some.inj h)]
      · rw [Error.command.inj (Except.error.inj h)]
    · rename_i listing hlisted
      refine ((keepsFailures_state listing).map _).candid ?_ _
      -- the packages were listed, so the reply is no failure of the means
      intro e hreply
      obtain rfl := Option.some.inj hreply
      by_contra he
      rw [Bool.not_eq_true] at he
      rw [keepsFailures_listing.passes e he] at hlisted
      cases hlisted
  | entries dir =>
    rw [ask_entries]
    exact (keepsFailures_entries.map _).candid hnone _

/-- How many commands a call runs: one, but none to install a blank package, and two for the state of
a machine unless the first one, which lists the packages, makes it fail. -/
def RunsCommands : Call → List Exchange → Except Error Answer → Prop
  | install package, exchanges, _ => exchanges.length = if isBlankText package then 0 else 1
  | machineState _ _, exchanges, result =>
    (∃ listed entries, exchanges.map Exchange.reply = [listed, entries] ∧
      ∀ e, listed = .error e → isNoMatch e = true) ∨
    ∃ e, exchanges.map Exchange.reply = [.error e] ∧ isNoMatch e = false ∧
      result = .error (.command e)
  | isInstalled _, exchanges, _ | list _, exchanges, _ | entries _, exchanges, _ =>
    exchanges.length = 1

variable {σ : Type} (respond : σ → String → Reply × σ)

theorem runsCommands_ask (call : Call) (s : σ) :
    call.RunsCommands ((call.ask t).exchanges respond s) ((call.ask t).hold respond s).1 := by
  cases call with
  | isInstalled expected =>
    rw [ask_isInstalled]
    rfl
  | install package =>
    rw [ask_install, RunsCommands]
    split
    · rfl
    · rfl
  | list filter =>
    rw [ask_list]
    rfl
  | machineState filter dir =>
    rw [ask_machineState, RunsCommands, Dialogue.exchanges_ask, Dialogue.hold_ask]
    cases hlisted : Listing.ofReply (respond s (listCommand t filter)).1 with
    | error error =>
      obtain ⟨e, hreply, hmatch, rfl⟩ := listing_ofReply_eq_error_iff.1 hlisted
      rw [hreply]
      exact .inr ⟨e, rfl, hmatch, rfl⟩
    | ok listing =>
      refine .inl ⟨_, _, rfl, fun e hreply => ?_⟩
      by_contra hmatch
      rw [Bool.not_eq_true] at hmatch
      rw [listing_ofReply_eq_error_iff.2 ⟨e, hreply, hmatch, rfl⟩] at hlisted
      cases hlisted
  | entries dir =>
    rw [ask_entries]
    rfl

end Call

/-! ## Sessions -/

/-- A call that was made: the exchanges in which it was answered, and its result. -/
structure Turn where
  call : Call
  exchanges : List Exchange
  result : Except Error Answer

variable {σ : Type} (t : Templates) (respond : σ → String → Reply × σ)

/-- Makes a call to a partner. -/
def Call.turn (s : σ) (call : Call) : Turn :=
  ⟨call, (call.ask t).exchanges respond s, ((call.ask t).hold respond s).1⟩

/-- Makes calls to a partner, one after another. -/
def session : List Call → σ → List Turn
  | [], _ => []
  | call :: calls, s => call.turn t respond s :: session calls ((call.ask t).hold respond s).2

theorem map_call_session (calls : List Call) (s : σ) :
    (session t respond calls s).map Turn.call = calls := by
  induction calls generalizing s with
  | nil => rfl
  | cons call calls ih =>
    rw [session, List.map_cons, ih]
    rfl

/-- Every turn is a call to the partner in the state in which the earlier calls left it. -/
theorem exists_of_mem_session {calls : List Call} {s : σ} {turn : Turn}
    (h : turn ∈ session t respond calls s) : ∃ s', turn = turn.call.turn t respond s' := by
  induction calls generalizing s with
  | nil => cases h
  | cons call calls ih =>
    rcases List.mem_cons.1 h with rfl | h
    · exact ⟨s, rfl⟩
    · exact ih h

/-- A session makes the given calls, and each runs its commands and no more.  A failure of the means
by which commands run is the last reply and, with its kind, the result of its call; a failure to
run a command that is the result was the last reply; and by itself, on a script of its own replies,
the call runs the same commands to the same result. -/
theorem session_keeps_failures (calls : List Call) (s : σ) :
    (session t respond calls s).map Turn.call = calls ∧
    ∀ turn ∈ session t respond calls s,
      turn.call.RunsCommands turn.exchanges turn.result ∧
      (∀ before x after e, turn.exchanges = before ++ x :: after → x.reply = .error e →
        e.isCommandFailure = false →
        turn.result = .error (.command e) ∧ (Error.command e).kind = e.kind ∧
          (Error.command e).isRetryable = e.isRetryable ∧ after = []) ∧
      (∀ e, turn.result = .error (.command e) →
        ∃ before command, turn.exchanges = before ++ [⟨command, .error e⟩]) ∧
      (turn.call.ask t).onScript ⟨turn.exchanges.map Exchange.reply, []⟩ =
        (turn.result, ⟨[], turn.exchanges.map Exchange.command⟩) := by
  refine ⟨map_call_session t respond calls s, fun turn hturn => ?_⟩
  obtain ⟨s', heq⟩ := exists_of_mem_session t respond hturn
  generalize turn.call = call at heq
  subst heq
  have hcandid := Call.candid_ask t call
  refine ⟨Call.runsCommands_ask t respond call s', ?_, ?_, ?_⟩
  · intro before x after e hx hreply he
    obtain ⟨hresult, hafter⟩ := hcandid.result_of_failure respond s' hx hreply he
    exact ⟨hresult, rfl, rfl, hafter⟩
  · intro e hresult
    rcases hcandid.reply_of_result respond s' hresult with ⟨-, hlast⟩ | hlast
    · cases hlast
    · exact hlast
  · exact Dialogue.onScript_exchanges respond (call.ask t) s' []

/-- A session whose second call is cut short by a timeout. -/
def sessionWithTimeout : List Turn :=
  session {} Script.respond [.isInstalled "foo", .machineState "x" "d", .install " "]
    ⟨[.ok (.lines ["foo-1"]), .error (.timedOut Duration.zero)], []⟩

theorem session_keeps_failures_timeout :
    ∃ turn ∈ sessionWithTimeout, turn.call = .machineState "x" "d" ∧
      turn.exchanges.map Exchange.command = ["rpm -qa | grep x"] ∧
      turn.result = .error (.command (.timedOut Duration.zero)) := by
  have hcommand : listCommand {} "x" = "rpm -qa | grep x" := by decide
  have hmem : Call.turn {} Script.respond
      ⟨[.error (.timedOut Duration.zero)], ["rpm -qa"]⟩ (.machineState "x" "d") ∈
        sessionWithTimeout := List.mem_cons_of_mem _ List.mem_cons_self
  have hturn := (session_keeps_failures {} Script.respond _ _).2 _ hmem
  refine ⟨_, hmem, rfl, congrArg (fun command => [command]) hcommand, ?_⟩
  exact (hturn.2.1 [] ⟨listCommand {} "x", .error (.timedOut Duration.zero)⟩ []
    (.timedOut Duration.zero) rfl rfl rfl).1

end TestRig.Package
