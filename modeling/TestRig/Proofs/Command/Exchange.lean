/-
  TestRig.Proofs.Command.Exchange

  What passes between a dialogue and its partner.  A dialogue depends on its partner by
  the replies alone: held again with a script of just these replies it runs the same
  commands and comes to the same result (`onScript_exchanges`).
-/
import TestRig.Command.Dialogue

namespace TestRig.Command

/-- A command and the reply to it. -/
structure Exchange where
  command : String
  reply : Reply

namespace Dialogue

variable {α σ : Type}

/-- The exchanges of a dialogue with a partner, in order. -/
def exchanges (respond : σ → String → Reply × σ) : Dialogue α → σ → List Exchange
  | .done _, _ => []
  | .ask command next, s =>
    let (reply, s) := respond s command
    ⟨command, reply⟩ :: exchanges respond (next reply) s

variable (respond : σ → String → Reply × σ)

@[simp] theorem exchanges_done (result : α) (s : σ) :
    (Dialogue.done result).exchanges respond s = [] := rfl

@[simp] theorem exchanges_ask (command : String) (next : Reply → Dialogue α) (s : σ) :
    (Dialogue.ask command next).exchanges respond s =
      ⟨command, (respond s command).1⟩ ::
        (next (respond s command).1).exchanges respond (respond s command).2 := rfl

@[simp] theorem hold_done (result : α) (s : σ) :
    (Dialogue.done result).hold respond s = (result, s) := rfl

@[simp] theorem hold_ask (command : String) (next : Reply → Dialogue α) (s : σ) :
    (Dialogue.ask command next).hold respond s =
      (next (respond s command).1).hold respond (respond s command).2 := rfl

/-- With a script of the replies that a partner gave, the dialogue runs the same commands, uses all
replies and comes to the same result as with the partner. -/
theorem onScript_exchanges (d : Dialogue α) (s : σ) (asked : List String) :
    d.onScript ⟨(d.exchanges respond s).map Exchange.reply, asked⟩ =
      ((d.hold respond s).1, ⟨[], asked ++ (d.exchanges respond s).map Exchange.command⟩) := by
  -- the commands asked before are generalised, since the script collects them as it goes
  induction d generalizing s asked with
  | done result => simp [onScript]
  | ask command next ih =>
    have hrest := ih (respond s command).1 (respond s command).2 (asked ++ [command])
    rw [onScript] at hrest
    rw [exchanges_ask, List.map_cons, onScript, hold_ask, Script.respond, hrest, hold_ask,
      List.map_cons, List.append_assoc, List.singleton_append]

end Dialogue

end TestRig.Command
