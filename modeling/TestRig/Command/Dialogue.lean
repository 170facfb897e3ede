/-
  TestRig.Command.Dialogue

  A computation that asks for commands to be run and goes on with the replies.  It
  does not say where they run: the same dialogue is held with this machine, with
  another host, with a function from commands to replies, or with a script of
  prepared replies.
-/
import TestRig.Command.Capture

namespace TestRig.Command

/-- The reply to a command: its output, or why there is none. -/
abbrev Reply := Except Error Output

/-- A computation that runs commands on the way to its result. -/
inductive Dialogue (α : Type) where
  /-- The result, with no further command. -/
  | done (result : α)
  /-- Runs a command and goes on with the reply. -/
  | ask (command : String) (next : Reply → Dialogue α)

namespace Dialogue

variable {α β σ : Type}

/-- Runs one command; the result is the reply. -/
def run (command : String) : Dialogue Reply := .ask command .done

/-- Goes on with the result. -/
def bind : Dialogue α → (α → Dialogue β) → Dialogue β
  | .done a, f => f a
  | .ask command next, f => .ask command fun reply => bind (next reply) f

instance : Monad Dialogue where
  pure := .done
  bind := bind

@[simp] theorem pure_eq (a : α) : (pure a : Dialogue α) = .done a := rfl
@[simp] theorem done_bind (a : α) (f : α → Dialogue β) : (Dialogue.done a >>= f) = f a := rfl
@[simp] theorem ask_bind (command : String) (next : Reply → Dialogue α) (f : α → Dialogue β) :
    (Dialogue.ask command next >>= f) = .ask command fun reply => next reply >>= f := rfl

/-- Holds the dialogue with a partner whose state may change from command to command. -/
def hold (respond : σ → String → Reply × σ) : Dialogue α → σ → α × σ
  | .done result, s => (result, s)
  | .ask command next, s =>
    let (reply, s) := respond s command
    hold respond (next reply) s

/-- Holds the dialogue with a function from commands to replies. -/
def answerBy (reply : String → Reply) : Dialogue α → α
  | .done result => result
  | .ask command next => answerBy reply (next (reply command))

end Dialogue

/-! ## Scripts -/

/-- Replies prepared in advance, and the commands to which replies were given. -/
structure Script where
  replies : List Reply
  asked : List String := []

/-- Gives the next reply and notes the command.  When the replies have run out, the output is
empty. -/
def Script.respond (s : Script) (command : String) : Reply × Script :=
  match s.replies with
  | reply :: rest => (reply, ⟨rest, s.asked ++ [command]⟩)
  | [] => (.ok (.bytes []), ⟨[], s.asked ++ [command]⟩)

/-- Holds a dialogue with prepared replies. -/
def Dialogue.onScript {α : Type} (d : Dialogue α) (s : Script) : α × Script :=
  d.hold Script.respond s

end TestRig.Command
