import CreationLoader.Browser.Page

/-!
# Futures of script loads

A script element has handlers for two events, and these share the sender of a channel that takes one
outcome. The handler that is called first takes the sender out of its cell and sends, and nothing is
left to the other. The future of the load waits at the other end. It owns the handlers, and drops
them when the outcome has come.
-/

namespace CreationLoader.Browser

structure Channel where
  /-- Whether the sender has not been taken out of its cell. -/
  sender : Bool := true
  message : Option Outcome := none

namespace Channel

def settle (outcome : Outcome) (c : Channel) : Channel :=
  if c.sender then { sender := false, message := some outcome } else c

/-- What comes of waiting. When no sender is left and nothing has been sent, nothing ever will be,
and the load is given up. -/
def receive (c : Channel) : Option Outcome :=
  match c.message with
  | some outcome => some outcome
  | none => if c.sender then none else some (.failed "script load abandoned")

end Channel

/-- The future of a script load, with the handlers of the element for as long as it waits. What it
has given once is kept for all who share it. -/
inductive ScriptFuture
  | waiting (url : String) (channel : Channel)
  | ready (outcome : Outcome)

namespace ScriptFuture

/-- The future of a load that a host has begun: a load that has failed from the start has nothing to
wait for. -/
def ofLoad {τ : Type} (url : String) (script : ScriptLoad τ) : ScriptFuture :=
  match script.outcome with
  | some outcome => ready outcome
  | none => waiting url {}

/-- The script element fires an event. Nothing is done where there is no handler. -/
def fire (event : String) : ScriptFuture → ScriptFuture
  | waiting url channel =>
    if event = "onload" then waiting url (channel.settle .loaded)
    else if event = "onerror" then waiting url (channel.settle (.failed (url ++ " did not load")))
    else waiting url channel
  | ready outcome => ready outcome

/-- Asks for the outcome. When it comes, the handlers are dropped. -/
def poll : Action ScriptFuture Call (Option Outcome) := do
  match ← Action.get with
  | ready outcome => return some outcome
  | waiting _ channel =>
    match channel.receive with
    | none => return none
    | some outcome =>
      Action.modify fun _ => ready outcome
      return some outcome

/-- What can happen to a future: its element fires an event, or somebody who waits for it polls. -/
inductive Turn
  | fired (event : String)
  | polled

def after (f : ScriptFuture) : List Turn → ScriptFuture
  | [] => f
  | .fired event :: rest => (f.fire event).after rest
  | .polled :: rest => (f.poll).state.after rest

end ScriptFuture

end CreationLoader.Browser
