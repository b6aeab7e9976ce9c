import Bookmarklet.Preview.Console

/-!
# From previews to the host

The bridge takes messages from the realm that is live, and from no other. What it takes it writes to the log.
-/

namespace Bookmarklet.Preview

/-- Tells a loaded page from all others. -/
abbrev Realm := Nat

/-- Something that a page has posted. -/
structure Inbound where
  realm : Realm
  data : Json

/-- The way of messages to the log. -/
structure Bridge where
  /-- The only realm whose messages are taken. -/
  live : Option Realm
  log : Log

namespace Bridge

/-- Takes messages from a realm alone. -/
def attach (b : Bridge) (realm : Realm) : Bridge := { b with live := some realm }

/-- Takes no messages. -/
def detach (b : Bridge) : Bridge := { b with live := none }

/-- Takes a message; the event is given back if it was accepted. -/
def receive (b : Bridge) (message : Inbound) : Option Event × Bridge :=
  if b.live = some message.realm then
    match Event.ofJson message.data with
    | .ok event => (some event, { b with log := (b.log.push event.level event.payload).2 })
    | .error _ => (none, b)
  else (none, b)

/-- Takes messages in order and counts those that were accepted. -/
def receiveAll (b : Bridge) : List Inbound → Nat × Bridge
  | [] => (0, b)
  | m :: ms =>
    let (event, b) := b.receive m
    let (count, b) := b.receiveAll ms
    ((if event.isSome then 1 else 0) + count, b)

/-- Takes messages through a channel that holds at most `room` of them: when it is full, and when no more come, it is
emptied. -/
def pumpFrom (room : Nat) (waiting : List Inbound) (b : Bridge) : List Inbound → Nat × Bridge
  | [] => b.receiveAll waiting
  | m :: ms =>
    if waiting.length < room then pumpFrom room (waiting ++ [m]) b ms
    else
      let (first, b) := b.receiveAll waiting
      let (rest, b) := pumpFrom room [m] b ms
      (first + rest, b)

/-- Takes messages through a channel with a buffer, and counts those that were accepted. -/
def pump (b : Bridge) (buffer : Nat) (messages : List Inbound) : Nat × Bridge :=
  pumpFrom (max buffer 1) [] b messages

end Bridge
end Bookmarklet.Preview
