import Highlight.Editor.Attachment

/-!
# Watching a host

A watch looks at a host at regular times, from time zero on, until the grammars have been set
up, the host turns out to be of no use, or somebody stops it.  Between two looks it sleeps and
listens for messages, while the host loads and opens documents.  Time counts in milliseconds.
-/

namespace Highlight

/-- How a watch ends, with the number of looks up to then. -/
inductive WatchOutcome where
  | attached (polls : Nat)
  | cancelled (polls : Nat)
  | failed (fault : HostError)
deriving DecidableEq, Repr

/-- Something that happens between two looks. -/
inductive WatchEvent where
  | load
  | openDocument (text : String)
  /-- A message to stop the watch, or one that takes it back. -/
  | shutdown (stop : Bool)
  /-- From now on no more messages can be sent. -/
  | drop
  | nothing
deriving DecidableEq, Repr

/-- The messages to a watch, of which the last one can be read. -/
structure Mailbox where
  /-- The last message says to stop. -/
  stop : Bool := false
  /-- The last message has not been read. -/
  isNew : Bool := false
  /-- More messages can be sent. -/
  isOpen : Bool := true
deriving DecidableEq, Repr

namespace Mailbox

def send (m : Mailbox) (stop : Bool) : Mailbox :=
  if m.isOpen then { m with stop, isNew := true } else m

def close (m : Mailbox) : Mailbox :=
  { m with isOpen := false }

def read (m : Mailbox) : Mailbox :=
  { m with isNew := false }

end Mailbox

/-- A watch together with its host. -/
structure Watch where
  attachment : Attachment
  host : Host
  /-- The time between two looks. -/
  interval : Nat
  /-- The number of looks so far. -/
  polls : Nat := 0
  /-- The calls so far that have told the host something. -/
  changes : List Call := []
  mailbox : Mailbox := {}
  /-- The time of the next look. -/
  wake : Nat := 0
  /-- Until then the watch listens for messages.  It does not before its first look, nor when no
  message can come any more. -/
  isListening : Bool := false
  /-- How the watch has ended, if it has. -/
  outcome : Option WatchOutcome := none
deriving DecidableEq, Repr

namespace Watch

/-- The watch has not ended. -/
def isRunning (w : Watch) : Bool :=
  w.outcome.isNone

/-- Ends the watch without setting anything up. -/
def cancel (w : Watch) : Watch :=
  { w with outcome := some (.cancelled w.polls) }

/-- Looks at the host once. -/
def poll (w : Watch) : Watch :=
  let v := w.attachment.poll w.host
  let polls := w.polls + 1
  { w with
    attachment := v.attachment
    host := w.host.performAll v.calls
    polls
    changes := w.changes ++ v.changes
    outcome :=
      match v.answer with
      | .failed fault => some (.failed fault)
      | .attached => some (.attached polls)
      | .waiting => none }

/-- Reads the last message, and goes on listening if it does not say to stop. -/
def attend (w : Watch) : Watch :=
  let w := { w with mailbox := w.mailbox.read }
  if w.mailbox.stop then w.cancel else { w with isListening := w.mailbox.isOpen }

/-- Takes notice of a new message, or of the end of all messages. -/
def listen (w : Watch) : Watch :=
  if w.isRunning && w.isListening then
    if w.mailbox.isNew then w.attend else { w with isListening := w.mailbox.isOpen }
  else w

/-- Looks at the host at a time, unless the last message says to stop, and goes to sleep if the
watch does not end there. -/
def look (w : Watch) (now : Nat) : Watch :=
  if w.mailbox.stop then w.cancel
  else
    let w := w.poll
    if w.isRunning then { w with wake := now + w.interval }.attend else w

/-- Wakes up at a time, either because of a message or because the next look is due. -/
def resume (w : Watch) (now : Nat) : Watch :=
  let w := w.listen
  if w.isRunning && w.wake ≤ now then w.look now else w

/-- Sleeps until the next look `n` times. -/
def ticks : Nat → Watch → Watch
  | 0, w => w
  | n + 1, w => ticks n (w.resume w.wake)

/-- The number of looks that are due up to a time. -/
def due (w : Watch) (time : Nat) : Nat :=
  if w.isRunning && w.wake ≤ time then (time - w.wake) / w.interval + 1 else 0

/-- Goes on up to a time at which nothing has happened yet. -/
def advance (w : Watch) (time : Nat) : Watch :=
  let w := w.listen
  ticks (w.due time) w

/-- Lets something happen. -/
def happen (w : Watch) : WatchEvent → Watch
  | .load => { w with host := w.host.load }
  | .openDocument text => { w with host := w.host.openDocument text }
  | .shutdown stop => { w with mailbox := w.mailbox.send stop }
  | .drop => { w with mailbox := w.mailbox.close }
  | .nothing => w

/-- The watches just before each of the events, with their times, and the watch after all of
them.  Events at the same time happen together, and those at time zero happen before the
first look. -/
def run (w : Watch) (now : Nat) : List (Nat × WatchEvent) → List Watch × Watch
  | [] => ([], w)
  | (time, e) :: events =>
    let w := if now < time then w.advance time else w
    let (earlier, last) := run (w.happen e) time events
    (w :: earlier, last)

end Watch

end Highlight
