import Contactless.Session.Error

/-!
The bridge from the radio to a session: three queues with one closing mark.

The radio reports that it became active, that it was interrupted, and which tags it detected.
Reports after the bridge was closed are lost; those from before stay and can still be taken. A
poll takes the oldest interruption first, then the oldest batch; a report of activity is only
swallowed.
-/

set_option autoImplicit false

namespace Contactless

/-- A report of the radio, with batches of any type. -/
inductive Notice (α : Type) where
  | active
  | interrupted (reason : Interruption)
  | detected (batch : α)
  | finished
  deriving DecidableEq, Repr

/-- The reports that nobody has taken yet, and whether more can come. -/
structure Bridge (α : Type) where
  /-- Untaken reports of activity. -/
  active : Nat := 0
  interruptions : List Interruption := []
  batches : List α := []
  closed : Bool := false
  deriving DecidableEq, Repr

inductive Polled (α : Type) where
  | interrupted (reason : Interruption)
  | batch (batch : α)
  | pending
  | exhausted
  deriving DecidableEq, Repr

namespace Bridge

variable {α : Type}

/-- Closes the bridge, keeping what was reported before. -/
def close (bridge : Bridge α) : Bridge α := { bridge with closed := true }

def receive (bridge : Bridge α) (notice : Notice α) : Bridge α :=
  if bridge.closed then bridge
  else match notice with
    | .active => { bridge with active := bridge.active + 1 }
    | .interrupted reason => { bridge with interruptions := bridge.interruptions ++ [reason] }
    | .detected batch => { bridge with batches := bridge.batches ++ [batch] }
    | .finished => bridge.close

def poll (bridge : Bridge α) : Polled α × Bridge α :=
  match bridge.interruptions, bridge.batches with
  | reason :: rest, _ => (.interrupted reason, { bridge with interruptions := rest })
  | [], batch :: rest => (.batch batch, { bridge with batches := rest })
  | [], [] => (if bridge.closed then .exhausted else .pending, { bridge with active := 0 })

def takeInterruption (bridge : Bridge α) : Option Interruption × Bridge α :=
  (bridge.interruptions.head?, { bridge with interruptions := bridge.interruptions.tail })

/-- Discards batches and activity that nobody waited for. Interruptions are never discarded. -/
def drainStale (bridge : Bridge α) : Bridge α := { bridge with active := 0, batches := [] }

@[simp] theorem closed_close (bridge : Bridge α) : bridge.close.closed = true := rfl

@[simp] theorem closed_drainStale (bridge : Bridge α) :
    bridge.drainStale.closed = bridge.closed := rfl

@[simp] theorem interruptions_drainStale (bridge : Bridge α) :
    bridge.drainStale.interruptions = bridge.interruptions := rfl

@[simp] theorem closed_poll (bridge : Bridge α) : bridge.poll.2.closed = bridge.closed := by
  unfold poll
  split <;> rfl

theorem closed_receive {bridge : Bridge α} {notice : Notice α} :
    (bridge.receive notice).closed = true ↔ bridge.closed = true ∨ notice = .finished := by
  cases notice <;> by_cases shut : bridge.closed = true <;> simp_all [receive]

end Bridge

end Contactless
