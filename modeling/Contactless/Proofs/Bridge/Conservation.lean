import Contactless.Bench.Drills

/-!
What was reported over a bridge before it was closed is taken from it once, in order.

A bridge is three queues with one closing mark. Each queue obeys the same law: what has been taken
out of it, followed by what waits in it, is what was reported before the closing. So what a poll
finds can be told from the moves that were made before it. All copies of the reporting side share
the bridge, so it does not matter which of them reports or closes.
-/

set_option autoImplicit false

namespace Contactless.Bench

variable {α β : Type}

def BridgeMove.closes : BridgeMove α → Bool
  | .report .finished | .close => true
  | _ => false

namespace BridgeOutcome

def batch? : BridgeOutcome α → Option α
  | .polled (.batch batch) => some batch
  | _ => none

def reason? : BridgeOutcome α → Option Interruption
  | .polled (.interrupted reason) => some reason
  | .interruption reason => reason
  | _ => none

def isEmptyPoll : BridgeOutcome α → Bool
  | .polled .pending | .polled .exhausted => true
  | _ => false

end BridgeOutcome

namespace BridgeDrill

variable {drill : BridgeDrill α} {move : BridgeMove α}

/-- The outcome of a poll that finds nothing: only a closed bridge has nothing to come. -/
def emptyPoll (drill : BridgeDrill α) : BridgeOutcome α :=
  .polled (if drill.bridge.closed then .exhausted else .pending)

@[simp] theorem emptyPoll_fields (drill : BridgeDrill α) :
    drill.emptyPoll.batch? = none ∧ drill.emptyPoll.reason? = none ∧
      drill.emptyPoll.isEmptyPoll = true := by
  cases closed : drill.bridge.closed <;>
    simp [emptyPoll, closed, BridgeOutcome.batch?, BridgeOutcome.reason?, BridgeOutcome.isEmptyPoll]

/-- The oldest interruption goes before any batch. -/
theorem poll_reason (attended : drill.attended = true) {reason : Interruption}
    {later : List Interruption} (waiting : drill.bridge.interruptions = reason :: later) :
    drill.step .poll = (.polled (.interrupted reason),
      { drill with bridge := { drill.bridge with interruptions := later } }) := by
  simp [step, attended, take, Bridge.poll, waiting]

theorem poll_batch (attended : drill.attended = true)
    (quiet : drill.bridge.interruptions = []) {batch : α} {later : List α}
    (waiting : drill.bridge.batches = batch :: later) :
    drill.step .poll = (.polled (.batch batch),
      { drill with bridge := { drill.bridge with batches := later } }) := by
  simp [step, attended, take, Bridge.poll, quiet, waiting]

theorem poll_of_nothing (attended : drill.attended = true)
    (quiet : drill.bridge.interruptions = []) (empty : drill.bridge.batches = []) :
    drill.step .poll = (drill.emptyPoll,
      { drill with bridge := { drill.bridge with active := 0 } }) := by
  simp [step, attended, take, Bridge.poll, quiet, empty, emptyPoll]

theorem poll_cases (attended : drill.attended = true) :
    (∃ reason later, drill.bridge.interruptions = reason :: later ∧
      drill.step .poll = (.polled (.interrupted reason),
        { drill with bridge := { drill.bridge with interruptions := later } })) ∨
    (∃ batch later, drill.bridge.interruptions = [] ∧ drill.bridge.batches = batch :: later ∧
      drill.step .poll = (.polled (.batch batch),
        { drill with bridge := { drill.bridge with batches := later } })) ∨
    (drill.bridge.interruptions = [] ∧ drill.bridge.batches = [] ∧
      drill.step .poll = (drill.emptyPoll,
        { drill with bridge := { drill.bridge with active := 0 } })) := by
  cases interrupted : drill.bridge.interruptions with
  | cons reason later => exact .inl ⟨reason, later, rfl, poll_reason attended interrupted⟩
  | nil =>
      cases waiting : drill.bridge.batches with
      | cons batch later =>
          exact .inr (.inl ⟨batch, later, rfl, rfl, poll_batch attended interrupted waiting⟩)
      | nil => exact .inr (.inr ⟨rfl, rfl, poll_of_nothing attended interrupted waiting⟩)

theorem step_attended (attended : drill.attended = true) (stays : move ≠ .abandon) :
    (drill.step move).2.attended = true := by
  cases move with
  | report notice => exact attended
  | abandon => exact absurd rfl stays
  | poll | takeInterruption | drain | close => simp [step, attended, take]

theorem step_closed (move : BridgeMove α) (attended : drill.attended = true) :
    (drill.step move).2.bridge.closed = (drill.bridge.closed || move.closes) := by
  cases move with
  | report notice =>
      rw [Bool.eq_iff_iff, Bool.or_eq_true]
      refine Bridge.closed_receive.trans (or_congr_right ?_)
      cases notice <;> simp [BridgeMove.closes]
  | poll => simp [step, attended, take, BridgeMove.closes]
  | takeInterruption => simp [step, attended, take, BridgeMove.closes, Bridge.takeInterruption]
  | drain | close | abandon => simp [step, attended, take, BridgeMove.closes]

def run (drill : BridgeDrill α) (moves : List (BridgeMove α)) : BridgeDrill α :=
  moves.foldl (fun drill move => (drill.step move).2) drill

def outcomes (drill : BridgeDrill α) (moves : List (BridgeMove α)) : List (BridgeOutcome α) :=
  (drill.reports moves).map (·.outcome)

theorem outcomes_cons (drill : BridgeDrill α) (move : BridgeMove α)
    (rest : List (BridgeMove α)) :
    drill.outcomes (move :: rest) = (drill.step move).1 :: (drill.step move).2.outcomes rest := rfl

variable {moves : List (BridgeMove α)}

theorem run_attended (drill : BridgeDrill α) (attended : drill.attended = true)
    (stays : .abandon ∉ moves) :
    (drill.run moves).attended = true := by
  induction moves generalizing drill with
  | nil => exact attended
  | cons move rest ih =>
      rw [List.mem_cons, not_or] at stays
      exact ih _ (step_attended attended (Ne.symm stays.1)) stays.2

theorem run_closed (drill : BridgeDrill α) (attended : drill.attended = true)
    (stays : .abandon ∉ moves) :
    (drill.run moves).bridge.closed = (drill.bridge.closed || moves.any (·.closes)) := by
  induction moves generalizing drill with
  | nil => simp [run]
  | cons move rest ih =>
      rw [List.mem_cons, not_or] at stays
      refine (ih _ (step_attended attended (Ne.symm stays.1)) stays.2).trans ?_
      rw [step_closed move attended, List.any_cons, Bool.or_assoc]

end BridgeDrill

/-- One of the queues of a bridge. -/
structure Queue (α β : Type) where
  waiting : Bridge α → List β
  reported : Notice α → List β
  taken : BridgeDrill α → BridgeMove α → List β

namespace Queue

/-- The interruptions. They leave only by being handed over. -/
def reasons : Queue α Interruption where
  waiting := Bridge.interruptions
  reported
    | .interrupted reason => [reason]
    | _ => []
  taken drill move := (drill.step move).1.reason?.toList

/-- The batches. A poll hands one over, and a drain discards all of them. -/
def batches : Queue α α where
  waiting := Bridge.batches
  reported
    | .detected batch => [batch]
    | _ => []
  taken drill
    | .drain => drill.bridge.batches
    | move => (drill.step move).1.batch?.toList

/-- The reports of activity. A drain discards them, and so does a poll that finds nothing. -/
def activity : Queue α Unit where
  waiting bridge := List.replicate bridge.active ()
  reported
    | .active => [()]
    | _ => []
  taken drill
    | .drain => List.replicate drill.bridge.active ()
    | move => if (drill.step move).1.isEmptyPoll then List.replicate drill.bridge.active () else []

/-- What some moves take out of the queue, in order. -/
def takenBy (queue : Queue α β) (drill : BridgeDrill α) : List (BridgeMove α) → List β
  | [] => []
  | move :: rest => queue.taken drill move ++ queue.takenBy (drill.step move).2 rest

/-- What a move puts into the queue as long as the bridge is open. -/
def arriving (queue : Queue α β) : BridgeMove α → List β
  | .report notice => queue.reported notice
  | _ => []

/-- What some moves report before the first one that closes the bridge. -/
def reportedBy (queue : Queue α β) (moves : List (BridgeMove α)) : List β :=
  (moves.takeWhile (!·.closes)).flatMap queue.arriving

/-- No move loses, repeats or reorders anything, and a closed bridge accepts nothing. -/
structure Conserved (queue : Queue α β) : Prop where
  step : ∀ (drill : BridgeDrill α) (move : BridgeMove α), drill.attended = true →
    move ≠ .abandon →
    queue.taken drill move ++ queue.waiting (drill.step move).2.bridge =
      queue.waiting drill.bridge ++ if drill.bridge.closed then [] else queue.arriving move
  finished : queue.reported .finished = []

theorem Conserved.arriving_of_closes {queue : Queue α β} (conserved : queue.Conserved)
    {move : BridgeMove α} (closes : move.closes = true) : queue.arriving move = [] := by
  cases move with
  | report notice =>
      cases notice with
      | finished => exact conserved.finished
      | active | interrupted | detected => cases closes
  | _ => rfl

/-- What was taken and what waits is what was there and what was reported. -/
theorem Conserved.run {queue : Queue α β} (conserved : queue.Conserved) (drill : BridgeDrill α)
    {moves : List (BridgeMove α)} (attended : drill.attended = true) (stays : .abandon ∉ moves) :
    queue.takenBy drill moves ++ queue.waiting (drill.run moves).bridge =
      queue.waiting drill.bridge ++
        if drill.bridge.closed then [] else queue.reportedBy moves := by
  induction moves generalizing drill with
  | nil => simp [takenBy, reportedBy, BridgeDrill.run]
  | cons move rest ih =>
      rw [List.mem_cons, not_or] at stays
      have moved := conserved.step drill move attended (Ne.symm stays.1)
      have there := BridgeDrill.step_attended attended (Ne.symm stays.1)
      have later := ih (drill.step move).2 there stays.2
      have closed := BridgeDrill.step_closed move attended
      calc queue.takenBy drill (move :: rest) ++ queue.waiting (drill.run (move :: rest)).bridge
        _ = queue.taken drill move ++ (queue.takenBy (drill.step move).2 rest ++
              queue.waiting ((drill.step move).2.run rest).bridge) := List.append_assoc ..
        _ = queue.waiting drill.bridge ++
              ((if drill.bridge.closed then [] else queue.arriving move) ++
                if (drill.step move).2.bridge.closed then [] else queue.reportedBy rest) := by
            rw [later, ← List.append_assoc, moved, List.append_assoc]
        _ = _ := by
            cases before : drill.bridge.closed <;> cases closes : move.closes <;>
              simp [closed, before, closes, reportedBy]
            exact conserved.arriving_of_closes closes

theorem conserved_reasons : (reasons : Queue α Interruption).Conserved where
  finished := rfl
  step drill move attended stays := by
    cases move with
    | report notice =>
        cases closed : drill.bridge.closed <;> cases notice <;>
          simp [reasons, arriving, BridgeDrill.step, BridgeOutcome.reason?, Bridge.receive, closed,
            Bridge.close]
    | poll =>
        obtain ⟨reason, later, waiting, polled⟩ | ⟨batch, later, quiet, waiting, polled⟩ |
          ⟨quiet, empty, polled⟩ := BridgeDrill.poll_cases attended
        · simp [reasons, arriving, polled, waiting, BridgeOutcome.reason?]
        · simp [reasons, arriving, polled, quiet, BridgeOutcome.reason?]
        · simp [reasons, arriving, polled, quiet]
    | takeInterruption =>
        cases waiting : drill.bridge.interruptions <;>
          simp [reasons, arriving, BridgeDrill.step, attended, BridgeDrill.take,
            BridgeOutcome.reason?, Bridge.takeInterruption, waiting]
    | drain | close =>
        simp [reasons, arriving, BridgeDrill.step, attended, BridgeDrill.take,
          BridgeOutcome.reason?, Bridge.drainStale, Bridge.close]
    | abandon => exact absurd rfl stays

theorem conserved_batches : (batches : Queue α α).Conserved where
  finished := rfl
  step drill move attended stays := by
    cases move with
    | report notice =>
        cases closed : drill.bridge.closed <;> cases notice <;>
          simp [batches, arriving, BridgeDrill.step, BridgeOutcome.batch?, Bridge.receive, closed,
            Bridge.close]
    | poll =>
        obtain ⟨reason, later, waiting, polled⟩ | ⟨batch, later, quiet, waiting, polled⟩ |
          ⟨quiet, empty, polled⟩ := BridgeDrill.poll_cases attended
        · simp [batches, arriving, polled, BridgeOutcome.batch?]
        · simp [batches, arriving, polled, waiting, BridgeOutcome.batch?]
        · simp [batches, arriving, polled, empty]
    | takeInterruption | drain | close =>
        simp [batches, arriving, BridgeDrill.step, attended, BridgeDrill.take, BridgeOutcome.batch?,
          Bridge.takeInterruption, Bridge.drainStale, Bridge.close]
    | abandon => exact absurd rfl stays

theorem conserved_activity : (activity : Queue α Unit).Conserved where
  finished := rfl
  step drill move attended stays := by
    cases move with
    | report notice =>
        cases closed : drill.bridge.closed <;> cases notice <;>
          simp [activity, arriving, BridgeDrill.step, BridgeOutcome.isEmptyPoll,
            Bridge.receive, closed, Bridge.close, List.replicate_succ']
    | poll =>
        obtain ⟨reason, later, waiting, polled⟩ | ⟨batch, later, quiet, waiting, polled⟩ |
          ⟨quiet, empty, polled⟩ := BridgeDrill.poll_cases attended
        · simp [activity, arriving, polled, BridgeOutcome.isEmptyPoll]
        · simp [activity, arriving, polled, BridgeOutcome.isEmptyPoll]
        · simp [activity, arriving, polled]
    | takeInterruption | drain | close =>
        simp [activity, arriving, BridgeDrill.step, attended, BridgeDrill.take,
          BridgeOutcome.isEmptyPoll, Bridge.takeInterruption, Bridge.drainStale, Bridge.close]
    | abandon => exact absurd rfl stays

end Queue

namespace BridgeDrill

variable {drill : BridgeDrill α}

theorem outcomes_emptyPoll (attended : drill.attended = true)
    (quiet : drill.bridge.interruptions = []) (empty : drill.bridge.batches = []) (count : Nat) :
    drill.outcomes (List.replicate count .poll) = List.replicate count drill.emptyPoll := by
  induction count generalizing drill with
  | zero => rfl
  | succ count ih =>
      rw [List.replicate_succ, List.replicate_succ, outcomes_cons,
        poll_of_nothing attended quiet empty]
      exact congrArg (drill.emptyPoll :: ·) (ih attended quiet empty)

/-- Enough polls hand over all that waits, interruptions first, and then find nothing. -/
theorem outcomes_polls (attended : drill.attended = true) (count : Nat) :
    drill.outcomes (List.replicate
        (drill.bridge.interruptions.length + drill.bridge.batches.length + count) .poll) =
      drill.bridge.interruptions.map (.polled ∘ .interrupted) ++
        (drill.bridge.batches.map (.polled ∘ .batch) ++ List.replicate count drill.emptyPoll) := by
  -- By induction on the number of things that wait: each poll hands over the first of them.
  generalize size : drill.bridge.interruptions.length + drill.bridge.batches.length = waiting
  induction waiting generalizing drill with
  | zero =>
      obtain ⟨quiet, empty⟩ := Nat.add_eq_zero_iff.mp size
      have quiet := List.length_eq_zero_iff.mp quiet
      have empty := List.length_eq_zero_iff.mp empty
      rw [Nat.zero_add, outcomes_emptyPoll attended quiet empty, quiet, empty]
      rfl
  | succ waiting ih =>
      rw [Nat.add_right_comm, List.replicate_succ, outcomes_cons]
      obtain ⟨reason, later, found, polled⟩ | ⟨batch, later, quiet, found, polled⟩ |
        ⟨quiet, empty, polled⟩ := poll_cases attended
      · rw [found, List.length_cons, Nat.add_right_comm, Nat.add_right_cancel_iff] at size
        have rest := @ih { drill with
          bridge := { drill.bridge with interruptions := later } } attended size
        rw [polled, rest, found]
        rfl
      · rw [quiet, found, List.length_nil, Nat.zero_add, List.length_cons,
          Nat.add_right_cancel_iff] at size
        have rest := @ih { drill with
          bridge := { drill.bridge with batches := later } } attended (by simp [quiet, size])
        rw [polled, rest, found]
        simp [quiet, emptyPoll]
      · simp [quiet, empty] at size

end BridgeDrill

/-- What the moves so far tell of a bridge and of the next poll. -/
structure RefinesQueues (moves : List (BridgeMove α)) (drill : BridgeDrill α) : Prop where
  reasons : Queue.reasons.takenBy {} moves ++ drill.bridge.interruptions =
    Queue.reasons.reportedBy moves
  batches : Queue.batches.takenBy {} moves ++ drill.bridge.batches =
    Queue.batches.reportedBy moves
  activity : Queue.activity.takenBy {} moves ++ List.replicate drill.bridge.active () =
    Queue.activity.reportedBy moves
  closed : ∀ outcome, (drill.report outcome).closed = moves.any (·.closes) ∧
    (drill.report outcome).closedInside = some (moves.any (·.closes))
  reason : ∀ reason later,
    Queue.reasons.reportedBy moves = Queue.reasons.takenBy {} moves ++ reason :: later →
      drill.step .poll = (.polled (.interrupted reason),
        { drill with bridge := { drill.bridge with interruptions := later } })
  batch : Queue.reasons.reportedBy moves = Queue.reasons.takenBy {} moves → ∀ batch later,
    Queue.batches.reportedBy moves = Queue.batches.takenBy {} moves ++ batch :: later →
      drill.step .poll = (.polled (.batch batch),
        { drill with bridge := { drill.bridge with batches := later } })
  nothing : Queue.reasons.reportedBy moves = Queue.reasons.takenBy {} moves →
    Queue.batches.reportedBy moves = Queue.batches.takenBy {} moves →
      drill.step .poll =
        (.polled (if moves.any (·.closes) then .exhausted else .pending),
          { drill with bridge := { drill.bridge with active := 0 } })
  /-- Whatever has not been taken is handed over by enough polls. -/
  rest : ∀ reasons batches,
    Queue.reasons.reportedBy moves = Queue.reasons.takenBy {} moves ++ reasons →
    Queue.batches.reportedBy moves = Queue.batches.takenBy {} moves ++ batches →
      ∀ count, drill.outcomes (List.replicate (reasons.length + batches.length + count) .poll) =
        reasons.map (.polled ∘ .interrupted) ++ (batches.map (.polled ∘ .batch) ++
          List.replicate count
            (.polled (if moves.any (·.closes) then .exhausted else .pending)))

/-- Whatever the order of reports, closings and takings, each queue of a bridge hands over what was
reported before the closing, once and in order, and a poll finds the oldest interruption, then the
oldest batch, then nothing. -/
theorem run_refines_queues (moves : List (BridgeMove α)) (stays : .abandon ∉ moves) :
    RefinesQueues moves (({} : BridgeDrill α).run moves) := by
  have attended := BridgeDrill.run_attended ({} : BridgeDrill α) rfl stays
  have closed := BridgeDrill.run_closed ({} : BridgeDrill α) rfl stays
  have reasons := Queue.conserved_reasons.run {} rfl stays
  have batches := Queue.conserved_batches.run {} rfl stays
  have activity := Queue.conserved_activity.run {} rfl stays
  generalize ({} : BridgeDrill α).run moves = drill at *
  have emptyPoll :
      drill.emptyPoll = .polled (if moves.any (·.closes) then .exhausted else .pending) := by
    rw [BridgeDrill.emptyPoll, closed]
    rfl
  -- What has not been taken yet is what waits.
  have interrupted : ∀ {rest}, Queue.reasons.reportedBy moves =
      Queue.reasons.takenBy {} moves ++ rest → drill.bridge.interruptions = rest := fun same =>
    List.append_cancel_left (reasons.trans same)
  have waiting : ∀ {rest}, Queue.batches.reportedBy moves =
      Queue.batches.takenBy {} moves ++ rest → drill.bridge.batches = rest := fun same =>
    List.append_cancel_left (batches.trans same)
  refine ⟨reasons, batches, activity, ?_, ?_, ?_, ?_, ?_⟩
  · intro outcome
    simp [BridgeDrill.report, attended, closed]
  · intro reason later untaken
    exact BridgeDrill.poll_reason attended (interrupted untaken)
  · intro taken batch later untaken
    exact BridgeDrill.poll_batch attended (interrupted (by simpa using taken)) (waiting untaken)
  · intro taken gone
    rw [← emptyPoll]
    exact BridgeDrill.poll_of_nothing attended (interrupted (by simpa using taken))
      (waiting (by simpa using gone))
  · intro reasons batches untaken left count
    rw [← emptyPoll, ← interrupted untaken, ← waiting left]
    exact BridgeDrill.outcomes_polls attended count

/-- A batch that was reported before the closing is handed over after it, behind an interruption;
one that was reported later is lost. -/
theorem refines_queues_after_closing :
    let moves : List (BridgeMove Nat) := [.report .active, .report (.detected 1), .poll,
      .report (.detected 2), .report (.interrupted .byUser), .close, .report (.detected 3)]
    BridgeMove.abandon ∉ moves ∧ RefinesQueues moves (({} : BridgeDrill Nat).run moves) ∧
      (({} : BridgeDrill Nat).run moves).outcomes [.poll, .poll, .poll] =
        [.polled (.interrupted .byUser), .polled (.batch 2), .polled .exhausted] :=
  ⟨by decide, run_refines_queues _ (by decide), by decide⟩

end Contactless.Bench
