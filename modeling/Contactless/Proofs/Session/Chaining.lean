import Contactless.Proofs.Session.Reply

/-!
Chains of commands, from the first that is sent to the end of the call.

The answers of the tag decide how a chain goes: the first one that halts it ends the call with its
own error, and nothing is sent after it. Without such an answer the whole chain is sent, and the
call returns the answer to the last command as it came. All commands go to one tag, and nothing but
commands and answers is recorded of the call in between.
-/

set_option autoImplicit false

namespace Contactless

namespace Session

variable {session : Session} {call : CallId} {tag : Tag}

/-- The answers that the stimuli bring for a call. -/
def replies (call : CallId) (stimuli : List Stimulus) : List (Except LinkFault Bytes) :=
  stimuli.filterMap fun
    | .wake caller (.replied answer) _ => if caller = call then some answer else none
    | _ => none

/-- How an exchange goes that waits for an answer with these commands left to send, given the
answers to come: what is recorded of it, and the commands that are left if it waits still. -/
inductive ChainTrace (call : CallId) (tag : Tag) :
    List Bytes → List (Except LinkFault Bytes) → List SessionEvent → Option (List Bytes) → Prop
  where
  | waits (rest : List Bytes) : ChainTrace call tag rest [] [] (some rest)
  | halts {rest : List Bytes} {answer : Except LinkFault Bytes} {error : SessionError}
      (later : List (Except LinkFault Bytes)) (halts : Halts rest answer error) :
      ChainTrace call tag rest (answer :: later)
        [.answered call tag answer, .ended call (.error error)] none
  | ends (bytes : Bytes) (later : List (Except LinkFault Bytes)) (passes : Passes [] (.ok bytes)) :
      ChainTrace call tag [] (.ok bytes :: later)
        [.answered call tag (.ok bytes), .ended call (.ok (.answer bytes))] none
  | next {command : Bytes} {rest : List Bytes} {bytes : Bytes}
      {later : List (Except LinkFault Bytes)} {events : List SessionEvent}
      {left : Option (List Bytes)} (passes : Passes (command :: rest) (.ok bytes))
      (goes : ChainTrace call tag rest later events left) :
      ChainTrace call tag (command :: rest) (.ok bytes :: later)
        (.answered call tag (.ok bytes) :: .sent call tag command :: events) left

theorem replies_cons_of_other {stimulus : Stimulus} (rest : List Stimulus)
    (unanswered : ∀ answer around, stimulus ≠ .wake call (.replied answer) around) :
    replies call (stimulus :: rest) = replies call rest := by
  unfold replies
  refine List.filterMap_cons_none ?_
  match stimulus with
  | .wake caller (.replied answer) around =>
      have other : caller ≠ call := fun same => unanswered answer around (by rw [same])
      exact if_neg other
  | .wake _ .look _ | .wake _ (.connected _) _ | .wake _ .rested _ | .call _ _ | .notice _ _
  | .drop _ | .alert _ => rfl

theorem replies_cons_replied (answer : Except LinkFault Bytes) (around : Surroundings)
    (rest : List Stimulus) :
    replies call (.wake call (.replied answer) around :: rest) = answer :: replies call rest := by
  simp [replies]

/-- An answer that lets the exchange go on has the next command sent to the same tag. -/
theorem Reached.goes_on {next : Bytes} {rest : List Bytes} (reached : Reached .outside session)
    (transmitting : session.stage? call = some (.transmitting tag (next :: rest)))
    (around : Surroundings) (payload : Bytes) :
    (session.step (.wake call
        (.replied (.ok (payload ++ StatusWord.success.toBytes))) around)).stage? call =
      some (.transmitting tag rest) ∧
    records (session.step (.wake call
        (.replied (.ok (payload ++ StatusWord.success.toBytes))) around)).history call =
      records session.history call ++
        [.answered call tag (.ok (payload ++ StatusWord.success.toBytes)), .sent call tag next] ∧
    ConnectionKept session (session.step (.wake call
      (.replied (.ok (payload ++ StatusWord.success.toBytes))) around)) := by
  have connected := reached.connected_of_transmitting transmitting
  rw [step_replied transmitting, receive_next]
  refine ⟨by simp [Session.send, stage?_park], ?_, by simpa using connected, by simp⟩
  simp [SessionEvent.caller?]

/-- Whatever happens meanwhile, an exchange that nobody abandons goes by the answers. As long as it
waits, the connection stays. -/
theorem Reached.goes {rest : List Bytes} (reached : Reached .outside session)
    (transmitting : session.stage? call = some (.transmitting tag rest))
    (stimuli : List Stimulus) (stays : ∀ stimulus ∈ stimuli, stimulus ≠ .drop call) :
    ∃ events left, ChainTrace call tag rest (replies call stimuli) events left ∧
      records (session.run stimuli).history call = records session.history call ++ events ∧
      ∀ remaining, left = some remaining →
        (session.run stimuli).stage? call = some (.transmitting tag remaining) ∧
          ConnectionKept session (session.run stimuli) := by
  -- The exchange that waits after an answer is the same one with a command less to send.
  induction stimuli generalizing session rest with
  | nil =>
      refine ⟨[], some rest, .waits rest, by simp, ?_⟩
      intro remaining same
      obtain rfl := Option.some.inj same
      exact ⟨transmitting, reached.connected_of_transmitting transmitting, rfl⟩
  | cons stimulus later ih =>
      obtain ⟨here, there⟩ := List.forall_mem_cons.mp stays
      have after := reached.trans (step_moves session stimulus)
      by_cases replied : ∃ answer around, stimulus = .wake call (.replied answer) around
      · obtain ⟨answer, around, rfl⟩ := replied
        rw [replies_cons_replied, run_cons]
        by_cases passes : Passes rest answer
        · obtain ⟨payload, status, rfl, succeeds⟩ := passes_iff.mp passes
          cases rest with
          | nil =>
              obtain ⟨closes, _⟩ :=
                reached.finished transmitting around rfl payload status
              refine ⟨_, none, .ends _ _ passes, ?_, by simp⟩
              rw [closes.records_run after later]
              simp [SessionEvent.caller?]
          | cons next rest =>
              obtain rfl := succeeds (List.cons_ne_nil next rest)
              obtain ⟨stage, recorded, spared⟩ := reached.goes_on transmitting around payload
              obtain ⟨events, left, script, told, waits⟩ := ih after stage there
              refine ⟨_, left, .next passes script, ?_, ?_⟩
              · rw [told, recorded]
                simp
              · intro remaining same
                obtain ⟨still, later⟩ := waits remaining same
                exact ⟨still, later.phase, later.connection.trans spared.connection⟩
        · obtain ⟨error, halts⟩ : ∃ error, Halts rest answer error := by
            simpa [Passes] using passes
          obtain ⟨closes, _⟩ := reached.halted transmitting around halts
          refine ⟨_, none, .halts _ halts, ?_, by simp⟩
          rw [closes.records_run after later]
          simp [SessionEvent.caller?]
      · have unanswered : ∀ answer around, stimulus ≠ .wake call (.replied answer) around :=
          fun answer around same => replied ⟨answer, around, same⟩
        obtain ⟨stage, _, connection, recorded⟩ := reached.undisturbed transmitting here unanswered
        obtain ⟨events, left, script, told, waits⟩ := ih after (stage.trans transmitting) there
        rw [replies_cons_of_other later unanswered, run_cons]
        refine ⟨events, left, script, told.trans (by rw [recorded]), ?_⟩
        intro remaining same
        obtain ⟨still, spared⟩ := waits remaining same
        exact ⟨still, spared.phase, spared.connection.trans connection⟩

/-- Commands and their answers, in the order in which they came. -/
def sentAndAnswered (call : CallId) (tag : Tag) (commands : List Bytes)
    (answers : List (Except LinkFault Bytes)) : List SessionEvent :=
  (commands.zip answers).flatMap fun pair => [.sent call tag pair.1, .answered call tag pair.2]

@[simp] theorem sentAndAnswered_nil (call : CallId) (tag : Tag) (commands : List Bytes) :
    sentAndAnswered call tag commands [] = [] := by
  simp [sentAndAnswered]

@[simp] theorem sentAndAnswered_cons (call : CallId) (tag : Tag) (command : Bytes)
    (commands : List Bytes) (answer : Except LinkFault Bytes)
    (answers : List (Except LinkFault Bytes)) :
    sentAndAnswered call tag (command :: commands) (answer :: answers) =
      .sent call tag command :: .answered call tag answer ::
        sentAndAnswered call tag commands answers := by
  simp [sentAndAnswered]

/-- The answers with an index below the bound let the exchange go on. -/
def PassesBelow (rest : List Bytes) (answers : List (Except LinkFault Bytes)) (bound : Nat) :
    Prop :=
  ∀ index < bound, ∀ answer, answers[index]? = some answer → Passes (rest.drop index) answer

/-- The answer with this index is the first that halts the exchange. -/
structure HaltsAt (rest : List Bytes) (answers : List (Except LinkFault Bytes)) (index : Nat)
    (error : SessionError) : Prop where
  within : index ≤ rest.length
  halts : ∃ answer, answers[index]? = some answer ∧ Halts (rest.drop index) answer error
  first : PassesBelow rest answers index

theorem PassesBelow.tail {command : Bytes} {rest : List Bytes} {answer : Except LinkFault Bytes}
    {answers : List (Except LinkFault Bytes)} {bound : Nat}
    (passes : PassesBelow (command :: rest) (answer :: answers) (bound + 1)) :
    PassesBelow rest answers bound :=
  fun index below answer here => passes (index + 1) (Nat.succ_lt_succ below) answer here

section

variable {rest : List Bytes} {answers : List (Except LinkFault Bytes)} {events : List SessionEvent}
  {left : Option (List Bytes)}

/-- The first answer that halts the chain is the last that comes, and its command the last that is
sent. -/
theorem ChainTrace.halted (script : ChainTrace call tag rest answers events left) (first : Bytes)
    {index : Nat} {error : SessionError} (halts : HaltsAt rest answers index error) :
    .sent call tag first :: events =
      sentAndAnswered call tag ((first :: rest).take (index + 1)) (answers.take (index + 1)) ++
        [.ended call (.error error)] := by
  -- Behind each answer that passes, the first to halt is one place nearer.
  induction script generalizing first index with
  | waits rest =>
      obtain ⟨answer, here, _⟩ := halts.halts
      cases here
  | halts later stops =>
      cases index with
      | zero =>
          obtain ⟨answer, here, halted⟩ := halts.halts
          cases here
          rw [stops.unique halted]
          simp
      | succ index => exact absurd stops (halts.first 0 (Nat.succ_pos index) _ rfl _)
  | ends bytes later passes =>
      obtain ⟨answer, here, halted⟩ := halts.halts
      obtain rfl : index = 0 := Nat.le_zero.mp halts.within
      cases here
      exact absurd halted (passes error)
  | @next command rest bytes later events left passes goes ih =>
      obtain ⟨answer, here, halted⟩ := halts.halts
      cases index with
      | zero =>
          cases here
          exact absurd halted (passes error)
      | succ index =>
          have within : index ≤ rest.length := Nat.le_of_succ_le_succ halts.within
          rw [ih command ⟨within, ⟨answer, here, halted⟩, halts.first.tail⟩]
          simp

/-- Without an answer that halts it the whole chain is sent, and the answer to the last command is
returned. -/
theorem ChainTrace.finished (script : ChainTrace call tag rest answers events left) (first : Bytes)
    (passes : PassesBelow rest answers (rest.length + 1)) (enough : rest.length < answers.length) :
    ∃ bytes, answers[rest.length]? = some (.ok bytes) ∧
      .sent call tag first :: events =
        sentAndAnswered call tag (first :: rest) (answers.take (rest.length + 1)) ++
          [.ended call (.ok (.answer bytes))] := by
  induction script generalizing first with
  | waits rest => exact absurd enough (Nat.not_lt_zero _)
  | halts later stops => exact absurd stops (passes 0 (Nat.succ_pos _) _ rfl _)
  | ends bytes later passed => exact ⟨bytes, rfl, by simp⟩
  | @next command rest bytes later events left passed goes ih =>
      obtain ⟨last, here, told⟩ := ih command passes.tail (Nat.lt_of_succ_lt_succ enough)
      refine ⟨last, here, ?_⟩
      rw [told]
      simp

/-- As long as there are answers to come, the exchange waits for the next one. -/
theorem ChainTrace.pending (script : ChainTrace call tag rest answers events left) (first : Bytes)
    (passes : PassesBelow rest answers answers.length) (few : answers.length ≤ rest.length) :
    left = some (rest.drop answers.length) ∧ ∃ command,
      (first :: rest)[answers.length]? = some command ∧
      .sent call tag first :: events =
        sentAndAnswered call tag ((first :: rest).take answers.length) answers ++
          [.sent call tag command] := by
  induction script generalizing first with
  | waits rest => exact ⟨rfl, first, rfl, by simp⟩
  | halts later stops => exact absurd stops (passes 0 (Nat.succ_pos _) _ rfl _)
  | ends bytes later passed => exact absurd few (Nat.not_succ_le_zero _)
  | @next command rest bytes later events left passed goes ih =>
      obtain ⟨still, last, here, told⟩ := ih command passes.tail (Nat.le_of_succ_le_succ few)
      refine ⟨still, last, here, ?_⟩
      rw [told]
      simp

end

/-- The first command of a chain was handed to a tag just now; the prelude is what was recorded of
the call before. -/
structure FirstSent (session : Session) (call : CallId) (tag : Tag) (chain : Chain)
    (prelude : List SessionEvent) : Prop where
  stage : session.stage? call = some (.transmitting tag chain.rest)
  records : records session.history call = prelude ++ [.sent call tag chain.first]
  unsent : dealings prelude call = [.called call (.exchange chain.toList)]

theorem firstSent_send {chain : Chain} (fresh : Fresh session.history call (.exchange chain.toList))
    (tag : Tag) :
    FirstSent (session.send call tag chain) call tag chain (records session.history call) := by
  refine ⟨by simp [Session.send, stage?_park], by simp [SessionEvent.caller?], ?_⟩
  rw [dealings_records]
  exact fresh

/-- With a connection that is fresh, the first command goes to its tag at once. -/
theorem Acquires.opens {stimulus : Stimulus} {bridge : BridgeId} {connection : Connection}
    {now : Int} (reached : Reached .outside session) (acquires : Acquires session call stimulus)
    (ready : session.Ready bridge connection) (read : stimulus.reading? = some now)
    (fresh : session.policy.upkeep (elapsed connection.startedAt now)
      (elapsed connection.renewedAt now) = .keep) :
    ∃ chain prelude, FirstSent (session.step stimulus) call connection.tag chain prelude := by
  obtain ⟨entered, chain, around, moves, untouched, reading, final⟩ := acquires.enters
  obtain rfl : now = around.now := Option.some.inj (read.symm.trans reading)
  obtain ⟨request, made, serves⟩ := (reached.trans moves).served.running
  rw [eq_of_serves_exchange serves] at made
  rw [final, (ready.congr untouched).runExchange, policy_of_moves moves, fresh]
  exact ⟨chain, _, firstSent_send made connection.tag⟩

/-- A detection that is made for a chain is followed by its first command, to the tag that was
detected. -/
theorem Completes.opens {stimulus : Stimulus} {attachment : Attachment} {around : Surroundings}
    (reached : Reached .outside session)
    (completes : Completes session stimulus call attachment around)
    (reconnects : attachment.goal ≠ .start) :
    ∃ chain prelude, FirstSent (session.step stimulus) call attachment.tag chain prelude := by
  obtain ⟨request, made, serves⟩ :=
    reached.served.stage call _ completes.stage (by simp [Point.worker?])
  rw [completes.final]
  cases goal : attachment.goal with
  | start => exact absurd goal reconnects
  | restart chain =>
      rw [goal] at serves
      rw [eq_of_serves_chain (.inl rfl) serves] at made
      exact ⟨chain, _, firstSent_send (made.congr (by simp [connect, SessionEvent.concerns])) _⟩
  | renew chain =>
      rw [goal] at serves
      rw [eq_of_serves_chain (.inr rfl) serves] at made
      exact ⟨chain, _, firstSent_send (made.congr (by simp [reconnect, SessionEvent.concerns])) _⟩

/-- How chains of commands go. The last stimulus before the answers is the one with which the first
command is handed to a tag; the clauses on single steps look at it as well. -/
structure ChainSentInOrder (policy : Policy) (before : List Stimulus) (stimulus : Stimulus) :
    Prop where
  empty : ∀ around, stimulus = .call (.exchange []) around →
    (initial policy).run (before ++ [stimulus]) =
      { (initial policy).run before with
        issued := ((initial policy).run before).issued + 1
        history := ((initial policy).run before).history ++
          [.called ((initial policy).run before).issued (.exchange []),
            .ended ((initial policy).run before).issued (.error .emptyChain)] }
  single : ∀ command around, ((initial policy).run before).step (.call (.send command) around) =
    ((initial policy).run before).step (.call (.exchange [command]) around)
  fresh : ∀ call bridge connection now, Acquires ((initial policy).run before) call stimulus →
    ((initial policy).run before).Ready bridge connection → stimulus.reading? = some now →
    policy.upkeep (now - connection.startedAt).toNat (now - connection.renewedAt).toNat = .keep →
    ∃ chain prelude,
      FirstSent ((initial policy).run (before ++ [stimulus])) call connection.tag chain prelude
  reconnected : ∀ call attachment around,
    Completes ((initial policy).run before) stimulus call attachment around →
    attachment.goal ≠ .start →
    ∃ chain prelude,
      FirstSent ((initial policy).run (before ++ [stimulus])) call attachment.tag chain prelude
  /-- The first answer that halts the chain ends the call. -/
  halted : ∀ call tag chain prelude after index error,
    FirstSent ((initial policy).run (before ++ [stimulus])) call tag chain prelude →
    (∀ later ∈ after, later ≠ .drop call) →
    HaltsAt chain.rest (replies call after) index error →
    records ((initial policy).run (before ++ stimulus :: after)).history call =
      prelude ++ sentAndAnswered call tag (chain.toList.take (index + 1))
        ((replies call after).take (index + 1)) ++ [.ended call (.error error)]
  finished : ∀ call tag chain prelude after,
    FirstSent ((initial policy).run (before ++ [stimulus])) call tag chain prelude →
    (∀ later ∈ after, later ≠ .drop call) →
    PassesBelow chain.rest (replies call after) chain.toList.length →
    chain.toList.length ≤ (replies call after).length →
    ∃ bytes, (replies call after)[chain.rest.length]? = some (.ok bytes) ∧
      records ((initial policy).run (before ++ stimulus :: after)).history call =
        prelude ++ sentAndAnswered call tag chain.toList
          ((replies call after).take chain.toList.length) ++ [.ended call (.ok (.answer bytes))]
  /-- Until then the call waits for the next answer, over the connection that it began with. -/
  pending : ∀ call tag chain prelude after,
    FirstSent ((initial policy).run (before ++ [stimulus])) call tag chain prelude →
    (∀ later ∈ after, later ≠ .drop call) →
    PassesBelow chain.rest (replies call after) (replies call after).length →
    (replies call after).length < chain.toList.length →
    ConnectionKept ((initial policy).run (before ++ [stimulus]))
        ((initial policy).run (before ++ stimulus :: after)) ∧
      ∃ command, chain.toList[(replies call after).length]? = some command ∧
        records ((initial policy).run (before ++ stimulus :: after)).history call =
          prelude ++ sentAndAnswered call tag (chain.toList.take (replies call after).length)
            (replies call after) ++ [.sent call tag command]
  /-- Once the first command is out, nothing depends on the time any more. -/
  timeless : ∀ call tag rest answer around other,
    ((initial policy).run before).stage? call = some (.transmitting tag rest) →
    ((initial policy).run before).step (.wake call (.replied answer) around) =
      ((initial policy).run before).step (.wake call (.replied answer) other)
  spared : ∀ call tag rest bytes around,
    ((initial policy).run before).stage? call = some (.transmitting tag rest) →
    stimulus = .wake call (.replied (.ok bytes)) around → 2 ≤ bytes.length →
    ConnectionKept ((initial policy).run before) ((initial policy).run (before ++ [stimulus]))
  /-- Any other answer that halts a chain takes the session down. -/
  broken : ∀ call tag rest answer around error,
    ((initial policy).run before).stage? call = some (.transmitting tag rest) →
    stimulus = .wake call (.replied answer) around → Halts rest answer error →
    error.keepsConnection = false → Down ((initial policy).run (before ++ [stimulus]))

theorem Reached.spared {rest : List Bytes} (reached : Reached .outside session)
    (transmitting : session.stage? call = some (.transmitting tag rest)) {bytes : Bytes}
    (long : 2 ≤ bytes.length) (around : Surroundings) :
    ConnectionKept session (session.step (.wake call (.replied (.ok bytes)) around)) := by
  obtain ⟨payload, status, rfl⟩ := exists_status (Nat.not_lt.mpr long)
  cases rest with
  | nil => exact (reached.finished transmitting around rfl payload status).2
  | cons next later =>
      by_cases success : status = .success
      · subst success
        exact (reached.goes_on transmitting around payload).2.2
      · obtain ⟨fault, named⟩ := CardFault.exists_of_failed success
        have halts := Halts.refused payload status fault success named (List.cons_ne_nil next later)
        exact (reached.halted transmitting around halts).2.1 rfl

/-- Every chain goes by the answers of the tag. -/
theorem run_chain_sent_in_order (policy : Policy) (before : List Stimulus) (stimulus : Stimulus) :
    ChainSentInOrder policy before stimulus := by
  have reached := Reached.run policy before
  have last : (initial policy).run (before ++ [stimulus]) =
      ((initial policy).run before).step stimulus := run_append ..
  have whole : ∀ after, (initial policy).run (before ++ stimulus :: after) =
      (((initial policy).run before).step stimulus).run after := fun after => run_append ..
  have same := policy_of_moves (run_moves (initial policy) before)
  have goes : ∀ {call tag chain prelude after},
      FirstSent ((initial policy).run (before ++ [stimulus])) call tag chain prelude →
      (∀ later ∈ after, later ≠ .drop call) →
      ∃ events left, ChainTrace call tag chain.rest (replies call after) events left ∧
        records ((initial policy).run (before ++ stimulus :: after)).history call =
          prelude ++ .sent call tag chain.first :: events ∧
        ∀ remaining, left = some remaining →
          ConnectionKept ((initial policy).run (before ++ [stimulus]))
            ((initial policy).run (before ++ stimulus :: after)) := by
    intro call tag chain prelude after opens stays
    rw [last] at opens
    obtain ⟨events, left, script, told, waits⟩ :=
      (reached.trans (step_moves _ stimulus)).goes opens.stage after stays
    refine ⟨events, left, script, ?_, ?_⟩
    · rw [whole, told, opens.records, List.append_assoc]
      rfl
    · intro remaining here
      rw [last, whole]
      exact (waits remaining here).2
  refine ⟨?_, fun _ _ => rfl, ?_, ?_, ?_, ?_, ?_, ?_, ?_, ?_⟩
  · rintro around rfl
    rw [last]
    simp [Session.step, Session.ask, Chain.ofList?, emit]
  · intro call bridge connection now acquires ready read fresh
    rw [last]
    exact acquires.opens reached ready read (same.symm ▸ fresh)
  · intro call attachment around completes reconnects
    rw [last]
    exact completes.opens reached reconnects
  · intro call tag chain prelude after index error opens stays halts
    obtain ⟨events, left, script, told, _⟩ := goes opens stays
    rw [told, script.halted chain.first halts, List.append_assoc]
    rfl
  · intro call tag chain prelude after opens stays passes enough
    obtain ⟨events, left, script, told, _⟩ := goes opens stays
    obtain ⟨bytes, here, ended⟩ := script.finished chain.first passes enough
    refine ⟨bytes, here, ?_⟩
    rw [told, ended, List.append_assoc]
    rfl
  · intro call tag chain prelude after opens stays passes few
    obtain ⟨events, left, script, told, waits⟩ := goes opens stays
    obtain ⟨still, command, here, sent⟩ :=
      script.pending chain.first passes (Nat.le_of_lt_succ few)
    refine ⟨waits _ still, command, here, ?_⟩
    rw [told, sent, List.append_assoc]
    rfl
  · intro call tag rest answer around other transmitting
    rw [step_replied transmitting, step_replied transmitting]
  · rintro call tag rest bytes around transmitting rfl long
    rw [last]
    exact reached.spared transmitting long around
  · rintro call tag rest answer around error transmitting rfl halts spent
    rw [last]
    exact (reached.halted transmitting around halts).2.2 spent

end Session

end Contactless
