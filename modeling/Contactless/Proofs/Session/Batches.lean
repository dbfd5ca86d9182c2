import Contactless.Proofs.Session.Progress
import Contactless.Proofs.Session.Timekeeping
import Contactless.Proofs.Session.WaitingBatches

/-!
Which batch a detection goes by.

The radio may report batches at any time, and several at once. A detection that polls anew discards
what waits on the bridge before it asks the radio to poll; one that begins a radio session opens a
bridge of its own, and the radio gets to know it when it is asked to begin. Either way the oldest
batch reported since is taken, and no other one.
-/

set_option autoImplicit false

namespace Contactless

theorem SessionEvent.attends_of_idle {event : SessionEvent} (idle : event.isWork = false)
    (bridge : BridgeId) : event.attends bridge = false := by
  cases event <;> first | rfl | cases idle

namespace Session

def Unused (history : List SessionEvent) (bridge : BridgeId) : Prop :=
  ∀ event ∈ history, event.attends bridge = false ∧ event.batch? bridge = none

/-- The call opened the bridge for the beginning of a radio session, and these batches were
reported over it since. -/
inductive OpenedFirst (call : CallId) (bridge : BridgeId) :
    Goal → List (List Tag) → List SessionEvent → Prop
  | start {earlier : List SessionEvent} (unused : Unused earlier bridge) :
      OpenedFirst call bridge .start [] (earlier ++ [.opened bridge])
  | restart {earlier resting : List SessionEvent} (chain : Chain) (pause : Duration)
      (unused : Unused earlier bridge) (idle : ∀ event ∈ resting, event.attends bridge = false) :
      OpenedFirst call bridge (.restart chain) (batches resting bridge)
        (earlier ++ .opened bridge :: .paused call pause :: resting)

/-- With the last event the call asks the radio to poll over the bridge, where these batches wait.
Only a bridge that the call has opened itself is not emptied just before. -/
inductive AsksForPolling (call : CallId) (bridge : BridgeId) :
    Goal → List (List Tag) → List SessionEvent → Prop
  | begun {goal : Goal} {heard : List (List Tag)} {before : List SessionEvent} (prompt : String)
      (bridged : OpenedFirst call bridge goal heard before) :
      AsksForPolling call bridge goal heard (before ++ [.begun call bridge prompt])
  | repolled (earlier : List SessionEvent) (chain : Chain) :
      AsksForPolling call bridge (.renew chain) []
        (earlier ++ [.drained call bridge, .repolled call bridge])

/-- This has happened since the call asked the radio to poll over the bridge. -/
def Looking (call : CallId) (goal : Goal) (bridge : BridgeId) (heard : List (List Tag))
    (since history : List SessionEvent) : Prop :=
  ∃ asked, history = asked ++ since ∧ AsksForPolling call bridge goal heard asked ∧
    ∀ event ∈ since, event.attends bridge = false

/-- The call picked the first card of the oldest batch reported since it asked the radio to poll,
or of the oldest of those heard before. -/
def Chosen (aid : String) (call : CallId) (goal : Goal) (bridge : BridgeId) (tag : Tag)
    (heard : List (List Tag)) (history : List SessionEvent) : Prop :=
  ∃ before since batch after, history = before ++ .taken call bridge batch :: after ∧
    Looking call goal bridge heard since before ∧
    (heard ++ batches since bridge).head? = some batch ∧ FirstCard aid tag batch ∧
    ∀ event ∈ after, event.attends bridge = false

/-- What the history tells of a call that has come somewhere. -/
def ProgressRecorded (aid : String) (history : List SessionEvent) (call : CallId) : Progress → Prop
  | .opened goal bridge => ∃ heard, OpenedFirst call bridge goal heard history
  | .looking goal bridge => ∃ heard since, Looking call goal bridge heard since history
  | .picked goal bridge tag | .linked goal bridge tag =>
    ∃ heard, Chosen aid call goal bridge tag heard history
  | .sending _ _ => True

def Known (history : List SessionEvent) (bridge : BridgeId) : Prop :=
  ∃ call prompt, SessionEvent.begun call bridge prompt ∈ history

/-- The radio reports only over bridges that it knows. -/
def NoticedAfterBegin (before : List SessionEvent) : SessionEvent → Prop
  | .noticed bridge _ => Known before bridge
  | _ => True

/-- The radio knows the bridges that it was asked to begin over, and it reports over no others. -/
def ReportsOnBegunBridges (policy : Policy) (stimuli : List Stimulus) : Prop :=
  ∀ front bridge notice back, stimuli = front ++ .notice bridge notice :: back →
    Known ((initial policy).run front).history bridge

variable {point last : Point} {session final : Session} {bridge : BridgeId} {call : CallId}
  {goal : Goal} {heard : List (List Tag)} {history new since : List SessionEvent}

theorem Unused.leftWaiting (unused : Unused history bridge) : leftWaiting bridge history = [] := by
  refine (foldl_waitingAfter (fun event member => (unused event member).1) []).trans ?_
  rw [List.nil_append]
  exact List.filterMap_eq_nil_iff.mpr fun event member => (unused event member).2

theorem OpenedFirst.leftWaiting (bridged : OpenedFirst call bridge goal heard history) :
    leftWaiting bridge history = heard := by
  cases bridged with
  | start unused =>
      rw [leftWaiting_append, unused.leftWaiting]
      rfl
  | restart chain pause unused idle =>
      rw [leftWaiting_append, unused.leftWaiting]
      exact foldl_waitingAfter idle []

theorem AsksForPolling.leftWaiting (asked : AsksForPolling call bridge goal heard history) :
    leftWaiting bridge history = heard := by
  cases asked with
  | begun prompt bridged =>
      rw [leftWaiting_append, bridged.leftWaiting]
      rfl
  | repolled earlier chain =>
      rw [leftWaiting_append]
      simp [SessionEvent.waitingAfter]

theorem Looking.leftWaiting (looking : Looking call goal bridge heard since history) :
    leftWaiting bridge history = heard ++ batches since bridge := by
  obtain ⟨asked, rfl, mark, idle⟩ := looking
  rw [leftWaiting_append, mark.leftWaiting, foldl_waitingAfter idle]

theorem Reached.unused (reached : Reached point session) :
    ∀ bridge, session.bridges.length ≤ bridge → Unused session.history bridge := by
  refine reached.induction (motive := fun _ session =>
    ∀ bridge, session.bridges.length ≤ bridge → Unused session.history bridge) ?_ ?_
  · intro policy bridge _ event member
    cases member
  · intro point session last final reached unused move bridge beyond event member
    have before := Nat.le_trans (length_of_move move) beyond
    obtain ⟨new, grown, moments⟩ := reached.sound.moments move
    rw [grown] at member
    rcases List.mem_append.mp member with old | recorded
    · exact unused bridge before event old
    · -- Whatever is done with a bridge is done with one that has been opened.
      have known : ∀ other, session.isClosed other = false → ¬ other = bridge := by
        rintro other unclosed rfl
        simp [isClosed, List.getElem?_eq_none before] at unclosed
      obtain ⟨mid, moment⟩ := moments.of_mem recorded
      cases event with
      | noticed other notice =>
          have apart := known other moment.1
          cases notice <;> simp [SessionEvent.attends, SessionEvent.batch?, apart]
      | begun caller other prompt =>
          simp [SessionEvent.attends, SessionEvent.batch?, known other moment.2.1]
      | drained caller other =>
          obtain ⟨chain, connection, _, ready, _⟩ := moment
          simp [SessionEvent.attends, SessionEvent.batch?, known other ready.unclosed]
      | repolled caller other =>
          obtain ⟨chain, connection, _, ready, _⟩ := moment
          simp [SessionEvent.attends, SessionEvent.batch?, known other ready.unclosed]
      | taken caller other batch =>
          obtain ⟨⟨goal, rfl⟩, _⟩ := moment
          have uses : session.Uses other := reached.sound.fits.2.1
          have apart : ¬ other = bridge :=
            Nat.ne_of_lt (Nat.lt_of_lt_of_le uses.opened before)
          simp [SessionEvent.attends, SessionEvent.batch?, apart]
      | _ => simp [SessionEvent.attends, SessionEvent.batch?]

theorem Looking.grow (looking : Looking call goal bridge heard since history)
    (idle : ∀ event ∈ new, event.attends bridge = false) :
    Looking call goal bridge heard (since ++ new) (history ++ new) := by
  obtain ⟨asked, rfl, mark, before⟩ := looking
  refine ⟨asked, List.append_assoc .., mark, ?_⟩
  rw [List.forall_mem_append]
  exact ⟨before, idle⟩

theorem Chosen.grow {aid : String} {tag : Tag}
    (chosen : Chosen aid call goal bridge tag heard history)
    (idle : ∀ event ∈ new, event.attends bridge = false) :
    Chosen aid call goal bridge tag heard (history ++ new) := by
  obtain ⟨before, since, batch, after, rfl, looking, first, card, still⟩ := chosen
  refine ⟨before, since, batch, after ++ new, by simp, looking, first, card, ?_⟩
  rw [List.forall_mem_append]
  exact ⟨still, idle⟩

/-- What is no work does not change what is known of a call, unless a start is about to begin. -/
theorem ProgressRecorded.grow {aid : String} {progress : Progress}
    (told : ProgressRecorded aid history call progress) (idle : ∀ event ∈ new, event.isWork = false)
    (starts : ∀ bridge, progress = .opened .start bridge → new = []) :
    ProgressRecorded aid (history ++ new) call progress := by
  have unattended : ∀ bridge, ∀ event ∈ new, event.attends bridge = false :=
    fun bridge event member => SessionEvent.attends_of_idle (idle event member) bridge
  cases progress with
  | opened goal bridge =>
      obtain ⟨heard, bridged⟩ := told
      cases bridged with
      | start unused =>
          rw [starts bridge rfl, List.append_nil]
          exact ⟨_, .start unused⟩
      | @restart earlier resting chain pause unused before =>
          refine ⟨batches (resting ++ new) bridge, ?_⟩
          rw [List.append_assoc, List.cons_append, List.cons_append]
          refine .restart chain pause unused ?_
          rw [List.forall_mem_append]
          exact ⟨before, unattended bridge⟩
  | looking goal bridge =>
      obtain ⟨heard, since, looking⟩ := told
      exact ⟨heard, since ++ new, looking.grow (unattended bridge)⟩
  | picked goal bridge tag | linked goal bridge tag =>
      obtain ⟨heard, chosen⟩ := told
      exact ⟨heard, chosen.grow (unattended bridge)⟩
  | sending tag chain => trivial

theorem not_starting (waits : point.worker? = none ∨ point.hears = true) (bridge : BridgeId) :
    point.progress? session call ≠ some (.opened .start bridge) := by
  intro there
  cases runs : point.worker? with
  | none =>
      rw [progress?_of_idle runs] at there
      obtain ⟨stage, -, come⟩ := Option.bind_eq_some_iff.mp there
      cases stage <;> cases come
  | some worker =>
      obtain ⟨-, come⟩ := progress?_of_running runs there
      cases point <;> first | cases come; done | simp_all [Point.hears]

theorem Reached.told (reached : Reached point session) (progress : Progress)
    (there : point.progress? session call = some progress) :
    ProgressRecorded session.policy.aid session.history call progress := by
  revert call progress
  refine reached.induction (motive := fun point session => ∀ {call} progress,
    point.progress? session call = some progress →
      ProgressRecorded session.policy.aid session.history call progress) ?_ ?_
  · intro policy call progress there
    simp [Point.progress?, Point.worker?, initial, stage?] at there
  · intro point session last final reached told move call progress there
    rw [policy_of_move move]
    rcases reached.sound.progressStep reached.lined move there with
      ⟨before, new, grown, besides⟩ | ⟨new, grown, progressStep⟩
    · rw [grown]
      refine (told progress before).grow besides.idle fun bridge starts =>
        besides.alone.resolve_right fun free => ?_
      exact not_starting free bridge (starts ▸ before)
    · rw [grown]
      generalize come : point.progress? session call = earlier at progressStep
      cases progressStep with
      | start => exact ⟨[], .start (reached.unused _ (Nat.le_refl _))⟩
      | rest chain =>
          exact ⟨_, @OpenedFirst.restart _ _ _ [] chain _
            (reached.unused _ (Nat.le_refl _)) (by simp)⟩
      | begin goal bridge prompt =>
          obtain ⟨heard, bridged⟩ := told _ come
          exact ⟨heard, [], _, (List.append_nil _).symm, .begun prompt bridged, by simp⟩
      | repoll chain bridge =>
          exact ⟨[], [], _, (List.append_nil _).symm, .repolled session.history chain, by simp⟩
      | pick goal bridge batch tag first =>
          obtain ⟨heard, since, looking⟩ := told _ come
          have oldest := reached.sound.oldest move grown (List.mem_cons_self ..)
          rw [reached.leftWaiting_eq, looking.leftWaiting] at oldest
          exact ⟨heard, session.history, since, batch, [.connecting call bridge tag], rfl, looking,
            oldest, first, by simp [SessionEvent.attends]⟩
      | link goal bridge tag =>
          obtain ⟨heard, chosen⟩ := told _ come
          exact ⟨heard, chosen.grow (by simp [SessionEvent.attends])⟩
      | attach | reuse => trivial

/-- A detection that is complete has gone by the batch that it chose. -/
theorem Reached.chosen (reached : Reached point session) {before after : List SessionEvent}
    {tag : Tag} {now : Int}
    (told : session.history = before ++ .attached call goal bridge tag now :: after) :
    ∃ heard, Chosen session.policy.aid call goal bridge tag heard before := by
  obtain ⟨between, middle, next, result, mid, rest, earlier, move, policy, recorded, rfl⟩ :=
    reached.recorded told
  obtain ⟨rfl, rfl⟩ := earlier.sound.moment move recorded
  rw [List.append_nil, ← policy]
  exact earlier.told (.linked goal bridge tag) (progress?_own rfl)

/-- Whatever batch is taken is the oldest since the radio was asked to poll, and the only one. -/
theorem Reached.taken (reached : Reached point session) {before after : List SessionEvent}
    {batch : List Tag}
    (told : session.history = before ++ .taken call bridge batch :: after) :
    ∃ goal heard since, Looking call goal bridge heard since before ∧
      (heard ++ batches since bridge).head? = some batch := by
  obtain ⟨between, middle, next, result, mid, rest, earlier, move, -, recorded, rfl⟩ :=
    reached.recorded told
  obtain ⟨⟨goal, rfl⟩, rfl⟩ := earlier.sound.moment move recorded
  obtain ⟨heard, since, looking⟩ :=
    earlier.told (.looking goal bridge) (progress?_own rfl)
  refine ⟨goal, heard, since, by rwa [List.append_nil], ?_⟩
  rw [← looking.leftWaiting, ← earlier.leftWaiting_eq]
  exact earlier.sound.oldest move recorded (List.mem_cons_self ..)

theorem Known.mono {before after : List SessionEvent} (known : Known before bridge)
    (grows : before <+: after) : Known after bridge := by
  obtain ⟨call, prompt, begun⟩ := known
  exact ⟨call, prompt, grows.subset begun⟩

theorem AsksForPolling.known (asked : AsksForPolling call bridge goal heard history)
    (begins : goal.begins = true) : Known history bridge := by
  cases asked with
  | begun prompt bridged => exact ⟨call, prompt, by simp⟩
  | repolled => cases begins

/-- A connection that can be used came about over a bridge that the radio knows. -/
theorem Reached.known_of_ready {connection : Connection} (reached : Reached point session)
    (ready : session.Ready bridge connection) : Known session.history bridge := by
  obtain ⟨earlier, first, renewals, told, begins, held, -⟩ :=
    reached.dated connection ready.connection
  obtain rfl : first.bridge = bridge := Option.some.inj (held.symm.trans ready.held)
  have member : first ∈ attachments session.history := by simp [told]
  obtain ⟨event, recorded, attached⟩ := List.mem_filterMap.mp member
  cases event with
  | attached caller goal bridge tag now =>
      obtain rfl := Option.some.inj attached
      obtain ⟨before, after, split⟩ := List.append_of_mem recorded
      obtain ⟨heard, front, since, batch, back, rfl, ⟨asked, rfl, mark, -⟩, -⟩ :=
        reached.chosen split
      refine (mark.known begins).mono ?_
      rw [split]
      simp
  | _ => cases attached

theorem Reached.known (reached : Reached point session)
    (looking : Looking call goal bridge heard since session.history) :
    Known session.history bridge := by
  obtain ⟨asked, told, mark, -⟩ := looking
  rw [told]
  refine Known.mono ?_ (List.prefix_append _ _)
  cases mark with
  | begun prompt bridged => exact ⟨call, prompt, by simp⟩
  | repolled earlier chain =>
      have split : session.history =
          (earlier ++ [.drained call bridge]) ++ .repolled call bridge :: since := by simp [told]
      obtain ⟨between, middle, next, result, mid, rest, before, move, -, recorded, cut⟩ :=
        reached.recorded split
      obtain ⟨chain, connection, -, ready, -⟩ := before.sound.moment move recorded
      refine (before.known_of_ready ready).mono ?_
      have within : middle.history <+: earlier ++ [.drained call bridge] := ⟨mid, cut.symm⟩
      exact within.trans ⟨[.repolled call bridge], by simp⟩

/-- While a call runs, the radio can report over the bridge only that it is asked to poll over. -/
theorem Reached.known_of_hears (reached : Reached point session) (runs : point.rests = false)
    (hears : point.hears = true) (unclosed : session.isClosed bridge = false) :
    Known session.history bridge := by
  have filled := reached.sound.coherent.unclosed bridge unclosed
  cases point with
  | tuning caller goal other =>
      obtain ⟨heard, since, looking⟩ :=
        reached.told (.looking goal other) (progress?_own rfl)
      have uses : session.Uses other := reached.sound.fits.2.2
      exact uses.eq_of_slot filled ▸ reached.known looking
  | repolling caller chain other =>
      obtain ⟨heard, since, looking⟩ :=
        reached.told (.looking (.renew chain) other) (progress?_own rfl)
      have uses : session.Uses other := reached.sound.fits.2.1
      exact uses.eq_of_slot filled ▸ reached.known looking
  | outside => cases runs
  | _ => cases hears

theorem Reached.noticedAfterBegin_move (reached : Reached point session)
    (runs : point.rests = false) (move : Move point session last final) :
    ∃ new, final.history = session.history ++ new ∧
      Along NoticedAfterBegin session.history new := by
  obtain ⟨new, grown, moments⟩ := reached.sound.moments move
  have noticedAfterBegin : Along NoticedAfterBegin (session.history ++ []) new := by
    refine moments.mono session.history fun mid event moment => ?_
    cases event with
    | noticed bridge notice =>
        exact (reached.known_of_hears runs moment.2 moment.1).mono (List.prefix_append _ _)
    | _ => trivial
  rw [List.append_nil] at noticedAfterBegin
  exact ⟨new, grown, noticedAfterBegin⟩

theorem Pass.noticedAfterBegin (reached : Reached point session) (pass : Pass point session final)
    (runs : point.rests = false) :
    ∃ new, final.history = session.history ++ new ∧
      Along NoticedAfterBegin session.history new := by
  induction pass with
  | last move => exact reached.noticedAfterBegin_move runs move
  | head move goes later ih =>
      obtain ⟨one, grown, first⟩ := reached.noticedAfterBegin_move runs move
      obtain ⟨two, more, second⟩ := ih (reached.trans (.single move)) goes
      refine ⟨one ++ two, by rw [more, grown, List.append_assoc], ?_⟩
      rw [along_append]
      exact ⟨first, grown ▸ second⟩

theorem noticedAfterBegin_of_works (move : Move .outside session point final)
    (works : point.works = true) :
    ∃ new, final.history = session.history ++ new ∧
      Along NoticedAfterBegin session.history new := by
  cases move with
  | rested | poll => exact ⟨[], by simp, trivial⟩
  | reject | answerLost | answerShort | answerLast | answerFault | answerNext =>
      exact ⟨[_], rfl, trivial, trivial⟩
  | desert call goal bridge tag | accept call goal bridge tag =>
      exact ⟨[.connectEnded call tag none, .acknowledged call], by simp, trivial, trivial, trivial⟩
  | _ => cases works

theorem noticedAfterBegin_hangingUp (session : Session) (farewell : Option String)
    (before : List SessionEvent) : Along NoticedAfterBegin before (session.hangingUp farewell) := by
  unfold hangingUp closing
  split
  · trivial
  · split <;> simp [Along, NoticedAfterBegin]

theorem noticedAfterBegin_granted (next : Option CallId) (before : List SessionEvent) :
    Along NoticedAfterBegin before (next.toList.map .granted) := by
  cases next <;> simp [Along, NoticedAfterBegin]

theorem noticedAfterBegin_drop (session : Session) (call : CallId) :
    ∃ new, (session.drop call).history = session.history ++ new ∧
      Along NoticedAfterBegin session.history new := by
  unfold drop
  split
  · exact ⟨[], by simp, trivial⟩
  · dsimp only
    split
    · refine ⟨session.lock.release.holder.toList.map .granted ++ [.dropped call], by simp, ?_⟩
      rw [along_append]
      exact ⟨noticedAfterBegin_granted .., trivial, trivial⟩
    · exact ⟨[.dropped call], by simp, trivial, trivial⟩
  · refine ⟨session.hangingUp none ++ (session.lock.release.holder.toList.map .granted ++
      [.dropped call]), by simp, ?_⟩
    rw [along_append, along_append]
    exact ⟨noticedAfterBegin_hangingUp .., noticedAfterBegin_granted .., trivial, trivial⟩

/-- In one step the radio reports over bridges that it knows, unless it reports by itself. -/
theorem Reached.noticedAfterBegin_step (reached : Reached .outside session) (stimulus : Stimulus)
    (known : ∀ bridge notice, stimulus = .notice bridge notice → Known session.history bridge) :
    ∃ new, (session.step stimulus).history = session.history ++ new ∧
      Along NoticedAfterBegin session.history new := by
  cases stimulus with
  | call request around =>
      have asking := reached.trans (.single (.ask request))
      obtain ⟨new, grown, noticedAfterBegin⟩ :=
        (asking_pass session request around).noticedAfterBegin asking rfl
      exact ⟨.called session.issued request :: new, by simpa [Session.step] using grown,
        trivial, noticedAfterBegin⟩
  | wake call signal around =>
      rcases wake_cases session call signal around with
        same | ⟨job, rfl, queued, handed, pass⟩ | ⟨stage, pending, working, proceeds⟩
      · exact ⟨[], by simp [Session.step, same], trivial⟩
      · exact pass.noticedAfterBegin (reached.trans (.single (.turn call job queued handed))) rfl
      · obtain ⟨point, middle, move, works, pass⟩ := proceeds
        obtain ⟨one, grown, first⟩ := noticedAfterBegin_of_works move works
        obtain ⟨two, more, second⟩ :=
          pass.noticedAfterBegin (reached.trans (.single move)) (rests_of_works works)
        refine ⟨one ++ two, by rw [← List.append_assoc, ← grown, ← more]; rfl, ?_⟩
        rw [along_append]
        exact ⟨first, grown ▸ second⟩
  | notice bridge notice =>
      refine ⟨_, history_report session bridge notice, ?_⟩
      have given := known bridge notice rfl
      unfold reporting
      split
      · trivial
      · cases notice <;> simp [Along, NoticedAfterBegin, given]
  | drop call => exact noticedAfterBegin_drop session call
  | alert text => exact ⟨[.alerted text], rfl, trivial, trivial⟩

/-- A radio that keeps to the bridges it was given reports over no other ones. -/
theorem run_noticedAfterBegin (policy : Policy) (stimuli : List Stimulus)
    (introduced : ReportsOnBegunBridges policy stimuli) :
    Along NoticedAfterBegin [] ((initial policy).run stimuli).history := by
  induction stimuli using List.reverseRecOn with
  | nil => trivial
  | append_singleton front stimulus ih =>
      rw [run_append, run_cons, run_nil]
      obtain ⟨new, grown, noticedAfterBegin⟩ :=
        (Reached.run policy front).noticedAfterBegin_step stimulus
        fun bridge notice same => introduced front bridge notice [] (by rw [same])
      rw [grown, along_append]
      refine ⟨ih fun first bridge notice back split => ?_, noticedAfterBegin⟩
      exact introduced first bridge notice (back ++ [stimulus]) (by rw [split]; simp)

theorem OpenedFirst.unattended (bridged : OpenedFirst call bridge goal heard history) :
    ∀ event ∈ history, event.attends bridge = false := by
  cases bridged with
  | start unused =>
      simp only [List.mem_append, List.mem_singleton]
      rintro event (old | rfl)
      · exact (unused event old).1
      · rfl
  | restart chain pause unused idle =>
      simp only [List.mem_append, List.mem_cons]
      rintro event (old | rfl | rfl | later)
      · exact (unused event old).1
      · rfl
      · rfl
      · exact idle event later

theorem OpenedFirst.silent (bridged : OpenedFirst call bridge goal heard history)
    (noticedAfterBegin : Along NoticedAfterBegin [] history) : heard = [] := by
  have unattended := bridged.unattended
  cases bridged with
  | start unused => rfl
  | @restart earlier resting chain pause unused idle =>
      refine List.filterMap_eq_nil_iff.mpr fun event member => ?_
      cases event with
      | noticed other notice =>
          obtain ⟨first, later, rfl⟩ := List.append_of_mem member
          have split : earlier ++ .opened bridge :: .paused call pause ::
              (first ++ .noticed other notice :: later) =
                (earlier ++ .opened bridge :: .paused call pause :: first) ++
                  .noticed other notice :: later := by simp
          obtain ⟨caller, prompt, begun⟩ := noticedAfterBegin.at split
          have apart : ¬ other = bridge := by
            have unbegun := unattended (.begun caller other prompt) (by
              simp only [List.mem_append, List.mem_cons] at begun ⊢
              tauto)
            simpa [SessionEvent.attends] using unbegun
          cases notice <;> simp [SessionEvent.batch?, apart]
      | _ => rfl

theorem AsksForPolling.silent (asked : AsksForPolling call bridge goal heard history)
    (noticedAfterBegin : Along NoticedAfterBegin [] history) : heard = [] := by
  cases asked with
  | begun prompt bridged =>
      rw [along_append] at noticedAfterBegin
      exact bridged.silent noticedAfterBegin.1
  | repolled => rfl

theorem split_of_not_mem {event : SessionEvent} {front mid asked since : List SessionEvent}
    (same : front ++ event :: mid = asked ++ since) (elsewhere : event ∉ since) :
    ∃ rest, asked = front ++ event :: rest ∧ mid = rest ++ since := by
  rcases List.append_eq_append_iff.mp same with ⟨more, rfl, cut⟩ | ⟨others, -, rfl⟩
  · rcases List.cons_eq_append_iff.mp cut with ⟨-, rfl⟩ | ⟨rest, rfl, rfl⟩
    · exact absurd (List.mem_cons_self ..) elsewhere
    · exact ⟨rest, rfl, rfl⟩
  · exact absurd (List.mem_append_right others (List.mem_cons_self ..)) elsewhere

/-- Between two batches that are taken from one bridge the rest was discarded. -/
theorem Reached.discarded (reached : Reached point session) {front mid after : List SessionEvent}
    {first second : CallId} {batch next : List Tag}
    (told : session.history = front ++ .taken first bridge batch ::
      (mid ++ .taken second bridge next :: after)) :
    ∃ skipped since, mid = skipped ++ .drained second bridge :: .repolled second bridge :: since ∧
      (batches since bridge).head? = some next ∧
      ∀ event ∈ since, event.attends bridge = false := by
  have attends : (SessionEvent.taken first bridge batch).attends bridge = true := by
    simp [SessionEvent.attends]
  have later : session.history = (front ++ .taken first bridge batch :: mid) ++
      .taken second bridge next :: after := by simp [told]
  obtain ⟨goal, heard, since, ⟨asked, split, mark, idle⟩, oldest⟩ := reached.taken later
  -- The first batch was taken before the radio was asked to poll for the second.
  obtain ⟨rest, cut, rfl⟩ := split_of_not_mem split fun within => by
    rw [idle _ within] at attends
    cases attends
  cases mark with
  | repolled earlier chain =>
      obtain ⟨skipped, -, rfl⟩ := split_of_not_mem cut.symm (by simp)
      exact ⟨skipped, since, by simp, oldest, idle⟩
  | begun prompt bridged =>
      obtain ⟨skipped, rfl, -⟩ := split_of_not_mem cut.symm (by simp)
      rw [bridged.unattended _ (by simp)] at attends
      cases attends

/-- No detection goes by a batch from before it asked the radio to poll. -/
structure TagFromLatestPolling (policy : Policy) (stimuli : List Stimulus) : Prop where
  installed : ∀ connection, ((initial policy).run stimuli).connection = some connection →
    ∃ before call goal bridge now after, ((initial policy).run stimuli).history =
        before ++ .attached call goal bridge connection.tag now :: after ∧
      attachments after = [] ∧ ((initial policy).run stimuli).held = some bridge
  /-- It was picked out of the oldest batch reported since the call asked the radio to poll, anew
  or over a bridge that it opened for that. What was heard over such a bridge before can only come
  from a radio that reports over bridges it was not given. -/
  used : ∀ before call goal bridge tag now after, ((initial policy).run stimuli).history =
      before ++ .attached call goal bridge tag now :: after →
    ∃ heard, Chosen policy.aid call goal bridge tag heard before ∧
      (ReportsOnBegunBridges policy stimuli → heard = [])
  /-- All other batches are discarded: the next one that is taken from the same bridge is the oldest
  reported since the radio was asked to poll anew. -/
  discarded : ∀ front first bridge batch mid second next after,
    ((initial policy).run stimuli).history = front ++ .taken first bridge batch ::
      (mid ++ .taken second bridge next :: after) →
    ∃ skipped since, mid = skipped ++ .drained second bridge :: .repolled second bridge :: since ∧
      (batches since bridge).head? = some next ∧ ∀ event ∈ since, event.attends bridge = false
  waiting : ∀ bridge, ((initial policy).run stimuli).waiting bridge =
    leftWaiting bridge ((initial policy).run stimuli).history

theorem Reached.installed (reached : Reached point session) {connection : Connection}
    (attached : session.connection = some connection) :
    ∃ before call goal bridge now after, session.history =
        before ++ .attached call goal bridge connection.tag now :: after ∧
      attachments after = [] ∧ session.held = some bridge := by
  obtain ⟨earlier, first, renewals, told, -, held, renewed, -, tag, -⟩ :=
    reached.dated connection attached
  obtain ⟨others, split, bridge⟩ : ∃ others,
      attachments session.history = others ++ [renewals.getLastD first] ∧
        (renewals.getLastD first).bridge = first.bridge := by
    rcases List.eq_nil_or_concat renewals with rfl | ⟨shorter, last, rfl⟩
    · exact ⟨earlier, told, rfl⟩
    · refine ⟨earlier ++ first :: shorter, by simp [told], ?_⟩
      simpa using (renewed last (by simp)).2
  obtain ⟨before, rest, cut, -, later⟩ := List.filterMap_eq_append_iff.mp split
  obtain ⟨middle, event, after, rfl, -, completes, silent⟩ := List.filterMap_eq_cons_iff.mp later
  cases event with
  | attached call goal other recorded now =>
      have same := Option.some.inj completes
      rw [← same] at bridge tag
      obtain rfl : connection.tag = recorded := tag
      obtain rfl : other = first.bridge := bridge
      exact ⟨before ++ middle, call, goal, first.bridge, now, after, by simp [cut], silent, held⟩
  | _ => cases completes

/-- Every card in use is one that the radio has reported since it was asked to poll for it. -/
theorem run_tag_from_latest_polling (policy : Policy) (stimuli : List Stimulus) :
    TagFromLatestPolling policy stimuli := by
  have reached := Reached.run policy stimuli
  have same : ((initial policy).run stimuli).policy = policy :=
    policy_of_moves (run_moves (initial policy) stimuli)
  refine ⟨fun connection => reached.installed, ?_, ?_, reached.leftWaiting_eq⟩
  · intro before call goal bridge tag now after told
    obtain ⟨heard, chosen⟩ := reached.chosen told
    rw [same] at chosen
    refine ⟨heard, chosen, fun introduced => ?_⟩
    have noticedAfterBegin := run_noticedAfterBegin policy stimuli introduced
    obtain ⟨front, since, batch, rest, rfl, ⟨asked, rfl, mark, -⟩, -⟩ := chosen
    rw [told, along_append, along_append, along_append] at noticedAfterBegin
    exact mark.silent noticedAfterBegin.1.1.1
  · intro front first bridge batch mid second next after told
    exact reached.discarded told

/-- A radio that was asked to begin reports over the bridge that it was given, and the card that it
reports is the one in use. -/
example :
    let stimuli : List Stimulus :=
      [.call (.start .identify) {}, .notice 0 (.detected [⟨0, .iso7816, some walletAid⟩]),
        .wake 0 .look {}, .wake 0 (.connected none) {}]
    ReportsOnBegunBridges {} stimuli ∧ ((initial {}).run stimuli).connection =
      some ⟨⟨0, .iso7816, some walletAid⟩, 0, 0⟩ := by
  refine ⟨fun front bridge notice back split => ?_, rfl⟩
  -- The report is the second stimulus.
  rcases front with _ | ⟨first, _ | ⟨second, _ | ⟨third, _ | ⟨fourth, front⟩⟩⟩⟩ <;>
    simp at split
  obtain ⟨rfl, ⟨rfl, -⟩, -⟩ := split
  exact ⟨0, Purpose.identify.prompt, by decide⟩

end Session

end Contactless
