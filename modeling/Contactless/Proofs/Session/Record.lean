import Contactless.Proofs.Session.Coherence
import Mathlib.Data.List.Induction

set_option autoImplicit false

namespace Contactless

namespace Session

/-- Every event obeys a law that may depend on what came before it. -/
def Along (law : List SessionEvent → SessionEvent → Prop) (before : List SessionEvent) :
    List SessionEvent → Prop
  | [] => True
  | event :: rest => law before event ∧ Along law (before ++ [event]) rest

theorem along_append (law : List SessionEvent → SessionEvent → Prop)
    (before first second : List SessionEvent) :
    Along law before (first ++ second) ↔
      Along law before first ∧ Along law (before ++ first) second := by
  induction first generalizing before with
  | nil => simp [Along]
  | cons event rest ih => simp [Along, ih, and_assoc]

theorem Along.mono {law other : List SessionEvent → SessionEvent → Prop}
    {before new : List SessionEvent} (along : Along law before new) (start : List SessionEvent)
    (weaker : ∀ mid event, law mid event → other (start ++ mid) event) :
    Along other (start ++ before) new := by
  induction new generalizing before with
  | nil => trivial
  | cons event rest ih =>
      refine ⟨weaker before event along.1, ?_⟩
      rw [List.append_assoc]
      exact ih along.2

theorem Along.at {law : List SessionEvent → SessionEvent → Prop} {history : List SessionEvent}
    (along : Along law [] history) {before after : List SessionEvent} {event : SessionEvent}
    (here : history = before ++ event :: after) : law before event := by
  rw [here, along_append] at along
  exact along.2.1

theorem Along.of_mem {law : List SessionEvent → SessionEvent → Prop}
    {before new : List SessionEvent} (along : Along law before new) {event : SessionEvent}
    (member : event ∈ new) : ∃ mid, law mid event := by
  obtain ⟨first, rest, rfl⟩ := List.append_of_mem member
  rw [along_append] at along
  exact ⟨before ++ first, along.2.1⟩

/-- The moment at which a move from one point to another records an event, after it has recorded
some others. -/
def Moment (point : Point) (session : Session) (last : Point) (before : List SessionEvent) :
    SessionEvent → Prop
  | .called call request =>
    point = .outside ∧ last = .asking call request ∧ call = session.issued ∧ before = []
  | .requested call => (∃ job, point = .lining call job) ∧ before = []
  | .granted call =>
    (∃ job, point = .lining call job ∧ last = .holding call job ∧ session.lock.holder = none) ∨
      (last = .outside ∧ session.lock.release.holder = some call)
  | .ended call outcome =>
    point = .leaving call outcome ∨
      ∃ request error, point = .asking call request ∧ outcome = .error error
  | .dropped call => point = .outside ∧ ∃ stage, session.stage? call = some stage
  | .opened bridge =>
    bridge = session.nextBridge ∧ session.slot = none ∧ before = [] ∧
      ((∃ call purpose, point = .holding call (.start purpose)) ∨
        ∃ call chain, point = .reopening call chain)
  | .closed bridge => session.isClosed bridge = false
  | .noticed bridge _ => session.isClosed bridge = false ∧ point.hears = true
  | .drained call bridge =>
    ∃ chain connection, point = .holding call (.exchange chain) ∧
      session.Ready bridge connection ∧ before = []
  | .taken call bridge _ => (∃ goal, point = .polling call goal bridge) ∧ before = []
  | .begun call bridge prompt =>
    (∃ goal, point = .beginning call goal bridge prompt) ∧ session.isClosed bridge = false ∧
      before = []
  | .beginEnded call bridge _ => (∃ goal, point = .tuning call goal bridge) ∧ before = []
  | .repolled call bridge =>
    ∃ chain connection, point = .holding call (.exchange chain) ∧
      session.Ready bridge connection ∧ before = [.drained call bridge]
  | .connecting call bridge tag =>
    ∃ goal tags, point = .polling call goal bridge ∧
      firstWallet? session.policy.aid tags = some tag ∧ before = [.taken call bridge tags]
  | .connectEnded call tag _ =>
    point = .outside ∧ (∃ goal bridge, session.stage? call = some (.connecting goal bridge tag)) ∧
      before = []
  | .acknowledged call =>
    ∃ goal bridge tag, point = .outside ∧
      session.stage? call = some (.connecting goal bridge tag) ∧
      before = [.connectEnded call tag none]
  | .attached call goal bridge tag _ => point = .attaching call goal bridge tag ∧ before = []
  | .dismissed _ =>
    session.slot ≠ none ∨ ∃ call goal bridge, point = .tuning call goal bridge
  | .alerted _ => point = .outside
  | .paused call _ => ∃ chain, point = .reopening call chain
  | .sent call tag command =>
    ∃ chain, point = .sending call tag chain ∧ command = chain.first ∧ before = []
  | .answered call tag _ =>
    point = .outside ∧ (∃ rest, session.stage? call = some (.transmitting tag rest)) ∧
      before = []

variable {point last : Point} {session final : Session}

theorem moment_hangingUp (farewell : Option String) (last : Point)
    (before : List SessionEvent) :
    Along (Moment point session last) before (session.hangingUp farewell) := by
  unfold hangingUp
  split
  · trivial
  · rename_i bridge filled
    have full : session.slot ≠ none := by simp [filled]
    unfold closing
    split
    · exact ⟨.inl full, trivial⟩
    · rename_i unclosed
      have unclosed : session.isClosed bridge = false := by simpa using unclosed
      exact ⟨unclosed, .inl full, trivial⟩

theorem moment_granted {before : List SessionEvent} :
    Along (Moment point session .outside) before
      (session.lock.release.holder.toList.map .granted) := by
  cases next : session.lock.release.holder with
  | none => trivial
  | some call => exact ⟨.inr ⟨rfl, next⟩, trivial⟩

/-- What a move records, it records at the right moment. -/
theorem Sound.moments (sound : Sound point session) (move : Move point session last final) :
    ∃ new, final.history = session.history ++ new ∧ Along (Moment point session last) [] new := by
  cases move with
  | ask request => exact ⟨[_], rfl, ⟨rfl, rfl, rfl, rfl⟩, trivial⟩
  | refuseRadio | refuseLive | refuseEmpty =>
      exact ⟨[_], rfl, .inr ⟨_, _, rfl, rfl⟩, trivial⟩
  | lineFinish call cause => exact ⟨_, history_hangUp session _, moment_hangingUp _ _ _⟩
  | take call job free =>
      refine ⟨[.requested call, .granted call], by simp, ⟨⟨job, rfl⟩, rfl⟩, ?_, trivial⟩
      exact .inl ⟨job, rfl, rfl, free⟩
  | wait call holder job held => exact ⟨[.requested call], by simp, ⟨⟨job, rfl⟩, rfl⟩, trivial⟩
  | start call purpose dead =>
      have empty := sound.coherent.dead dead
      refine ⟨[.opened session.nextBridge], ?_, ⟨rfl, empty, rfl, .inl ⟨call, purpose, rfl⟩⟩,
        trivial⟩
      exact history_openBridge _ empty
  | finish call farewell => exact ⟨_, history_hangUp session _, moment_hangingUp _ _ _⟩
  | renew call chain bridge connection ready now old =>
      exact ⟨[.drained call bridge, .repolled call bridge], by simp,
        ⟨chain, connection, rfl, ready, rfl⟩, ⟨chain, connection, rfl, ready, rfl⟩, trivial⟩
  | restart call chain bridge connection ready now aged =>
      exact ⟨session.hangingUp none, history_hangUp _ none, moment_hangingUp _ _ _⟩
  | pause call chain =>
      have empty := sound.slot_of_reopening
      refine ⟨[.opened session.nextBridge, .paused call session.policy.cooldown], ?_,
        ⟨rfl, empty, rfl, .inr ⟨call, chain, rfl⟩⟩, ⟨chain, rfl⟩, trivial⟩
      simp [history_openBridge session empty]
  | begin call goal bridge prompt unclosed =>
      exact ⟨[_], rfl, ⟨⟨goal, rfl⟩, unclosed, rfl⟩, trivial⟩
  | report bridge notice hears =>
      refine ⟨session.reporting bridge notice, by simp, ?_⟩
      unfold reporting
      split
      · trivial
      · rename_i unclosed
        have unclosed : session.isClosed bridge = false := by simpa using unclosed
        split
        · exact ⟨unclosed, trivial⟩
        · exact ⟨⟨unclosed, hears⟩, trivial⟩
  | beginRefused call goal bridge fault | begun call goal bridge unclosed =>
      exact ⟨[_], rfl, ⟨⟨goal, rfl⟩, rfl⟩, trivial⟩
  | beginCut call goal bridge closed =>
      exact ⟨[.beginEnded call bridge none, .dismissed none], by simp, ⟨⟨goal, rfl⟩, rfl⟩,
        .inr ⟨call, goal, bridge, rfl⟩, trivial⟩
  | foreign call goal bridge found here tags polled unknown =>
      exact ⟨[_], rfl, ⟨⟨goal, rfl⟩, rfl⟩, trivial⟩
  | pick call goal bridge found here tags polled tag wallet =>
      exact ⟨[.taken call bridge tags, .connecting call bridge tag], by simp, ⟨⟨goal, rfl⟩, rfl⟩,
        ⟨goal, tags, rfl, wallet, rfl⟩, trivial⟩
  | reject call goal bridge tag fault connecting =>
      exact ⟨[_], rfl, ⟨rfl, ⟨goal, bridge, connecting⟩, rfl⟩, trivial⟩
  | desert call goal bridge tag connecting closed
  | accept call goal bridge tag connecting unclosed =>
      exact ⟨[.connectEnded call tag none, .acknowledged call], by simp,
        ⟨rfl, ⟨goal, bridge, connecting⟩, rfl⟩, ⟨goal, bridge, tag, rfl, connecting, rfl⟩,
        trivial⟩
  | attachStart | attachRestart =>
      exact ⟨[_], rfl, ⟨rfl, rfl⟩, trivial⟩
  | attachRenew => exact ⟨[_], rfl, ⟨rfl, rfl⟩, trivial⟩
  | send call tag chain => exact ⟨[_], rfl, ⟨chain, rfl, rfl, rfl⟩, trivial⟩
  | answerLost call tag rest fault transmitting
  | answerShort call tag rest bytes fault transmitting short
  | answerLast call tag bytes response transmitting read
  | answerFault call tag chain bytes response fault transmitting read failed
  | answerNext call tag chain bytes response transmitting read succeeded =>
      exact ⟨[_], rfl, ⟨rfl, ⟨_, transmitting⟩, rfl⟩, trivial⟩
  | fail call error => exact ⟨_, history_hangUp session _, moment_hangingUp _ _ _⟩
  | leave call outcome =>
      refine ⟨session.lock.release.holder.toList.map .granted ++ [.ended call outcome], by simp,
        ?_⟩
      rw [along_append]
      exact ⟨moment_granted, .inl rfl, trivial⟩
  | dropHanded call job queued handed =>
      refine ⟨session.lock.release.holder.toList.map .granted ++ [.dropped call], by simp, ?_⟩
      rw [along_append]
      exact ⟨moment_granted, ⟨rfl, _, queued⟩, trivial⟩
  | dropWaiting call job queued waiting => exact ⟨[_], rfl, ⟨rfl, _, queued⟩, trivial⟩
  | dropHolder call stage pending working =>
      refine ⟨session.hangingUp none ++ (session.lock.release.holder.toList.map .granted ++
        [.dropped call]), by simp, ?_⟩
      rw [along_append, along_append]
      exact ⟨moment_hangingUp _ _ _, moment_granted, ⟨rfl, _, pending⟩, trivial⟩
  | alert text => exact ⟨[_], rfl, rfl, trivial⟩
  | _ => exact ⟨[], by simp, trivial⟩

theorem Sound.moment (sound : Sound point session) (move : Move point session last final)
    {before after : List SessionEvent} {event : SessionEvent}
    (told : final.history = session.history ++ (before ++ event :: after)) :
    Moment point session last before event := by
  obtain ⟨new, grown, moments⟩ := sound.moments move
  rw [told, List.append_cancel_left_eq] at grown
  rw [← grown, along_append] at moments
  exact moments.2.1

theorem policy_of_move (move : Move point session last final) :
    final.policy = session.policy := by
  cases move <;> simp [connect, reconnect]

theorem policy_of_moves (moves : Moves point session last final) :
    final.policy = session.policy := by
  induction moves with
  | refl => rfl
  | tail _ move ih => exact (policy_of_move move).trans ih

def Point.attaches : Point → Bool
  | .attaching _ _ _ _ => true
  | _ => false

theorem kept_of_move (move : Move point session last final)
    (connected : final.phase = .connected) :
    (session.phase = .connected ∧ final.connection = session.connection ∧
        final.held = session.held) ∨
      point.attaches = true := by
  cases move with
  | attachStart | attachRestart | attachRenew => exact .inr rfl
  | finish | fail | dropHolder =>
      have shut : session.phase.shut = .connected := by simpa using connected
      cases phase : session.phase <;> simp [phase, Phase.shut] at shut
  | start | renew | restart => simp at connected
  | _ => exact .inl (by simpa using connected)

theorem Reached.along_policy {law : Policy → List SessionEvent → SessionEvent → Prop}
    (obeyed : ∀ point session last before event, Reached point session →
      Moment point session last before event →
        law session.policy (session.history ++ before) event)
    (reached : Reached point session) : Along (law session.policy) [] session.history := by
  refine reached.induction (motive := fun _ session =>
    Along (law session.policy) [] session.history) (fun _ => trivial) ?_
  intro between middle last final before along move
  obtain ⟨new, grown, moments⟩ := before.sound.moments move
  rw [grown, along_append, policy_of_move move]
  refine ⟨along, ?_⟩
  have lawful := moments.mono middle.history fun mid event moment =>
    obeyed between middle last mid event before moment
  rw [List.append_nil] at lawful
  exact lawful

/-- A law that every moment obeys holds along every history. -/
theorem Reached.along {law : List SessionEvent → SessionEvent → Prop}
    (obeyed : ∀ point session last before event, Reached point session →
      Moment point session last before event → law (session.history ++ before) event)
    (reached : Reached point session) : Along law [] session.history :=
  @Reached.along_policy point session (fun _ => law) obeyed reached

theorem Reached.grows (reached : Reached point session) (moves : Moves point session last final) :
    session.history <+: final.history := by
  induction moves with
  | refl => exact List.prefix_rfl
  | tail before move ih =>
      obtain ⟨new, grown, _⟩ := (reached.trans before).sound.moments move
      rw [grown]
      exact ih.trans (List.prefix_append _ new)

/-- Every event of a history is recorded by a move. -/
theorem Reached.recorded (reached : Reached point session) {before after : List SessionEvent}
    {event : SessionEvent} (told : session.history = before ++ event :: after) :
    ∃ between middle next result mid rest, Reached between middle ∧
      Move between middle next result ∧ middle.policy = session.policy ∧
      result.history = middle.history ++ (mid ++ event :: rest) ∧
      before = middle.history ++ mid := by
  revert before after
  refine reached.induction (motive := fun _ session => ∀ {before after : List SessionEvent},
    session.history = before ++ event :: after →
      ∃ between middle next result mid rest, Reached between middle ∧
        Move between middle next result ∧ middle.policy = session.policy ∧
        result.history = middle.history ++ (mid ++ event :: rest) ∧
        before = middle.history ++ mid) ?_ ?_
  · intro policy before after impossible
    simp [initial] at impossible
  · intro point session last final reached ih move before after told
    obtain ⟨new, grown, _⟩ := reached.sound.moments move
    have here : ∀ {mid : List SessionEvent}, new = mid ++ event :: after →
        before = session.history ++ mid → ∃ between middle next result mid rest,
          Reached between middle ∧ Move between middle next result ∧
          middle.policy = final.policy ∧
          result.history = middle.history ++ (mid ++ event :: rest) ∧
          before = middle.history ++ mid := by
      intro mid split earlier
      exact ⟨point, session, last, final, mid, after, reached, move,
        (policy_of_move move).symm, split ▸ grown, earlier⟩
    rw [grown, List.append_eq_append_iff] at told
    rcases told with ⟨mid, earlier, split⟩ | ⟨others, split, cut⟩
    · exact here split earlier
    · rcases List.cons_eq_append_iff.mp cut with ⟨rfl, split'⟩ | ⟨tail, rfl, rest⟩
      · exact @here [] split' (by rw [split, List.append_nil, List.append_nil])
      · obtain ⟨between, middle, next, result, mid, rest, before', move', same, there, earlier⟩ :=
          ih split
        exact ⟨between, middle, next, result, mid, rest, before', move',
          same.trans (policy_of_move move).symm, there, earlier⟩

/-- What every move preserves but that of a start that opens a bridge lasts until a start opens the
next one. -/
theorem Reached.lasting {kept : List SessionEvent → Point → Session → Prop}
    {new : List SessionEvent}
    (next : ∀ {new : List SessionEvent} {point last : Point} {session final : Session},
      Reached point session → kept new point session → Move point session last final →
        (∃ more, kept (new ++ more) last final) ∨
          ∃ call purpose, point = .holding call (.start purpose) ∧
            final.history = session.history ++ [.opened session.nextBridge])
    (reached : Reached point session) (stands : kept new point session)
    (moves : Moves point session last final) :
    (∃ more, kept (new ++ more) last final) ∨
      ∃ more call purpose middle bridge rest,
        kept (new ++ more) (.holding call (.start purpose)) middle ∧
          Moves point session (.holding call (.start purpose)) middle ∧
          Moves (.holding call (.start purpose)) middle last final ∧
          final.history = middle.history ++ .opened bridge :: rest := by
  induction moves with
  | refl => exact .inl ⟨[], by rw [List.append_nil]; exact stands⟩
  | tail before move ih =>
      have between := reached.trans before
      rcases ih with ⟨more, still⟩ | opened
      · rcases next between still move with ⟨longer, kept'⟩ | ⟨call, purpose, rfl, opened⟩
        · exact .inl ⟨more ++ longer, by rw [← List.append_assoc]; exact kept'⟩
        · exact .inr ⟨more, call, purpose, _, _, [], still, before, .single move, opened⟩
      · obtain ⟨more, call, purpose, middle, bridge, rest, stood, here, later, told⟩ := opened
        obtain ⟨extra, grown⟩ := between.grows (.single move)
        refine .inr ⟨more, call, purpose, middle, bridge, rest ++ extra, stood, here,
          .tail later move, ?_⟩
        rw [← grown, told, List.append_assoc, List.cons_append]

theorem history_fail (session : Session) (call : CallId) (error : SessionError) :
    ∃ mid, (session.fail call error).history =
        session.history ++ (mid ++ [.ended call (.error error)]) ∧
      ∀ event ∈ mid, event.isAside = true := by
  refine ⟨session.hangingUp error.farewell ++
    session.lock.release.holder.toList.map .granted, by simp [Session.fail], ?_⟩
  intro event member
  rcases List.mem_append.mp member with hung | granted
  · exact isAside_hangingUp session _ event hung
  · exact isAside_granted _ event granted

/-- On the way to where everybody waits again, one of the moves records the event. -/
def Records (point : Point) (session final : Session) (before : List SessionEvent)
    (event : SessionEvent) (after : List SessionEvent) : Prop :=
  ∃ between middle next result first mid rest later,
    Moves point session between middle ∧ Move between middle next result ∧
    middle.history = session.history ++ first ∧ before = first ++ mid ∧
    result.history = middle.history ++ (mid ++ event :: rest) ∧ after = rest ++ later ∧
    ((next = .outside ∧ result = final ∧ later = []) ∨
      (next.rests = false ∧ Pass next result final))

theorem Records.head {between : Point} {middle : Session} {first before after : List SessionEvent}
    {event : SessionEvent} (move : Move point session between middle)
    (grown : middle.history = session.history ++ first)
    (records : Records between middle final before event after) :
    Records point session final (first ++ before) event after := by
  obtain ⟨_, _, _, _, start, mid, _, _, moves, other, here, rfl, there, split, ends⟩ := records
  exact ⟨_, _, _, _, first ++ start, mid, _, _, .head move moves, other,
    by rw [here, grown, List.append_assoc], by rw [List.append_assoc], there, split, ends⟩

theorem Pass.records (reached : Reached point session) (pass : Pass point session final)
    {before after : List SessionEvent} {event : SessionEvent}
    (told : final.history = session.history ++ (before ++ event :: after)) :
    Records point session final before event after := by
  induction pass generalizing before with
  | last move =>
      exact ⟨_, _, _, _, [], before, after, [], .refl, move, by simp, rfl, told, by simp,
        .inl ⟨rfl, rfl, rfl⟩⟩
  | head move runs rest ih =>
      have between := reached.trans (.single move)
      obtain ⟨one, grown, _⟩ := reached.sound.moments move
      obtain ⟨two, more⟩ := between.grows rest.moves
      rw [← more, grown, List.append_assoc, List.append_cancel_left_eq,
        List.append_eq_append_iff] at told
      rcases told with ⟨earlier, rfl, cut⟩ | ⟨mine, split, cut⟩
      · exact (ih between (cut ▸ more.symm)).head move grown
      · rcases List.cons_eq_append_iff.mp cut with ⟨rfl, tail⟩ | ⟨others, rfl, tail⟩
        · have records := (@ih between [] (tail ▸ more.symm)).head move grown
          rw [split, List.append_nil, List.append_nil] at records
          exact records
        · refine ⟨_, _, _, _, [], before, others, two, .refl, move, by simp, rfl, ?_, tail,
            .inr ⟨runs, rest⟩⟩
          rw [grown, split]

/-- Where a call begins to run in a step, and what holds there. -/
inductive Origin (motive : Point → Session → Prop) (session : Session) : Stimulus → Prop
  | aside {stimulus : Stimulus} (holds : motive .outside session) : Origin motive session stimulus
  | ask {request : Request} {around : Surroundings}
      (holds : motive (.asking session.issued request)
        ({ session with issued := session.issued + 1 }.emit (.called session.issued request))) :
      Origin motive session (.call request around)
  | turn {call : CallId} {job : Job} {around : Surroundings}
      (queued : session.stage? call = some (.queued job))
      (handed : session.lock.holder = some call) (holds : motive (.holding call job) session) :
      Origin motive session (.wake call .look around)
  | proceed {call : CallId} {signal : Signal} {around : Surroundings} {point : Point}
      {middle : Session} (move : Move .outside session point middle) (works : point.works = true)
      (holds : motive point middle) : Origin motive session (.wake call signal around)

section

variable {motive : Point → Session → Prop} {event : SessionEvent} {new : List SessionEvent}
  (recorded : ∀ {new : List SessionEvent} {point last : Point} {session final : Session},
    Reached point session → Move point session last final →
      final.history = session.history ++ new → event ∈ new → motive point session)
  (back : ∀ {point last : Point} {session final : Session}, Reached point session →
    point.rests = false → Move point session last final → motive last final →
      motive point session)

include recorded back

/-- What holds when a move records the event, and before every move of a running call after which it
holds, held when the call began to run. -/
theorem Pass.traced (reached : Reached point session) (pass : Pass point session final)
    (runs : point.rests = false) (told : final.history = session.history ++ new)
    (member : event ∈ new) : motive point session := by
  induction pass generalizing new with
  | last move => exact recorded reached move told member
  | head move goes rest ih =>
      have between := reached.trans (.single move)
      obtain ⟨one, grown, _⟩ := reached.sound.moments move
      obtain ⟨two, more⟩ := between.grows rest.moves
      rw [← more, grown, List.append_assoc, List.append_cancel_left_eq] at told
      rcases List.mem_append.mp (told ▸ member) with early | late
      · exact recorded reached move grown early
      · exact back reached runs move (ih between goes more.symm late)

theorem Pass.traced_from {middle : Session} (reached : Reached .outside session)
    (move : Move .outside session point middle) (pass : Pass point middle final)
    (runs : point.rests = false) (told : final.history = session.history ++ new)
    (member : event ∈ new) : motive .outside session ∨ motive point middle := by
  have between := reached.trans (.single move)
  obtain ⟨one, grown, _⟩ := reached.sound.moments move
  obtain ⟨two, more⟩ := between.grows pass.moves
  rw [← more, grown, List.append_assoc, List.append_cancel_left_eq] at told
  rcases List.mem_append.mp (told ▸ member) with early | late
  · exact .inl (recorded reached move grown early)
  · exact .inr (pass.traced recorded back between runs more.symm late)

theorem Reached.origin (reached : Reached .outside session) {stimulus : Stimulus}
    (told : (session.step stimulus).history = session.history ++ new) (member : event ∈ new) :
    Origin motive session stimulus := by
  have course := step_course session stimulus
  generalize session.step stimulus = final at course told
  cases course with
  | idle =>
      rw [List.self_eq_append_right.mp told] at member
      cases member
  | aside move => exact .aside (recorded reached move told member)
  | ask pass =>
      exact (pass.traced_from recorded back reached (.ask _) rfl told member).elim .aside .ask
  | turn queued handed pass =>
      have holding := reached.trans (.single (.turn _ _ queued handed))
      exact .turn queued handed (pass.traced recorded back holding rfl told member)
  | proceed pending working proceeds =>
      obtain ⟨point, middle, move, works, pass⟩ := proceeds
      exact (pass.traced_from recorded back reached move (rests_of_works works) told member).elim
        .aside (.proceed move works)

end

theorem run_split (policy : Policy) (stimuli : List Stimulus) {before after : List SessionEvent}
    {event : SessionEvent}
    (told : ((initial policy).run stimuli).history = before ++ event :: after) :
    ∃ front own back mid rest later, stimuli = front ++ own :: back ∧
      (((initial policy).run front).step own).history =
        ((initial policy).run front).history ++ (mid ++ event :: rest) ∧
      before = ((initial policy).run front).history ++ mid ∧ after = rest ++ later := by
  induction stimuli using List.reverseRecOn generalizing before after with
  | nil => simp [initial] at told
  | append_singleton front stimulus ih =>
      have reached := Reached.run policy front
      rw [run_append, run_cons, run_nil] at told
      obtain ⟨new, grown⟩ := reached.grows (step_moves _ stimulus)
      rw [← grown] at told
      have recorded : ∀ {mid : List SessionEvent}, new = mid ++ event :: after →
          before = ((initial policy).run front).history ++ mid →
          ∃ first own back mid rest later, front ++ [stimulus] = first ++ own :: back ∧
            (((initial policy).run first).step own).history =
              ((initial policy).run first).history ++ (mid ++ event :: rest) ∧
            before = ((initial policy).run first).history ++ mid ∧ after = rest ++ later := by
        rintro mid rfl rfl
        exact ⟨front, stimulus, [], mid, after, [], rfl, grown.symm, rfl, by simp⟩
      rcases List.append_eq_append_iff.mp told with ⟨mid, rfl, split⟩ | ⟨rest, split, tail⟩
      · exact recorded split rfl
      · rcases List.cons_eq_append_iff.mp tail with ⟨rfl, same⟩ | ⟨rest, rfl, same⟩
        · exact @recorded [] same (by rw [split, List.append_nil, List.append_nil])
        · obtain ⟨first, own, back, mid, rest', later, cut, step, here, there⟩ := ih split
          exact ⟨first, own, back ++ [stimulus], mid, rest', later ++ new, by rw [cut]; simp,
            step, here, by rw [same, there, List.append_assoc]⟩

end Session

end Contactless
