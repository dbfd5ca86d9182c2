import Contactless.Proofs.Session.AfterEnding
import Contactless.Proofs.Session.Ownership

set_option autoImplicit false

namespace Contactless

theorem Purpose.prompt_ne_empty (purpose : Purpose) : purpose.prompt ≠ "" := by
  cases purpose <;> simp [Purpose.prompt]

namespace Session

/-- The run opened the present session for this purpose: its last stimulus, or one before since
which the session has been live. -/
def OpenedFor (policy : Policy) (stimuli : List Stimulus) (purpose : Purpose) : Prop :=
  ∃ front own back starter, stimuli = front ++ own :: back ∧
    StartAcquires ((initial policy).run front) starter purpose own ∧
    ((initial policy).run front).phase.isLive = false ∧
    ∀ first rest, back = first ++ rest → rest ≠ [] →
      ((initial policy).run (front ++ own :: first)).phase.isLive = true

/-- A call is about to have the radio begin with this prompt, or a start with this prompt is on its
way while no session is live. -/
def Prompting (prompt : String) (point : Point) (session : Session) : Prop :=
  (∃ call goal bridge, point = .beginning call goal bridge prompt) ∨
    ∃ call purpose, session.phase.isLive = false ∧ BoundFor point session call (.start purpose) ∧
      prompt = purpose.prompt

variable {point last : Point} {session final : Session} {new : List SessionEvent}

theorem prompting_of_begun {call : CallId} {bridge : BridgeId} {prompt : String}
    (reached : Reached point session) (move : Move point session last final)
    (told : final.history = session.history ++ new)
    (begun : SessionEvent.begun call bridge prompt ∈ new) : Prompting prompt point session := by
  obtain ⟨front, back, rfl⟩ := List.append_of_mem begun
  obtain ⟨⟨goal, rfl⟩, _⟩ := reached.sound.moment move told
  exact .inl ⟨call, goal, bridge, rfl⟩

theorem Prompting.back {prompt : String} (runs : point.rests = false)
    (move : Move point session last final) (prompting : Prompting prompt last final) :
    Prompting prompt point session := by
  rcases prompting with ⟨call, goal, bridge, rfl⟩ | ⟨call, purpose, dead, bound, told⟩
  · cases move with
    | start call purpose dead =>
        exact .inr ⟨call, purpose, dead, ⟨⟨rfl, rfl⟩, fun idle => by cases idle⟩, rfl⟩
    | rested => cases runs
    | report bridge notice hears => cases hears
  · obtain ⟨before, same⟩ := bound.back move runs
    exact .inr ⟨call, purpose, same ▸ dead, before, told⟩

/-- A step in which the radio begins is one in which a start gets the lock while no session is live,
or one in which the rest before a restart is over. -/
theorem Reached.begun_step {call : CallId} {bridge : BridgeId} {prompt : String}
    {stimulus : Stimulus} (reached : Reached .outside session)
    (grown : (session.step stimulus).history = session.history ++ new)
    (begun : SessionEvent.begun call bridge prompt ∈ new) :
    (∃ starter purpose, StartAcquires session starter purpose stimulus ∧
        session.phase.isLive = false ∧ prompt = purpose.prompt) ∨
      (session.phase.isLive = true ∧ prompt = (session.purpose.map (·.prompt)).getD "") := by
  have available : ∀ purpose around, stimulus = .call (.start purpose) around →
      around.available = true := by
    rintro purpose around rfl
    exact available_of_recorded grown begun (by simp) (by simp)
  cases reached.origin prompting_of_begun (fun _ => Prompting.back) grown begun with
  | aside prompting =>
      rcases prompting with ⟨_, _, _, impossible⟩ | ⟨_, _, _, ⟨impossible, _⟩, _⟩ <;>
        cases impossible
  | @ask request around prompting =>
      rcases prompting with
        ⟨_, _, _, impossible⟩ | ⟨starter, purpose, dead, ⟨⟨rfl, job⟩, free⟩, told⟩
      · cases impossible
      · obtain rfl := Request.eq_start job
        have flag : session.live = false := reached.sound.coherent.live.trans dead
        exact .inl ⟨_, purpose, .made around (available purpose around rfl) flag (free rfl) rfl,
          dead, told⟩
  | turn queued handed prompting =>
      rcases prompting with ⟨_, _, _, impossible⟩ | ⟨starter, purpose, dead, ⟨⟨rfl, rfl⟩, _⟩, told⟩
      · cases impossible
      · exact .inl ⟨_, purpose, .handed _ queued handed, dead, told⟩
  | proceed move works prompting =>
      rcases prompting with ⟨caller, goal, bridge, rfl⟩ | ⟨_, _, _, ⟨nears, _⟩, _⟩
      · cases move with
        | rested caller bridge chain resting =>
            have fits := reached.sound.fits
            rw [Point.place, place_of_stage (reached.lined.holder_of_stage resting (by simp))
              resting] at fits
            refine .inr ⟨?_, rfl⟩
            rw [fits.1]
            rfl
      · exact (not_comesBefore_of_works works nears).elim

/-- Only a start that gets the lock makes a session live. -/
theorem Reached.started_of_live {stimulus : Stimulus} (reached : Reached .outside session)
    (dead : session.phase.isLive = false) (live : (session.step stimulus).phase.isLive = true) :
    ∃ starter purpose, StartAcquires session starter purpose stimulus := by
  obtain ⟨new, unchangedUntilOpened⟩ :=
    reached.unchangedUntilOpened dead (step_moves session stimulus)
  by_cases unopened : ∀ event ∈ new, event.opens = false
  · rw [(unchangedUntilOpened.unchanged unopened).phase, dead] at live
    cases live
  · simp only [not_forall, Bool.not_eq_false] at unopened
    obtain ⟨event, member, opens⟩ := unopened
    cases event with
    | opened bridge =>
        rcases reached.opening_step unchangedUntilOpened.grown member with
          ⟨starter, purpose, enters, _⟩ |
          ⟨_, _, connected⟩
        · exact ⟨starter, purpose, enters⟩
        · rw [connected] at dead
          cases dead
    | _ => cases opens

theorem OpenedFor.of_enters {policy : Policy} {stimuli : List Stimulus} {stimulus : Stimulus}
    {starter : CallId} {purpose : Purpose}
    (enters : StartAcquires ((initial policy).run stimuli) starter purpose stimulus)
    (dead : ((initial policy).run stimuli).phase.isLive = false) :
    OpenedFor policy (stimuli ++ [stimulus]) purpose := by
  refine ⟨stimuli, stimulus, [], starter, rfl, enters, dead, ?_⟩
  intro first rest split some
  exact absurd (List.append_eq_nil_iff.mp split.symm).2 some

theorem OpenedFor.snoc {policy : Policy} {stimuli : List Stimulus} {purpose : Purpose}
    (opened : OpenedFor policy stimuli purpose)
    (live : ((initial policy).run stimuli).phase.isLive = true) (stimulus : Stimulus) :
    OpenedFor policy (stimuli ++ [stimulus]) purpose := by
  obtain ⟨front, own, back, starter, rfl, enters, dead, since⟩ := opened
  refine ⟨front, own, back ++ [stimulus], starter, by simp, enters, dead, ?_⟩
  intro first rest split some
  rcases List.eq_nil_or_concat rest with rfl | ⟨shorter, last, rfl⟩
  · exact absurd rfl some
  · rw [List.concat_eq_append, ← List.append_assoc] at split
    obtain ⟨split, _⟩ := List.append_inj' split rfl
    by_cases whole : shorter = []
    · rw [whole, List.append_nil] at split
      exact split ▸ live
    · exact since first shorter split whole

theorem run_openedFor (policy : Policy) (stimuli : List Stimulus)
    (live : ((initial policy).run stimuli).phase.isLive = true) :
    ∃ purpose, ((initial policy).run stimuli).purpose = some purpose ∧
      OpenedFor policy stimuli purpose := by
  induction stimuli using List.reverseRecOn with
  | nil => cases live
  | append_singleton front stimulus ih =>
      have reached := Reached.run policy front
      rw [run_append, run_cons, run_nil] at live ⊢
      cases before : ((initial policy).run front).phase.isLive with
      | true =>
          obtain ⟨purpose, kept, opened⟩ := ih before
          exact ⟨purpose, (purpose_of_live before stimulus).trans kept,
            opened.snoc before stimulus⟩
      | false =>
          obtain ⟨starter, purpose, enters⟩ := reached.started_of_live before live
          exact ⟨purpose, (enters.beginsSession reached before).purpose, .of_enters enters before⟩

/-- Whenever the radio begins, it is told the purpose for which the session was opened. -/
theorem run_begun (policy : Policy) (before : List Stimulus) (stimulus : Stimulus)
    {call : CallId} {bridge : BridgeId} {prompt : String}
    (grown : ((initial policy).run (before ++ [stimulus])).history =
      ((initial policy).run before).history ++ new)
    (begun : SessionEvent.begun call bridge prompt ∈ new) :
    ∃ purpose, OpenedFor policy (before ++ [stimulus]) purpose ∧ prompt = purpose.prompt := by
  rw [run_append, run_cons, run_nil] at grown
  rcases (Reached.run policy before).begun_step grown begun with
    ⟨starter, purpose, enters, dead, told⟩ | ⟨live, told⟩
  · exact ⟨purpose, .of_enters enters dead, told⟩
  · obtain ⟨purpose, kept, opened⟩ := run_openedFor policy before live
    rw [kept] at told
    exact ⟨purpose, opened.snoc live stimulus, told⟩

end Session

end Contactless
