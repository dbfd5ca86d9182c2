import Contactless.Proofs.Session.Service

set_option autoImplicit false

namespace Contactless

namespace Session

def departures (history : List SessionEvent) : List CallId := history.filterMap (·.leaver?)

variable {point last : Point} {session final : Session}

theorem departures_append (first second : List SessionEvent) :
    departures (first ++ second) = departures first ++ departures second :=
  List.filterMap_append

theorem leaver?_of_aside (event : SessionEvent) (aside : event.isAside = true) :
    event.leaver? = none := by
  cases event <;> first | rfl | cases aside

@[simp] theorem departures_hangingUp (session : Session) (farewell : Option String) :
    departures (session.hangingUp farewell) = [] :=
  filterMap_of_aside leaver?_of_aside (isAside_hangingUp session farewell)

@[simp] theorem departures_granted (next : Option CallId) :
    departures (next.toList.map .granted) = [] :=
  filterMap_of_aside leaver?_of_aside (isAside_granted next)

@[simp] theorem departures_reporting (session : Session) (bridge : BridgeId)
    (notice : TagNotice) : departures (session.reporting bridge notice) = [] :=
  filterMap_of_aside leaver?_of_aside (isAside_reporting session bridge notice)

/-- The call has no part in the session: it is neither in line nor about to be. -/
structure NotPending (point : Point) (session : Session) (call : CallId) : Prop where
  issued : call < session.issued
  line : call ∉ session.lock.line
  asker : point.asker? ≠ some call

theorem NotPending.move {call : CallId} (lined : Lined point session)
    (apart : NotPending point session call) (move : Move point session last final) :
    NotPending last final call := by
  refine ⟨Nat.lt_of_lt_of_le apart.issued (issued_le_of_move move), ?_, ?_⟩
  · intro within
    rcases lined.line_of_move move within with before | asking
    · exact apart.line before
    · exact apart.asker asking
  · intro asking
    rcases asker_of_move move asking with before | ⟨_, same⟩
    · exact apart.asker before
    · exact Nat.ne_of_lt apart.issued same

theorem NotPending.moves {call : CallId} (reached : Reached point session)
    (apart : NotPending point session call) (moves : Moves point session last final) :
    NotPending last final call := by
  induction moves with
  | refl => exact apart
  | tail before move ih => exact ih.move (reached.trans before).lined move

/-- A call that was made and is pending still is in line, unless it is the one that asks. -/
theorem line_of_pending (point : Point) {call : CallId} (issued : call < session.issued)
    (apart : ¬ NotPending point session call) (asker : point.asker? ≠ some call) :
    call ∈ session.lock.line :=
  Classical.byContradiction fun outside => apart ⟨issued, outside, asker⟩

theorem departures_of_move (lined : Lined point session) (sound : Sound point session)
    (move : Move point session last final) :
    ∃ new, departures final.history = departures session.history ++ new ∧ new.Nodup ∧
      ∀ call ∈ new, ¬ NotPending point session call ∧ NotPending last final call := by
  have asks : ∀ {call : CallId} {request : Request}, point = .asking call request →
      final.lock = session.lock → final.issued = session.issued → last = .outside →
      ∀ other ∈ [call], ¬ NotPending point session other ∧ NotPending last final other := by
    rintro call request rfl lock issued rfl other same
    obtain rfl := List.mem_singleton.mp same
    refine ⟨fun apart => apart.asker rfl, ?_, ?_, by simp [Point.asker?]⟩
    · rw [issued]
      exact (lined.asker other rfl).1
    · intro within
      rw [lock] at within
      exact Nat.lt_irrefl other ((lined.asker other rfl).2 other within)
  have leaves : ∀ {call : CallId}, call ∈ session.lock.line → call ∉ final.lock.line →
      final.issued = session.issued → last = .outside →
      ∀ other ∈ [call], ¬ NotPending point session other ∧ NotPending last final other := by
    rintro call within gone issued rfl other same
    obtain rfl := List.mem_singleton.mp same
    refine ⟨fun apart => apart.line within, ?_, gone, by simp [Point.asker?]⟩
    rw [issued]
    exact lined.issued other within
  cases move with
  | refuseRadio call | refuseLive call | refuseEmpty call =>
      exact ⟨[call], by simp [departures_append]; rfl, by simp, asks rfl rfl rfl rfl⟩
  | leave call outcome =>
      have held := lined.worker call rfl
      refine ⟨[call], by simp [departures_append]; rfl, by simp,
        leaves (Lock.mem_line.mpr (.inl held)) ?_ (by simp) rfl⟩
      simpa using lined.not_waiting held
  | dropHanded call job queued handed =>
      refine ⟨[call], by simp [departures_append]; rfl, by simp,
        leaves (Lock.mem_line.mpr (.inl handed)) ?_ (by simp) rfl⟩
      simpa using lined.not_waiting handed
  | dropWaiting call job queued waiting =>
      have within := lined.pending call (.queued job) queued
      refine ⟨[call], by simp [departures_append]; rfl, by simp,
        leaves within ?_ (by simp) rfl⟩
      intro still
      rcases Lock.mem_line.mp (by simpa using still) with held | waits
      · exact waiting held
      · exact (lined.nodup_waiting.mem_erase_iff.mp waits).1 rfl
  | dropHolder call stage pending working =>
      have held := lined.holder_of_stage pending working
      refine ⟨[call], by simp [departures_append]; rfl, by simp,
        leaves (Lock.mem_line.mpr (.inl held)) ?_ (by simp) rfl⟩
      simpa using lined.not_waiting held
  | start call purpose dead =>
      have empty : session.slot = none := sound.coherent.dead dead
      exact ⟨[], by simp [history_openBridge, empty, departures_append]; rfl, by simp, by simp⟩
  | pause call chain =>
      have empty := sound.slot_of_reopening
      exact ⟨[], by simp [history_openBridge, empty, departures_append]; rfl, by simp, by simp⟩
  | _ =>
      exact ⟨[], by simp [departures_append, connect, reconnect]; try rfl, by simp, by simp⟩

/-- Nobody comes to an end twice, and whoever has come to an end is not pending. -/
theorem Reached.departed (reached : Reached point session) :
    (departures session.history).Nodup ∧
      ∀ call ∈ departures session.history, NotPending point session call := by
  refine reached.induction (motive := fun point session => (departures session.history).Nodup ∧
    ∀ call ∈ departures session.history, NotPending point session call) ?_ ?_
  · intro policy
    exact ⟨List.nodup_nil, by simp [initial, departures]⟩
  · rintro point session last final before ⟨nodup, apart⟩ move
    obtain ⟨new, grown, once, gone⟩ := departures_of_move before.lined before.sound move
    rw [grown]
    refine ⟨List.nodup_append.mpr ⟨nodup, once, ?_⟩, ?_⟩
    · rintro old member other joined rfl
      exact (gone old joined).1 (apart old member)
    · intro call member
      rcases List.mem_append.mp member with old | joined
      · exact (apart call old).move before.lined move
      · exact (gone call joined).2

theorem mem_departures {history : List SessionEvent} {call : CallId} {outcome : Outcome}
    (ended : SessionEvent.ended call outcome ∈ history) : call ∈ departures history :=
  List.mem_filterMap.mpr ⟨_, ended, rfl⟩

theorem dealings_of_move {call : CallId} (sound : Sound point session)
    (move : Move point session last final) (issued : call < session.issued)
    (unsent : ∀ tag chain, point ≠ .sending call tag chain)
    (idle : point = .outside → ∀ tag rest, session.stage? call ≠ some (.transmitting tag rest)) :
    dealings final.history call = dealings session.history call := by
  obtain ⟨new, grown, moments⟩ := sound.moments move
  have nothing : dealings new call = [] := by
    refine List.filter_eq_nil_iff.mpr fun event member concerned => ?_
    obtain ⟨mid, moment⟩ := moments.of_mem member
    cases event with
    | called caller request =>
        obtain rfl : caller = call := by simpa [SessionEvent.concerns] using concerned
        obtain ⟨_, _, same, _⟩ := moment
        exact Nat.ne_of_lt issued same
    | sent caller tag command =>
        obtain rfl : caller = call := by simpa [SessionEvent.concerns] using concerned
        obtain ⟨chain, sending, _⟩ := moment
        exact unsent tag chain sending
    | answered caller tag answer =>
        obtain rfl : caller = call := by simpa [SessionEvent.concerns] using concerned
        obtain ⟨outside, ⟨rest, transmitting⟩, _⟩ := moment
        exact idle outside tag rest transmitting
    | _ => simp [SessionEvent.concerns] at concerned
  rw [grown, dealings_append, nothing, List.append_nil]

theorem NotPending.dealings {call : CallId} (apart : NotPending point session call)
    (lined : Lined point session) (sound : Sound point session)
    (move : Move point session last final) :
    dealings final.history call = dealings session.history call := by
  refine dealings_of_move sound move apart.issued ?_ ?_
  · rintro tag chain rfl
    exact apart.line (Lock.mem_line.mpr (.inl (lined.worker call rfl)))
  · exact fun _ tag rest transmitting => apart.line (lined.pending call _ transmitting)

theorem Reached.leaves_once (reached : Reached point session) {call : CallId}
    {first second : SessionEvent} (one : first ∈ session.history)
    (other : second ∈ session.history) (leaves : first.leaver? = some call)
    (again : second.leaver? = some call) : first = second := by
  have nodup := reached.departed.1
  obtain ⟨before, after, told⟩ := List.append_of_mem one
  have split : departures session.history = departures before ++ call :: departures after := by
    rw [told, departures_append]
    simp [departures, leaves]
  rw [split, List.perm_middle.nodup_iff, List.nodup_cons, List.mem_append] at nodup
  rw [told] at other
  rcases List.mem_append.mp other with earlier | later
  · exact absurd (.inl (List.mem_filterMap.mpr ⟨second, earlier, again⟩)) nodup.1
  · rcases List.mem_cons.mp later with same | later
    · exact same.symm
    · exact absurd (.inr (List.mem_filterMap.mpr ⟨second, later, again⟩)) nodup.1

theorem Reached.fulfilled (reached : Reached point session) {call : CallId} {value : Value}
    (returned : SessionEvent.ended call (.ok value) ∈ session.history) :
    ∃ request, asked session.history call = [request] ∧
      Fulfils session.history call request value := by
  revert returned
  refine reached.induction (motive := fun _ session =>
    SessionEvent.ended call (.ok value) ∈ session.history →
      ∃ request, asked session.history call = [request] ∧
        Fulfils session.history call request value) ?_ ?_
  · intro policy impossible
    cases impossible
  · intro point session last final before earlier move returned
    by_cases old : SessionEvent.ended call (.ok value) ∈ session.history
    · -- Whoever has ended is apart, so later moves do not touch what it returned.
      obtain ⟨request, made, fulfils⟩ := earlier old
      have same := (before.departed.2 call (mem_departures old)).dealings before.lined
        before.sound move
      exact ⟨request, (asked_congr same).trans made, fulfils.congr same⟩
    · obtain ⟨new, grown, moments⟩ := before.sound.moments move
      rw [grown] at returned
      rcases List.mem_append.mp returned with before | recorded
      · exact absurd before old
      obtain ⟨mid, moment⟩ := moments.of_mem recorded
      rcases moment with rfl | ⟨_, _, _, failed⟩
      · obtain ⟨request, made, fulfils⟩ := before.served.running
        cases move with
        | leave =>
            have same : dealings (session.conclude call (.ok value)).history call =
                dealings session.history call := by simp [SessionEvent.concerns]
            exact ⟨request, (asked_congr same).trans made, fulfils.congr same⟩
        | report bridge notice hears => cases hears
      · cases failed

end Session

end Contactless
