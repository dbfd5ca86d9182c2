import Contactless.Proofs.Session.Record

set_option autoImplicit false

namespace Contactless

namespace Session

def Place.bridge? : Place → Option BridgeId
  | .opening _ bridge | .detecting _ bridge => some bridge
  | .rest | .transmitting _ | .reopening | .broken => none

/-- The session holds the bridge, or the holder of the lock looks at it. -/
def Reads (session : Session) (place : Place) (bridge : BridgeId) : Prop :=
  session.held = some bridge ∨ place.bridge? = some bridge

variable {point last : Point} {session final : Session} {bridge : BridgeId}

theorem Sound.uses_of_reads (sound : Sound point session)
    (reads : session.Reads (point.place session) bridge) : session.Uses bridge := by
  have fits := sound.fits
  rcases reads with held | looks
  · exact sound.coherent.uses bridge held
  · cases place : point.place session with
    | opening goal other =>
        rw [place] at looks fits
        obtain rfl := Option.some.inj looks
        exact fits.2.2
    | detecting goal other =>
        rw [place] at looks fits
        obtain rfl := Option.some.inj looks
        exact fits.2.1
    | rest | transmitting | reopening | broken =>
        rw [place] at looks
        cases looks

/-- The bridge in the slot is read, unless the session is about to be taken down. -/
theorem Sound.reads_of_slot (sound : Sound point session)
    (unreadComplete : point.place session ≠ .broken) (filled : session.slot = some bridge) :
    session.Reads (point.place session) bridge := by
  have fits := sound.fits
  have held : session.phase.hasCard = true → session.held = some bridge := by
    intro carded
    obtain ⟨other, held⟩ := Option.isSome_iff_exists.mp (sound.coherent.held.trans carded)
    rw [held, (sound.coherent.uses other held).eq_of_slot filled]
  cases place : point.place session with
  | rest =>
      rw [place] at fits
      cases live : session.phase.isLive with
      | false =>
          rw [sound.coherent.dead live] at filled
          cases filled
      | true =>
          refine .inl (held ?_)
          have settled : session.phase.isSettled = true := fits
          cases phase : session.phase <;>
            simp [phase, Phase.isLive, Phase.isSettled] at live settled
          rfl
  | opening goal other =>
      rw [place] at fits
      exact .inr (congrArg some (fits.2.2.eq_of_slot filled))
  | detecting goal other =>
      rw [place] at fits
      exact .inr (congrArg some (fits.2.1.eq_of_slot filled))
  | transmitting tag =>
      rw [place] at fits
      exact .inl (held (by rw [fits.1]; rfl))
  | reopening =>
      rw [place] at fits
      rw [fits.2] at filled
      cases filled
  | broken => exact absurd place unreadComplete

theorem place_intact (session : Session) : Point.outside.place session ≠ .broken := by
  show session.place ≠ .broken
  unfold Session.place
  split
  · simp
  · split
    · simp
    · rename_i stage _
      cases stage <;> simp [placeOf]

theorem Sound.closed_move (sound : Sound point session) (move : Move point session last final)
    (opened : bridge < session.bridges.length)
    (closed : session.isClosed bridge = true) :
    bridge < final.bridges.length ∧ final.isClosed bridge = true := by
  have apart : bridge ≠ session.nextBridge := Nat.ne_of_lt opened
  cases move with
  | start call purpose dead =>
      have empty := sound.coherent.dead dead
      refine ⟨by simpa using Nat.lt_succ_of_lt opened, ?_⟩
      refine (isClosed_openBridge _ (by simpa using empty) bridge).trans ?_
      exact Bool.and_eq_true_iff.mpr ⟨closed, decide_eq_true apart⟩
  | pause call chain =>
      refine ⟨by simpa using Nat.lt_succ_of_lt opened, ?_⟩
      rw [isClosed_park, isClosed_emit, isClosed_openBridge _ sound.slot_of_reopening, closed]
      simpa using apart
  | interrupted call chain other found reason connected held here =>
      exact ⟨by simpa using opened, (Alike.takeInterruption here).closed bridge closed⟩
  | pend call goal other found here | exhaust call goal other found here
  | halt call goal other found here | foreign call goal other found here
  | pick call goal other found here =>
      exact ⟨by simpa using opened, (Alike.poll here).closed bridge closed⟩
  | renew call chain other connection ready now old =>
      refine ⟨by simpa using opened, ?_⟩
      have kept : ∀ found, session.bridges[other]? = some found →
          found.drainStale.closed = found.closed := fun _ _ => rfl
      exact (Alike.update { session with phase := .renewing } kept).closed bridge closed
  | report other notice hears =>
      exact ⟨by simpa using opened, (Alike.report session other notice).closed bridge closed⟩
  | lineFinish | finish | fail =>
      exact ⟨by simpa using opened, by simp [closed]⟩
  | restart call chain other connection ready now aged =>
      refine ⟨by simpa using opened, ?_⟩
      rw [isClosed_hangUp]
      exact Bool.or_eq_true_iff.mpr (.inl closed)
  | leave | dropHanded | dropHolder => exact ⟨by simpa using opened, by simp [closed]⟩
  | _ => exact ⟨opened, closed⟩

theorem Reached.closed_moves (reached : Reached point session)
    (moves : Moves point session last final)
    (opened : bridge < session.bridges.length) (closed : session.isClosed bridge = true) :
    bridge < final.bridges.length ∧ final.isClosed bridge = true := by
  induction moves with
  | refl => exact ⟨opened, closed⟩
  | tail before move ih => exact (reached.trans before).sound.closed_move move ih.1 ih.2

end Session

end Contactless
