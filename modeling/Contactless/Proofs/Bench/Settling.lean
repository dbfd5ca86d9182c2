import Contactless.Proofs.Bench.Turns

/-!
The fuel of a bench is enough.

A sleeper that is woken has one turn less afterwards, and nobody else has more. So with more fuel
`proceed`, `settleWith` and `advanceWith` do the same, and after every step nobody is left in line
and no deadline has passed.
-/

set_option autoImplicit false

namespace Contactless.Bench

variable {bench : Bench} {call : CallId} {stage : Stage} {fuel more : Nat}

theorem Invariant.callUp (invariant : bench.Invariant) (call : CallId) (rest : List CallId) :
    (bench.callUp call rest).Invariant :=
  invariant.congr rfl fun _ set => (List.mem_filter.mp set).1

theorem hasNoTimer_callUp (bench : Bench) (call : CallId) (rest : List CallId) :
    (bench.callUp call rest).HasNoTimer call := by
  intro timer set
  simpa using (List.mem_filter.mp set).2

theorem Invariant.usesTurns_serve (invariant : bench.Invariant) (call : CallId)
    (rest : List CallId) : UsesTurns (bench.callUp call rest) (bench.serve call rest) 0 := by
  have turned := (invariant.callUp call rest).usesOwnTurns_turn (hasNoTimer_callUp bench call rest)
  exact turned.toUsesTurns.trans
    (turned.invariant.usesTurns_proceed (turned.awake (hasNoTimer_callUp bench call rest)) _)

theorem Invariant.usesTurns_serve_of_sleeps (invariant : bench.Invariant) (rest : List CallId)
    (pending : bench.desk.session.stage? call = some stage) (sleeps : stage.sleeps = true) :
    UsesTurns (bench.callUp call rest) (bench.serve call rest) 1 := by
  have turned := (invariant.callUp call rest).usesOwnTurns_turn_of_sleeps
    (hasNoTimer_callUp bench call rest) pending sleeps
  exact turned.toUsesTurns.trans
    (turned.invariant.usesTurns_proceed (turned.awake (hasNoTimer_callUp bench call rest)) _)

/-- Each turn makes the line shorter, or the line behind the lock. -/
theorem Invariant.turnsDue_serve (invariant : bench.Invariant) {rest : List CallId}
    (line : bench.ready = call :: rest) :
    (bench.serve call rest).turnsDue + 1 ≤ bench.turnsDue := by
  have due := (invariant.usesTurns_serve call rest).due
  have before : (bench.callUp call rest).turnsDue + 1 = bench.turnsDue := by
    simp only [turnsDue, Bench.callUp, line, List.length_cons]
    omega
  omega

theorem settleWith_of_empty (empty : bench.ready = []) (fuel : Nat) :
    settleWith fuel bench = bench := by
  cases fuel with
  | zero => rfl
  | succ fuel => rw [settleWith, empty]

theorem settleWith_of_line {rest : List CallId} (line : bench.ready = call :: rest) (fuel : Nat) :
    settleWith (fuel + 1) bench = settleWith fuel (bench.serve call rest) := by
  rw [settleWith, line]

theorem Invariant.settleWith (invariant : bench.Invariant) (fuel : Nat) :
    (settleWith fuel bench).Invariant ∧
      (Bench.settleWith fuel bench).desk.session.turnsOfAll ≤ bench.desk.session.turnsOfAll := by
  induction fuel generalizing bench with
  | zero => exact ⟨invariant, Nat.le_refl _⟩
  | succ fuel ih =>
      cases line : bench.ready with
      | nil =>
          rw [settleWith_of_empty line]
          exact ⟨invariant, Nat.le_refl _⟩
      | cons call rest =>
          have served := invariant.usesTurns_serve call rest
          obtain ⟨later, fewer⟩ := ih served.invariant
          rw [settleWith_of_line line]
          exact ⟨later, Nat.le_trans fewer served.all⟩

/-- Enough fuel for the line leaves nobody in it. -/
theorem Invariant.ready_settleWith (invariant : bench.Invariant) (enough : bench.turnsDue ≤ fuel) :
    (Bench.settleWith fuel bench).ready = [] := by
  induction fuel generalizing bench with
  | zero =>
      have short : bench.ready.length = 0 :=
        Nat.eq_zero_of_le_zero (Nat.le_trans (Nat.le_add_right ..) enough)
      exact List.length_eq_zero_iff.mp short
  | succ fuel ih =>
      cases line : bench.ready with
      | nil =>
          rw [settleWith_of_empty line]
          exact line
      | cons call rest =>
          have shorter := invariant.turnsDue_serve line
          rw [settleWith_of_line line]
          exact ih (invariant.usesTurns_serve call rest).invariant (by omega)

/-- More fuel than for the line changes nothing. -/
theorem Invariant.settleWith_eq (invariant : bench.Invariant) (enough : bench.turnsDue ≤ fuel) :
    Bench.settleWith fuel bench = bench.settle := by
  suffices same : ∀ more, bench.turnsDue ≤ more →
      Bench.settleWith fuel bench = Bench.settleWith more bench from same _ (Nat.le_refl _)
  intro more plenty
  induction fuel generalizing bench more with
  | zero =>
      have empty : bench.ready = [] := invariant.ready_settleWith enough
      rw [settleWith_of_empty empty, settleWith_of_empty empty]
  | succ fuel ih =>
      cases line : bench.ready with
      | nil => rw [settleWith_of_empty line, settleWith_of_empty line]
      | cons call rest =>
          have shorter := invariant.turnsDue_serve line
          obtain ⟨left, rfl⟩ : ∃ left, more = left + 1 := ⟨more - 1, by omega⟩
          rw [settleWith_of_line line, settleWith_of_line line]
          exact ih (invariant.usesTurns_serve call rest).invariant (by omega) left (by omega)

theorem Invariant.settle (invariant : bench.Invariant) :
    bench.settle.Invariant ∧ bench.settle.ready = [] :=
  ⟨(invariant.settleWith _).1, invariant.ready_settleWith (Nat.le_refl _)⟩

theorem earliest?_eq_none {timers : List Timer} (none : earliest? timers = none) :
    timers = [] := by
  cases timers with
  | nil => rfl
  | cons timer rest =>
      simp only [earliest?] at none
      split at none
      · split at none <;> cases none
      · cases none

theorem earliest?_le {timers : List Timer} {first timer : Timer}
    (found : earliest? timers = some first) (set : timer ∈ timers) :
    first.deadline ≤ timer.deadline := by
  induction timers generalizing first with
  | nil => cases set
  | cons head rest ih =>
      simp only [earliest?] at found
      split at found
      · rename_i other inner
        split at found
        · rename_i sooner
          obtain rfl := Option.some.inj found
          rcases List.mem_cons.mp set with rfl | within
          · exact Nat.le_of_lt sooner
          · exact ih inner within
        · rename_i later
          obtain rfl := Option.some.inj found
          rcases List.mem_cons.mp set with rfl | within
          · exact Nat.le_refl _
          · exact Nat.le_trans (Nat.not_lt.mp later) (ih inner within)
      · rename_i nothing
        obtain rfl := Option.some.inj found
        rw [earliest?_eq_none nothing] at set
        rw [List.mem_singleton.mp set]

theorem Invariant.turnsOfAll_pos (invariant : bench.Invariant) {timer : Timer}
    (set : timer ∈ bench.timers) : 0 < bench.desk.session.turnsOfAll := by
  obtain ⟨stage, pending, sleeps⟩ := invariant.sleeping timer set
  have held := invariant.reached.lined.holder_of_stage pending fun job same => by
    rw [same] at sleeps
    cases sleeps
  have positive := Stage.turnsLeft_pos sleeps
  rw [Session.turnsOfAll_of_holder held, Session.turnsLeft_of_stage pending]
  omega

def woken (bench : Bench) (timer : Timer) : Bench :=
  ({ bench with now := timer.deadline }.awaken timer.call).settle

/-- A sleeper that is woken has one turn less, and nobody is left in line. -/
theorem Invariant.woken (invariant : bench.Invariant) (calm : bench.ready = []) {timer : Timer}
    (set : timer ∈ bench.timers) :
    (bench.woken timer).Invariant ∧ (bench.woken timer).ready = [] ∧
      (bench.woken timer).desk.session.turnsOfAll + 1 ≤ bench.desk.session.turnsOfAll := by
  obtain ⟨stage, pending, sleeps⟩ := invariant.sleeping timer set
  have alone : ({ bench with now := timer.deadline }.awaken timer.call) =
      { bench with now := timer.deadline, ready := [timer.call] } := by
    simp [awaken, calm]
  have awoken : Invariant { bench with now := timer.deadline, ready := [timer.call] } :=
    invariant.congr rfl (List.Subset.refl _)
  rw [Bench.woken, alone]
  have served := awoken.usesTurns_serve_of_sleeps [] pending sleeps
  obtain ⟨later, fewer⟩ := served.invariant.settleWith bench.desk.session.lock.waiting.length
  have settled : Bench.settle { bench with now := timer.deadline, ready := [timer.call] } =
      Bench.settleWith bench.desk.session.lock.waiting.length
        (serve { bench with now := timer.deadline, ready := [timer.call] } timer.call []) := by
    rw [Bench.settle, turnsDue, List.length_singleton, Nat.add_comm 1]
    exact settleWith_of_line rfl _
  refine ⟨settled ▸ later, awoken.ready_settleWith (Nat.le_refl _), ?_⟩
  rw [settled]
  exact Nat.le_trans (Nat.add_le_add_right fewer 1) served.all

theorem advanceWith_succ {timer : Timer} (first : earliest? bench.timers = some timer)
    {target : Nat} (due : timer.deadline ≤ target) (fuel : Nat) :
    advanceWith (fuel + 1) bench target = advanceWith fuel (bench.woken timer) target := by
  rw [advanceWith, first]
  exact if_neg (Nat.not_lt.mpr due)

theorem advanceWith_of_early {target : Nat}
    (early : ∀ timer ∈ bench.timers, target < timer.deadline) (fuel : Nat) :
    advanceWith fuel bench target = { bench with now := target } := by
  cases fuel with
  | zero => rfl
  | succ fuel =>
      rw [advanceWith]
      cases first : earliest? bench.timers with
      | none => rfl
      | some timer => exact if_pos (early timer (earliest?_mem first))

theorem early_or_due (bench : Bench) (target : Nat) :
    (∀ timer ∈ bench.timers, target < timer.deadline) ∨
      ∃ timer ∈ bench.timers, earliest? bench.timers = some timer ∧ timer.deadline ≤ target := by
  cases first : earliest? bench.timers with
  | none =>
      rw [earliest?_eq_none first]
      exact .inl (by simp)
  | some timer =>
      by_cases due : timer.deadline ≤ target
      · exact .inr ⟨timer, earliest?_mem first, rfl, due⟩
      · exact .inl fun other set =>
          Nat.lt_of_lt_of_le (Nat.not_le.mp due) (earliest?_le first set)

/-- Enough fuel for the sleepers leaves nobody in line and no deadline in the past. -/
theorem Invariant.advanceWith (invariant : bench.Invariant) (calm : bench.ready = [])
    (enough : bench.desk.session.turnsOfAll ≤ fuel) (target : Nat) :
    (advanceWith fuel bench target).Invariant ∧ (Bench.advanceWith fuel bench target).ready = [] ∧
      (Bench.advanceWith fuel bench target).now = target ∧
      ∀ timer ∈ (Bench.advanceWith fuel bench target).timers, target < timer.deadline := by
  induction fuel generalizing bench with
  | zero =>
      refine ⟨invariant.congr rfl (List.Subset.refl _), calm, rfl, fun timer set => ?_⟩
      have positive := invariant.turnsOfAll_pos set
      omega
  | succ fuel ih =>
      rcases early_or_due bench target with early | ⟨timer, set, first, due⟩
      · rw [advanceWith_of_early early]
        exact ⟨invariant.congr rfl (List.Subset.refl _), calm, rfl, early⟩
      · obtain ⟨later, quiet, fewer⟩ := invariant.woken calm set
        rw [advanceWith_succ first due]
        exact ih later quiet (by omega)

/-- More fuel than for the sleepers changes nothing. -/
theorem Invariant.advanceWith_eq (invariant : bench.Invariant) (calm : bench.ready = [])
    (enough : bench.desk.session.turnsOfAll ≤ fuel)
    (plenty : bench.desk.session.turnsOfAll ≤ more) (target : Nat) :
    Bench.advanceWith fuel bench target = Bench.advanceWith more bench target := by
  induction fuel generalizing bench more with
  | zero =>
      have early : ∀ timer ∈ bench.timers, target < timer.deadline := fun timer set => by
        have positive := invariant.turnsOfAll_pos set
        omega
      rw [advanceWith_of_early early, advanceWith_of_early early]
  | succ fuel ih =>
      rcases early_or_due bench target with early | ⟨timer, set, first, due⟩
      · rw [advanceWith_of_early early, advanceWith_of_early early]
      · obtain ⟨later, quiet, fewer⟩ := invariant.woken calm set
        obtain ⟨left, rfl⟩ : ∃ left, more = left + 1 := ⟨more - 1, by omega⟩
        rw [advanceWith_succ first due, advanceWith_succ first due]
        exact ih later quiet (by omega) (by omega)

theorem Invariant.hasNoTimer_issued (invariant : bench.Invariant) :
    bench.HasNoTimer bench.desk.session.issued := by
  intro timer set same
  obtain ⟨stage, pending, -⟩ := invariant.sleeping timer set
  have lined := invariant.reached.lined
  have older := lined.issued timer.call (lined.pending timer.call stage pending)
  exact absurd same (Nat.ne_of_lt older)

theorem Invariant.visit (invariant : bench.Invariant) (name : String) {action : DeskAction}
    (new : action.subject? bench.desk.session = some bench.desk.session.issued) :
    (bench.visit name action).Invariant := by
  have named : Invariant { bench with names := bench.names ++ [name] } :=
    invariant.congr rfl (List.Subset.refl _)
  have acted := named.act (some bench.desk.session.issued) action fun timer set same =>
    named.hasNoTimer_issued timer set (Option.some.inj (same.symm.trans new))
  refine (acted.usesTurns_proceed ?_ _).invariant
  intro timer set
  rw [(act_fields ..).2] at set
  exact invariant.hasNoTimer_issued timer set

/-- An abandoned call takes its timer along. -/
theorem Invariant.cancel (invariant : bench.Invariant) (name : String) :
    (bench.cancel name).Invariant := by
  unfold Bench.cancel
  split
  · exact invariant
  · rename_i visit found
    refine ⟨?_, ?_, fun timer set => ?_⟩
    · exact (act_fields bench none (.drop visit.call)).1 ▸
        Desk.reached_step invariant.reached _ (.drop visit.call)
    · exact (act_fields bench none (.drop visit.call)).1 ▸
        Desk.heard_step invariant.reached invariant.hears _ (.drop visit.call)
    · obtain ⟨before, other⟩ := List.mem_filter.mp set
      have kept : timer ∈ bench.timers := (act_fields bench none (.drop visit.call)).2 ▸ before
      refine invariant.sleeping_act none (.drop visit.call) kept fun same => ?_
      simp [Option.some.inj same] at other

theorem Invariant.perform (invariant : bench.Invariant) (move : Move) :
    (bench.perform move).Invariant := by
  have plain : ∀ {action : DeskAction}, action.subject? bench.desk.session = none →
      (bench.act none action).Invariant := fun nobody =>
    invariant.act none _ fun _ _ same => by
      rw [nobody] at same
      cases same
  cases move with
  | ask name request => exact invariant.visit name rfl
  | operate name operation => exact invariant.visit name rfl
  | cancel name => exact invariant.cancel name
  | appoint | dismiss | alert text => exact plain rfl
  | event happening beginning =>
      unfold Bench.perform
      dsimp only
      split
      · exact invariant
      · exact plain rfl
  | fail | skew | present | auto | available | script =>
      exact invariant.congr rfl (List.Subset.refl _)

/-- After every step the invariant holds again and nobody is left in line. -/
theorem Invariant.step (invariant : bench.Invariant) (step : Step) :
    (bench.step step).Invariant ∧ (bench.step step).ready = [] := by
  cases step with
  | move move => exact (invariant.perform move).settle
  | batch moves =>
      refine Invariant.settle ?_
      induction moves generalizing bench with
      | nil => exact invariant
      | cons move rest ih => exact ih (invariant.perform move)
  | advance milliseconds =>
      obtain ⟨settled, calm⟩ := invariant.settle
      obtain ⟨advanced, quiet, -⟩ := settled.advanceWith calm (Nat.le_refl _)
        (later bench.settle.now milliseconds)
      exact ⟨advanced, quiet⟩

theorem Invariant.ofCards (policy : Policy) (simulator : Vendor.Simulator) (cards : List Card) :
    (ofCards policy simulator cards).Invariant :=
  ⟨Session.Reached.run policy [], rfl, by simp [Bench.ofCards]⟩

theorem reports_concat (bench : Bench) (steps : List Step) (step : Step) :
    bench.reports (steps ++ [step]) =
      bench.reports steps ++ [((bench.run steps).clear.step step).report] := by
  induction steps generalizing bench with
  | nil => rfl
  | cons first rest ih => exact congrArg _ (ih (bench.clear.step first))

theorem Invariant.run (invariant : bench.Invariant) (steps : List Step) :
    (bench.run steps).Invariant := by
  induction steps generalizing bench with
  | nil => exact invariant
  | cons step rest ih =>
      have cleared : bench.clear.Invariant := invariant.congr rfl (List.Subset.refl _)
      exact ih (cleared.step step).1

/-- More fuel would change nothing, whatever step comes next. -/
structure FuelSuffices (bench : Bench) : Prop where
  proceeds : ∀ call fuel, bench.HasNoTimer call → bench.desk.session.turnsLeft call ≤ fuel →
    proceed fuel bench call = bench.runOn call
  settles : ∀ fuel, bench.turnsDue ≤ fuel → settleWith fuel bench = bench.settle
  advances : ∀ fuel milliseconds, bench.settle.desk.session.turnsOfAll ≤ fuel →
    advanceWith fuel bench.settle (later bench.settle.now milliseconds) =
      bench.advance milliseconds
  ready : ∀ step, (bench.step step).ready = []
  timers : ∀ milliseconds, ∀ timer ∈ (bench.advance milliseconds).timers,
    (bench.advance milliseconds).now < timer.deadline

/-- In every run there is fuel enough for every turn and for all time that passes. -/
theorem run_fuel_suffices (policy : Policy) (simulator : Vendor.Simulator) (cards : List Card)
    (steps : List Step) : ((ofCards policy simulator cards).run steps).clear.FuelSuffices := by
  have ran := (Invariant.ofCards policy simulator cards).run steps
  have invariant : ((ofCards policy simulator cards).run steps).clear.Invariant :=
    ran.congr rfl (List.Subset.refl _)
  obtain ⟨settled, calm⟩ := invariant.settle
  refine ⟨fun call fuel awake enough => invariant.proceed_eq awake enough (Nat.le_refl _),
    fun fuel enough => invariant.settleWith_eq enough,
    fun fuel milliseconds enough => settled.advanceWith_eq calm enough (Nat.le_refl _) _,
    fun step => (invariant.step step).2, fun milliseconds timer set => ?_⟩
  obtain ⟨-, -, now, future⟩ := settled.advanceWith calm (Nat.le_refl _)
    (later ((ofCards policy simulator cards).run steps).clear.settle.now milliseconds)
  exact Nat.lt_of_le_of_lt (Nat.le_of_eq now) (future timer set)

end Contactless.Bench
