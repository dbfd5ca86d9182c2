import Contactless.Proofs.Session.Contact

/-!
Which tags get to see a command.

The radio connects the first wallet card of the batch that was taken just before, and every
connected tag is acknowledged at once. A batch without a wallet card ends the session. So whatever
is sent goes to a wallet card, the one that was connected last.
-/

set_option autoImplicit false

namespace Contactless

def IsCard (aid : String) (tag : Tag) : Prop := tag.family = .iso7816 ∧ tag.aid = some aid

def FirstCard (aid : String) (tag : Tag) (batch : List Tag) : Prop :=
  IsCard aid tag ∧ ∃ skipped later, batch = skipped ++ tag :: later ∧
    ∀ other ∈ skipped, ¬ IsCard aid other

theorem firstWallet?_eq_some {aid : String} {tags : List Tag} {tag : Tag} :
    firstWallet? aid tags = some tag ↔ FirstCard aid tag tags := by
  simp only [firstWallet?, List.find?_eq_some_iff_append, Bool.not_eq_true', Bool.eq_false_iff,
    ne_eq, Tag.isWallet_iff]
  rfl

theorem firstWallet?_eq_none {aid : String} {tags : List Tag}
    (foreign : ∀ tag ∈ tags, ¬ IsCard aid tag) : firstWallet? aid tags = none :=
  List.find?_eq_none.mpr fun tag member wallet =>
    foreign tag member (Tag.isWallet_iff.mp wallet)

namespace Session

/-- Only wallet cards are connected, and only connected cards are used. -/
structure WalletTagsOnly (aid : String) (history : List SessionEvent) : Prop where
  connecting : ∀ before call bridge tag after,
    history = before ++ .connecting call bridge tag :: after →
      ∃ tags, [.taken call bridge tags] <:+ before ∧ FirstCard aid tag tags
  connected : ∀ before call tag after,
    history = before ++ .connectEnded call tag none :: after → [.acknowledged call] <+: after
  acknowledged : ∀ before call after,
    history = before ++ .acknowledged call :: after →
      ∃ tag, [.connectEnded call tag none] <:+ before
  sent : ∀ before call tag command after,
    history = before ++ .sent call tag command :: after →
      IsCard aid tag ∧ ∃ bridge, Contacted before bridge tag

/-- A step that takes a batch without a wallet card takes the session down and ends the call. -/
def RejectsUnknown (aid : String) (session final : Session) : Prop :=
  ∀ before call bridge tags after,
    final.history = session.history ++ (before ++ .taken call bridge tags :: after) →
    (∀ tag ∈ tags, ¬ IsCard aid tag) →
      Down final ∧ ∃ mid, after = mid ++ [.ended call (.error .unknownTag)] ∧
        ∀ event ∈ mid, event.isAside = true

variable {point last : Point} {session final : Session} {new : List SessionEvent}

/-- What must have come before a tag is connected, acknowledged or used. -/
def ComesAfterCheck (policy : Policy) (before : List SessionEvent) : SessionEvent → Prop
  | .connecting call bridge tag =>
    ∃ tags, [.taken call bridge tags] <:+ before ∧ FirstCard policy.aid tag tags
  | .acknowledged call => ∃ tag, [.connectEnded call tag none] <:+ before
  | .sent _ tag _ => ∃ bridge, Contacted before bridge tag
  | _ => True

theorem Reached.comesAfterCheck (reached : Reached point session) :
    Along (ComesAfterCheck session.policy) [] session.history := by
  refine Reached.along_policy ?_ reached
  intro between middle next before event reached moment
  cases event with
  | connecting call bridge tag =>
      obtain ⟨goal, tags, _, wallet, rfl⟩ := moment
      exact ⟨tags, List.suffix_append _ _, firstWallet?_eq_some.mp wallet⟩
  | acknowledged call =>
      obtain ⟨goal, bridge, tag, _, _, rfl⟩ := moment
      exact ⟨tag, List.suffix_append _ _⟩
  | sent call tag command =>
      obtain ⟨chain, rfl, _, rfl⟩ := moment
      obtain ⟨bridge, _, contacted⟩ := reached.contacted_of_sending
      rw [List.append_nil]
      exact ⟨bridge, contacted⟩
  | _ => trivial

/-- A connected tag is acknowledged by the same move. -/
theorem Sound.acknowledged (sound : Sound point session) (move : Move point session last final)
    (told : final.history = session.history ++ new) {call : CallId} {tag : Tag}
    (member : SessionEvent.connectEnded call tag none ∈ new) :
    new = [.connectEnded call tag none, .acknowledged call] := by
  have outside : point = .outside := by
    obtain ⟨events, grown, moments⟩ := sound.moments move
    rw [told, List.append_cancel_left_eq] at grown
    obtain ⟨mid, here, _⟩ := moments.of_mem (grown ▸ member)
    exact here
  have unasked : ∀ {events : List SessionEvent}, (∀ event ∈ events, event.isAside = true) →
      SessionEvent.connectEnded call tag none ∉ events := fun aside within => by
    cases aside _ within
  subst outside
  cases move with
  | desert | accept =>
      simp only [history_emit, List.append_assoc, List.append_cancel_left_eq] at told
      subst told
      obtain ⟨rfl, rfl⟩ : call = _ ∧ tag = _ := by simpa using member
      rfl
  | report bridge notice =>
      simp only [history_report, List.append_cancel_left_eq] at told
      exact absurd (told ▸ member) (unasked (isAside_reporting session bridge notice))
  | dropHanded | dropHolder =>
      simp only [history_emit, forget_fields, release_fields, shutDown_fields, List.append_assoc,
        List.append_cancel_left_eq] at told
      subst told
      simp [unasked (isAside_granted _), unasked (isAside_hangingUp session none)] at member
  | _ =>
      simp at told
      subst told
      simp at member

theorem Reached.acknowledged (reached : Reached point session) {before after : List SessionEvent}
    {call : CallId} {tag : Tag}
    (told : session.history = before ++ .connectEnded call tag none :: after) :
    [.acknowledged call] <+: after := by
  revert before after
  refine reached.induction (motive := fun _ session => ∀ {before after : List SessionEvent},
    session.history = before ++ .connectEnded call tag none :: after →
      [.acknowledged call] <+: after) ?_ ?_
  · intro policy before after impossible
    simp [initial] at impossible
  · intro point session last final reached ih move before after told
    obtain ⟨new, grown, _⟩ := reached.sound.moments move
    have recorded : ∀ {earlier : List SessionEvent},
        new = earlier ++ .connectEnded call tag none :: after → [.acknowledged call] <+: after := by
      intro earlier here
      have member : SessionEvent.connectEnded call tag none ∈ new := by simp [here]
      rw [reached.sound.acknowledged move grown member] at here
      rcases List.cons_eq_append_iff.mp here with ⟨rfl, same⟩ | ⟨others, rfl, rest⟩
      · injection same with _ same
        exact ⟨[], same.symm⟩
      · cases others <;> simp at rest
    rw [grown, List.append_eq_append_iff] at told
    rcases told with ⟨earlier, _, here⟩ | ⟨others, split, cut⟩
    · exact recorded here
    · rcases List.cons_eq_append_iff.mp cut with ⟨_, here⟩ | ⟨tail, rfl, rest⟩
      · exact @recorded [] here
      · rw [rest]
        exact (ih split).trans (List.prefix_append _ _)

theorem Reached.walletTagsOnly (reached : Reached point session) :
    WalletTagsOnly session.policy.aid session.history := by
  have comesAfterCheck := reached.comesAfterCheck
  refine ⟨fun before call bridge tag after told => comesAfterCheck.at told,
    fun before call tag after told => reached.acknowledged told,
    fun before call after told => comesAfterCheck.at told, ?_⟩
  intro before call tag command after told
  obtain ⟨bridge, contacted⟩ := comesAfterCheck.at told
  refine ⟨?_, bridge, contacted⟩
  -- The tag was connected, so it was the first card of a batch.
  obtain ⟨caller, start, road⟩ := contacted.connected
  have passed : SessionEvent.connecting caller bridge tag ∈ milestones before := by
    simp [← road]
  obtain ⟨earlier, later, split⟩ := List.append_of_mem (List.mem_filter.mp passed).1
  rw [split, List.append_assoc, List.cons_append] at told
  obtain ⟨tags, _, card, _⟩ := comesAfterCheck.at told
  exact card

/-- A call that takes a batch without a wallet card fails at once. -/
theorem Records.foreign {before after : List SessionEvent} {call : CallId} {bridge : BridgeId}
    {tags : List Tag} (reached : Reached point session)
    (records : Records point session final before (.taken call bridge tags) after)
    (unknown : firstWallet? session.policy.aid tags = none) :
    ∃ broken : Session, broken.phase ≠ .idle ∧ final = broken.fail call .unknownTag ∧
      broken.history = session.history ++ (before ++ [.taken call bridge tags]) := by
  obtain ⟨between, middle, next, result, first, mid, rest, later, moves, move, here, rfl, there,
    rfl, ends⟩ := records
  have sound := (reached.trans moves).sound
  obtain ⟨⟨goal, rfl⟩, rfl⟩ := sound.moment move there
  cases move with
  | foreign call goal bridge found present batch polled nobody =>
      simp only [history_emit, update_fields, List.nil_append, List.append_cancel_left_eq,
        List.cons.injEq, SessionEvent.taken.injEq, true_and] at there
      obtain ⟨rfl, rfl⟩ := there
      rcases ends with ⟨impossible, _⟩ | ⟨_, pass⟩
      · cases impossible
      · refine ⟨_, ?_, pass.of_failing, by simp [here]⟩
        have phase : middle.phase = goal.phase := sound.fits.1
        simp only [emit_fields, update_fields, phase]
        cases goal <;> simp [Goal.phase]
  | pick call goal bridge found present batch polled tag wallet =>
      simp only [park_fields, history_emit, update_fields, List.nil_append, List.append_assoc,
        List.append_cancel_left_eq, List.cons_append, List.cons.injEq, SessionEvent.taken.injEq,
        true_and] at there
      obtain ⟨rfl, _⟩ := there
      rw [policy_of_moves moves, unknown] at wallet
      cases wallet
  | report bridge notice hears => cases hears
  | _ => simp at there

theorem Reached.rejectsUnknown (reached : Reached .outside session) (stimulus : Stimulus) :
    RejectsUnknown session.policy.aid session (session.step stimulus) := by
  intro before call bridge tags after told foreign
  rcases step_pass session stimulus with same | pass
  · rw [same] at told
    simp at told
  · obtain ⟨broken, started, failed, here⟩ :=
      (pass.records reached told).foreign reached (firstWallet?_eq_none foreign)
    obtain ⟨mid, grown, aside⟩ := history_fail broken call .unknownTag
    rw [failed]
    refine ⟨down_fail started, mid, ?_, aside⟩
    rw [failed, grown, here] at told
    simpa using told.symm

/-- Under every run the radio connects only the first wallet card of the batch that was taken just
before, connected cards are acknowledged at once and no others are, commands go to the card that
was connected last, and a batch without a wallet card ends the session. -/
theorem run_wallet_tags_only (policy : Policy) (stimuli : List Stimulus) :
    WalletTagsOnly policy.aid ((initial policy).run stimuli).history ∧
      ∀ stimulus, RejectsUnknown policy.aid ((initial policy).run stimuli)
        (((initial policy).run stimuli).step stimulus) := by
  have reached := Reached.run policy stimuli
  have same : ((initial policy).run stimuli).policy = policy :=
    policy_of_moves (run_moves (initial policy) stimuli)
  refine ⟨?_, fun stimulus => ?_⟩
  · have walletTagsOnly := reached.walletTagsOnly
    rw [same] at walletTagsOnly
    exact walletTagsOnly
  · have rejectsUnknown := reached.rejectsUnknown stimulus
    rw [same] at rejectsUnknown
    exact rejectsUnknown

end Session

end Contactless
