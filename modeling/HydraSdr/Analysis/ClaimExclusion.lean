import HydraSdr.Analysis.StreamRuns

/-!
# The claim on the receiver is exclusive

At most one stream, or one unfinished cleanup of a stream, owns the receiver; while it does, the
device cannot be shut down, and a cleanup that fails ends the acquisition of claims for good.
-/

set_option autoImplicit false

namespace HydraSdr.Analysis.ClaimExclusion

open HydraSdr.Program HydraSdr.Computation HydraSdr.Analysis

variable {F : Type} {mode : SampleFormat}

/-- No claim can be acquired any more. -/
def Spent (session : Session) : Prop :=
  session.state.device = .opened → session.state.claim = .cleanupRequired

/-- A cleanup has failed. -/
def CleanupFailed (s : System F mode) : Prop :=
  ∃ stream, .cleanedUp stream .cleanupRequired ∈ s.history

theorem acquire_ok_iff (session : Session) :
    (∃ claim, (RxStreamClaim.acquire session).1 = .ok claim) ↔
      session.state.device = .opened ∧ session.state.claim = .available := by
  rcases acquire_cases session with ⟨hopen, havailable, hacquire⟩ | ⟨hnot, e, hacquire⟩
  · rw [hacquire]
    exact ⟨fun _ => ⟨hopen, havailable⟩, fun _ => ⟨_, rfl⟩⟩
  · rw [hacquire]
    exact ⟨fun ⟨_, h⟩ => (nomatch h), fun h => absurd h hnot⟩

theorem Spent.acquire {session : Session} (h : Spent session) (claim : RxStreamClaim) :
    (RxStreamClaim.acquire session).1 ≠ .ok claim := by
  intro hacquire
  obtain ⟨hopen, havailable⟩ := (acquire_ok_iff session).mp ⟨claim, hacquire⟩
  exact nomatch (h hopen).symm.trans havailable

/-- **A shutdown that begins while the claim is held** is refused in its first poll. -/
theorem shutdown_refused {w : DeviceWorld mode} (hopen : w.session.state.device = .opened)
    (hheld : w.session.state.claim = .held) (replies : List AnyReply) :
    (Flight.unpolled Session.shutdown.denote : DeviceFlight mode).poll DeviceWorld.port replies w =
      (.finished (.error .busy), w) := by
  have hbegin : w.session.beginShutdown = (.error .busy, w.session) := by
    unfold Session.beginShutdown
    rw [hopen, hheld]
    rfl
  have hadvance : Session.shutdown.denote.advance DeviceWorld.port w =
      (.finished (.error .busy), w) := by
    simp only [Session.shutdown, MaybeFuture.denote_andThen, MaybeFuture.denote_map,
      MaybeFuture.denote_ready, Resumption.bind_done, Resumption.bind_act, Resumption.advance,
      hbegin]
  show (Session.shutdown.denote.advance DeviceWorld.port w).1.resumeAll DeviceWorld.port replies
    (Session.shutdown.denote.advance DeviceWorld.port w).2 = _
  rw [hadvance, Progress.resumeAll_finished]

variable [SampleArithmetic F]

/-- A session stays spent. -/
theorem spent_effect {s s' : System F mode} (hinv : SystemInv s) (heffect : Effect s s')
    (h : Spent s.session) : Spent s'.session := by
  cases heffect with
  | device _ hshared _ _ _ =>
    intro hopen
    have hstate := hshared.opened hopen
    rw [hstate] at hopen ⊢
    exact h hopen
  | acquire hopen havailable _ _ _ _ => exact nomatch (h hopen).symm.trans havailable
  | stream hphase hsteps =>
    obtain ⟨receiver, hreceiver, _⟩ := hsteps
    obtain ⟨hheld, hopen⟩ := hinv.held_of_live (List.mem_of_getElem? hphase)
      (live_of_receiver hreceiver)
    exact nomatch (h hopen).symm.trans hheld

/-- A cleanup that fails has spent the session. -/
theorem cleanupFailed_effect {s s' : System F mode} (hinv : SystemInv s) (heffect : Effect s s')
    (h : CleanupFailed s → Spent s.session) : CleanupFailed s' → Spent s'.session := by
  rintro ⟨stream, hmem⟩
  have hold : .cleanedUp stream .cleanupRequired ∈ s.history → Spent s'.session :=
    fun hold => spent_effect hinv heffect (h ⟨stream, hold⟩)
  cases heffect with
  | device _ _ events hhistory hevents =>
    rw [hhistory] at hmem
    rcases List.mem_append.mp hmem with hmem | hmem
    · exact hold hmem
    · exact absurd (hevents _ hmem) id
  | acquire _ _ _ _ _ hhistory =>
    rw [hhistory] at hmem
    rcases List.mem_append.mp hmem with hmem | hmem
    · exact hold hmem
    · exact nomatch List.mem_singleton.mp hmem
  | @stream _ _ step _ hsteps =>
    rcases List.mem_append.mp hmem with hmem | hmem
    · exact hold hmem
    · obtain ⟨receiver, _, houtcome⟩ := hsteps
      cases houtcome with
      | kept _ _ _ _ _ hevents => exact nomatch hevents _ hmem
      | dropped _ _ _ _ _ _ hevents => exact nomatch (hevents _ hmem).choose_spec
      | released _ claim hsession _ _ _ _ _ hevents =>
        rcases hevents _ hmem with hevent | ⟨_, hevent⟩
        · intro _
          show step.session.state.claim = .cleanupRequired
          cases hevent
          rw [hsession]
          rfl
        · exact nomatch hevent

/-- **The stream claim is exclusive and blocks shutdown.** -/
theorem claim_exclusive {config : ValidConfig mode} {s : System F mode}
    (h : System.Reachable config s) :
    s.streams.countP StreamPhase.live ≤ 1 ∧
    (s.session.state.claim = .held ↔ s.streams.countP StreamPhase.live = 1) ∧
    (s.session.state.claim = .held → s.session.state.device = .opened) ∧
    ((∃ claim, (RxStreamClaim.acquire s.session).1 = .ok claim) ↔
      s.session.state.device = .opened ∧ s.session.state.claim = .available) ∧
    (s.session.state.claim = .held → ∀ config replies reply,
      s.panic = none → s.device = .operating config .shutdown (.unpolled Session.shutdown.denote) →
      s.step (.pollDevice replies) reply = { s with
        device := .idle config
        history := s.history ++ [.device .shutdown (.error .busy)] }) ∧
    (CleanupFailed s → ∀ s', Later s s' → ∀ claim,
      (RxStreamClaim.acquire s'.session).1 ≠ .ok claim) := by
  have hrun := reachable_inv h
  have hinv := hrun.system
  refine ⟨?_, ?_, hinv.held, acquire_ok_iff s.session, ?_, ?_⟩
  · rw [hinv.live]
    split <;> omega
  · rw [hinv.live]
    split <;> simp_all
  · intro hheld config replies reply hpanic hdevice
    have hended : s.ended = false := by
      by_contra hnot
      have howned := hrun.ended.mp ((Bool.not_eq_false _).mp hnot)
      rw [(owned_false_iff.mp howned).1] at hdevice
      exact nomatch hdevice
    have hpoll := @shutdown_refused _ (s.deviceWorld config) (hinv.held hheld) hheld replies
    have hact : s.act (.pollDevice replies) = { s with
        device := .idle config
        history := s.history ++ [.device .shutdown (.error .busy)] } := by
      show s.pollDevice replies = _
      unfold System.pollDevice
      rw [hdevice]
      dsimp only
      rw [hpoll]
      rfl
    unfold System.step
    rw [hact, hpanic, hended]
    rfl
  · intro hfailed s' hlater
    have hspent : Spent s.session :=
      @reachable_induct _ _ _ config (fun s => CleanupFailed s → Spent s.session)
        (fun ⟨_, hmem⟩ => absurd hmem List.not_mem_nil)
        (fun _ _ hinv _ heffect => cleanupFailed_effect hinv heffect) _ h hfailed
    exact (@later_induct _ _ _ config (fun s => Spent s.session) _ _ h
      (fun _ _ hinv _ heffect => spent_effect hinv heffect) hlater hspent).acquire

/-- A session with a stream. -/
def streamAcquired : System Rat .rawAdc :=
  System.after (ValidConfig.standard .rawAdc) (fun _ => obliging)
    [.pollDevice (List.replicate 16 obliging), .rxStream]

theorem streamAcquired_exclusive :
    streamAcquired.streams.countP StreamPhase.live = 1 ∧
      ∀ claim, (RxStreamClaim.acquire streamAcquired.session).1 ≠ .ok claim := by
  have hreachable : System.Reachable (ValidConfig.standard .rawAdc) streamAcquired :=
    System.reachable_after _ _ _
  obtain ⟨_, hheld, _, hacquire, _, _⟩ := claim_exclusive hreachable
  have hclaim : streamAcquired.session.state.claim = .held := by decide +kernel
  refine ⟨hheld.mp hclaim, fun claim hclaimed => ?_⟩
  exact nomatch hclaim.symm.trans (hacquire.mp ⟨claim, hclaimed⟩).2

end HydraSdr.Analysis.ClaimExclusion
