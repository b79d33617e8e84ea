import HydraSdr.Analysis.BoundedWaits

/-!
# Spurious polls

An executor may poll a future when nothing has happened, and may let several replies and completions
arrive before it polls again.  Neither makes a difference: a poll that leaves an operation pending
and is followed by another one is the poll that would have been given what has arrived for both.
-/

set_option autoImplicit false

namespace HydraSdr.Analysis.SpuriousPolls

open HydraSdr.Program HydraSdr.Computation HydraSdr.Analysis BoundedWaits
  PanicFreedom

variable {F : Type} {mode : SampleFormat}

/-! ## The device -/

/-- **The device may be polled as often as one likes.** -/
theorem pollDevice_again (s : System F mode) (first second : List AnyReply) :
    (s.pollDevice first).pollDevice second = s.pollDevice (first ++ second) := by
  unfold System.pollDevice
  cases hphase : s.device with
  | opening config flight =>
    dsimp only
    rw [Flight.poll_append]
    generalize flight.poll DeviceWorld.port first (s.deviceWorld config) = outcome
    obtain ⟨progress, w⟩ := outcome
    cases progress with
    | finished result =>
      rw [Flight.poll, Progress.resumeAll_finished]
      cases result with
      | ok value => rfl
      | error e => rfl
    | waiting ticket request next =>
      dsimp only [System.putDevice, System.deviceWorld]
      generalize (Flight.polled (.waiting ticket request next)).poll DeviceWorld.port second _ = outcome
      obtain ⟨progress, w'⟩ := outcome
      cases progress with
      | finished result => cases result <;> simp
      | waiting ticket request next => simp
  | operating config operation flight =>
    dsimp only
    rw [Flight.poll_append]
    generalize flight.poll DeviceWorld.port first (s.deviceWorld config) = outcome
    obtain ⟨progress, w⟩ := outcome
    cases progress with
    | finished result =>
      rw [Flight.poll, Progress.resumeAll_finished]
      rfl
    | waiting ticket request next =>
      dsimp only [System.putDevice, System.deviceWorld]
      generalize (Flight.polled (.waiting ticket request next)).poll DeviceWorld.port second _ = outcome
      obtain ⟨progress, w'⟩ := outcome
      cases progress with
      | finished result => simp
      | waiting ticket request next => simp
  | idle config => simp [hphase]
  | dropped => simp [hphase]

/-! ## Waits for a completion -/

/-- A fill that is pending has taken all completions, and goes on where it is. -/
theorem fillLoop_pending {early rest : List Arrival} {queue queue' : Queue}
    (h : Queue.fillLoop early queue = .ok (none, queue', rest)) :
    rest = [] ∧ queue'.current = queue.current ∧ queue'.currentLen = queue.currentLen ∧
      ∀ late, Queue.fillLoop (early ++ late) queue = Queue.fillLoop late queue' := by
  induction early generalizing queue with
  | nil =>
    obtain ⟨⟨turn, queue₁⟩, hturn, h⟩ := bind_ok h
    obtain ⟨rfl, ⟨rfl, _⟩ | ⟨rfl, _⟩⟩ := turn_none hturn
    · cases h
      exact ⟨rfl, rfl, rfl, fun _ => rfl⟩
    · exact nomatch h
  | cons arrival early ih =>
    obtain ⟨⟨turn, queue₁⟩, hturn, h⟩ := bind_ok h
    rcases turn_cases hturn with ⟨_, rfl, _⟩ | ⟨_, _, _, _, _, hcases⟩
    · exact nomatch h
    · cases turn with
      | waits => exact nomatch hcases
      | ends result => exact nomatch h
      | again =>
        obtain ⟨hrest, hcurrent, hlen, hagain⟩ := ih h
        refine ⟨hrest, ?_, ?_, fun late => ?_⟩
        · rw [hcurrent]
          cases hcases
          rfl
        · rw [hlen]
          cases hcases
          rfl
        · rw [← hagain late, List.cons_append, Queue.fillLoop, hturn]
          rfl

/-- There is nothing to release in a queue that has been released. -/
theorem releaseCurrent_released {queue : Queue} (hcurrent : queue.current = none)
    (hlen : queue.currentLen = 0) : queue.releaseCurrent = queue := by
  rw [releaseCurrent_of_none hcurrent, ← hlen]

theorem releaseCurrent_currentLen (queue : Queue) : queue.releaseCurrent.currentLen = 0 := by
  rcases releaseCurrent_cases queue with ⟨_, _, _, _, h⟩ | ⟨_, h⟩
  · rw [h]
  · rw [h]

variable [SampleArithmetic F]

/-- A poll for the next block that is pending has only released the last block and dropped
completions from before a restart; the next poll goes on from there. -/
theorem pollNextBlock_again {w w' : StreamWorld F .rawAdc} {early rest : List Arrival}
    (h : Receiver.pollNextBlock w early = .ok (none, w', rest)) :
    rest = [] ∧ Receiver.packingChanged w' = Receiver.packingChanged w ∧
      ∀ late, Receiver.pollNextBlock w' late = Receiver.pollNextBlock w (early ++ late) := by
  have hpolls := pollNextBlock_fill w
  cases hfill : blockFill w with
  | none =>
    rw [hfill] at hpolls
    obtain ⟨e, hpoll⟩ := hpolls
    exact nomatch (hpoll early).symm.trans h
  | some filled =>
    rw [hfill] at hpolls
    have hpoll := hpolls early
    obtain ⟨hstate, queue, hqueue, rfl⟩ := blockFill_some hfill
    obtain ⟨⟨result, queue', rest'⟩, hloop, hsame⟩ := map_ok (hpoll.symm.trans h)
    obtain ⟨rfl, hsame⟩ := Prod.mk.inj hsame
    obtain ⟨rfl, rfl⟩ := Prod.mk.inj hsame
    obtain ⟨hrest, hcurrent, hlen, hagain⟩ := fillLoop_pending hloop
    have hreleased : queue'.releaseCurrent = queue' :=
      releaseCurrent_released (hcurrent.trans (releaseCurrent_current queue))
        (hlen.trans (releaseCurrent_currentLen queue))
    have hfree : queue'.current = none := hcurrent.trans (releaseCurrent_current queue)
    have hqueue' : (afterFill none queue' w).receiver.queue = some queue' := rfl
    have hrunning : w.receiver.ensureRunning = .ok () := if_pos hstate
    have hrunning' : (afterFill none queue' w).receiver.ensureRunning = .ok () := hrunning
    refine ⟨hrest, ?_, fun late => ?_⟩
    · unfold Receiver.packingChanged
      rw [hqueue', hqueue]
      exact congrArg (fun settings : ReceiveSettings => settings.packing != w.session.receive.packing)
        ((fillLoop_settings hloop).trans (releaseCurrent_settings queue))
    · unfold Receiver.pollNextBlock Queue.pollFill
      rw [hrunning, hrunning', hqueue', hqueue]
      dsimp only
      rw [hreleased, hfree, releaseCurrent_current]
      dsimp only
      rw [hagain late]
      rfl

theorem fill_again {waiting last future : NextBlockFuture F} {w w' : StreamWorld F .rawAdc}
    {early rest : List Arrival}
    (h : NextBlockFuture.fill waiting last w early = .ok (none, future, w', rest)) :
    future = waiting ∧ rest = [] ∧ Receiver.packingChanged w' = Receiver.packingChanged w ∧
      ∀ late, NextBlockFuture.fill waiting last w' late =
        NextBlockFuture.fill waiting last w (early ++ late) := by
  obtain ⟨⟨filled, w₁, rest₁⟩, hpoll, h⟩ := bind_ok h
  match filled, hpoll, h with
  | none, hpoll, h =>
    cases h
    obtain ⟨hrest, hchanged, hagain⟩ := pollNextBlock_again hpoll
    refine ⟨rfl, hrest, hchanged, fun late => ?_⟩
    unfold NextBlockFuture.fill
    rw [hagain]
  | some (.error e), _, h => exact nomatch h
  | some (.ok _), _, h =>
    obtain ⟨block, _, h⟩ := bind_ok h
    exact nomatch h

/-! ## Futures -/

/-- The completions that a future has not taken: one that waits for a reply has taken none. -/
def untaken (future : NextBlockFuture F) (early : List Arrival) : List Arrival :=
  match future with
  | .restarting _ => early
  | _ => []

/-- A restart that is pending goes on where it is. -/
theorem restart_again {outcome : StreamProgress F .rawAdc (Result Unit) × StreamWorld F .rawAdc}
    {future : NextBlockFuture F} {w' : StreamWorld F .rawAdc} {early rest : List Arrival}
    (h : NextBlockFuture.restart outcome.1 outcome.2 early = .ok (none, future, w', rest))
    (replies : List AnyReply) (late : List Arrival) :
    future.poll w' replies (untaken future early ++ late) =
      NextBlockFuture.restart (outcome.1.resumeAll StreamWorld.port replies outcome.2).1
        (outcome.1.resumeAll StreamWorld.port replies outcome.2).2 (early ++ late) := by
  obtain ⟨progress, w⟩ := outcome
  match progress, h with
  | .waiting ticket request next, h =>
    cases h
    rfl
  | .finished (.error e), h => exact nomatch h
  | .finished (.ok _), h =>
    obtain ⟨rfl, _, _, hagain⟩ := fill_again h
    rw [Progress.resumeAll_finished]
    exact hagain late

/-- **A next-block future may be polled as often as one likes** while it is pending. -/
theorem futurePoll_again {future future' : NextBlockFuture F} {w w' : StreamWorld F .rawAdc}
    {first : List AnyReply} {early rest : List Arrival}
    (h : future.poll w first early = .ok (none, future', w', rest)) (second : List AnyReply)
    (late : List Arrival) :
    future'.poll w' second (untaken future' early ++ late) =
      future.poll w (first ++ second) (early ++ late) := by
  cases future with
  | direct =>
    unfold NextBlockFuture.poll at h
    dsimp only at h
    by_cases hchanged : Receiver.packingChanged w = true
    · rw [if_pos hchanged] at h
      rw [restart_again h second late]
      conv => rhs; unfold NextBlockFuture.poll
      dsimp only
      rw [if_pos hchanged, NextBlockFuture.beginRestart, NextBlockFuture.beginRestart,
        Flight.poll_append]
      rfl
    · rw [if_neg hchanged] at h
      obtain ⟨rfl, _, hsame, hagain⟩ := fill_again h
      unfold NextBlockFuture.poll
      dsimp only
      rw [hsame, if_neg hchanged, if_neg hchanged]
      exact hagain late
  | restarting progress =>
    rw [restart_again h second late, ← Progress.resumeAll_append]
    rfl
  | filling =>
    obtain ⟨rfl, _, _, hagain⟩ := fill_again h
    exact hagain late
  | completed => exact nomatch h
  | returned => exact nomatch h

/-- A read that has begun begins the same way again: a changed decimation factor is adopted once. -/
theorem beginRead_again {w : StreamWorld F .f32Iq} {queue : Queue}
    (hstate : w.receiver.claim.receiver = .running) (hqueue : w.receiver.queue = some queue)
    (hsame : queue.settings.decimation = w.session.receive.decimation) :
    Receiver.beginRead w = (.ok (), w) := by
  have hrunning : w.receiver.ensureRunning = .ok () := if_pos hstate
  unfold Receiver.beginRead
  rw [hrunning, hqueue]
  exact if_neg (not_not.mpr hsame)

/-- **A read may be polled as often as one likes** while it is pending. -/
theorem pollRead_again {w w' : StreamWorld F .f32Iq} {room : ℕ} {early rest : List Arrival}
    (h : Receiver.pollRead w room early = .ok (none, w', rest)) (late : List Arrival) :
    Receiver.pollRead w' room late = Receiver.pollRead w room (early ++ late) := by
  cases pollRead_cases h with
  | @begun w₁ _ queue _ _ hbegin hqueue hread =>
    cases hread with
    | @pending queue' _ hroom hcurrent hcarried hfill =>
      obtain ⟨_, hcurrent', _, hagain⟩ := fillLoop_pending hfill
      have hbegin' : Receiver.beginRead (w₁.setQueue queue') = (.ok (), w₁.setQueue queue') := by
        obtain ⟨hstate, before, hbefore, ⟨_, rfl⟩ | ⟨hsame, rfl⟩⟩ := beginRead_ok hbegin
        · obtain rfl := Option.some.inj hqueue
          refine beginRead_again hstate rfl ?_
          rw [fillLoop_settings hfill]
          rfl
        · obtain rfl := Option.some.inj (hqueue.symm.trans hbefore)
          refine beginRead_again hstate rfl ?_
          rw [fillLoop_settings hfill]
          exact hsame
      have hwhole := pollRead_fills hbegin hqueue hroom hcurrent hcarried (early ++ late)
      have hrest := pollRead_fills hbegin' rfl hroom (hcurrent'.trans hcurrent) hcarried late
      cases hlate : Queue.fillLoop late queue' with
      | error panic => rw [hrest.panic _ hlate, hwhole.panic _ ((hagain late).trans hlate)]
      | ok filled =>
        obtain ⟨result, last, left⟩ := filled
        have hearly := (hagain late).trans hlate
        match result, hlate, hearly with
        | none, hlate, hearly => rw [hrest.pending _ _ hlate, hwhole.pending _ _ hearly]; rfl
        | some (.error e), hlate, hearly =>
          rw [hrest.rejected _ _ _ hlate, hwhole.rejected _ _ _ hearly]
          rfl
        | some (.ok ()), hlate, hearly =>
          rw [hrest.filled _ _ hlate, hwhole.filled _ _ hearly]
          rfl

/-- **A read future may be polled as often as one likes** while it is pending. -/
theorem readOperation_pending {operation operation' : ReadOperation} {w w' : StreamWorld F .f32Iq}
    {early rest : List Arrival}
    (h : operation.poll w early = .ok (none, operation', w', rest)) (late : List Arrival) :
    operation' = operation ∧ operation.poll w' late = operation.poll w (early ++ late) := by
  obtain ⟨hgoes, rfl, hread⟩ := readOperation_ok h
  have hsame : afterRead operation (none : Option (Result (List (Complex F)))) = operation := by
    unfold afterRead
    rw [Option.isSome_none, ← hgoes]
  refine ⟨hsame, ?_⟩
  rw [readOperation_poll hgoes, readOperation_poll hgoes, pollRead_again hread late]

/-! ## Streams -/

/-- The completions that a stream has not taken: one that waits for a reply has taken none. -/
def untakenBy (phase : StreamPhase F mode) (early : List Arrival) : List Arrival :=
  if stage phase = 0 then [] else early

/-- What the first of two polls leaves the host state of a stream as. -/
def viewAfter (step : StreamStep F mode) (receiver : Receiver F mode) : StreamWorld F mode :=
  ⟨step.session, step.wire, receiver, step.panic⟩

/-- **A stream may be polled as often as one likes** while it is pending. -/
theorem poll_again {phase : StreamPhase F mode} {stream : ℕ} {first second : List AnyReply}
    {early late : List Arrival} {view : Receiver F mode → StreamWorld F mode}
    {step whole : StreamStep F mode} (hfirst : phase.poll stream first early view = some step)
    (hpanic : step.panic = none) (hquiet : step.events = [])
    (hwhole : phase.poll stream (first ++ second) (early ++ late) view = some whole)
    (hpanic' : whole.panic = none) :
    step.phase.live = true ∧
      step.phase.poll stream second (untakenBy step.phase early ++ late) (viewAfter step) =
        some whole := by
  cases phase with
  | operating receiver found call flight =>
    obtain rfl := Option.some.inj hfirst
    obtain ⟨made, hmade⟩ := ofChecked_ok hpanic
    obtain rfl := Option.some.inj hwhole
    obtain ⟨made', hmade'⟩ := ofChecked_ok hpanic'
    rw [hmade] at hquiet ⊢
    rw [Flight.poll_append] at hmade' ⊢
    rw [hmade']
    generalize flight.poll StreamWorld.port first (view receiver) = outcome at hmade hmade'
    obtain ⟨progress, w⟩ := outcome
    cases progress with
    | finished result =>
      obtain ⟨event, hevent⟩ := finishCall_reports hmade
      exact nomatch hquiet.symm.trans hevent
    | waiting ticket request next =>
      cases hmade
      refine ⟨rfl, ?_⟩
      show some (StreamStep.ofChecked w _ (StreamPhase.pollCall _ _ (early ++ late) _ _)) = _
      exact congrArg (fun step => some (StreamStep.ofChecked w _ step)) hmade'
  | reading receiver future =>
    obtain rfl := Option.some.inj hfirst
    obtain ⟨made, hmade⟩ := ofChecked_ok hpanic
    obtain rfl := Option.some.inj hwhole
    obtain ⟨made', hmade'⟩ := ofChecked_ok hpanic'
    rw [hmade] at hquiet ⊢
    rw [hmade']
    obtain ⟨⟨polled, future', w', rest⟩, hpoll, rfl⟩ := map_ok hmade
    cases polled with
    | some result => exact nomatch hquiet
    | none =>
      refine ⟨rfl, ?_⟩
      rw [← futurePoll_again hpoll second late] at hmade'
      have huntaken : untakenBy (.reading w'.receiver future') early = untaken future' early := by
        cases future' <;> rfl
      show some (StreamStep.ofChecked w' _ ((future'.poll w' second
        (untakenBy (.reading w'.receiver future') early ++ late)).map _)) = _
      rw [huntaken]
      exact congrArg (fun step => some (StreamStep.ofChecked w' _ step)) hmade'
  | awaiting receiver operation =>
    obtain rfl := Option.some.inj hfirst
    obtain ⟨made, hmade⟩ := ofChecked_ok hpanic
    obtain rfl := Option.some.inj hwhole
    obtain ⟨made', hmade'⟩ := ofChecked_ok hpanic'
    rw [hmade] at hquiet ⊢
    rw [hmade']
    obtain ⟨⟨polled, operation', w', rest⟩, hpoll, rfl⟩ := map_ok hmade
    cases polled with
    | some result => exact nomatch hquiet
    | none =>
      refine ⟨rfl, ?_⟩
      obtain ⟨rfl, hagain⟩ := readOperation_pending hpoll late
      rw [← hagain] at hmade'
      exact congrArg (fun step => some (StreamStep.ofChecked w' _ step)) hmade'
  | cleaning receiver flight =>
    obtain rfl := Option.some.inj hfirst
    obtain rfl := Option.some.inj hwhole
    rw [Flight.poll_append]
    generalize flight.poll StreamWorld.port first (view receiver) = outcome at hquiet ⊢
    obtain ⟨progress, w⟩ := outcome
    cases progress with
    | finished value => exact nomatch hquiet
    | waiting ticket request next => exact ⟨rfl, rfl⟩
  | idle receiver => exact nomatch hfirst
  | gone => exact nomatch hfirst

/-! ## Every poll -/

omit [SampleArithmetic F] in
/-- A step that reports nothing is overwritten by the next one. -/
theorem putStream_again {s : System F mode} {stream : ℕ} {step made : StreamStep F mode}
    (hquiet : step.events = []) :
    (s.putStream stream step).putStream stream made = s.putStream stream made := by
  unfold System.putStream
  rw [hquiet, List.append_nil, List.set_set]

omit [SampleArithmetic F] in
/-- Two uses of a stream of which the first one reports nothing and the second one goes on from
it. -/
theorem onStream_again {s : System F mode} {stream : ℕ} {phase : StreamPhase F mode}
    (hphase : s.streams[stream]? = some phase) {first second whole :
      StreamPhase F mode → (Receiver F mode → StreamWorld F mode) → Option (StreamStep F mode)}
    {step made : StreamStep F mode} (hfirst : first phase s.streamWorld = some step)
    (hquiet : step.events = []) (hsecond : second step.phase (viewAfter step) = some made)
    (hwhole : whole phase s.streamWorld = some made) :
    (s.onStream stream first).onStream stream second = s.onStream stream whole := by
  have hagain : (s.putStream stream step).streams[stream]? = some step.phase :=
    List.getElem?_set_self (List.getElem?_eq_some_iff.mp hphase).1
  have hview : (s.putStream stream step).streamWorld = viewAfter step := rfl
  rw [onStream_some hphase, onStream_some hphase, hfirst, hwhole, Option.elim_some,
    Option.elim_some, onStream_some hagain, hview, hsecond]
  exact putStream_again hquiet

/-- A step of a session that goes on. -/
theorem step_of_running {s : System F mode} (hgoes : s.panic = none ∧ s.ended = false)
    (action : Action mode) (reply : ℕ → AnyReply) :
    s.step action reply = if (s.act action).owned || (s.act action).panic.isSome then s.act action
      else (s.act action).dropSession reply := by
  unfold System.step
  rw [hgoes.1, hgoes.2]
  rfl

/-- Two actions that amount to a third one, as steps: where the first one ends the session, the
second one has nothing left to do. -/
theorem step_again {s : System F mode} {first second whole : Action mode}
    (hwhole : (s.act first).act second = s.act whole)
    (hstops : (s.act first).owned = false ∨ (s.act first).panic.isSome = true →
      (s.act first).act second = s.act first) (reply : ℕ → AnyReply) :
    (s.step first reply).step second reply = s.step whole reply := by
  by_cases hgoes : s.panic = none ∧ s.ended = false
  · rw [step_of_running hgoes, step_of_running hgoes, ← hwhole]
    cases hpanic : (s.act first).panic with
    | some panic =>
      have hover : ¬((s.act first).panic = none ∧ (s.act first).ended = false) := by simp [hpanic]
      rw [hstops (.inr (by rw [hpanic]; rfl)), hpanic, Option.isSome_some, Bool.or_true, if_pos rfl,
        step_of_over hover]
    | none =>
      rw [Option.isSome_none, Bool.or_false]
      cases howned : (s.act first).owned with
      | true =>
        rw [if_pos rfl, step_of_running ⟨hpanic, (act_ended s first).trans hgoes.2⟩]
      | false =>
        have hover : ¬(((s.act first).dropSession reply).panic = none ∧
            ((s.act first).dropSession reply).ended = false) := by
          rw [show ((s.act first).dropSession reply).ended = true by
            unfold System.dropSession; split <;> rfl]
          exact fun h => nomatch h.2
        rw [hstops (.inl howned), howned, hpanic, if_neg Bool.false_ne_true, step_of_over hover]
        rfl
  · rw [step_of_over hgoes, step_of_over hgoes, step_of_over hgoes]

/-! ## Batches -/

/-- Two polls that amount to a third one in the state `s`: the polls of the device always, those of
a stream if the first one is pending. -/
inductive Splits (reply : ℕ → AnyReply) : {mode : SampleFormat} → System F mode → Action mode →
    Action mode → Action mode → Prop
  | device {mode : SampleFormat} {s : System F mode} (first second : List AnyReply) :
      Splits reply s (.pollDevice first) (.pollDevice second) (.pollDevice (first ++ second))
  | stream {mode : SampleFormat} {s : System F mode} (stream : ℕ) (first second : List AnyReply)
      (early late : List Arrival) {phase : StreamPhase F mode}
      (hphase : (s.step (.pollStream stream first early) reply).streams[stream]? = some phase)
      (hpending : (s.step (.pollStream stream first early) reply).history = s.history) :
      Splits reply s (.pollStream stream first early)
        (.pollStream stream second (untakenBy phase early ++ late))
        (.pollStream stream (first ++ second) (early ++ late))
  | read {s : System F .f32Iq} (stream room : ℕ) (early late : List Arrival)
      (hpending : (s.step (.pollRead stream room early) reply).history = s.history) :
      Splits reply s (.pollRead stream room early) (.pollRead stream room late)
        (.pollRead stream room (early ++ late))

omit [SampleArithmetic F] in
/-- A step of a stream that reports nothing has no event. -/
theorem quiet_step {s : System F mode} {stream : ℕ} {step : StreamStep F mode}
    (h : (s.putStream stream step).history = s.history) : step.events = [] := by
  rwa [System.putStream, List.append_right_eq_self] at h

omit [SampleArithmetic F] in
theorem owned_of_live {s : System F mode} {stream : ℕ} {phase : StreamPhase F mode}
    (hphase : s.streams[stream]? = some phase) (hlive : phase.live = true) : s.owned ≠ false :=
  fun h => (owned_false_iff.mp h).2 phase (List.mem_of_getElem? hphase) hlive

/-- A poll of the device that is pending and the next one. -/
theorem device_again {s : System F mode} (hinv : SystemInv s) (hpanic : s.panic = none)
    (reply : ℕ → AnyReply) (first second : List AnyReply) :
    (s.step (.pollDevice first) reply).step (.pollDevice second) reply =
      s.step (.pollDevice (first ++ second)) reply := by
  have hwhole : (s.act (.pollDevice first)).act (.pollDevice second) =
      s.act (.pollDevice (first ++ second)) := pollDevice_again s first second
  refine step_again hwhole ?_ reply
  rintro (howned | hpanicked)
  · show (s.act (.pollDevice first)).pollDevice second = _
    unfold System.pollDevice
    rw [(owned_false_iff.mp howned).1]
  · rw [show (s.act (.pollDevice first)).panic = s.panic from pollDevice_panic hinv first,
      hpanic] at hpanicked
    exact nomatch hpanicked

/-- Whether a stream has anything to poll does not depend on what it is polled with. -/
theorem poll_none {phase : StreamPhase F mode} {stream : ℕ} {first : List AnyReply}
    {early : List Arrival} {view : Receiver F mode → StreamWorld F mode}
    (h : phase.poll stream first early view = none) (second : List AnyReply) (late : List Arrival) :
    phase.poll stream second late view = none := by
  cases phase with
  | idle receiver => rfl
  | gone => rfl
  | operating receiver found call flight => exact nomatch h
  | reading receiver future => exact nomatch h
  | awaiting receiver operation => exact nomatch h
  | cleaning receiver flight => exact nomatch h

/-- A future that has returned does not look at what it is polled with. -/
theorem poll_usedUp {phase : StreamPhase F mode} {panic : Panic}
    (h : usedUpPanic phase = some panic) {stream : ℕ} {first second : List AnyReply}
    {early late : List Arrival} {view : Receiver F mode → StreamWorld F mode} :
    phase.poll stream first early view = phase.poll stream second late view := by
  cases phase with
  | reading receiver future =>
    cases future with
    | completed => rfl
    | returned => rfl
    | direct => exact nomatch h
    | restarting progress => exact nomatch h
    | filling => exact nomatch h
  | awaiting receiver operation =>
    obtain ⟨room, completed⟩ := operation
    cases completed with
    | true => rfl
    | false => exact nomatch h
  | operating receiver found call flight => exact nomatch h
  | cleaning receiver flight => exact nomatch h
  | idle receiver => exact nomatch h
  | gone => exact nomatch h

/-- A poll of a stream that is pending and the next one. -/
theorem stream_again {config : ValidConfig mode} {s : System F mode}
    (h : System.Reachable config s) (hgoes : s.panic = none ∧ s.ended = false)
    {reply : ℕ → AnyReply} {stream : ℕ} {first : List AnyReply} {early : List Arrival}
    {phase : StreamPhase F mode}
    (hphase : (s.step (.pollStream stream first early) reply).streams[stream]? = some phase)
    (hpending : (s.step (.pollStream stream first early) reply).history = s.history)
    (second : List AnyReply) (late : List Arrival) :
    (s.step (.pollStream stream first early) reply).step
        (.pollStream stream second (untakenBy phase early ++ late)) reply =
      s.step (.pollStream stream (first ++ second) (early ++ late)) reply := by
  obtain ⟨hstreams, hhistory, _⟩ := step_streams hgoes.1 hgoes.2 (.pollStream stream first early) reply
  rw [hstreams] at hphase
  rw [hhistory] at hpending
  have hact : ∀ before, s.streams[stream]? = some before → ∀ replies arrivals,
      s.act (.pollStream stream replies arrivals) =
        (before.poll stream replies arrivals s.streamWorld).elim s fun step =>
          s.putStream stream step :=
    fun before hbefore replies arrivals => onStream_some hbefore _
  have hpanics : ∀ before, s.streams[stream]? = some before → ∀ replies arrivals,
      (s.act (.pollStream stream replies arrivals)).panic = usedUpPanic before := by
    intro before hbefore replies arrivals
    rw [act_panic h hgoes.1, actionPanic, hbefore]
    rfl
  cases hbefore : s.streams[stream]? with
  | none =>
    have hnothing : ∀ replies arrivals, s.act (.pollStream stream replies arrivals) = s :=
      fun replies arrivals => onStream_none hbefore _
    refine step_again ?_ (fun _ => ?_) reply
    · rw [hnothing, hnothing, hnothing]
    · rw [hnothing, hnothing]
  | some before =>
    cases hused : usedUpPanic before with
    | some panic =>
      -- a future that has returned panics, whatever it is polled with
      have hsame : ∀ replies arrivals, s.act (.pollStream stream replies arrivals) =
          s.act (.pollStream stream first early) := by
        intro replies arrivals
        rw [hact before hbefore, hact before hbefore]
        exact congrArg (fun step : Option (StreamStep F mode) => step.elim s fun step =>
          s.putStream stream step) (poll_usedUp hused)
      have hpanicked := (step_panic h hgoes.1 hgoes.2 (.pollStream stream first early) reply)
      rw [actionPanic, hbefore, Option.bind_some, hused] at hpanicked
      have hover : ¬((s.step (.pollStream stream first early) reply).panic = none ∧
          (s.step (.pollStream stream first early) reply).ended = false) :=
        fun hgoes' => Option.some_ne_none _ (hpanicked.symm.trans hgoes'.1)
      rw [step_of_over hover, step_of_running hgoes, step_of_running hgoes, hsame (first ++ second)]
    | none =>
      cases hfirst : before.poll stream first early s.streamWorld with
      | none =>
        have hnothing : ∀ replies arrivals, s.act (.pollStream stream replies arrivals) = s := by
          intro replies arrivals
          rw [hact before hbefore, poll_none hfirst replies arrivals]
          rfl
        refine step_again ?_ (fun _ => ?_) reply
        · rw [hnothing, hnothing, hnothing]
        · rw [hnothing, hnothing]
      | some step =>
        have hmade : ∀ replies arrivals (made : StreamStep F mode),
            before.poll stream replies arrivals s.streamWorld = some made → made.panic = none := by
          intro replies arrivals made hpoll
          have hpanic := hpanics before hbefore replies arrivals
          rw [hact before hbefore, hpoll, hused] at hpanic
          exact hpanic
        rw [hact before hbefore, hfirst] at hphase hpending
        have hquiet := quiet_step hpending
        obtain rfl : step.phase = phase := Option.some.inj
          ((List.getElem?_set_self (List.getElem?_eq_some_iff.mp hbefore).1).symm.trans hphase)
        obtain ⟨whole, hwhole⟩ : ∃ whole, before.poll stream (first ++ second) (early ++ late)
            s.streamWorld = some whole := by
          apply Option.ne_none_iff_exists'.mp
          intro hnone
          rw [poll_none hnone first early] at hfirst
          exact Option.some_ne_none step hfirst.symm
        obtain ⟨hlive, hagain⟩ := poll_again hfirst (hmade _ _ _ hfirst) hquiet hwhole
          (hmade _ _ _ hwhole)
        have hmerged : (s.act (.pollStream stream first early)).act
            (.pollStream stream second (untakenBy step.phase early ++ late)) =
              s.act (.pollStream stream (first ++ second) (early ++ late)) :=
          onStream_again hbefore hfirst hquiet hagain hwhole
        refine step_again hmerged ?_ reply
        rw [hact before hbefore, hfirst]
        rintro (howned | hpanicked)
        · exact absurd howned (owned_of_live hphase hlive)
        · rw [Option.elim_some, show (s.putStream stream step).panic = none from
            hmade _ _ _ hfirst] at hpanicked
          exact absurd hpanicked Bool.false_ne_true

/-- A poll of a read that is pending and the next one. -/
theorem read_again {config : ValidConfig .f32Iq} {s : System F .f32Iq}
    (h : System.Reachable config s) (hgoes : s.panic = none ∧ s.ended = false)
    {reply : ℕ → AnyReply} {stream room : ℕ} {early : List Arrival}
    (hpending : (s.step (.pollRead stream room early) reply).history = s.history)
    (late : List Arrival) :
    (s.step (.pollRead stream room early) reply).step (.pollRead stream room late) reply =
      s.step (.pollRead stream room (early ++ late)) reply := by
  rw [(step_streams hgoes.1 hgoes.2 _ reply).2.1] at hpending
  by_cases hidle : ∃ receiver, s.streams[stream]? = some (.idle receiver)
  · obtain ⟨receiver, hphase⟩ := hidle
    obtain ⟨polled, w', rest, hread, hpanic⟩ := read_ok h hphase room early
    have hact := act_pollRead hphase hread
    rw [hact] at hpending
    cases polled with
    | some result => exact nomatch quiet_step hpending
    | none =>
      have hmerged : (s.act (.pollRead stream room early)).act (.pollRead stream room late) =
          s.act (.pollRead stream room (early ++ late)) := by
        obtain ⟨polled', w'', rest', hread', _⟩ := read_ok h hphase room (early ++ late)
        have hpolled : (s.putStream stream (.of w' (.idle w'.receiver) [])).streams[stream]? =
            some (.idle w'.receiver) :=
          List.getElem?_set_self (List.getElem?_eq_some_iff.mp hphase).1
        have hagain : Receiver.pollRead ((s.putStream stream (.of w' (.idle w'.receiver) [])).streamWorld
            w'.receiver) room late = .ok (polled', w'', rest') :=
          (pollRead_again hread late).trans hread'
        rw [act_pollRead hphase hread', hact]
        exact (act_pollRead hpolled hagain).trans (putStream_again rfl)
      refine step_again hmerged ?_ reply
      rw [hact]
      rintro (howned | hpanicked)
      · exact absurd howned (owned_of_live
          (List.getElem?_set_self (List.getElem?_eq_some_iff.mp hphase).1) rfl)
      · rw [show (s.putStream stream _).panic = w'.panic from rfl, hpanic, hgoes.1] at hpanicked
        exact nomatch hpanicked
  · have hnothing : ∀ arrivals, s.act (.pollRead stream room arrivals) = s := by
      intro arrivals
      cases hphase : s.streams[stream]? with
      | none => exact onStream_none hphase _
      | some phase =>
        refine (onStream_some hphase _).trans ?_
        cases phase with
        | idle receiver => exact absurd ⟨receiver, hphase⟩ hidle
        | operating receiver found call flight => rfl
        | awaiting receiver operation => rfl
        | cleaning receiver flight => rfl
        | gone => rfl
    refine step_again ?_ (fun _ => ?_) reply
    · rw [hnothing, hnothing, hnothing]
    · rw [hnothing, hnothing]

/-- **A poll that is pending and the next one are one poll.** -/
theorem splits_step {config : ValidConfig mode} {s : System F mode} (h : System.Reachable config s)
    {reply : ℕ → AnyReply} {first second whole : Action mode}
    (hsplits : Splits reply s first second whole) :
    (s.step first reply).step second reply = s.step whole reply := by
  by_cases hgoes : s.panic = none ∧ s.ended = false
  · cases hsplits with
    | device first second => exact device_again (reachable_inv h).system hgoes.1 reply first second
    | stream stream first second early late hphase hpending =>
      exact stream_again h hgoes hphase hpending second late
    | read stream room early late hpending => exact read_again h hgoes hpending late
  · rw [step_of_over hgoes, step_of_over hgoes, step_of_over hgoes]

/-- A run of which another one makes the same with fewer polls. -/
inductive Batches (reply : ℕ → AnyReply) : System F mode → List (Action mode) →
    List (Action mode) → Prop
  | done {s : System F mode} : Batches reply s [] []
  | same {s : System F mode} {action : Action mode} {actions batched : List (Action mode)}
      (h : Batches reply (s.step action reply) actions batched) :
      Batches reply s (action :: actions) (action :: batched)
  | merged {s : System F mode} {first second whole : Action mode}
      {actions batched : List (Action mode)} (hsplits : Splits reply s first second whole)
      (h : Batches reply s (whole :: actions) batched) :
      Batches reply s (first :: second :: actions) batched

/-- The rest of a run from a state. -/
theorem batches_from {config : ValidConfig mode} {reply : ℕ → AnyReply} {s : System F mode}
    {actions batched : List (Action mode)} (hbatches : Batches reply s actions batched)
    (h : System.Reachable config s) :
    actions.foldl (fun s action => s.step action reply) s =
      batched.foldl (fun s action => s.step action reply) s := by
  induction hbatches with
  | done => rfl
  | same _ ih => exact ih (h.step _ _)
  | merged hsplits _ ih =>
    rw [← ih h, List.foldl_cons, List.foldl_cons, List.foldl_cons, splits_step h hsplits]

/-- **How an executor batches its polls cannot be observed.**  Take any run of the driver in which
the device, a stream or a read is polled while it stays pending, or with only some of the replies
and completions that have arrived, and leave such polls out: give what they were given to the next
poll of the same thing.  The session, the wire, the streams with their queues and converters, and
everything that callers have been told are the same in the end. -/
theorem batching_unobservable {config : ValidConfig mode} {reply : ℕ → AnyReply}
    {actions batched : List (Action mode)}
    (h : Batches reply (System.initial config : System F mode) actions batched) :
    (System.after config reply actions : System F mode) = System.after config reply batched :=
  batches_from h .initial

/-- A raw session whose stream is about to be started. -/
def startingSession : System Rat .rawAdc :=
  System.after (ValidConfig.standard .rawAdc) (fun _ => obliging)
    [.pollDevice (List.replicate 16 obliging), .rxStream, .callStream 0 .start]

theorem startingSession_batched :
    (System.after (ValidConfig.standard .rawAdc) (fun _ => obliging)
      [.pollDevice [obliging], .pollDevice (List.replicate 15 obliging), .rxStream,
        .callStream 0 .start, .pollStream 0 [obliging] [], .pollStream 0 [obliging, obliging] []] :
        System Rat .rawAdc) =
    System.after (ValidConfig.standard .rawAdc) (fun _ => obliging)
      [.pollDevice (List.replicate 16 obliging), .rxStream, .callStream 0 .start,
        .pollStream 0 [obliging, obliging, obliging] []] := by
  have hreachable : System.Reachable (ValidConfig.standard .rawAdc) startingSession :=
    System.reachable_after _ _ _
  have hpanic : startingSession.panic = none := by decide +kernel
  have hended : startingSession.ended = false := by decide +kernel
  have hpending := history_of_length (reachable_inv hreachable).system hpanic hended
    (.pollStream 0 [obliging] []) (fun _ => obliging) (by decide +kernel)
  obtain ⟨phase, hphase⟩ := Option.isSome_iff_exists.mp (show
    ((startingSession.step (.pollStream 0 [obliging] []) fun _ => obliging).streams[0]?).isSome = true
      by decide +kernel)
  have huntaken : untakenBy phase [] ++ [] = [] := by
    rw [List.append_nil]
    exact ite_self []
  have hsplits := Splits.stream 0 [obliging] [obliging, obliging] [] [] hphase hpending
  rw [huntaken] at hsplits
  exact batching_unobservable
    (.merged (.device [obliging] (List.replicate 15 obliging))
      (.same (.same (.same (.merged hsplits (.same .done))))))

end HydraSdr.Analysis.SpuriousPolls
