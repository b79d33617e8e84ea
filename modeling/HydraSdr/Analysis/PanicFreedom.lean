import HydraSdr.Analysis.CompletionRuns

/-!
# Panics

The code indexes slices, subtracts sizes, asserts and `expect`s.  In every run of the driver none of
this fails, whatever the transport answers and however operations are interleaved, polled late or
dropped.  The one panic left is the documented one of a future that is polled after it has returned.
-/

set_option autoImplicit false

namespace HydraSdr.Analysis.PanicFreedom

open HydraSdr.Program HydraSdr.Computation HydraSdr.Analysis

variable {F : Type} {mode : SampleFormat}

/-- What a stream says when a future of it that has returned is polled once more; other futures are
dropped when they return. -/
def usedUpPanic : {mode : SampleFormat} → StreamPhase F mode → Option Panic
  | _, .reading _ .completed => some (.expectFailed "next-block future polled after completion")
  | _, .reading _ .returned => some .resumedAfterCompletion
  | _, .awaiting _ ⟨_, true⟩ => some (.assertFailed "read future polled after completion")
  | _, _ => none

/-- What an action panics with: it polls a future that has returned. -/
def actionPanic (s : System F mode) : Action mode → Option Panic
  | .pollStream stream _ _ => s.streams[stream]?.bind usedUpPanic
  | _ => none

/-- Whether a next-block future has restarted its stream, or does so at the next poll. -/
def restarts (w : StreamWorld F .rawAdc) : NextBlockFuture F → Bool
  | .direct => Receiver.packingChanged w
  | .restarting _ => true
  | .filling => true
  | .completed => false
  | .returned => true

/-- What a future says from the poll on at which it returns. -/
def lastPanic : {mode : SampleFormat} → StreamPhase F mode →
    (Receiver F mode → StreamWorld F mode) → Option Panic
  | _, .reading receiver future, view =>
    if restarts (view receiver) future then some .resumedAfterCompletion
    else some (.expectFailed "next-block future polled after completion")
  | _, .awaiting _ _, _ => some (.assertFailed "read future polled after completion")
  | _, _, _ => none

/-- What a session can panic with. -/
def againPanics : SampleFormat → List Panic
  | .rawAdc => [.expectFailed "next-block future polled after completion", .resumedAfterCompletion]
  | .f32Iq => [.assertFailed "read future polled after completion"]

/-- A future that has returned says one of these. -/
theorem usedUp_again {phase : StreamPhase F mode} {panic : Panic}
    (h : usedUpPanic phase = some panic) : panic ∈ againPanics mode := by
  unfold usedUpPanic at h
  split at h <;> simp_all [againPanics]

variable [SampleArithmetic F]

/-! ## Futures -/

/-- A restart that goes on or has returned. -/
theorem restart_last {w w' : StreamWorld F .rawAdc} {future : NextBlockFuture F}
    {progress : StreamProgress F .rawAdc (Result Unit)} {arrivals rest : List Arrival}
    {result : Option (Result (Option SampleBlock))}
    (h : NextBlockFuture.restart progress w arrivals = .ok (result, future, w', rest)) :
    usedUpPanic (.reading w'.receiver future) =
      if result.isSome then some .resumedAfterCompletion else none := by
  match progress, h with
  | .waiting ticket request next, h => cases h; rfl
  | .finished (.error e), h => cases h; rfl
  | .finished (.ok _), h =>
    rw [fill_future h]
    split <;> rfl

/-- **A next-block future is used up** from the poll on at which it returns. -/
theorem futurePoll_last {w w' : StreamWorld F .rawAdc} {future future' : NextBlockFuture F}
    {replies : List AnyReply} {arrivals rest : List Arrival}
    {result : Option (Result (Option SampleBlock))}
    (h : future.poll w replies arrivals = .ok (result, future', w', rest)) :
    usedUpPanic (.reading w'.receiver future') =
      if result.isSome then lastPanic (.reading w.receiver future) (fun _ => w) else none := by
  unfold lastPanic
  cases future with
  | direct =>
    unfold NextBlockFuture.poll at h
    unfold restarts
    dsimp only at h ⊢
    split at h
    · rename_i hchanged
      rw [if_pos hchanged]
      exact restart_last h
    · rename_i hunchanged
      rw [if_neg hunchanged, fill_future h]
      split <;> rfl
  | restarting progress => exact restart_last h
  | filling =>
    rw [fill_future h]
    split <;> rfl
  | completed => exact nomatch h
  | returned => exact nomatch h

/-- A future that has not returned can be polled. -/
theorem futurePoll_ok {w : StreamWorld F .rawAdc} (hinv : StreamInv w)
    {future : NextBlockFuture F} (hsafe : FutureSafe w future) (replies : List AnyReply)
    (arrivals : List Arrival)
    (hcan : ∀ queue, futureFill future replies w = some queue → CanFill queue)
    (hgoes : futureOver future = false) :
    ∃ polled, future.poll w replies arrivals = .ok polled := by
  rcases @futurePoll_act F _ 0 w hinv future hsafe replies arrivals hcan with
    ⟨hover, _⟩ | ⟨polled, hpoll, _⟩
  · exact absurd hover (Bool.eq_false_iff.mp hgoes)
  · exact ⟨polled, hpoll⟩

/-! ## Streams -/

omit [SampleArithmetic F] in
theorem dropClaim_panic (w : StreamWorld F mode) (events : List (CallEvent F mode)) :
    (StreamPhase.dropClaim w events).panic = w.panic := by
  unfold StreamPhase.dropClaim
  split <;> rfl

omit [SampleArithmetic F] in
theorem dropReceiver_panic (w : StreamWorld F mode) (events : List (CallEvent F mode)) :
    (StreamPhase.dropReceiver w events).panic = w.panic :=
  dropClaim_panic _ events

/-- Handing over the result of a call panics no further. -/
theorem finishCall_panic {w w' : StreamWorld F mode} {stream : ℕ} {found : Option ℕ}
    {arrivals : List Arrival} {call : StreamCall mode} {result : Result call.Value}
    (hinv : StreamInv w) (hpost : CallPost found call w result w') {step : StreamStep F mode}
    (hstep : StreamPhase.finishCall stream found arrivals call result w' = .ok step) :
    step.panic = w.panic := by
  cases call with
  | start =>
    cases hstep
    exact hpost.1.moves.sameOwner.panic
  | stop =>
    cases hstep
    exact hpost.moves.sameOwner.panic
  | close =>
    cases hstep
    rw [dropClaim_panic]
    cases result with
    | ok stats =>
      obtain ⟨m, hcontrol, _, _, rfl⟩ := hpost
      exact hcontrol.moves.sameOwner.panic
    | error e => exact hpost.1.moves.sameOwner.panic
  | waitBlock =>
    obtain ⟨hcontrol, hrestarted⟩ := hpost
    cases result with
    | error e =>
      cases hstep
      exact hcontrol.moves.sameOwner.panic
    | ok value =>
      obtain ⟨⟨block, w'', rest⟩, hwait, hstep⟩ := bind_ok hstep
      cases hstep
      have hmoves := waitNextBlock_moves (hinv.moves hcontrol.moves) (hrestarted rfl).1 hwait
      exact hmoves.sameOwner.panic.trans hcontrol.moves.sameOwner.panic

/-- A read future that has not returned can be polled. -/
theorem readOperation_fine {w : StreamWorld F .f32Iq} (hinv : StreamInv w)
    (haligned : ReadsHave Aligned w) {operation : ReadOperation} (arrivals : List Arrival)
    (hcan : ∀ queue, operationFill operation w = some queue → CanFill queue)
    (hgoes : operation.completed = false) :
    ∃ polled w' rest, operation.poll w arrivals =
      .ok (polled, afterRead operation polled, w', rest) ∧ w'.panic = w.panic := by
  unfold operationFill at hcan
  rw [hgoes, if_neg Bool.false_ne_true] at hcan
  obtain ⟨polled, w', rest, hread, _⟩ := @read_acts F _ 0 operation.room w hinv haligned arrivals
    hcan (.idle w.receiver) rfl rfl
  rw [readOperation_poll hgoes, hread]
  exact ⟨polled, w', rest, rfl, (pollRead_moves hinv hread).sameOwner.panic⟩

/-- **A poll of a stream** panics if it polls a future that has returned, and never otherwise. -/
theorem poll_panic {session : Session} {wire : Wire} {phase : StreamPhase F mode}
    (hinv : PhaseInv session wire none phase) (haligned : AwaitsAligned session wire none phase)
    {stream : ℕ} {replies : List AnyReply} {arrivals : List Arrival}
    (hcan : ∀ queue, phaseFill replies phase
      (fun receiver => ⟨session, wire, receiver, none⟩) = some queue → CanFill queue)
    {step : StreamStep F mode}
    (h : phase.poll stream replies arrivals
      (fun receiver => ⟨session, wire, receiver, none⟩) = some step) :
    step.panic = usedUpPanic phase := by
  cases phase with
  | operating receiver found call flight =>
    rw [phaseFill_operating] at hcan
    obtain ⟨polled, hpolled, _⟩ :=
      @pollCall_acts F _ mode stream _ _ _ _ _ _ _ hinv replies arrivals hcan
    obtain rfl := Option.some.inj h
    rw [hpolled]
    have hsegment := controlPoll (callPost_compose _ call) hinv.2.2 replies
    generalize flight.poll StreamWorld.port replies _ = outcome at hsegment hpolled
    obtain ⟨progress, w'⟩ := outcome
    cases progress with
    | finished result => exact finishCall_panic hinv.1 hsegment hpolled
    | waiting ticket request next =>
      cases hpolled
      exact hsegment.1.moves.sameOwner.panic
  | reading receiver future =>
    rw [phaseFill_reading] at hcan
    obtain rfl := Option.some.inj h
    have hmade : futureOver future = false → (StreamStep.ofChecked
        (⟨session, wire, receiver, none⟩ : StreamWorld F .rawAdc) (.reading receiver future)
        ((future.poll ⟨session, wire, receiver, none⟩ replies arrivals).map
          (StreamPhase.pollNextBlock stream))).panic = none := by
      intro hgoes
      obtain ⟨⟨result, future', w', rest⟩, hpoll⟩ :=
        futurePoll_ok hinv.1 hinv.2.2 replies arrivals hcan hgoes
      have hmoves := (futurePoll_moves hinv.1 hinv.2.2 hpoll).1
      rw [hpoll]
      cases result with
      | none => exact hmoves.sameOwner.panic
      | some result => exact hmoves.sameOwner.panic
    cases future with
    | completed => rfl
    | returned => rfl
    | direct => exact hmade rfl
    | restarting progress => exact hmade rfl
    | filling => exact hmade rfl
  | awaiting receiver operation =>
    rw [phaseFill_awaiting] at hcan
    obtain rfl := Option.some.inj h
    obtain ⟨room, completed⟩ := operation
    cases completed with
    | true => rfl
    | false =>
      obtain ⟨polled, w', rest, hpoll, hpanic⟩ :=
        readOperation_fine hinv.1 haligned arrivals hcan rfl
      rw [hpoll]
      cases polled with
      | none => exact hpanic
      | some result => exact hpanic
  | cleaning receiver flight =>
    obtain rfl := Option.some.inj h
    have hsegment := controlPoll cleanedUp_compose hinv.2 replies
    generalize flight.poll StreamWorld.port replies _ = outcome at hsegment
    obtain ⟨progress, w'⟩ := outcome
    cases progress with
    | finished value =>
      obtain ⟨m, result, hcontrol, _, rfl⟩ := hsegment
      exact hcontrol.moves.sameOwner.panic
    | waiting ticket request next => exact hsegment.1.moves.sameOwner.panic
  | idle receiver => exact nomatch h
  | gone => exact nomatch h

omit [SampleArithmetic F] in
/-- Dropping what a stream has in flight does not panic. -/
theorem cancel_panic {phase : StreamPhase F mode} {session : Session} {wire : Wire}
    {panic : Option Panic} {step : StreamStep F mode}
    (h : phase.cancel (fun receiver => ⟨session, wire, receiver, panic⟩) = some step) :
    step.panic = panic := by
  cases phase with
  | operating receiver found call flight =>
    cases call with
    | close =>
      obtain rfl := Option.some.inj h
      exact dropReceiver_panic _ _
    | start | stop | waitBlock =>
      obtain rfl := Option.some.inj h
      rfl
  | reading receiver future =>
    obtain rfl := Option.some.inj h
    rfl
  | awaiting receiver operation =>
    obtain rfl := Option.some.inj h
    rfl
  | cleaning receiver flight => exact nomatch h
  | idle receiver => exact nomatch h
  | gone => exact nomatch h

/-- **A future is used up** from the poll on at which it reports. -/
theorem poll_last {phase : StreamPhase F mode} {view : Receiver F mode → StreamWorld F mode}
    (hfuture : (lastPanic phase view).isSome = true) (hfresh : usedUpPanic phase = none)
    {stream : ℕ} {replies : List AnyReply} {arrivals : List Arrival} {step : StreamStep F mode}
    (h : phase.poll stream replies arrivals view = some step) :
    usedUpPanic step.phase = if step.events.isEmpty then none else lastPanic phase view := by
  cases phase with
  | reading receiver future =>
    obtain rfl := Option.some.inj h
    cases hpoll : future.poll (view receiver) replies arrivals with
    | error panic => exact hfresh
    | ok outcome =>
      obtain ⟨result, future', w', rest⟩ := outcome
      have hlast := futurePoll_last hpoll
      cases result with
      | none => exact hlast
      | some result => exact hlast
  | awaiting receiver operation =>
    obtain rfl := Option.some.inj h
    cases hpoll : operation.poll (view receiver) arrivals with
    | error panic => exact hfresh
    | ok outcome =>
      obtain ⟨polled, operation', w', rest⟩ := outcome
      obtain ⟨_, rfl, _⟩ := readOperation_ok hpoll
      cases polled with
      | none => rfl
      | some result => rfl
  | idle receiver => exact nomatch hfuture
  | operating receiver found call flight => exact nomatch hfuture
  | cleaning receiver flight => exact nomatch hfuture
  | gone => exact nomatch hfuture

/-! ## The device -/

/-- No step of the device panics. -/
theorem pollDevice_panic {s : System F mode} (h : SystemInv s) (replies : List AnyReply) :
    (s.pollDevice replies).panic = s.panic := by
  unfold System.pollDevice
  have hdevice := h.device
  cases hphase : s.device with
  | opening config flight =>
    rw [hphase] at hdevice
    have hsegment := devicePoll_segment deviceEnd_compose hdevice replies
    dsimp only
    generalize hpoll : flight.poll DeviceWorld.port replies (s.deviceWorld config) = outcome
    have hsegment' : Segment DeviceWorld.port DeviceRely DeviceGuar DeviceEnd
        (s.deviceWorld config) outcome := hpoll ▸ hsegment
    obtain ⟨progress, w⟩ := outcome
    cases progress with
    | finished result =>
      cases result with
      | ok value => exact hsegment'.step.panic
      | error e => exact hsegment'.step.panic
    | waiting ticket request next => exact hsegment'.1.step.panic
  | operating config operation flight =>
    rw [hphase] at hdevice
    have hsegment := devicePoll_segment (callEnd_compose operation) hdevice.2 replies
    dsimp only
    generalize hpoll : flight.poll DeviceWorld.port replies (s.deviceWorld config) = outcome
    have hsegment' : Segment DeviceWorld.port DeviceRely DeviceGuar (CallEnd operation)
        (s.deviceWorld config) outcome := hpoll ▸ hsegment
    obtain ⟨progress, w⟩ := outcome
    cases progress with
    | finished result => exact hsegment'.1.step.panic
    | waiting ticket request next => exact hsegment'.1.step.panic
  | idle config => rfl
  | dropped => rfl

/-! ## Every action -/

omit [SampleArithmetic F] in
/-- The panic of an action that uses a stream. -/
theorem onStream_panic {s : System F mode} {stream : ℕ} {use : StreamPhase F mode →
    (Receiver F mode → StreamWorld F mode) → Option (StreamStep F mode)} {panic : Option Panic}
    (hmissing : s.streams[stream]? = none → s.panic = panic)
    (hused : ∀ phase, s.streams[stream]? = some phase →
      (use phase s.streamWorld).elim s.panic StreamStep.panic = panic) :
    (s.onStream stream use).panic = panic := by
  unfold System.onStream
  cases hphase : s.streams[stream]? with
  | none => exact hmissing hphase
  | some phase =>
    have hstep := hused phase hphase
    dsimp only
    cases huse : use phase s.streamWorld with
    | none =>
      rw [huse] at hstep
      exact hstep
    | some step =>
      rw [huse] at hstep
      exact hstep

omit [SampleArithmetic F] in
/-- An idle stream is used without a panic. -/
theorem onIdle_panic {s : System F mode} {stream : ℕ} {use : StreamWorld F mode → StreamStep F mode}
    (huse : ∀ receiver, s.streams[stream]? = some (.idle receiver) →
      (use (s.streamWorld receiver)).panic = s.panic) :
    (s.onStream stream (StreamPhase.onIdle use)).panic = s.panic := by
  apply onStream_panic (fun _ => rfl)
  intro phase hphase
  cases phase with
  | idle receiver => exact huse receiver hphase
  | operating receiver found call flight => rfl
  | reading receiver future => rfl
  | awaiting receiver operation => rfl
  | cleaning receiver flight => rfl
  | gone => rfl

/-- An idle stream is read without a panic. -/
theorem read_ok {config : ValidConfig .f32Iq} {s : System F .f32Iq}
    (h : System.Reachable config s) {stream : ℕ} {receiver : Receiver F .f32Iq}
    (hphase : s.streams[stream]? = some (.idle receiver)) (room : ℕ) (arrivals : List Arrival) :
    ∃ polled w' rest, Receiver.pollRead (s.streamWorld receiver) room arrivals =
      .ok (polled, w', rest) ∧ w'.panic = s.panic := by
  have hmem := List.mem_of_getElem? hphase
  have hinv := (reachable_inv h).system.streamInv hmem rfl
  obtain ⟨polled, w', rest, hread, _⟩ := @read_acts F _ stream room _ hinv
    (reachable_reads keptByReads_aligned h hmem rfl) arrivals (fun queue hqueue =>
      (mayAsk_readFill (BufferPool.keptByQueue_pooled 0) (Nat.zero_le _) hinv
        (reachable_queue (BufferPool.keptByQueue_pooled 0) h hmem rfl) hqueue).canFill)
    (.idle receiver) rfl rfl
  exact ⟨polled, w', rest, hread, (pollRead_moves hinv hread).sameOwner.panic⟩

/-- **What an action panics with.** -/
theorem act_panic {config : ValidConfig mode} {s : System F mode} (h : System.Reachable config s)
    (hpanic : s.panic = none) (action : Action mode) : (s.act action).panic = actionPanic s action := by
  have hinv := (reachable_inv h).system
  cases action with
  | callDevice operation =>
    show (s.callDevice operation).panic = none
    unfold System.callDevice
    split
    · rename_i config hdevice
      obtain ⟨built, hbuilt⟩ := call_ok operation (s.deviceWorld config)
      rw [hbuilt]
      exact hpanic
    · exact hpanic
  | pollDevice replies => exact (pollDevice_panic hinv replies).trans hpanic
  | cancelDevice =>
    show s.cancelDevice.panic = none
    unfold System.cancelDevice
    split <;> exact hpanic
  | dropDevice =>
    show s.dropDevice.panic = none
    unfold System.dropDevice
    split <;> exact hpanic
  | rxStream =>
    show s.rxStream.panic = none
    unfold System.rxStream
    split
    · split <;> exact hpanic
    · exact hpanic
  | callStream stream call => exact (onIdle_panic fun _ _ => rfl).trans hpanic
  | nextBlock stream => exact (onIdle_panic fun _ _ => rfl).trans hpanic
  | read stream room => exact (onIdle_panic fun _ _ => rfl).trans hpanic
  | dropStream stream => exact (onIdle_panic fun _ _ => dropReceiver_panic _ _).trans hpanic
  | cancelStream stream =>
    refine (onStream_panic (fun _ => rfl) fun phase hphase => ?_).trans hpanic
    cases hstep : phase.cancel s.streamWorld with
    | none => rfl
    | some step => exact cancel_panic hstep
  | pollStream stream replies arrivals =>
    refine onStream_panic (fun hnone => ?_) fun phase hphase => ?_
    · rw [actionPanic, hnone]
      exact hpanic
    · rw [actionPanic, hphase, Option.bind_some]
      have hview : s.streamWorld = fun receiver => ⟨s.session, s.wire, receiver, none⟩ := by
        funext receiver
        rw [System.streamWorld, hpanic]
      have hphaseInv : PhaseInv s.session s.wire none phase :=
        hpanic ▸ hinv.streams phase (List.mem_of_getElem? hphase)
      cases hstep : phase.poll stream replies arrivals s.streamWorld with
      | none =>
        cases phase with
        | idle receiver => exact hpanic
        | gone => exact hpanic
        | operating receiver found call flight => exact nomatch hstep
        | reading receiver future => exact nomatch hstep
        | awaiting receiver operation => exact nomatch hstep
        | cleaning receiver flight => exact nomatch hstep
      | some step =>
        rw [hview] at hstep
        have haligned := reachable_awaitsAligned h (List.mem_of_getElem? hphase)
        rw [hpanic] at haligned
        refine poll_panic hphaseInv haligned (fun queue hqueue => ?_) hstep
        exact phaseFill_canFill h hphase (hview ▸ hqueue)
  | pollRead stream room arrivals =>
    refine (onIdle_panic fun receiver hphase => ?_).trans hpanic
    obtain ⟨polled, w', rest, hread, hsame⟩ := read_ok h hphase room arrivals
    rw [hread]
    exact hsame
  | readBlocking stream room arrivals =>
    refine (onIdle_panic fun receiver hphase => ?_).trans hpanic
    obtain ⟨polled, w', rest, hread, hsame⟩ := read_ok h hphase room arrivals
    rw [readBlocking_poll, hread]
    exact hsame

/-- A step panics as its action does. -/
theorem step_panic {config : ValidConfig mode} {s : System F mode} (h : System.Reachable config s)
    (hpanic : s.panic = none) (hended : s.ended = false) (action : Action mode)
    (reply : ℕ → AnyReply) : (s.step action reply).panic = actionPanic s action :=
  (step_streams hpanic hended action reply).2.2.trans (act_panic h hpanic action)

/-- A step polls a future that has not returned. -/
theorem step_last {s : System F mode} (hpanic : s.panic = none) (hended : s.ended = false)
    {stream : ℕ} {phase : StreamPhase F mode} (hphase : s.streams[stream]? = some phase)
    (hfuture : (lastPanic phase s.streamWorld).isSome = true) (hfresh : usedUpPanic phase = none)
    (replies : List AnyReply) (arrivals : List Arrival) (reply : ℕ → AnyReply) :
    ∃ phase', (s.step (.pollStream stream replies arrivals) reply).streams[stream]? = some phase' ∧
      usedUpPanic phase' =
        if (newEvents s (s.step (.pollStream stream replies arrivals) reply)).isEmpty then none
        else lastPanic phase s.streamWorld := by
  obtain ⟨hstreams, hhistory, _⟩ :=
    step_streams hpanic hended (.pollStream stream replies arrivals) reply
  obtain ⟨step, hstep⟩ : ∃ step, phase.poll stream replies arrivals s.streamWorld = some step := by
    cases phase with
    | reading receiver future => exact ⟨_, rfl⟩
    | awaiting receiver operation => exact ⟨_, rfl⟩
    | idle receiver => exact nomatch hfuture
    | operating receiver found call flight => exact nomatch hfuture
    | cleaning receiver flight => exact nomatch hfuture
    | gone => exact nomatch hfuture
  have hact : s.act (.pollStream stream replies arrivals) = s.putStream stream step := by
    refine (onStream_some hphase _).trans ?_
    rw [hstep]
    rfl
  rw [hact] at hstreams hhistory
  refine ⟨step.phase, ?_, ?_⟩
  · rw [hstreams]
    exact List.getElem?_set_self (List.getElem?_eq_some_iff.mp hphase).1
  · rw [newEvents_eq hhistory]
    exact poll_last hfuture hfresh hstep

/-- **The driver does not panic.**  From every reachable state in which a session goes on, a step
panics exactly if it polls a future that has returned before, and a future has returned from the
poll on at which it reports: a next-block future then has its own message, or that of its `async`
block if it has restarted its stream, and a read future has that of its assertion.  So a reachable
state has panicked in no other way: no index, slice, subtraction of sizes, assertion or `expect` of
the driver fails, and no endpoint is asked for a completion with nothing pending. -/
theorem panics_only_when_used_up {config : ValidConfig mode} {s : System F mode}
    (h : System.Reachable config s) :
    (s.panic = none → s.ended = false →
      (∀ (action : Action mode) (reply : ℕ → AnyReply),
        (s.step action reply).panic = actionPanic s action) ∧
      ∀ (stream : ℕ) (phase : StreamPhase F mode), s.streams[stream]? = some phase →
        (lastPanic phase s.streamWorld).isSome = true → usedUpPanic phase = none →
        ∀ replies arrivals reply, ∃ phase',
          (s.step (.pollStream stream replies arrivals) reply).streams[stream]? = some phase' ∧
          usedUpPanic phase' =
            if (newEvents s (s.step (.pollStream stream replies arrivals) reply)).isEmpty then none
            else lastPanic phase s.streamWorld) ∧
    (s.panic = none ∨ ∃ panic ∈ againPanics mode, s.panic = some panic) := by
  refine ⟨fun hpanic hended => ⟨step_panic h hpanic hended, ?_⟩, ?_⟩
  · intro stream phase hphase hfuture hfresh replies arrivals reply
    exact step_last hpanic hended hphase hfuture hfresh replies arrivals reply
  · induction h with
    | initial => exact .inl rfl
    | @step s action reply hs ih =>
      by_cases hgoes : s.panic = none ∧ s.ended = false
      · rw [step_panic hs hgoes.1 hgoes.2 action reply]
        cases action with
        | pollStream stream replies arrivals =>
          cases hmade : actionPanic s (.pollStream stream replies arrivals) with
          | none => exact .inl rfl
          | some panic =>
            obtain ⟨phase, _, hphase⟩ := Option.bind_eq_some_iff.mp hmade
            exact .inr ⟨panic, usedUp_again hphase, rfl⟩
        | _ => exact .inl rfl
      · rw [step_of_over hgoes]
        exact ih

/-- A raw session whose next-block future has returned: its stream has not been started. -/
def refusedBlock : System Rat .rawAdc :=
  System.after (ValidConfig.standard .rawAdc) (fun _ => obliging)
    [.pollDevice (List.replicate 16 obliging), .rxStream, .nextBlock 0, .pollStream 0 [] []]

/-- The answers of a device on which every transfer fails. -/
def refusing : AnyReply
  | .controlIn _ => .error .unsupported
  | .controlOut _ => .error .unsupported
  | .bulkIn _ => .error .unsupported
  | .clearHalt => .error .unsupported

/-- A raw session whose next-block future has returned from a restart that failed. -/
def refusedRestart : System Rat .rawAdc :=
  System.after (ValidConfig.standard .rawAdc) (fun _ => obliging)
    [.pollDevice (List.replicate 16 obliging), .rxStream, .callStream 0 .start,
      .pollStream 0 (List.replicate 4 obliging) [], .callDevice (.setPacking true),
      .pollDevice [obliging], .nextBlock 0, .pollStream 0 (List.replicate 4 refusing) []]

/-- An IQ session whose read future has returned: its stream has not been started. -/
def refusedRead : System Rat .f32Iq :=
  System.after (ValidConfig.standard .f32Iq) (fun _ => obliging)
    [.pollDevice (List.replicate 16 obliging), .rxStream, .read 0 1, .pollStream 0 [] []]

theorem futures_polled_again :
    (refusedBlock.panic = none ∧ (refusedBlock.step (.pollStream 0 [] []) fun _ => obliging).panic =
      some (.expectFailed "next-block future polled after completion")) ∧
    (refusedRestart.panic = none ∧
      (refusedRestart.step (.pollStream 0 [] []) fun _ => obliging).panic =
        some .resumedAfterCompletion) ∧
    (refusedRead.panic = none ∧ (refusedRead.step (.pollStream 0 [] []) fun _ => obliging).panic =
      some (.assertFailed "read future polled after completion")) := by
  have hblock : System.Reachable (ValidConfig.standard .rawAdc) refusedBlock :=
    System.reachable_after _ _ _
  have hrestart : System.Reachable (ValidConfig.standard .rawAdc) refusedRestart :=
    System.reachable_after _ _ _
  have hread : System.Reachable (ValidConfig.standard .f32Iq) refusedRead :=
    System.reachable_after _ _ _
  refine ⟨⟨by decide +kernel, ?_⟩, ⟨by decide +kernel, ?_⟩, by decide +kernel, ?_⟩
  · rw [((panics_only_when_used_up hblock).1 (by decide +kernel) (by decide +kernel)).1]
    decide +kernel
  · rw [((panics_only_when_used_up hrestart).1 (by decide +kernel) (by decide +kernel)).1]
    decide +kernel
  · rw [((panics_only_when_used_up hread).1 (by decide +kernel) (by decide +kernel)).1]
    decide +kernel

end HydraSdr.Analysis.PanicFreedom
