import HydraSdr.Analysis.OperationBudgets
import HydraSdr.Analysis.PanicFreedom

/-!
# What is in flight comes to an end

Every operation that a session has in flight has a bound on the transfers it may still issue, and
issues only transfers that the hardware is made for.  Both hold in every reachable state, because
they hold of every operation when it is built, and each reply uses up one transfer of what is left,
however the replies are spread over polls.
-/

set_option autoImplicit false

namespace HydraSdr.Analysis.BoundedWaits

open HydraSdr.Program HydraSdr.Computation HydraSdr.Analysis

variable {F : Type} {mode : SampleFormat}

/-! ## What is in flight -/

/-- How many transfers an operation of the device submits at most. -/
def deviceBudget : DevicePhase mode → ℕ
  | .opening _ _ => 15
  | .operating _ _ _ => 10
  | _ => 0

/-- What the device has in flight submits at most so many transfers. -/
def DeviceAllows (n : ℕ) : DevicePhase mode → Prop
  | .opening _ flight => flight.Submits issuedBy Permitted n
  | .operating _ _ flight => flight.Submits issuedBy Permitted n
  | _ => True

/-- What a stream has in flight submits at most so many transfers. -/
def StreamAllows (n : ℕ) : {mode : SampleFormat} → StreamPhase F mode → Prop
  | _, .operating _ _ _ flight => flight.Submits streamIssued StreamTransfer n
  | _, .reading _ (.restarting progress) => progress.Submits streamIssued StreamTransfer n
  | _, .cleaning _ flight => flight.Submits streamIssued StreamTransfer n
  | _, _ => True

/-- What a stream has in flight keeps to its allowance. -/
abbrev StreamKeepsTo (phase : StreamPhase F mode) : Prop := StreamAllows 5 phase

/-- Everything in flight keeps to its allowance. -/
structure KeepsTo (s : System F mode) : Prop where
  device : DeviceAllows (deviceBudget s.device) s.device
  streams : ∀ phase ∈ s.streams, StreamKeepsTo phase

/-- A poll leaves an operation with what it has not used up. -/
theorem poll_keeps {ℓ : Type} {Reply : ℓ → Type} {σ α : Type} {log : σ → List ℓ}
    {permitted : ℓ → Prop} {port : Port ℓ Reply σ} (hlogs : port.Logs log)
    {flight : Flight ℓ Reply σ α} {n : ℕ} (h : flight.Submits log permitted n)
    {replies : List ((request : ℓ) → Reply request)} {s : σ}
    {outcome : Progress ℓ Reply σ α × σ} (houtcome : flight.poll port replies s = outcome) :
    outcome.1.Submits log permitted (n - replies.length) ∧ Adds log permitted s outcome.2 := by
  obtain ⟨hleft, hadds⟩ := h.poll hlogs replies s
  rw [houtcome] at hleft hadds
  exact ⟨hleft, hadds⟩

/-! ## The device -/

/-- The transfers issued so far. -/
def issued (s : System F mode) : List Transfer := s.wire.issued

/-- Whether the device waits for a reply. -/
def deviceWaits : DevicePhase mode → Bool
  | .opening _ _ => true
  | .operating _ _ _ => true
  | _ => false

/-- A larger allowance. -/
theorem DeviceAllows.mono {phase : DevicePhase mode} {n m : ℕ} (h : DeviceAllows n phase)
    (hle : n ≤ m) : DeviceAllows m phase := by
  have hflight : ∀ {flight : DeviceFlight mode}, flight.Submits issuedBy Permitted n →
      flight.Submits issuedBy Permitted m := by
    intro flight hsubmits
    cases flight with
    | unpolled operation => exact Resumption.Submits.mono hsubmits hle
    | polled progress => exact Progress.Submits.mono hsubmits hle
  cases phase with
  | opening config flight => exact hflight h
  | operating config operation flight => exact hflight h
  | idle config => trivial
  | dropped => trivial

/-- **A poll of the device** uses up what it is given; the operation goes on or is over. -/
theorem pollDevice_keeps {s : System F mode} {n : ℕ} (h : DeviceAllows n s.device)
    (replies : List AnyReply) :
    DeviceAllows (n - replies.length) (s.pollDevice replies).device ∧
      (deviceWaits (s.pollDevice replies).device = true →
        deviceBudget (s.pollDevice replies).device = deviceBudget s.device) ∧
      Adds issued Permitted s (s.pollDevice replies) := by
  unfold System.pollDevice
  cases hphase : s.device with
  | opening config flight =>
    rw [hphase] at h
    dsimp only
    generalize hpoll : flight.poll DeviceWorld.port replies (s.deviceWorld config) = outcome
    obtain ⟨hleft, hadds⟩ := poll_keeps deviceLogs h hpoll
    obtain ⟨progress, w⟩ := outcome
    cases progress with
    | finished result =>
      cases result with
      | ok value => exact ⟨trivial, (nomatch ·), hadds⟩
      | error e => exact ⟨trivial, (nomatch ·), hadds⟩
    | waiting ticket request next => exact ⟨hleft, fun _ => rfl, hadds⟩
  | operating config operation flight =>
    rw [hphase] at h
    dsimp only
    generalize hpoll : flight.poll DeviceWorld.port replies (s.deviceWorld config) = outcome
    obtain ⟨hleft, hadds⟩ := poll_keeps deviceLogs h hpoll
    obtain ⟨progress, w⟩ := outcome
    cases progress with
    | finished result => exact ⟨trivial, (nomatch ·), hadds⟩
    | waiting ticket request next => exact ⟨hleft, fun _ => rfl, hadds⟩
  | idle config =>
    rw [hphase]
    exact ⟨trivial, (nomatch ·), .of_eq rfl⟩
  | dropped =>
    rw [hphase]
    exact ⟨trivial, (nomatch ·), .of_eq rfl⟩

/-- An operation that goes on keeps to the allowance that it began with. -/
theorem allowance_kept {before after : DevicePhase mode} {n : ℕ}
    (h : DeviceAllows (deviceBudget before - n) after)
    (hsame : deviceWaits after = true → deviceBudget after = deviceBudget before) :
    DeviceAllows (deviceBudget after) after := by
  cases after with
  | opening config flight =>
    rw [hsame rfl]
    exact h.mono (Nat.sub_le _ _)
  | operating config operation flight =>
    rw [hsame rfl]
    exact h.mono (Nat.sub_le _ _)
  | idle config => trivial
  | dropped => trivial

theorem callDevice_keeps {s : System F mode} (h : DeviceAllows (deviceBudget s.device) s.device)
    (operation : DeviceOperation mode) :
    DeviceAllows (deviceBudget (s.callDevice operation).device) (s.callDevice operation).device ∧
      (s.callDevice operation).wire = s.wire := by
  unfold System.callDevice
  split
  · rename_i config hdevice
    split
    · rename_i built hbuilt
      exact ⟨call_submits hbuilt, rfl⟩
    · exact ⟨h, rfl⟩
  · exact ⟨h, rfl⟩

/-! ## Streams -/

variable [SampleArithmetic F]

omit [SampleArithmetic F] in
theorem dropClaim_keeps (w : StreamWorld F mode) (events : List (CallEvent F mode)) :
    StreamKeepsTo (StreamPhase.dropClaim w events).phase := by
  unfold StreamPhase.dropClaim
  split
  · exact (cleanup_submits w).mono (by decide)
  · trivial

theorem finishCall_keeps {stream : ℕ} {found : Option ℕ} {arrivals : List Arrival}
    {call : StreamCall mode} {result : Result call.Value} {w : StreamWorld F mode}
    {step : StreamStep F mode}
    (h : StreamPhase.finishCall stream found arrivals call result w = .ok step) :
    StreamKeepsTo step.phase := by
  cases call with
  | start => cases h; trivial
  | stop => cases h; trivial
  | close => cases h; exact dropClaim_keeps _ _
  | waitBlock =>
    cases result with
    | error e => cases h; trivial
    | ok value =>
      obtain ⟨⟨block, w'', rest⟩, _, h⟩ := bind_ok h
      cases h
      trivial

/-- A future that is not restarting waits for no reply. -/
def WaitsForNoReply : NextBlockFuture F → Prop
  | .restarting _ => False
  | _ => True

omit [SampleArithmetic F] in
theorem rests_allows {future : NextBlockFuture F} (h : WaitsForNoReply future) (n : ℕ)
    (receiver : Receiver F .rawAdc) : StreamAllows n (.reading receiver future) := by
  cases future with
  | restarting progress => exact absurd h id
  | _ => trivial

/-- A wait for a completion waits for no reply. -/
theorem fill_waits {waiting last future : NextBlockFuture F} {w w' : StreamWorld F .rawAdc}
    {arrivals rest : List Arrival} {result : Option (Result (Option SampleBlock))}
    (h : NextBlockFuture.fill waiting last w arrivals = .ok (result, future, w', rest))
    (hwaiting : WaitsForNoReply waiting) (hlast : WaitsForNoReply last) :
    WaitsForNoReply future := by
  rw [fill_future h]
  split
  · exact hlast
  · exact hwaiting

/-- A restart goes on with what is left of its allowance. -/
theorem restart_keeps {progress : StreamProgress F .rawAdc (Result Unit)}
    {future : NextBlockFuture F} {w w' : StreamWorld F .rawAdc} {arrivals rest : List Arrival}
    {result : Option (Result (Option SampleBlock))} {n : ℕ}
    (hprogress : progress.Submits streamIssued StreamTransfer n)
    (h : NextBlockFuture.restart progress w arrivals = .ok (result, future, w', rest)) :
    ∀ receiver, StreamAllows n (.reading receiver future) := by
  match progress, hprogress, h with
  | .waiting ticket request next, hprogress, h => cases h; exact fun _ => hprogress
  | .finished (.error e), _, h => cases h; exact fun _ => trivial
  | .finished (.ok _), _, h => exact rests_allows (fill_waits h trivial trivial) n

/-- The first poll of a restart. -/
theorem beginRestart_keeps (w : StreamWorld F .rawAdc) (replies : List AnyReply) :
    (NextBlockFuture.beginRestart w replies).1.Submits streamIssued StreamTransfer 5 := by
  have hrestart : (Flight.unpolled (Receiver.refreshPacking w).denote).Submits streamIssued
      StreamTransfer 5 := refreshPacking_submits w
  exact (poll_keeps streamLogs hrestart rfl).1.mono (Nat.sub_le _ _)

omit [SampleArithmetic F] in
/-- A further poll of a restart. -/
theorem restarting_keeps {progress : StreamProgress F .rawAdc (Result Unit)} {n : ℕ}
    (h : progress.Submits streamIssued StreamTransfer n) (replies : List AnyReply)
    (w : StreamWorld F .rawAdc) :
    (progress.resumeAll StreamWorld.port replies w).1.Submits streamIssued StreamTransfer
      (n - replies.length) := by
  have hrestart : (Flight.polled progress).Submits streamIssued StreamTransfer n := h
  exact (poll_keeps streamLogs hrestart rfl).1

/-- **A poll of a next-block future.** -/
theorem futurePoll_keeps {future future' : NextBlockFuture F} {w w' : StreamWorld F .rawAdc}
    (hkeeps : StreamKeepsTo (.reading w.receiver future)) {replies : List AnyReply}
    {arrivals rest : List Arrival} {result : Option (Result (Option SampleBlock))}
    (h : future.poll w replies arrivals = .ok (result, future', w', rest)) :
    ∀ receiver, StreamKeepsTo (.reading receiver future') := by
  cases future with
  | direct =>
    unfold NextBlockFuture.poll at h
    dsimp only at h
    by_cases hchanged : Receiver.packingChanged w = true
    · rw [if_pos hchanged] at h
      exact restart_keeps (beginRestart_keeps w replies) h
    · rw [if_neg hchanged] at h
      exact rests_allows (fill_waits h trivial trivial) 5
  | restarting progress =>
    exact restart_keeps ((restarting_keeps hkeeps replies w).mono (Nat.sub_le _ _)) h
  | filling => exact rests_allows (fill_waits h trivial trivial) 5
  | completed => exact nomatch h
  | returned => exact nomatch h

/-- **A poll of a stream.** -/
theorem poll_streamKeeps {phase : StreamPhase F mode} (hkeeps : StreamKeepsTo phase)
    {stream : ℕ} {replies : List AnyReply} {arrivals : List Arrival}
    {view : Receiver F mode → StreamWorld F mode} (hview : ∀ receiver, (view receiver).receiver = receiver)
    {step : StreamStep F mode} (h : phase.poll stream replies arrivals view = some step) :
    StreamKeepsTo step.phase := by
  cases phase with
  | operating receiver found call flight =>
    obtain rfl := Option.some.inj h
    generalize hpoll : flight.poll StreamWorld.port replies (view receiver) = outcome
    have hleft := (poll_keeps streamLogs hkeeps hpoll).1.mono (Nat.sub_le _ _)
    obtain ⟨progress, w⟩ := outcome
    cases hstep : StreamPhase.pollCall stream (StreamPhase.foundBy receiver found flight) arrivals
        call (progress, w) with
    | error panic => exact hkeeps
    | ok step =>
      cases progress with
      | finished result => exact finishCall_keeps hstep
      | waiting ticket request next =>
        cases hstep
        exact hleft
  | reading receiver future =>
    obtain rfl := Option.some.inj h
    cases hpoll : future.poll (view receiver) replies arrivals with
    | error panic => exact hkeeps
    | ok outcome =>
      obtain ⟨result, future', w', rest⟩ := outcome
      have hkeeps' := futurePoll_keeps ((hview receiver).symm ▸ hkeeps) hpoll
      cases result with
      | none => exact hkeeps' _
      | some result => exact hkeeps' _
  | awaiting receiver operation =>
    obtain rfl := Option.some.inj h
    cases operation.poll (view receiver) arrivals with
    | error panic => trivial
    | ok outcome =>
      obtain ⟨polled, operation', w', rest⟩ := outcome
      cases polled <;> trivial
  | cleaning receiver flight =>
    obtain rfl := Option.some.inj h
    generalize hpoll : flight.poll StreamWorld.port replies (view receiver) = outcome
    have hleft := (poll_keeps streamLogs hkeeps hpoll).1.mono (Nat.sub_le _ _)
    obtain ⟨progress, w⟩ := outcome
    cases progress with
    | finished value => trivial
    | waiting ticket request next => exact hleft
  | idle receiver => exact nomatch h
  | gone => exact nomatch h

omit [SampleArithmetic F] in
theorem cancel_keeps {phase : StreamPhase F mode} {view : Receiver F mode → StreamWorld F mode}
    {step : StreamStep F mode} (h : phase.cancel view = some step) : StreamKeepsTo step.phase := by
  cases phase with
  | operating receiver found call flight =>
    cases call with
    | close =>
      obtain rfl := Option.some.inj h
      exact dropClaim_keeps _ _
    | start | stop | waitBlock =>
      obtain rfl := Option.some.inj h
      trivial
  | reading receiver future =>
    obtain rfl := Option.some.inj h
    trivial
  | awaiting receiver operation =>
    obtain rfl := Option.some.inj h
    trivial
  | cleaning receiver flight => exact nomatch h
  | idle receiver => exact nomatch h
  | gone => exact nomatch h

omit [SampleArithmetic F] in
/-- A stream is used. -/
theorem onStream_keeps {s : System F mode} (h : KeepsTo s) {stream : ℕ}
    {use : StreamPhase F mode → (Receiver F mode → StreamWorld F mode) → Option (StreamStep F mode)}
    (huse : ∀ phase ∈ s.streams, ∀ step, use phase s.streamWorld = some step →
      StreamKeepsTo step.phase) : KeepsTo (s.onStream stream use) := by
  unfold System.onStream
  split
  · exact h
  · rename_i phase hphase
    have hmem := List.mem_of_getElem? hphase
    split
    · exact h
    · rename_i step hstep
      refine ⟨h.device, fun other hother => ?_⟩
      rcases List.mem_or_eq_of_mem_set hother with hold | rfl
      · exact h.streams other hold
      · exact huse phase hmem step hstep

omit [SampleArithmetic F] in
/-- An idle stream is used. -/
theorem onIdle_keeps {s : System F mode} (h : KeepsTo s) {stream : ℕ}
    {use : StreamWorld F mode → StreamStep F mode}
    (huse : ∀ receiver, StreamKeepsTo (use (s.streamWorld receiver)).phase) :
    KeepsTo (s.onStream stream (StreamPhase.onIdle use)) := by
  apply onStream_keeps h
  intro phase _ step hstep
  cases phase with
  | idle receiver => exact Option.some.inj hstep ▸ huse receiver
  | operating receiver found call flight => exact nomatch hstep
  | reading receiver future => exact nomatch hstep
  | awaiting receiver operation => exact nomatch hstep
  | cleaning receiver flight => exact nomatch hstep
  | gone => exact nomatch hstep

/-- **Every action.** -/
theorem act_keeps {s : System F mode} (h : KeepsTo s) (action : Action mode) :
    KeepsTo (s.act action) := by
  cases action with
  | callDevice operation =>
    refine ⟨(callDevice_keeps h.device operation).1, ?_⟩
    rw [callDevice_streams]
    exact h.streams
  | pollDevice replies =>
    obtain ⟨hleft, hsame, _⟩ := pollDevice_keeps h.device replies
    refine ⟨allowance_kept hleft hsame, ?_⟩
    rw [pollDevice_streams]
    exact h.streams
  | cancelDevice =>
    show KeepsTo s.cancelDevice
    unfold System.cancelDevice
    split
    · exact ⟨trivial, h.streams⟩
    · exact ⟨trivial, h.streams⟩
    · exact h
  | dropDevice =>
    show KeepsTo s.dropDevice
    unfold System.dropDevice
    split
    · exact ⟨trivial, h.streams⟩
    · exact h
  | rxStream =>
    show KeepsTo s.rxStream
    unfold System.rxStream
    split
    · split
      · refine ⟨h.device, fun phase hphase => ?_⟩
        rcases List.mem_append.mp hphase with hold | hnew
        · exact h.streams phase hold
        · rw [List.mem_singleton.mp hnew]
          trivial
      · exact ⟨h.device, h.streams⟩
    · exact h
  | callStream stream call => exact onIdle_keeps h fun receiver => streamCall_submits call _
  | nextBlock stream => exact onIdle_keeps h fun receiver => trivial
  | read stream room => exact onIdle_keeps h fun receiver => trivial
  | dropStream stream => exact onIdle_keeps h fun receiver => dropClaim_keeps _ _
  | cancelStream stream => exact onStream_keeps h fun phase _ step hstep => cancel_keeps hstep
  | pollStream stream replies arrivals =>
    exact onStream_keeps h fun phase hphase step hstep =>
      poll_streamKeeps (h.streams phase hphase) (fun _ => rfl) hstep
  | pollRead stream room arrivals =>
    refine onIdle_keeps h fun receiver => ?_
    cases Receiver.pollRead (s.streamWorld receiver) room arrivals <;> trivial
  | readBlocking stream room arrivals =>
    refine onIdle_keeps h fun receiver => ?_
    cases Receiver.readBlocking (s.streamWorld receiver) room arrivals <;> trivial

omit [SampleArithmetic F] in
theorem dropSession_keeps {s : System F mode} (h : KeepsTo s) (reply : ℕ → AnyReply) :
    KeepsTo (s.dropSession reply) := by
  unfold System.dropSession
  split
  · exact ⟨h.device, h.streams⟩
  · exact ⟨h.device, h.streams⟩

/-- **Everything in flight keeps to its allowance**, in every reachable state. -/
theorem reachable_keeps {config : ValidConfig mode} {s : System F mode}
    (h : System.Reachable config s) : KeepsTo s := by
  induction h with
  | initial => exact ⟨initializeSession_submits config.2, fun _ h => absurd h List.not_mem_nil⟩
  | @step s action reply hs ih =>
    unfold System.step
    split
    · exact ih
    · dsimp only
      split
      · exact act_keeps ih action
      · exact dropSession_keeps (act_keeps ih action) reply

/-! ## The end of what is in flight -/

/-- How far a stream is from waiting for no reply: a call or a restart is followed at most by the
cleanup of a stream whose close has failed. -/
def stage : {mode : SampleFormat} → StreamPhase F mode → ℕ
  | _, .operating _ _ _ _ => 2
  | _, .reading _ (.restarting _) => 2
  | _, .cleaning _ _ => 1
  | _, _ => 0

/-- A phase whose end is reported. -/
def reports : {mode : SampleFormat} → StreamPhase F mode → Bool
  | _, .operating _ _ _ _ => true
  | _, .cleaning _ _ => true
  | _, _ => false

/-- A poll that ends what a stream waited for: the stream comes closer to rest, a call or a cleanup
reports its end, and only a close that has failed is followed by a cleanup. -/
structure Ends (stream : ℕ) (phase : StreamPhase F mode) (step : StreamStep F mode) : Prop where
  closer : stage step.phase < stage phase
  reported : reports phase = true → ∃ event, step.events = [event]
  cleans : 0 < stage step.phase → ∃ e, step.events = [.closed stream (.error e)]

omit [SampleArithmetic F] in
/-- The device finishes what it waits for. -/
theorem pollDevice_finishes {s : System F mode} {n : ℕ} (h : DeviceAllows n s.device)
    (hwaits : deviceWaits s.device = true) {replies : List AnyReply} (hlength : n ≤ replies.length) :
    deviceWaits (s.pollDevice replies).device = false ∧
      ∃ event, (s.pollDevice replies).history = s.history ++ [event] := by
  unfold System.pollDevice
  cases hphase : s.device with
  | opening config flight =>
    rw [hphase] at h
    dsimp only
    generalize hpoll : flight.poll DeviceWorld.port replies (s.deviceWorld config) = outcome
    obtain ⟨result, hfinished⟩ := Flight.Submits.finishes deviceLogs h hlength (s.deviceWorld config)
    rw [hpoll] at hfinished
    obtain ⟨progress, w⟩ := outcome
    obtain rfl : progress = .finished result := hfinished
    cases result with
    | ok value => exact ⟨rfl, _, rfl⟩
    | error e => exact ⟨rfl, _, rfl⟩
  | operating config operation flight =>
    rw [hphase] at h
    dsimp only
    generalize hpoll : flight.poll DeviceWorld.port replies (s.deviceWorld config) = outcome
    obtain ⟨result, hfinished⟩ := Flight.Submits.finishes deviceLogs h hlength (s.deviceWorld config)
    rw [hpoll] at hfinished
    obtain ⟨progress, w⟩ := outcome
    obtain rfl : progress = .finished result := hfinished
    exact ⟨rfl, _, rfl⟩
  | idle config => rw [hphase] at hwaits; exact nomatch hwaits
  | dropped => rw [hphase] at hwaits; exact nomatch hwaits

omit [SampleArithmetic F] in
/-- A stream that has given its right to clean up away is gone without a cleanup. -/
theorem dropClaim_stage (w : StreamWorld F mode) (events : List (CallEvent F mode)) :
    stage (StreamPhase.dropClaim w events).phase = (if w.receiver.claim.cleanupArmed then 1 else 0) ∧
      (StreamPhase.dropClaim w events).events = events := by
  unfold StreamPhase.dropClaim
  split
  · exact ⟨rfl, rfl⟩
  · exact ⟨rfl, rfl⟩

/-- A call whose result is handed over says so. -/
theorem finishCall_reports {stream : ℕ} {found : Option ℕ} {arrivals : List Arrival}
    {call : StreamCall mode} {result : Result call.Value} {w : StreamWorld F mode}
    {step : StreamStep F mode}
    (h : StreamPhase.finishCall stream found arrivals call result w = .ok step) :
    ∃ event, step.events = [event] := by
  cases call with
  | start => cases h; exact ⟨_, rfl⟩
  | stop => cases h; exact ⟨_, rfl⟩
  | close => cases h; exact ⟨_, (dropClaim_stage w [.closed stream result]).2⟩
  | waitBlock =>
    cases result with
    | error e => cases h; exact ⟨_, rfl⟩
    | ok value =>
      obtain ⟨⟨block, w'', rest⟩, _, h⟩ := bind_ok h
      cases h
      exact ⟨_, rfl⟩

/-- A call whose result is handed over is at its end; only a close that has failed is followed by a
cleanup. -/
theorem finishCall_ends {stream : ℕ} {found : Option ℕ} {arrivals : List Arrival}
    {call : StreamCall mode} {result : Result call.Value} {start w : StreamWorld F mode}
    (hpost : CallPost found call start result w) {step : StreamStep F mode}
    (h : StreamPhase.finishCall stream found arrivals call result w = .ok step) :
    stage step.phase < 2 ∧
      (0 < stage step.phase → ∃ e, step.events = [.closed stream (.error e)]) := by
  have hrests : stage step.phase = 0 → stage step.phase < 2 ∧
      (0 < stage step.phase → ∃ e, step.events = [.closed stream (.error e)]) :=
    fun hrest => ⟨by omega, fun hcleans => by omega⟩
  cases call with
  | start => cases h; exact hrests rfl
  | stop => cases h; exact hrests rfl
  | close =>
    cases h
    obtain ⟨hstage, hevents⟩ := dropClaim_stage w [.closed stream result]
    rw [hstage, hevents]
    refine ⟨by split <;> decide, fun hcleans => ?_⟩
    cases result with
    | ok stats =>
      obtain ⟨m, _, _, _, rfl⟩ := hpost
      exact absurd hcleans (Nat.lt_irrefl 0)
    | error e => exact ⟨e, rfl⟩
  | waitBlock =>
    cases result with
    | error e => cases h; exact hrests rfl
    | ok value =>
      obtain ⟨⟨block, w'', rest⟩, _, h⟩ := bind_ok h
      cases h
      exact hrests rfl

omit [SampleArithmetic F] in
/-- A future that waits for no reply is at rest. -/
theorem stage_reading {future : NextBlockFuture F} (h : WaitsForNoReply future)
    (receiver : Receiver F .rawAdc) : stage (.reading receiver future) = 0 := by
  cases future with
  | restarting progress => exact absurd h id
  | _ => rfl

/-- A restart that has all its replies waits at most for a completion. -/
theorem restart_waits {progress : StreamProgress F .rawAdc (Result Unit)} {result : Result Unit}
    (hfinished : progress = .finished result) {future : NextBlockFuture F}
    {w w' : StreamWorld F .rawAdc} {arrivals rest : List Arrival}
    {polled : Option (Result (Option SampleBlock))}
    (h : NextBlockFuture.restart progress w arrivals = .ok (polled, future, w', rest)) :
    WaitsForNoReply future := by
  subst hfinished
  cases result with
  | ok value => exact fill_waits h trivial trivial
  | error e => cases h; trivial

omit [SampleArithmetic F] in
/-- A checked step that has not panicked has been made. -/
theorem ofChecked_ok {w : StreamWorld F mode} {phase : StreamPhase F mode}
    {step : Checked (StreamStep F mode)} (h : (StreamStep.ofChecked w phase step).panic = none) :
    ∃ made, step = .ok made := by
  cases step with
  | ok made => exact ⟨made, rfl⟩
  | error panic =>
    have hraised : (w.raise panic).panic = none := h
    unfold StreamWorld.raise at hraised
    cases hpanic : w.panic <;> simp [hpanic] at hraised

omit [SampleArithmetic F] in
/-- The phase after a poll of a next-block future. -/
theorem pollNextBlock_phase (stream : ℕ) (outcome : NextBlockFuture.Outcome F) :
    (StreamPhase.pollNextBlock stream outcome).phase =
      .reading outcome.2.2.1.receiver outcome.2.1 := by
  obtain ⟨polled, future, w, rest⟩ := outcome
  cases polled <;> rfl

/-- **A poll of a stream with all the replies it can wait for.** -/
theorem poll_ends {session : Session} {wire : Wire} {panic : Option Panic}
    {phase : StreamPhase F mode} (hinv : PhaseInv session wire panic phase) {n : ℕ}
    (hkeeps : StreamAllows n phase) (hwaits : 0 < stage phase) {stream : ℕ}
    {replies : List AnyReply} {arrivals : List Arrival} (hlength : n ≤ replies.length)
    {step : StreamStep F mode}
    (h : phase.poll stream replies arrivals
      (fun receiver => ⟨session, wire, receiver, panic⟩) = some step)
    (hpanic : step.panic = none) : Ends stream phase step := by
  cases phase with
  | operating receiver found call flight =>
    obtain rfl := Option.some.inj h
    obtain ⟨made, hmade⟩ := ofChecked_ok hpanic
    obtain ⟨result, hfinished⟩ := Flight.Submits.finishes streamLogs hkeeps hlength
      (⟨session, wire, receiver, panic⟩ : StreamWorld F mode)
    have hsegment := controlPoll (callPost_compose _ call) hinv.2.2 replies
    rw [hmade]
    generalize flight.poll StreamWorld.port replies _ = outcome at hfinished hmade hsegment
    obtain ⟨progress, w⟩ := outcome
    obtain rfl : progress = .finished result := hfinished
    obtain ⟨hstage, hcleans⟩ := finishCall_ends hsegment hmade
    exact ⟨hstage, fun _ => finishCall_reports hmade, hcleans⟩
  | reading receiver future =>
    obtain rfl := Option.some.inj h
    cases future with
    | restarting progress =>
      obtain ⟨made, hmade⟩ := ofChecked_ok hpanic
      obtain ⟨⟨polled, future', w', rest⟩, hpoll, hstep⟩ := map_ok hmade
      have hrestart : (Flight.polled progress).Submits streamIssued StreamTransfer n := hkeeps
      obtain ⟨result, hfinished⟩ := Flight.Submits.finishes streamLogs hrestart hlength
        (⟨session, wire, receiver, panic⟩ : StreamWorld F .rawAdc)
      have hstage : stage made.phase = 0 := by
        rw [← hstep, pollNextBlock_phase]
        exact stage_reading (restart_waits hfinished hpoll) _
      rw [hmade]
      refine ⟨?_, (nomatch ·), fun hcleans => ?_⟩
      · show stage made.phase < 2
        omega
      · exact absurd hcleans (hstage ▸ Nat.lt_irrefl 0)
    | _ => exact absurd hwaits (Nat.lt_irrefl 0)
  | cleaning receiver flight =>
    obtain rfl := Option.some.inj h
    generalize hpoll : flight.poll StreamWorld.port replies
      (⟨session, wire, receiver, panic⟩ : StreamWorld F mode) = outcome
    obtain ⟨value, hfinished⟩ := Flight.Submits.finishes streamLogs hkeeps hlength
      (⟨session, wire, receiver, panic⟩ : StreamWorld F mode)
    rw [hpoll] at hfinished
    obtain ⟨progress, w⟩ := outcome
    obtain rfl : progress = .finished value := hfinished
    exact ⟨Nat.succ_pos 0, fun _ => ⟨_, rfl⟩, fun hcleans => absurd hcleans (Nat.lt_irrefl 0)⟩
  | idle receiver => exact absurd hwaits (Nat.lt_irrefl 0)
  | awaiting receiver operation => exact absurd hwaits (Nat.lt_irrefl 0)
  | gone => exact absurd hwaits (Nat.lt_irrefl 0)

/-- **A poll of a stream that goes on waiting** uses up the replies it is given. -/
theorem poll_stays {session : Session} {wire : Wire} {panic : Option Panic}
    {phase : StreamPhase F mode} (hinv : PhaseInv session wire panic phase) {n : ℕ}
    (hkeeps : StreamAllows n phase) (hwaits : 0 < stage phase) {stream : ℕ}
    {replies : List AnyReply} {arrivals : List Arrival} {step : StreamStep F mode}
    (h : phase.poll stream replies arrivals
      (fun receiver => ⟨session, wire, receiver, panic⟩) = some step)
    (hpanic : step.panic = none) (hsame : stage step.phase = stage phase) :
    StreamAllows (n - replies.length) step.phase := by
  cases phase with
  | operating receiver found call flight =>
    obtain rfl := Option.some.inj h
    obtain ⟨made, hmade⟩ := ofChecked_ok hpanic
    rw [hmade] at hsame ⊢
    generalize hpoll : flight.poll StreamWorld.port replies
      (⟨session, wire, receiver, panic⟩ : StreamWorld F mode) = outcome at hmade
    have hleft := (poll_keeps streamLogs hkeeps hpoll).1
    have hsegment := controlPoll (callPost_compose _ call) hinv.2.2 replies
    rw [hpoll] at hsegment
    obtain ⟨progress, w⟩ := outcome
    cases progress with
    | finished result =>
      have hless := (finishCall_ends hsegment hmade).1
      exact absurd hsame (Nat.ne_of_lt hless)
    | waiting ticket request next =>
      cases hmade
      exact hleft
  | reading receiver future =>
    obtain rfl := Option.some.inj h
    cases future with
    | restarting progress =>
      obtain ⟨made, hmade⟩ := ofChecked_ok hpanic
      obtain ⟨⟨polled, future', w', rest⟩, hpoll, hstep⟩ := map_ok hmade
      rw [hmade, ← hstep]
      show StreamAllows _ (StreamPhase.pollNextBlock stream _).phase
      rw [pollNextBlock_phase]
      have hleft := restarting_keeps hkeeps replies
        (⟨session, wire, receiver, panic⟩ : StreamWorld F .rawAdc)
      exact restart_keeps hleft hpoll _
    | _ => exact absurd hwaits (Nat.lt_irrefl 0)
  | cleaning receiver flight =>
    obtain rfl := Option.some.inj h
    generalize hpoll : flight.poll StreamWorld.port replies
      (⟨session, wire, receiver, panic⟩ : StreamWorld F mode) = outcome
    have hleft := (poll_keeps streamLogs hkeeps hpoll).1
    obtain ⟨progress, w⟩ := outcome
    cases progress with
    | finished value => trivial
    | waiting ticket request next => exact hleft
  | idle receiver => exact absurd hwaits (Nat.lt_irrefl 0)
  | awaiting receiver operation => exact absurd hwaits (Nat.lt_irrefl 0)
  | gone => exact absurd hwaits (Nat.lt_irrefl 0)

/-- A stream that waits for a reply can be polled. -/
theorem poll_of_waiting {phase : StreamPhase F mode} (hwaits : 0 < stage phase) (stream : ℕ)
    (replies : List AnyReply) (arrivals : List Arrival)
    (view : Receiver F mode → StreamWorld F mode) :
    ∃ step, phase.poll stream replies arrivals view = some step := by
  cases phase with
  | operating receiver found call flight => exact ⟨_, rfl⟩
  | reading receiver future => exact ⟨_, rfl⟩
  | awaiting receiver operation => exact ⟨_, rfl⟩
  | cleaning receiver flight => exact ⟨_, rfl⟩
  | idle receiver => exact absurd hwaits (Nat.lt_irrefl 0)
  | gone => exact absurd hwaits (Nat.lt_irrefl 0)

omit [SampleArithmetic F] in
/-- A stream that waits for a reply has no future that has returned. -/
theorem not_usedUp {phase : StreamPhase F mode} (hwaits : 0 < stage phase) :
    PanicFreedom.usedUpPanic phase = none := by
  cases phase with
  | reading receiver future =>
    cases future with
    | restarting progress => rfl
    | _ => exact absurd hwaits (Nat.lt_irrefl 0)
  | awaiting receiver operation => exact absurd hwaits (Nat.lt_irrefl 0)
  | _ => rfl

/-- A step leaves the device handle as its action does. -/
theorem step_device {s : System F mode} (hpanic : s.panic = none) (hended : s.ended = false)
    (action : Action mode) (reply : ℕ → AnyReply) :
    (s.step action reply).device = (s.act action).device := by
  have hgoes : ¬(s.panic.isSome || s.ended) = true := by
    rw [hpanic, hended]
    exact Bool.false_ne_true
  unfold System.step
  rw [if_neg hgoes]
  dsimp only
  split
  · rfl
  · unfold System.dropSession
    split <;> rfl

/-- A stream that waits is polled, and has not panicked before. -/
theorem act_poll {s : System F mode} {stream : ℕ} {phase : StreamPhase F mode}
    (hphase : s.streams[stream]? = some phase) {replies : List AnyReply} {arrivals : List Arrival}
    {step : StreamStep F mode} (hstep : phase.poll stream replies arrivals s.streamWorld = some step) :
    s.act (.pollStream stream replies arrivals) = s.putStream stream step := by
  refine (onStream_some hphase _).trans ?_
  rw [hstep]
  rfl

/-! ## Replies spread over polls -/

/-- How many replies an action gives to the device. -/
def deviceReplies : Action mode → ℕ
  | .pollDevice replies => replies.length
  | _ => 0

/-- How many replies an action gives to a stream. -/
def streamReplies (stream : ℕ) : Action mode → ℕ
  | .pollStream other replies _ => if other = stream then replies.length else 0
  | _ => 0

/-- A run in which the device waits all along, with the number of replies it has been given. -/
inductive DeviceRun (s : System F mode) : ℕ → System F mode → Prop
  | now : DeviceRun s 0 s
  | step {given : ℕ} {s' : System F mode} (action : Action mode) (reply : ℕ → AnyReply)
      (hgoes : (s'.step action reply).panic = none ∧ (s'.step action reply).ended = false)
      (hwaits : deviceWaits (s'.step action reply).device = true) (h : DeviceRun s given s') :
      DeviceRun s (given + deviceReplies action) (s'.step action reply)

/-- A run in which a stream waits all along for one thing, with the number of replies it has been
given. -/
inductive StreamRun (stream waiting : ℕ) (s : System F mode) : ℕ → System F mode → Prop
  | now : StreamRun stream waiting s 0 s
  | step {given : ℕ} {s' : System F mode} (action : Action mode) (reply : ℕ → AnyReply)
      (hgoes : (s'.step action reply).panic = none ∧ (s'.step action reply).ended = false)
      (hwaits : (s'.step action reply).streams[stream]?.map stage = some waiting)
      (h : StreamRun stream waiting s given s') :
      StreamRun stream waiting s (given + streamReplies stream action) (s'.step action reply)

omit [SampleArithmetic F] in
theorem onStream_device (s : System F mode) (stream : ℕ)
    (use : StreamPhase F mode → (Receiver F mode → StreamWorld F mode) →
      Option (StreamStep F mode)) : (s.onStream stream use).device = s.device := by
  unfold System.onStream
  split
  · rfl
  · split <;> rfl

/-- An action leaves a device that goes on waiting with what is left of its allowance. -/
theorem act_deviceLeft {s : System F mode} {n : ℕ} (h : DeviceAllows n s.device)
    (hwaits : deviceWaits s.device = true) {action : Action mode}
    (hafter : deviceWaits (s.act action).device = true) :
    DeviceAllows (n - deviceReplies action) (s.act action).device := by
  have hkept : ∀ {s' : System F mode}, s'.device = s.device → DeviceAllows n s'.device :=
    fun hsame => hsame ▸ h
  cases action with
  | pollDevice replies => exact (pollDevice_keeps h replies).1
  | callDevice operation =>
    refine hkept ?_
    show (s.callDevice operation).device = s.device
    unfold System.callDevice
    cases hphase : s.device with
    | idle config => rw [hphase] at hwaits; exact nomatch hwaits
    | _ => exact hphase
  | cancelDevice =>
    have hcancelled : deviceWaits s.cancelDevice.device = true := hafter
    unfold System.cancelDevice at hcancelled
    cases hphase : s.device with
    | idle config => rw [hphase] at hwaits; exact nomatch hwaits
    | dropped => rw [hphase] at hwaits; exact nomatch hwaits
    | opening config flight => rw [hphase] at hcancelled; exact nomatch hcancelled
    | operating config operation flight => rw [hphase] at hcancelled; exact nomatch hcancelled
  | dropDevice =>
    refine hkept ?_
    show s.dropDevice.device = s.device
    unfold System.dropDevice
    cases hphase : s.device with
    | idle config => rw [hphase] at hwaits; exact nomatch hwaits
    | _ => exact hphase
  | rxStream =>
    refine hkept ?_
    show s.rxStream.device = s.device
    unfold System.rxStream
    split
    · split <;> rfl
    · rfl
  | _ => exact hkept (onStream_device s _ _)

/-- **A device that waits all along** has used up the replies it has been given. -/
theorem deviceRun_left {config : ValidConfig mode} {s s' : System F mode} {given : ℕ}
    (h : System.Reachable config s) (hpanic : s.panic = none) (hended : s.ended = false)
    (hwaits : deviceWaits s.device = true) (hrun : DeviceRun s given s') :
    System.Reachable config s' ∧ s'.panic = none ∧ s'.ended = false ∧
      deviceWaits s'.device = true ∧
      DeviceAllows (deviceBudget s.device - given) s'.device := by
  induction hrun with
  | now => exact ⟨h, hpanic, hended, hwaits, (reachable_keeps h).device⟩
  | step action reply hgoes hafter _ ih =>
    obtain ⟨hreachable, hpanic', hended', hwaits', hleft⟩ := ih
    refine ⟨hreachable.step action reply, hgoes.1, hgoes.2, hafter, ?_⟩
    rw [step_device hpanic' hended'] at hafter ⊢
    rw [← Nat.sub_sub]
    exact act_deviceLeft hleft hwaits' hafter

omit [SampleArithmetic F] in
/-- A stream whose wait is dropped comes closer to rest. -/
theorem cancel_closer {phase : StreamPhase F mode} (hwaits : 0 < stage phase)
    {view : Receiver F mode → StreamWorld F mode} {step : StreamStep F mode}
    (h : phase.cancel view = some step) : stage step.phase < stage phase := by
  cases phase with
  | operating receiver found call flight =>
    cases call with
    | close =>
      obtain rfl := Option.some.inj h
      have hstage := (dropClaim_stage
        ((view receiver).onReceiver fun receiver => { receiver with queue := none }) []).1
      show stage (StreamPhase.dropClaim _ []).phase < 2
      rw [hstage]
      split <;> decide
    | start | stop | waitBlock =>
      obtain rfl := Option.some.inj h
      exact Nat.succ_pos 1
  | reading receiver future =>
    obtain rfl := Option.some.inj h
    exact hwaits
  | awaiting receiver operation => exact absurd hwaits (Nat.lt_irrefl 0)
  | cleaning receiver flight => exact nomatch h
  | idle receiver => exact nomatch h
  | gone => exact nomatch h

/-- A stream that waits and is not polled goes on waiting for the same, or for something else. -/
theorem act_sameStream {config : ValidConfig mode} {s : System F mode}
    (h : System.Reachable config s) {stream : ℕ} {phase phase' : StreamPhase F mode}
    (hphase : s.streams[stream]? = some phase) (hwaits : 0 < stage phase) {action : Action mode}
    (hunpolled : ∀ replies arrivals, action ≠ .pollStream stream replies arrivals)
    (hphase' : (s.act action).streams[stream]? = some phase') (hsame : stage phase' = stage phase) :
    phase' = phase := by
  have hlt : stream < s.streams.length := (List.getElem?_eq_some_iff.mp hphase).1
  by_cases hother : actionStream action = some stream
  · -- the uses of an idle stream find none, and what is dropped waits for less or for nothing
    have hidle : ∀ use, (s.onStream stream (StreamPhase.onIdle use)).streams[stream]? =
        some phase' → phase' = phase := by
      intro use hused
      have hnothing : s.onStream stream (StreamPhase.onIdle use) = s := by
        rw [onStream_some hphase]
        cases phase with
        | idle receiver => exact absurd hwaits (Nat.lt_irrefl 0)
        | _ => rfl
      rw [hnothing, hphase] at hused
      exact (Option.some.inj hused).symm
    cases action with
    | pollStream other replies arrivals =>
      obtain rfl := Option.some.inj hother
      exact absurd rfl (hunpolled replies arrivals)
    | cancelStream other =>
      obtain rfl := Option.some.inj hother
      have hcancelled : (s.onStream other StreamPhase.cancel).streams[other]? = some phase' := hphase'
      rw [onStream_some hphase] at hcancelled
      cases hstep : phase.cancel s.streamWorld with
      | none =>
        rw [hstep, Option.elim_none, hphase] at hcancelled
        exact (Option.some.inj hcancelled).symm
      | some step =>
        rw [hstep, Option.elim_some] at hcancelled
        obtain rfl : step.phase = phase' :=
          Option.some.inj ((List.getElem?_set_self hlt).symm.trans hcancelled)
        exact absurd hsame (Nat.ne_of_lt (cancel_closer hwaits hstep))
    | callStream other call => obtain rfl := Option.some.inj hother; exact hidle _ hphase'
    | dropStream other => obtain rfl := Option.some.inj hother; exact hidle _ hphase'
    | nextBlock other => obtain rfl := Option.some.inj hother; exact hidle _ hphase'
    | read other room => obtain rfl := Option.some.inj hother; exact hidle _ hphase'
    | pollRead other room arrivals => obtain rfl := Option.some.inj hother; exact hidle _ hphase'
    | readBlocking other room arrivals => obtain rfl := Option.some.inj hother; exact hidle _ hphase'
    | _ => exact nomatch hother
  · have hkept := (reachable_acted h action).others hother hphase
    exact (Option.some.inj (hkept.symm.trans hphase')).symm

/-- **A stream that waits all along** has used up the replies it has been given. -/
theorem streamRun_left {config : ValidConfig mode} {s s' : System F mode} {stream : ℕ}
    {phase : StreamPhase F mode} {given : ℕ} (h : System.Reachable config s)
    (hpanic : s.panic = none) (hended : s.ended = false)
    (hphase : s.streams[stream]? = some phase) (hwaits : 0 < stage phase)
    (hrun : StreamRun stream (stage phase) s given s') :
    System.Reachable config s' ∧ s'.panic = none ∧ s'.ended = false ∧
      ∃ phase', s'.streams[stream]? = some phase' ∧ stage phase' = stage phase ∧
        StreamAllows (5 - given) phase' := by
  induction hrun with
  | now =>
    exact ⟨h, hpanic, hended, phase, hphase, rfl,
      (reachable_keeps h).streams phase (List.mem_of_getElem? hphase)⟩
  | @step given s' action reply hgoes hafter _ ih =>
    obtain ⟨hreachable, hpanic', hended', phase', hphase', hsame, hleft⟩ := ih
    obtain ⟨phase'', hphase'', hsame'⟩ := Option.map_eq_some_iff.mp hafter
    refine ⟨hreachable.step action reply, hgoes.1, hgoes.2, phase'', hphase'', hsame', ?_⟩
    obtain ⟨hstreams, _, hmade⟩ := step_streams hpanic' hended' action reply
    rw [hstreams] at hphase''
    have hwaits' : 0 < stage phase' := hsame ▸ hwaits
    by_cases hpolls : ∃ replies arrivals, action = .pollStream stream replies arrivals
    · obtain ⟨replies, arrivals, rfl⟩ := hpolls
      obtain ⟨step, hstep⟩ := poll_of_waiting hwaits' stream replies arrivals s'.streamWorld
      have hact := act_poll hphase' hstep
      rw [hact] at hphase'' hmade
      have hlt := (List.getElem?_eq_some_iff.mp hphase').1
      obtain rfl := Option.some.inj ((List.getElem?_set_self hlt).symm.trans hphase'')
      have hused := poll_stays ((reachable_inv hreachable).system.streams phase'
        (List.mem_of_getElem? hphase')) hleft hwaits' hstep (hmade.symm.trans hgoes.1)
        (hsame'.trans hsame.symm)
      rwa [streamReplies, if_pos rfl, ← Nat.sub_sub]
    · have hnone : streamReplies stream action = 0 := by
        cases action with
        | pollStream other replies arrivals =>
          refine if_neg ?_
          rintro rfl
          exact hpolls ⟨replies, arrivals, rfl⟩
        | _ => rfl
      have hkept := act_sameStream hreachable hphase' hwaits'
        (fun replies arrivals hpoll => hpolls ⟨replies, arrivals, hpoll⟩) hphase''
        (hsame'.trans hsame.symm)
      rw [hnone, Nat.add_zero, hkept]
      exact hleft

/-- **Whatever is in flight comes to an end.**  In every state of a session that goes on, an
operation of the device that waits for a reply ends, and says so, with the poll that brings the
replies it has been given to ten, or to fifteen while the device is being opened, whatever they are;
a call of a stream, the restart of a next-block future, or the cleanup of a dropped stream ends with
the poll that brings them to five.  The one thing that a stream may then still wait for is its
cleanup after a close that has failed.  The replies may be spread over polls, and nothing that the
rest of the session does meanwhile can prevent the end. -/
theorem operations_finish {config : ValidConfig mode} {s : System F mode}
    (h : System.Reachable config s) (hpanic : s.panic = none) (hended : s.ended = false) :
    (deviceWaits s.device = true → ∀ given s', DeviceRun s given s' →
      ∀ (replies : List AnyReply) reply, deviceBudget s.device ≤ given + replies.length →
        deviceWaits (s'.step (.pollDevice replies) reply).device = false ∧
          ∃ event, (s'.step (.pollDevice replies) reply).history = s'.history ++ [event]) ∧
    ∀ stream phase, s.streams[stream]? = some phase → 0 < stage phase →
      ∀ given s', StreamRun stream (stage phase) s given s' →
        ∀ (replies : List AnyReply) arrivals reply, 5 ≤ given + replies.length →
        ∃ phase' phase'' events, s'.streams[stream]? = some phase' ∧ stage phase' = stage phase ∧
          (s'.step (.pollStream stream replies arrivals) reply).streams[stream]? = some phase'' ∧
          (s'.step (.pollStream stream replies arrivals) reply).history = s'.history ++ events ∧
          stage phase'' < stage phase ∧ (reports phase' = true → ∃ event, events = [event]) ∧
          (0 < stage phase'' → ∃ e, events = [.closed stream (.error e)]) := by
  constructor
  · intro hwaits given s' hrun replies reply hlength
    obtain ⟨_, hpanic', hended', hwaits', hleft⟩ := deviceRun_left h hpanic hended hwaits hrun
    obtain ⟨hrests, event, hevent⟩ := pollDevice_finishes hleft hwaits' (Nat.sub_le_iff_le_add'.mpr hlength)
    refine ⟨?_, event, ?_⟩
    · rw [← hrests]
      exact congrArg deviceWaits (step_device hpanic' hended' _ reply)
    · rw [(step_streams hpanic' hended' _ reply).2.1]
      exact hevent
  · intro stream phase hphase hwaits given s' hrun replies arrivals reply hlength
    obtain ⟨hreachable, hpanic', hended', phase', hphase', hsame, hleft⟩ :=
      streamRun_left h hpanic hended hphase hwaits hrun
    have hwaits' : 0 < stage phase' := hsame ▸ hwaits
    obtain ⟨step, hstep⟩ := poll_of_waiting hwaits' stream replies arrivals s'.streamWorld
    have hact := act_poll hphase' hstep
    have hmade := PanicFreedom.act_panic hreachable hpanic' (.pollStream stream replies arrivals)
    rw [PanicFreedom.actionPanic, hphase', Option.bind_some, not_usedUp hwaits', hact] at hmade
    have hends := poll_ends ((reachable_inv hreachable).system.streams phase'
      (List.mem_of_getElem? hphase')) hleft hwaits' (Nat.sub_le_iff_le_add'.mpr hlength) hstep hmade
    obtain ⟨hstreams, hhistory, _⟩ := step_streams hpanic' hended'
      (.pollStream stream replies arrivals) reply
    refine ⟨phase', step.phase, step.events, hphase', hsame, ?_, ?_, ?_, hends.reported, hends.cleans⟩
    · rw [hstreams, hact]
      exact List.getElem?_set_self (List.getElem?_eq_some_iff.mp hphase').1
    · rw [hhistory, hact]
      rfl
    · rw [← hsame]
      exact hends.closer

/-- A session whose device and whose stream both wait for a reply. -/
def waitingSession : System Rat .f32Iq :=
  System.after (ValidConfig.standard .f32Iq) (fun _ => obliging)
    [.pollDevice (List.replicate 16 obliging), .rxStream, .callStream 0 .start,
      .pollStream 0 [obliging] [], .callDevice (.setBiasTee true), .pollDevice []]

/-- The same session after two polls of its stream with one reply each. -/
def waitingOn : System Rat .f32Iq :=
  (waitingSession.step (.pollStream 0 [obliging] []) fun _ => obliging).step
    (.pollStream 0 [obliging] []) fun _ => obliging

theorem waitingSession_finishes :
    deviceWaits (waitingSession.step (.pollDevice (List.replicate 10 obliging))
      fun _ => obliging).device = false ∧
    ∃ phase', (waitingOn.step (.pollStream 0 (List.replicate 3 obliging) [])
      fun _ => obliging).streams[0]? = some phase' ∧ stage phase' < 2 := by
  have hreachable : System.Reachable (ValidConfig.standard .f32Iq) waitingSession :=
    System.reachable_after _ _ _
  have hpanic : waitingSession.panic = none := by decide +kernel
  have hended : waitingSession.ended = false := by decide +kernel
  have hdevice : deviceWaits waitingSession.device = true := by decide +kernel
  have hbudget : deviceBudget waitingSession.device = 10 := by decide +kernel
  have hstage : waitingSession.streams[0]?.map stage = some 2 := by decide +kernel
  obtain ⟨phase, hphase, hwaits⟩ := Option.map_eq_some_iff.mp hstage
  have hrun : StreamRun 0 (stage phase) waitingSession 2 waitingOn := by
    rw [hwaits]
    exact .step (.pollStream 0 [obliging] []) (fun _ => obliging) (by decide +kernel) (by decide +kernel)
      (.step (.pollStream 0 [obliging] []) (fun _ => obliging) (by decide +kernel) (by decide +kernel)
        .now)
  obtain ⟨hends, hstream⟩ := operations_finish hreachable hpanic hended
  refine ⟨(hends hdevice 0 waitingSession .now (List.replicate 10 obliging) _ ?_).1, ?_⟩
  · rw [hbudget]
    decide
  · obtain ⟨_, phase', _, _, _, hphase', _, hcloser, _⟩ := hstream 0 phase hphase (by omega) 2
      waitingOn hrun (List.replicate 3 obliging) [] (fun _ => obliging) (by decide)
    exact ⟨phase', hphase', hwaits ▸ hcloser⟩

end HydraSdr.Analysis.BoundedWaits
