import Mathlib.Data.List.Forall2
import HydraSdr.Analysis.SpuriousPolls
import HydraSdr.Computation.Simulation

/-!
# Waiting and awaiting

A stream can be read by blocking calls and by futures, in any mixture.  Whatever a session does with
blocking reads, a session that polls futures instead does too: the queue, the converter, the commands
on the wire and what callers are told are the same, but for waits that time out, where a future is
only pending and is dropped, and for reads that return no samples.
-/

set_option autoImplicit false

namespace HydraSdr.Analysis.ReadMechanisms

open HydraSdr.Program HydraSdr.Computation HydraSdr.Analysis SpuriousPolls

variable {F : Type} {mode : SampleFormat}

/-! ## What corresponds to what -/

/-- An event that tells a caller that there is nothing: what a blocking read says when its time is
up, and what every read of no samples says. -/
def tellsNothing : CallEvent F mode → Bool
  | .block _ (.ok none) _ => true
  | .samples _ (.ok samples) _ => samples.isEmpty
  | _ => false

/-- What callers have been told, but for that. -/
def told (events : List (CallEvent F mode)) : List (CallEvent F mode) :=
  events.filter fun event => !tellsNothing event

@[simp] theorem told_append (first second : List (CallEvent F mode)) :
    told (first ++ second) = told first ++ told second :=
  List.filter_append ..

/-- A blocking wait for the next block. -/
def blocked : {mode : SampleFormat} → StreamPhase F mode → Bool
  | _, .operating _ _ .waitBlock _ => true
  | _, _ => false

variable [SampleArithmetic F]

/-- A stream, and one on which a future does what a blocking call does on the first one. -/
inductive Corresponds : {mode : SampleFormat} → StreamPhase F mode → StreamPhase F mode → Prop
  | same {mode : SampleFormat} (phase : StreamPhase F mode) : Corresponds phase phase
  | called (found : Option ℕ) (w : StreamWorld F .rawAdc) :
      Corresponds (.operating w.receiver found .waitBlock
        (.unpolled (Receiver.refreshPacking w).denote)) (.reading w.receiver .direct)
  | restarting (receiver : Receiver F .rawAdc) (found : Option ℕ)
      (progress : StreamProgress F .rawAdc (Result Unit)) :
      Corresponds (.operating receiver found .waitBlock (.polled progress))
        (.reading receiver (.restarting progress))

/-- Two sessions that differ only in how their streams are read. -/
structure Similar (s t : System F mode) : Prop where
  session : t.session = s.session
  wire : t.wire = s.wire
  panic : t.panic = s.panic
  device : t.device = s.device
  ended : t.ended = s.ended
  streams : List.Forall₂ Corresponds s.streams t.streams
  history : told t.history = told s.history

/-- Two steps of corresponding streams. -/
structure StepsAlike (x y : StreamStep F mode) : Prop where
  session : y.session = x.session
  wire : y.wire = x.wire
  panic : y.panic = x.panic
  phase : Corresponds x.phase y.phase
  events : told y.events = told x.events

theorem StepsAlike.same (x : StreamStep F mode) : StepsAlike x x :=
  ⟨rfl, rfl, rfl, .same _, rfl⟩

theorem Corresponds.live {phase phase' : StreamPhase F mode} (h : Corresponds phase phase') :
    phase'.live = phase.live := by
  cases h <;> rfl

theorem Similar.refl (s : System F mode) : Similar s s where
  session := rfl
  wire := rfl
  panic := rfl
  device := rfl
  ended := rfl
  streams := List.forall₂_same.mpr fun phase _ => .same phase
  history := rfl

theorem Similar.owned {s t : System F mode} (h : Similar s t) : t.owned = s.owned := by
  have hlive : ∀ phases phases' : List (StreamPhase F mode), List.Forall₂ Corresponds phases phases' →
      phases'.any StreamPhase.live = phases.any StreamPhase.live := by
    intro phases phases' hphases
    induction hphases with
    | nil => rfl
    | cons hphase _ ih => rw [List.any_cons, List.any_cons, hphase.live, ih]
  unfold System.owned
  rw [h.device, hlive _ _ h.streams]

/-- The streams at one index. -/
theorem Similar.stream {s t : System F mode} (h : Similar s t) (stream : ℕ) :
    Option.Rel Corresponds s.streams[stream]? t.streams[stream]? := by
  have hget : ∀ (phases phases' : List (StreamPhase F mode)) (i : ℕ),
      List.Forall₂ Corresponds phases phases' → Option.Rel Corresponds phases[i]? phases'[i]? := by
    intro phases phases' i hphases
    induction hphases generalizing i with
    | nil => exact .none
    | cons hphase _ ih =>
      cases i with
      | zero => exact .some hphase
      | succ i => exact ih i
  exact hget _ _ stream h.streams

theorem forall₂_set {phases phases' : List (StreamPhase F mode)}
    (h : List.Forall₂ Corresponds phases phases') {phase phase' : StreamPhase F mode}
    (hphase : Corresponds phase phase') (stream : ℕ) :
    List.Forall₂ Corresponds (phases.set stream phase) (phases'.set stream phase') := by
  induction h generalizing stream with
  | nil => exact .nil
  | cons hfirst hrest ih =>
    cases stream with
    | zero => exact .cons hphase hrest
    | succ stream => exact .cons hfirst (ih stream)

/-- Both streams take a step. -/
theorem Similar.putStream {s t : System F mode} (h : Similar s t) (stream : ℕ)
    {x y : StreamStep F mode} (hsteps : StepsAlike x y) :
    Similar (s.putStream stream x) (t.putStream stream y) where
  session := hsteps.session
  wire := hsteps.wire
  panic := hsteps.panic
  device := h.device
  ended := h.ended
  streams := forall₂_set h.streams hsteps.phase stream
  history := by
    show told (t.history ++ y.events) = told (s.history ++ x.events)
    rw [told_append, told_append, h.history, hsteps.events]

/-- The views of the streams. -/
theorem Similar.streamWorld {s t : System F mode} (h : Similar s t) :
    t.streamWorld = s.streamWorld := by
  funext receiver
  unfold System.streamWorld
  rw [h.session, h.wire, h.panic]

/-- Both streams are used. -/
theorem Similar.onStream {s t : System F mode} (h : Similar s t) {stream : ℕ} {use use' :
      StreamPhase F mode → (Receiver F mode → StreamWorld F mode) → Option (StreamStep F mode)}
    (hsteps : ∀ phase phase', s.streams[stream]? = some phase → Corresponds phase phase' →
      Option.Rel StepsAlike (use phase s.streamWorld) (use' phase' s.streamWorld)) :
    Similar (s.onStream stream use) (t.onStream stream use') := by
  have hstream := h.stream stream
  cases hphase : s.streams[stream]? with
  | none =>
    cases hphase' : t.streams[stream]? with
    | none =>
      rw [onStream_none hphase, onStream_none hphase']
      exact h
    | some phase' =>
      rw [hphase, hphase'] at hstream
      exact nomatch hstream
  | some phase =>
    cases hphase' : t.streams[stream]? with
    | none =>
      rw [hphase, hphase'] at hstream
      exact nomatch hstream
    | some phase' =>
      rw [hphase, hphase'] at hstream
      cases hstream with
      | some hcorresponds =>
        rw [onStream_some hphase, onStream_some hphase', h.streamWorld]
        have hboth := hsteps phase phase' hphase hcorresponds
        generalize use phase s.streamWorld = step at hboth
        generalize use' phase' s.streamWorld = step' at hboth
        cases hboth with
        | none => exact h
        | some hstep => exact h.putStream stream hstep

/-- Both streams are used while they are idle. -/
theorem Similar.onIdle {s t : System F mode} (h : Similar s t) {stream : ℕ}
    {use use' : StreamWorld F mode → StreamStep F mode}
    (hsteps : ∀ receiver, StepsAlike (use (s.streamWorld receiver)) (use' (s.streamWorld receiver))) :
    Similar (s.onStream stream (StreamPhase.onIdle use))
      (t.onStream stream (StreamPhase.onIdle use')) := by
  refine h.onStream fun phase phase' _ hcorresponds => ?_
  cases hcorresponds with
  | same phase =>
    cases phase with
    | idle receiver => exact .some (hsteps receiver)
    | operating receiver found call flight => exact .none
    | reading receiver future => exact .none
    | awaiting receiver operation => exact .none
    | cleaning receiver flight => exact .none
    | gone => exact .none
  | called found w => exact .none
  | restarting receiver found progress => exact .none

/-! ## The device -/

/-- Both devices take a step. -/
theorem Similar.putDevice {s t : System F mode} (h : Similar s t) (w : DeviceWorld mode)
    (phase : DevicePhase mode) (events : List (CallEvent F mode)) :
    Similar (s.putDevice w phase events) (t.putDevice w phase events) where
  session := rfl
  wire := rfl
  panic := rfl
  device := rfl
  ended := h.ended
  streams := h.streams
  history := by
    show told (t.history ++ events) = told (s.history ++ events)
    rw [told_append, told_append, h.history]

/-- The device handle is left, dropped or borrowed. -/
theorem Similar.setDevice {s t : System F mode} (h : Similar s t) (phase : DevicePhase mode) :
    Similar { s with device := phase } { t with device := phase } :=
  ⟨h.session, h.wire, h.panic, rfl, h.ended, h.streams, h.history⟩

theorem Similar.deviceWorld {s t : System F mode} (h : Similar s t) :
    t.deviceWorld = s.deviceWorld := by
  funext config
  unfold System.deviceWorld
  rw [h.session, h.wire, h.panic]

theorem Similar.callDevice {s t : System F mode} (h : Similar s t)
    (operation : DeviceOperation mode) :
    Similar (s.callDevice operation) (t.callDevice operation) := by
  unfold System.callDevice
  rw [h.device, h.deviceWorld]
  cases s.device with
  | idle config =>
    dsimp only
    cases Device.call operation (s.deviceWorld config) with
    | ok built => exact h.setDevice _
    | error panic => exact ⟨h.session, h.wire, rfl, rfl, h.ended, h.streams, h.history⟩
  | opening config flight => exact h
  | operating config operation flight => exact h
  | dropped => exact h

theorem Similar.pollDevice {s t : System F mode} (h : Similar s t) (replies : List AnyReply) :
    Similar (s.pollDevice replies) (t.pollDevice replies) := by
  unfold System.pollDevice
  rw [h.device, h.deviceWorld]
  cases s.device with
  | opening config flight =>
    dsimp only
    generalize flight.poll DeviceWorld.port replies (s.deviceWorld config) = outcome
    obtain ⟨progress, w⟩ := outcome
    cases progress with
    | finished result => cases result <;> exact h.putDevice _ _ _
    | waiting ticket request next => exact h.putDevice _ _ _
  | operating config operation flight =>
    dsimp only
    generalize flight.poll DeviceWorld.port replies (s.deviceWorld config) = outcome
    obtain ⟨progress, w⟩ := outcome
    cases progress with
    | finished result => exact h.putDevice _ _ _
    | waiting ticket request next => exact h.putDevice _ _ _
  | idle config => exact h
  | dropped => exact h

theorem Similar.cancelDevice {s t : System F mode} (h : Similar s t) :
    Similar s.cancelDevice t.cancelDevice := by
  unfold System.cancelDevice
  rw [h.device]
  cases s.device with
  | opening config flight => exact h.setDevice _
  | operating config operation flight => exact h.setDevice _
  | idle config => exact h
  | dropped => exact h

theorem Similar.dropDevice {s t : System F mode} (h : Similar s t) :
    Similar s.dropDevice t.dropDevice := by
  unfold System.dropDevice
  rw [h.device]
  cases s.device with
  | idle config => exact h.setDevice _
  | opening config flight => exact h
  | operating config operation flight => exact h
  | dropped => exact h

theorem Similar.rxStream {s t : System F mode} (h : Similar s t) :
    Similar s.rxStream t.rxStream := by
  have htold : ∀ event : CallEvent F mode,
      told (t.history ++ [event]) = told (s.history ++ [event]) := by
    intro event
    rw [told_append, told_append, h.history]
  unfold System.rxStream
  rw [h.device, h.session]
  cases s.device with
  | idle config =>
    dsimp only
    obtain ⟨result, session⟩ := RxStreamClaim.acquire s.session
    cases result with
    | ok claim =>
      exact ⟨rfl, h.wire, h.panic, rfl, h.ended,
        List.rel_append h.streams (.cons (.same _) .nil), htold _⟩
    | error e => exact ⟨rfl, h.wire, h.panic, rfl, h.ended, h.streams, htold _⟩
  | opening config flight => exact h
  | operating config operation flight => exact h
  | dropped => exact h

/-- The session of either is dropped. -/
theorem Similar.dropSession {s t : System F mode} (h : Similar s t) (reply : ℕ → AnyReply) :
    Similar (s.dropSession reply) (t.dropSession reply) := by
  unfold System.dropSession
  rw [h.session, h.wire]
  split
  · exact ⟨rfl, rfl, h.panic, h.device, rfl, h.streams, h.history⟩
  · exact ⟨rfl, rfl, h.panic, h.device, rfl, h.streams, h.history⟩

/-- Actions that lead to similar states, as steps. -/
theorem Similar.step_of_act {s t : System F mode} (h : Similar s t)
    (hgoes : s.panic = none ∧ s.ended = false) {action action' : Action mode}
    (hact : Similar (s.act action) (t.act action')) (reply : ℕ → AnyReply) :
    Similar (s.step action reply) (t.step action' reply) := by
  rw [step_of_running hgoes, step_of_running (by rwa [h.panic, h.ended]), hact.owned, hact.panic]
  split
  · exact hact
  · exact hact.dropSession reply

/-! ## The wait for a block -/

/-- What a future tells its caller where a blocking call returns this. -/
def awaitedResult : Result (Option SampleBlock) → Option (Result (Option SampleBlock))
  | .ok none => none
  | result => some result

/-- What becomes of a future then. -/
def awaitedFuture (waiting last : NextBlockFuture F) (result : Result (Option SampleBlock)) :
    NextBlockFuture F :=
  (awaitedResult result).elim waiting fun _ => last

/-- The two fills of a queue. -/
theorem waitFill_pollFill (queue : Queue) (arrivals : List Arrival) :
    queue.waitFill arrivals = (queue.pollFill arrivals).map fun (filled, queue, rest) =>
      (filled.elim (.ok false) fun result => result.map fun _ => true, queue, rest) := by
  unfold Queue.waitFill Queue.pollFill
  cases queue.current with
  | some buffer => rfl
  | none =>
    dsimp only
    cases Queue.fillLoop arrivals queue with
    | error panic => rfl
    | ok outcome =>
      obtain ⟨filled, queue', rest⟩ := outcome
      match filled with
      | none => rfl
      | some (.ok _) => rfl
      | some (.error e) => rfl

/-- **A poll for the next block is the blocking wait**, on a stream that runs. -/
theorem fill_wait {w : StreamWorld F .rawAdc} (hstate : w.receiver.claim.receiver = .running)
    (waiting last : NextBlockFuture F) (arrivals : List Arrival) :
    NextBlockFuture.fill waiting last w arrivals = (Receiver.waitNextBlock w arrivals).map
      fun (result, w', rest) =>
        (awaitedResult result, awaitedFuture waiting last result, w', rest) := by
  have hrunning : w.receiver.ensureRunning = .ok () := if_pos hstate
  unfold NextBlockFuture.fill Receiver.pollNextBlock Receiver.waitNextBlock
  rw [hrunning]
  cases w.receiver.queue with
  | none => rfl
  | some queue =>
    dsimp only
    rw [waitFill_pollFill]
    cases queue.releaseCurrent.pollFill arrivals with
    | error panic => rfl
    | ok outcome =>
      obtain ⟨filled, queue', rest⟩ := outcome
      match filled with
      | none => rfl
      | some (.error e) => rfl
      | some (.ok value) =>
        have hpolled : (w.setQueue queue').onReceiver (Receiver.failedRead (.ok value : Result Unit)) =
            w.setQueue queue' := rfl
        have hwaited : (w.setQueue queue').onReceiver (Receiver.failedRead (.ok true : Result Bool)) =
            w.setQueue queue' := rfl
        dsimp only [Except.map, bind, Except.bind, Option.elim, pure, Except.pure]
        rw [hpolled, hwaited]
        cases Receiver.currentBlock (w.setQueue queue') with
        | error panic => rfl
        | ok block => cases block <;> rfl

/-- What a poll of a future leads to, where the poll of a blocking call leads to `x`: the call goes
on waiting and so does the future, or the call is over and the future can be dropped. -/
structure PollsAlike (x y : StreamStep F .rawAdc) : Prop where
  session : y.session = x.session
  wire : y.wire = x.wire
  panic : y.panic = x.panic
  events : told y.events = told x.events
  phase : (blocked x.phase = true ∧ Corresponds x.phase y.phase) ∨
    ∃ receiver, x.phase = .idle receiver ∧
      (y.phase = .idle receiver ∨ ∃ future, y.phase = .reading receiver future)

/-- A poll of a blocking call leaves it waiting, or the stream idle. -/
theorem pollCall_blocked {stream : ℕ} {found : Option ℕ} {arrivals : List Arrival}
    {outcome : StreamProgress F .rawAdc (Result Unit) × StreamWorld F .rawAdc}
    {x : StreamStep F .rawAdc}
    (hcall : StreamPhase.pollCall stream found arrivals .waitBlock outcome = .ok x) :
    PollsAlike x x := by
  refine ⟨rfl, rfl, rfl, rfl, ?_⟩
  obtain ⟨progress, w⟩ := outcome
  match progress, hcall with
  | .waiting ticket request next, hcall =>
    obtain rfl := Except.ok.inj hcall
    exact .inl ⟨rfl, .same _⟩
  | .finished (.error e), hcall =>
    obtain rfl := Except.ok.inj hcall
    exact .inr ⟨_, rfl, .inl rfl⟩
  | .finished (.ok value), hcall =>
    obtain ⟨_, _, hcall⟩ := bind_ok hcall
    obtain rfl := Except.ok.inj hcall
    exact .inr ⟨_, rfl, .inl rfl⟩

/-- The wait for a completion, and the poll in its place. -/
theorem fill_alike {stream : ℕ} {found : Option ℕ} {arrivals : List Arrival} {value : Unit}
    {w : StreamWorld F .rawAdc} (hstate : w.receiver.claim.receiver = .running)
    (waiting last : NextBlockFuture F) {x : StreamStep F .rawAdc}
    (hcall : StreamPhase.pollCall stream found arrivals .waitBlock (.finished (.ok value), w) =
      .ok x) :
    ∃ y, (NextBlockFuture.fill waiting last w arrivals).map (StreamPhase.pollNextBlock stream) =
      .ok y ∧ PollsAlike x y := by
  obtain ⟨⟨result, w', rest⟩, hwait, hcall⟩ := bind_ok hcall
  obtain rfl := Except.ok.inj hcall
  have hfill := fill_wait hstate waiting last arrivals
  rw [hwait] at hfill
  refine ⟨_, congrArg (Except.map (StreamPhase.pollNextBlock stream)) hfill, ?_⟩
  match result with
  | .ok none => exact ⟨rfl, rfl, rfl, rfl, .inr ⟨_, rfl, .inr ⟨_, rfl⟩⟩⟩
  | .ok (some block) => exact ⟨rfl, rfl, rfl, rfl, .inr ⟨_, rfl, .inr ⟨_, rfl⟩⟩⟩
  | .error e => exact ⟨rfl, rfl, rfl, rfl, .inr ⟨_, rfl, .inr ⟨_, rfl⟩⟩⟩

/-- **The end of the commands of a restart**, or of the check that there is none. -/
theorem restart_alike {stream : ℕ} {found : Option ℕ} {arrivals : List Arrival}
    {progress : StreamProgress F .rawAdc (Result Unit)} {w : StreamWorld F .rawAdc}
    (hrunning : ∀ value, progress = .finished (.ok value) → w.receiver.claim.receiver = .running)
    {x : StreamStep F .rawAdc}
    (hcall : StreamPhase.pollCall stream found arrivals .waitBlock (progress, w) = .ok x) :
    ∃ y, (NextBlockFuture.restart progress w arrivals).map (StreamPhase.pollNextBlock stream) =
      .ok y ∧ PollsAlike x y := by
  match progress, hrunning, hcall with
  | .waiting ticket request next, _, hcall =>
    obtain rfl := Except.ok.inj hcall
    exact ⟨_, rfl, rfl, rfl, rfl, rfl, .inl ⟨rfl, .restarting _ _ _⟩⟩
  | .finished (.error e), _, hcall =>
    obtain rfl := Except.ok.inj hcall
    exact ⟨_, rfl, rfl, rfl, rfl, rfl, .inr ⟨_, rfl, .inr ⟨_, rfl⟩⟩⟩
  | .finished (.ok value), hrunning, hcall =>
    exact fill_alike (hrunning value rfl) .filling .returned hcall

omit [SampleArithmetic F] in
/-- A check that is polled goes on at once. -/
theorem poll_check {α : Type} (result : Result Unit)
    (next : Unit → StreamWorld F mode →
      StreamWorld F mode × Operation (StreamWorld F mode) (Result α))
    (replies : List AnyReply) (w : StreamWorld F mode) :
    (Flight.unpolled ((MaybeFuture.ready result).andThen next).denote).poll StreamWorld.port replies
        w = match result with
      | .ok value =>
        (Flight.unpolled (next value w).2.denote).poll StreamWorld.port replies (next value w).1
      | .error e => (.finished (.error e), w) := by
  rw [MaybeFuture.denote_andThen, MaybeFuture.denote_ready, Resumption.bind_done]
  cases result with
  | ok value => rfl
  | error e => exact Progress.resumeAll_finished _ _ _ _

/-- Without a change of packing, refreshing it comes down to the check that the stream runs. -/
theorem refreshPacking_unchanged {w w' : StreamWorld F .rawAdc}
    (hchanged : Receiver.packingChanged w' ≠ true) (replies : List AnyReply) :
    (Flight.unpolled (Receiver.refreshPacking w).denote).poll StreamWorld.port replies w' =
      (.finished w.receiver.ensureRunning, w') := by
  unfold Receiver.refreshPacking
  rw [poll_check]
  cases w.receiver.ensureRunning with
  | error e => rfl
  | ok value =>
    dsimp only
    rw [if_neg hchanged]
    exact Progress.resumeAll_finished _ _ _ _

/-- **A poll of a blocking call and of the future in its place.** -/
theorem poll_blocked {session : Session} {wire : Wire} {receiver : Receiver F .rawAdc}
    {found : Option ℕ} {flight : StreamFlight F .rawAdc (Result Unit)}
    (hinv : PhaseInv session wire none (.operating receiver found .waitBlock flight))
    {phase : StreamPhase F .rawAdc}
    (h : Corresponds (.operating receiver found .waitBlock flight) phase) {stream : ℕ}
    {replies : List AnyReply} {arrivals : List Arrival} {x : StreamStep F .rawAdc}
    (hcall : StreamPhase.pollCall stream (StreamPhase.foundBy receiver found flight) arrivals
      .waitBlock (flight.poll StreamWorld.port replies ⟨session, wire, receiver, none⟩) = .ok x) :
    ∃ y, phase.poll stream replies arrivals (fun receiver => ⟨session, wire, receiver, none⟩) =
      some y ∧ PollsAlike x y := by
  have hrunning : ∀ value, (flight.poll StreamWorld.port replies
      ⟨session, wire, receiver, none⟩).1 = .finished (.ok value) →
      (flight.poll StreamWorld.port replies
        ⟨session, wire, receiver, none⟩).2.receiver.claim.receiver = .running := by
    intro value hvalue
    have hsegment := controlPoll (callPost_compose _ _) hinv.2.2 replies
    generalize flight.poll StreamWorld.port replies _ = outcome at hsegment hvalue
    obtain ⟨progress, w⟩ := outcome
    obtain rfl : progress = .finished (.ok value) := hvalue
    exact (hsegment.2 rfl).1
  cases h with
  | same phase =>
    refine ⟨x, ?_, pollCall_blocked hcall⟩
    show some (StreamStep.ofChecked _ _ (StreamPhase.pollCall _ _ _ _ _)) = _
    rw [hcall]
    rfl
  | restarting receiver found progress =>
    obtain ⟨y, hy, halike⟩ := restart_alike hrunning hcall
    refine ⟨y, ?_, halike⟩
    show some (StreamStep.ofChecked _ _ ((NextBlockFuture.restart _ _ _).map _)) = _
    exact congrArg (fun step => some (StreamStep.ofChecked _ _ step)) hy
  | called found w =>
    -- the future looks for a change of packing when it is polled, as refreshing does
    by_cases hchanged : Receiver.packingChanged
        (⟨session, wire, w.receiver, none⟩ : StreamWorld F .rawAdc) = true
    · obtain ⟨y, hy, halike⟩ := restart_alike hrunning hcall
      refine ⟨y, ?_, halike⟩
      show some (StreamStep.ofChecked _ _ ((ite _ _ _ : Checked _).map _)) = _
      rw [if_pos hchanged]
      exact congrArg (fun step => some (StreamStep.ofChecked _ _ step)) hy
    · rw [refreshPacking_unchanged hchanged] at hcall
      show ∃ y, some (StreamStep.ofChecked _ _ ((ite _ _ _ : Checked _).map _)) = some y ∧ _
      rw [if_neg hchanged]
      by_cases hstate : w.receiver.claim.receiver = .running
      · rw [show w.receiver.ensureRunning = .ok () from if_pos hstate] at hcall
        have hrunning' : (⟨session, wire, w.receiver, none⟩ :
            StreamWorld F .rawAdc).receiver.claim.receiver = .running := hstate
        obtain ⟨y, hy, halike⟩ := fill_alike hrunning' .direct .completed hcall
        exact ⟨y, congrArg (fun step => some (StreamStep.ofChecked _ _ step)) hy, halike⟩
      · have hstopped : w.receiver.ensureRunning =
            .error (.streamClosed "RX stream is stopped or requires cleanup") := if_neg hstate
        rw [hstopped] at hcall
        obtain rfl := Except.ok.inj hcall
        refine ⟨_, rfl, ?_⟩
        unfold NextBlockFuture.fill Receiver.pollNextBlock
        rw [hstopped]
        exact ⟨rfl, rfl, rfl, rfl, .inr ⟨_, rfl, .inr ⟨_, rfl⟩⟩⟩

/-! ## Actions -/

/-- An action that blocks its caller. -/
def blocks : Action mode → Bool
  | .callStream _ .waitBlock => true
  | .readBlocking _ _ _ => true
  | _ => false

/-- Whether a poll ends a blocking wait. -/
def endsWait (s : System F mode) (stream : ℕ) (replies : List AnyReply) (arrivals : List Arrival) :
    Bool :=
  s.streams[stream]?.any blocked &&
    !(s.act (.pollStream stream replies arrivals)).streams[stream]?.any blocked

/-- What a caller with futures does instead: it polls, and drops a next-block future where a
blocking wait ends. -/
def awaits (s : System F mode) : Action mode → List (Action mode)
  | .callStream stream .waitBlock => [.nextBlock stream]
  | .readBlocking stream room arrivals => [.pollRead stream room arrivals]
  | .pollStream stream replies arrivals =>
    if endsWait s stream replies arrivals then
      [.pollStream stream replies arrivals, .cancelStream stream]
    else [.pollStream stream replies arrivals]
  | action => [action]

theorem awaits_unblocked (s : System F mode) (action : Action mode) :
    ∀ own ∈ awaits s action, blocks own = false := by
  intro own hown
  cases action with
  | callStream stream call =>
    cases call with
    | waitBlock =>
      rw [List.mem_singleton.mp hown]
      rfl
    | start | stop | close =>
      cases mode <;> rw [List.mem_singleton.mp hown] <;> rfl
  | pollStream stream replies arrivals =>
    rw [awaits] at hown
    split at hown
    · rcases List.mem_cons.mp hown with rfl | hlast
      · rfl
      · rw [List.mem_singleton.mp hlast]
        rfl
    · rw [List.mem_singleton.mp hown]
      rfl
  | callDevice operation | pollDevice replies | cancelDevice | dropDevice | rxStream
  | cancelStream stream | dropStream stream | nextBlock stream | read stream room
  | pollRead stream room arrivals | readBlocking stream room arrivals =>
    rw [List.mem_singleton.mp hown]
    rfl

/-- A blocking read of samples is a poll. -/
theorem Similar.readBlocking {s t : System F .f32Iq} (h : Similar s t) (stream room : ℕ)
    (arrivals : List Arrival) : Similar (s.act (.readBlocking stream room arrivals))
      (t.act (.pollRead stream room arrivals)) := by
  refine h.onIdle fun receiver => ?_
  rw [readBlocking_poll]
  show StepsAlike (StreamStep.ofChecked (s.streamWorld receiver) (.idle receiver) _)
    (StreamStep.ofChecked (s.streamWorld receiver) (.idle receiver) _)
  cases Receiver.pollRead (s.streamWorld receiver) room arrivals with
  | error panic => exact .same _
  | ok outcome =>
    obtain ⟨result, w', rest⟩ := outcome
    cases result with
    | none => exact ⟨rfl, rfl, rfl, .same _, rfl⟩
    | some result => exact .same _

/-- **A poll of a blocking call, and of what is in its place**, as actions. -/
theorem Similar.pollBlocked {config : ValidConfig .rawAdc} {s t : System F .rawAdc}
    (hreach : System.Reachable config s) (hpanic : s.panic = none) (h : Similar s t) {stream : ℕ}
    {receiver : Receiver F .rawAdc} {found : Option ℕ}
    {flight : StreamFlight F .rawAdc (Result Unit)}
    (hphase : s.streams[stream]? = some (.operating receiver found .waitBlock flight))
    (replies : List AnyReply) (arrivals : List Arrival) :
    ∃ x y, s.act (.pollStream stream replies arrivals) = s.putStream stream x ∧
      t.act (.pollStream stream replies arrivals) = t.putStream stream y ∧ PollsAlike x y ∧
      x.panic = none := by
  have hview : s.streamWorld = fun receiver => ⟨s.session, s.wire, receiver, none⟩ := by
    funext receiver
    rw [System.streamWorld, hpanic]
  have hinv : PhaseInv s.session s.wire none (.operating receiver found .waitBlock flight) :=
    hpanic ▸ (reachable_inv hreach).system.streams _ (List.mem_of_getElem? hphase)
  have hmade := PanicFreedom.act_panic hreach hpanic (.pollStream stream replies arrivals)
  rw [PanicFreedom.actionPanic, hphase] at hmade
  have hact : s.act (.pollStream stream replies arrivals) = s.putStream stream
      (.ofChecked (s.streamWorld receiver) (.operating receiver found .waitBlock flight)
        (StreamPhase.pollCall stream (StreamPhase.foundBy receiver found flight) arrivals .waitBlock
          (flight.poll StreamWorld.port replies (s.streamWorld receiver)))) :=
    onStream_some hphase _
  rw [hact] at hmade
  obtain ⟨x, hcall⟩ := BoundedWaits.ofChecked_ok hmade
  rw [hcall] at hact hmade
  rw [hview] at hcall
  have hstream := h.stream stream
  rw [hphase] at hstream
  cases hphase' : t.streams[stream]? with
  | none =>
    rw [hphase'] at hstream
    cases hstream
  | some phase' =>
    rw [hphase'] at hstream
    cases hstream with
    | some hcorresponds =>
      obtain ⟨y, hy, halike⟩ := poll_blocked hinv hcorresponds hcall
      refine ⟨x, y, hact, ?_, halike, hmade⟩
      refine (onStream_some hphase' _).trans ?_
      rw [h.streamWorld, hview, hy]
      rfl

/-- An action that leaves a stream behind does not end the session. -/
theorem step_of_live {s : System F mode} (hgoes : s.panic = none ∧ s.ended = false)
    {action : Action mode} {stream : ℕ} {phase : StreamPhase F mode}
    (hphase : (s.act action).streams[stream]? = some phase) (hlive : phase.live = true)
    (reply : ℕ → AnyReply) : s.step action reply = s.act action := by
  rw [step_of_running hgoes]
  cases howned : (s.act action).owned with
  | true => rfl
  | false => exact absurd howned (owned_of_live hphase hlive)

/-- **The end of a blocking wait**: the future in its place is polled and dropped. -/
theorem Similar.endWait {s t : System F .rawAdc} (h : Similar s t)
    (hgoes : s.panic = none ∧ s.ended = false) {stream : ℕ} (hstream : stream < s.streams.length)
    {action : Action .rawAdc} {x y : StreamStep F .rawAdc}
    (hact : s.act action = s.putStream stream x) (hact' : t.act action = t.putStream stream y)
    (halike : PollsAlike x y) (hpanic : x.panic = none)
    {receiver : Receiver F .rawAdc} (hidle : x.phase = .idle receiver)
    (hrest : y.phase = .idle receiver ∨ ∃ future, y.phase = .reading receiver future)
    (reply : ℕ → AnyReply) :
    Similar (s.step action reply) ((t.step action reply).step (.cancelStream stream) reply) := by
  have hgoes' : t.panic = none ∧ t.ended = false := by rwa [h.panic, h.ended]
  have hstream' : stream < t.streams.length := by rwa [← h.streams.length_eq]
  have hphase : (s.act action).streams[stream]? = some (.idle receiver) := by
    rw [hact, ← hidle]
    exact List.getElem?_set_self hstream
  have hphase' : (t.act action).streams[stream]? = some y.phase := by
    rw [hact']
    exact List.getElem?_set_self hstream'
  have hlive : y.phase.live = true := by
    rcases hrest with hy | ⟨future, hy⟩ <;> rw [hy] <;> rfl
  have hgoes₁ : (t.act action).panic = none ∧ (t.act action).ended = false := by
    refine ⟨?_, (act_ended t action).trans hgoes'.2⟩
    rw [hact']
    exact halike.panic.trans hpanic
  rw [step_of_live hgoes hphase rfl, step_of_live hgoes' hphase' hlive]
  have hcancel : (t.act action).act (.cancelStream stream) =
      t.putStream stream ⟨x.session, x.wire, x.panic, .idle receiver, y.events⟩ := by
    refine (onStream_some hphase' _).trans ?_
    rw [hact']
    rcases hrest with hy | ⟨future, hy⟩
    · rw [hy]
      show t.putStream stream y = _
      rw [← halike.session, ← halike.wire, ← halike.panic, ← hy]
    · rw [hy]
      show (t.putStream stream y).putStream stream _ = _
      rw [System.putStream, System.putStream, System.putStream]
      simp [System.streamWorld, StreamStep.of, halike.session, halike.wire, halike.panic]
  have hphase₂ : ((t.act action).act (.cancelStream stream)).streams[stream]? =
      some (.idle receiver) := by
    rw [hcancel]
    exact List.getElem?_set_self hstream'
  rw [step_of_live hgoes₁ hphase₂ rfl, hact, hcancel]
  exact h.putStream stream ⟨rfl, rfl, rfl, by rw [hidle]; exact .same _, halike.events⟩

/-- **A poll of a stream.** -/
theorem Similar.pollStream {config : ValidConfig mode} {s t : System F mode}
    (hreach : System.Reachable config s) (hgoes : s.panic = none ∧ s.ended = false)
    (h : Similar s t) (stream : ℕ) (replies : List AnyReply) (arrivals : List Arrival)
    (reply : ℕ → AnyReply) :
    Similar (s.step (.pollStream stream replies arrivals) reply)
      ((awaits s (.pollStream stream replies arrivals)).foldl (fun t own => t.step own reply) t) := by
  rw [awaits]
  by_cases hwaits : s.streams[stream]?.any blocked = true
  · obtain ⟨phase, hphase, hblocked⟩ := (Option.any_eq_true _ _).mp hwaits
    cases phase with
    | operating receiver found call flight =>
      cases call with
      | waitBlock =>
        obtain ⟨x, y, hact, hact', halike, hpanic⟩ :=
          h.pollBlocked hreach hgoes.1 hphase replies arrivals
        have hstream := (List.getElem?_eq_some_iff.mp hphase).1
        have hnext : (s.act (.pollStream stream replies arrivals)).streams[stream]? =
            some x.phase := by
          rw [hact]
          exact List.getElem?_set_self hstream
        have hends : endsWait s stream replies arrivals = !blocked x.phase := by
          rw [endsWait, hwaits, hnext]
          rfl
        rw [hends]
        rcases halike.phase with ⟨hstays, hphases⟩ | ⟨idle, hidle, hrest⟩
        · rw [hstays]
          refine h.step_of_act hgoes ?_ reply
          rw [hact, hact']
          exact h.putStream stream ⟨halike.session, halike.wire, halike.panic, hphases, halike.events⟩
        · rw [hidle]
          exact h.endWait hgoes hstream hact hact' halike hpanic hidle hrest reply
      | start | stop | close => cases mode <;> exact nomatch hblocked
    | idle receiver => exact nomatch hblocked
    | reading receiver future => exact nomatch hblocked
    | awaiting receiver operation => exact nomatch hblocked
    | cleaning receiver flight => exact nomatch hblocked
    | gone => exact nomatch hblocked
  · have hends : endsWait s stream replies arrivals = false := by
      rw [endsWait, Bool.eq_false_of_not_eq_true hwaits]
      rfl
    have hact : Similar (s.act (.pollStream stream replies arrivals))
        (t.act (.pollStream stream replies arrivals)) := by
      refine h.onStream fun phase phase' hphase hcorresponds => ?_
      cases hcorresponds with
      | same phase =>
        cases phase.poll stream replies arrivals s.streamWorld with
        | none => exact .none
        | some step => exact .some (.same step)
      | called found w => exact absurd (by rw [hphase]; rfl) hwaits
      | restarting receiver found progress => exact absurd (by rw [hphase]; rfl) hwaits
    rw [hends]
    exact h.step_of_act hgoes hact reply

/-- Whether an action polls a stream. -/
def pollsStream : Action mode → Bool
  | .pollStream _ _ _ => true
  | _ => false

/-- Any other action can be answered by itself. -/
theorem Similar.act_same {s t : System F mode} (h : Similar s t) {action : Action mode}
    (hpoll : pollsStream action = false) :
    Similar (s.act action) (t.act action) := by
  cases action with
  | callDevice operation => cases mode <;> exact h.callDevice operation
  | pollDevice replies => cases mode <;> exact h.pollDevice replies
  | cancelDevice => cases mode <;> exact h.cancelDevice
  | dropDevice => cases mode <;> exact h.dropDevice
  | rxStream => cases mode <;> exact h.rxStream
  | callStream stream call => exact h.onIdle fun _ => .same _
  | dropStream stream => exact h.onIdle fun _ => .same _
  | nextBlock stream => exact h.onIdle fun _ => .same _
  | read stream room => exact h.onIdle fun _ => .same _
  | pollRead stream room arrivals => exact h.onIdle fun _ => .same _
  | readBlocking stream room arrivals => exact h.onIdle fun _ => .same _
  | pollStream stream replies arrivals => cases mode <;> exact nomatch hpoll
  | cancelStream stream =>
    refine h.onStream fun phase phase' _ hcorresponds => ?_
    cases hcorresponds with
    | same phase =>
      cases phase.cancel s.streamWorld with
      | none => exact .none
      | some step => exact .some (.same step)
    | called found w => exact .some ⟨rfl, rfl, rfl, .same _, rfl⟩
    | restarting receiver found progress => exact .some ⟨rfl, rfl, rfl, .same _, rfl⟩

/-- A blocking wait for a block begins, or a future is made. -/
theorem Similar.nextBlock {s t : System F .rawAdc} (h : Similar s t) (stream : ℕ) :
    Similar (s.act (.callStream stream .waitBlock)) (t.act (.nextBlock stream)) :=
  h.onIdle fun receiver => ⟨rfl, rfl, rfl, .called none (s.streamWorld receiver), rfl⟩

/-- **A step of a session with blocking reads**, and the answer to it. -/
theorem awaits_step {config : ValidConfig mode} {s t : System F mode}
    (hreach : System.Reachable config s) (h : Similar s t) (action : Action mode)
    (reply : ℕ → AnyReply) :
    Similar (s.step action reply)
      ((awaits s action).foldl (fun t own => t.step own reply) t) := by
  by_cases hgoes : s.panic = none ∧ s.ended = false
  · cases action with
    | pollStream stream replies arrivals =>
      exact h.pollStream hreach hgoes stream replies arrivals reply
    | readBlocking stream room arrivals =>
      exact h.step_of_act hgoes (h.readBlocking stream room arrivals) reply
    | callStream stream call =>
      cases call with
      | waitBlock => exact h.step_of_act hgoes (h.nextBlock stream) reply
      | start | stop | close =>
        cases mode <;> exact h.step_of_act hgoes (h.act_same rfl) reply
    | nextBlock stream => exact h.step_of_act hgoes (h.act_same rfl) reply
    | read stream room => exact h.step_of_act hgoes (h.act_same rfl) reply
    | pollRead stream room arrivals => exact h.step_of_act hgoes (h.act_same rfl) reply
    | callDevice operation | pollDevice replies | cancelDevice | dropDevice | rxStream
    | cancelStream stream | dropStream stream =>
      cases mode <;> exact h.step_of_act hgoes (h.act_same rfl) reply
  · have hgoes' : ¬(t.panic = none ∧ t.ended = false) := by rwa [h.panic, h.ended]
    have hstays : ∀ actions : List (Action mode),
        actions.foldl (fun t own => t.step own reply) t = t := by
      intro actions
      induction actions with
      | nil => rfl
      | cons own actions ih => rw [List.foldl_cons, step_of_over hgoes', ih]
    rw [step_of_over hgoes, hstays]
    exact h

/-! ## Runs -/

/-- The run of a caller with futures that answers a run with blocking reads. -/
def awaiting (config : ValidConfig mode) (reply : ℕ → AnyReply) (actions : List (Action mode)) :
    List (Action mode) :=
  answers (fun (s : System F mode) action => s.step action reply) awaits (System.initial config)
    actions

/-- Streams on which nobody waits for a block are the same. -/
theorem Similar.streams_eq {s t : System F mode} (h : Similar s t)
    (hrest : ∀ phase ∈ s.streams, blocked phase = false) : t.streams = s.streams := by
  have heq : ∀ phases phases' : List (StreamPhase F mode), List.Forall₂ Corresponds phases phases' →
      (∀ phase ∈ phases, blocked phase = false) → phases' = phases := by
    intro phases phases' hphases
    induction hphases with
    | nil => exact fun _ => rfl
    | cons hphase _ ih =>
      intro hrest
      rw [ih fun phase hmem => hrest phase (List.mem_cons_of_mem _ hmem)]
      have hfirst := hrest _ List.mem_cons_self
      cases hphase with
      | same phase => rfl
      | called found w => exact nomatch hfirst
      | restarting receiver found progress => exact nomatch hfirst
  exact heq _ _ h.streams hrest

/-- **Waiting is awaiting.**  Take any run of a session, with blocking reads wherever one likes and
with whatever happens while they wait.  Callers that never block, but poll futures with the same
replies and completions and drop those that a blocking call would have given up, bring about the
same: at every moment the session, the wire, the device handle and what all callers have been told
are the same, but for waits for a block that time out and reads that return no samples; and so are
the streams, with their queues, counters and converters, once nobody waits for a block. -/
theorem waiting_is_awaiting (config : ValidConfig mode) (reply : ℕ → AnyReply)
    (actions : List (Action mode)) :
    let own := awaiting (F := F) config reply actions
    (∀ action ∈ own, blocks action = false) ∧
    Similar (System.after config reply actions : System F mode) (System.after config reply own) ∧
    ((∀ phase ∈ (System.after config reply actions : System F mode).streams, blocked phase = false) →
      (System.after config reply own : System F mode).streams =
        (System.after config reply actions : System F mode).streams) := by
  have hfollows : Similar (System.after config reply actions : System F mode)
      (System.after config reply (awaiting (F := F) config reply actions)) :=
    @follows_run _ _ _ _ (fun (s : System F mode) action => s.step action reply)
      (fun (t : System F mode) own => t.step own reply) awaits Similar
      (System.Reachable config) (fun s action hs => hs.step action reply)
      (fun s t action hs h => awaits_step hs h action reply) actions _ _ .initial (.refl _)
  exact ⟨forall_answers awaits_unblocked _ actions, hfollows, hfollows.streams_eq⟩

end HydraSdr.Analysis.ReadMechanisms
