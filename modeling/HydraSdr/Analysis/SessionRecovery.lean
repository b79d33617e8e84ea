import HydraSdr.Analysis.SafeOff
import HydraSdr.Analysis.StreamRecovery

/-!
# Sessions can be shut down

A session may hold calls in flight, a stream in any state, the cleanup of a dropped stream or a
shutdown that was given up half-way.  From wherever it is, dropping what is in flight and the
streams lets a shutdown go through, and dropping the device handle too ends the session.
-/

set_option autoImplicit false

namespace HydraSdr.Analysis.SessionRecovery

open HydraSdr.Program HydraSdr.Computation HydraSdr.Analysis Resumption SpuriousPolls ReadMechanisms
  StreamRecovery

variable {F : Type} [SampleArithmetic F] {mode : SampleFormat}

/-! ## Giving up a stream -/

/-- A stream with nothing in flight but its cleanup. -/
def settled : StreamPhase F mode → Bool
  | .idle _ => true
  | .cleaning _ _ => true
  | .gone => true
  | _ => false

/-- A stream that its owner has given up. -/
def givenUp : StreamPhase F mode → Bool
  | .cleaning _ _ => true
  | .gone => true
  | _ => false

/-- What becomes of a phase. -/
def phaseAfter
    (use : StreamPhase F mode → (Receiver F mode → StreamWorld F mode) → Option (StreamStep F mode))
    (phase : StreamPhase F mode) (view : Receiver F mode → StreamWorld F mode) : StreamPhase F mode :=
  (use phase view).elim phase StreamStep.phase

omit [SampleArithmetic F] in
theorem dropClaim_givenUp (w : StreamWorld F mode) (events : List (CallEvent F mode)) :
    givenUp (StreamPhase.dropClaim w events).phase = true := by
  unfold StreamPhase.dropClaim
  split <;> rfl

omit [SampleArithmetic F] in
theorem settled_of_givenUp {phase : StreamPhase F mode} (h : givenUp phase = true) :
    settled phase = true := by
  cases phase with
  | cleaning receiver flight => rfl
  | gone => rfl
  | idle receiver => rfl
  | operating receiver found call flight => exact nomatch h
  | reading receiver future => exact nomatch h
  | awaiting receiver operation => exact nomatch h

omit [SampleArithmetic F] in
/-- A stream that is given up is not being read. -/
theorem usedUp_of_givenUp {phase : StreamPhase F mode} (h : givenUp phase = true) :
    PanicFreedom.usedUpPanic phase = none := by
  cases phase with
  | reading receiver future => exact nomatch h
  | awaiting receiver operation => exact nomatch h
  | cleaning receiver flight => rfl
  | gone => rfl
  | idle receiver => rfl
  | operating receiver found call flight => rfl

omit [SampleArithmetic F] in
/-- Dropping what is in flight settles a stream. -/
theorem cancel_settles (phase : StreamPhase F mode) (view : Receiver F mode → StreamWorld F mode) :
    settled (phaseAfter StreamPhase.cancel phase view) = true := by
  cases phase with
  | idle receiver => rfl
  | operating receiver found call flight =>
    cases call with
    | close => exact settled_of_givenUp (dropClaim_givenUp _ _)
    | start | stop | waitBlock => rfl
  | reading receiver future => rfl
  | awaiting receiver operation => rfl
  | cleaning receiver flight => rfl
  | gone => rfl

omit [SampleArithmetic F] in
/-- Dropping a settled stream gives it up. -/
theorem drop_givesUp {phase : StreamPhase F mode} (h : settled phase = true)
    (view : Receiver F mode → StreamWorld F mode) :
    givenUp (phaseAfter (StreamPhase.onIdle fun w => StreamPhase.dropReceiver w []) phase view) =
      true := by
  cases phase with
  | idle receiver => exact dropClaim_givenUp _ _
  | cleaning receiver flight => rfl
  | gone => rfl
  | operating receiver found call flight => exact nomatch h
  | reading receiver future => exact nomatch h
  | awaiting receiver operation => exact nomatch h

/-- The cleanup of a stream that is given up ends with its replies. -/
theorem poll_gone {phase : StreamPhase F mode} (h : givenUp phase = true)
    (hkeeps : BoundedWaits.StreamKeepsTo phase) (stream : ℕ) {replies : List AnyReply}
    (hlength : 5 ≤ replies.length) (view : Receiver F mode → StreamWorld F mode) :
    (phaseAfter (StreamPhase.poll stream replies []) phase view).live = false := by
  cases phase with
  | cleaning receiver flight =>
    unfold phaseAfter StreamPhase.poll
    dsimp only [Option.elim_some]
    obtain ⟨value, hfinished⟩ := Flight.Submits.finishes streamLogs hkeeps hlength (view receiver)
    generalize flight.poll StreamWorld.port replies (view receiver) = outcome at hfinished ⊢
    obtain ⟨progress, w⟩ := outcome
    obtain rfl : progress = .finished value := hfinished
    rfl
  | gone => rfl
  | idle receiver => exact nomatch h
  | operating receiver found call flight => exact nomatch h
  | reading receiver future => exact nomatch h
  | awaiting receiver operation => exact nomatch h

/-- What a use of one stream leaves behind: everything else, and the stream as the use says unless
it has been gone. -/
structure Touches (stream : ℕ)
    (use : StreamPhase F mode → (Receiver F mode → StreamWorld F mode) → Option (StreamStep F mode))
    (s s' : System F mode) : Prop where
  panic : s'.panic = none
  device : s'.device = s.device
  length : s'.streams.length = s.streams.length
  others : ∀ other, other ≠ stream → s'.streams[other]? = s.streams[other]?
  own : ∀ phase, s.streams[stream]? = some phase → ∃ phase', s'.streams[stream]? = some phase' ∧
    (phase' = .gone ∨ phase' = phaseAfter use phase s.streamWorld)

theorem step_touches {config : ValidConfig mode} {s : System F mode}
    (h : System.Reachable config s) (hpanic : s.panic = none) {stream : ℕ} (action : Action mode)
    {use : StreamPhase F mode → (Receiver F mode → StreamWorld F mode) → Option (StreamStep F mode)}
    (hact : s.act action = s.onStream stream use)
    (hfresh : PanicFreedom.actionPanic s action = none) (reply : ℕ → AnyReply) :
    Touches stream use s (s.step action reply) := by
  cases hended : s.ended with
  | true =>
    -- the session is over, and with it all streams
    have hover : ¬(s.panic = none ∧ s.ended = false) := by
      rw [hended]
      exact fun hgoes => Bool.false_ne_true hgoes.2.symm
    rw [step_of_over hover]
    refine ⟨hpanic, rfl, rfl, fun _ _ => rfl, fun phase hphase => ⟨phase, hphase, .inl ?_⟩⟩
    have hgone := (owned_false_iff.mp ((reachable_inv h).ended.mp hended)).2 phase
      (List.mem_of_getElem? hphase)
    cases phase with
    | gone => rfl
    | _ => exact absurd rfl hgone
  | false =>
    have hmade := PanicFreedom.act_panic h hpanic action
    rw [hfresh] at hmade
    obtain ⟨hstreams, _, hsame⟩ := step_streams hpanic hended action reply
    have hdevice := BoundedWaits.step_device hpanic hended action reply
    rw [hact] at hstreams hdevice hmade
    rw [hact, hmade] at hsame
    cases hphase : s.streams[stream]? with
    | none =>
      rw [onStream_none hphase] at hstreams hdevice
      refine ⟨hsame, hdevice, congrArg List.length hstreams, fun other _ => ?_, fun phase h => ?_⟩
      · rw [hstreams]
      · exact nomatch hphase.symm.trans h
    | some phase =>
      rw [onStream_some hphase] at hstreams hdevice
      have hlt := (List.getElem?_eq_some_iff.mp hphase).1
      cases huse : use phase s.streamWorld with
      | none =>
        rw [huse, Option.elim_none] at hstreams hdevice
        refine ⟨hsame, hdevice, congrArg List.length hstreams, fun other _ => ?_, fun other h => ?_⟩
        · rw [hstreams]
        · obtain rfl := Option.some.inj (hphase.symm.trans h)
          refine ⟨phase, ?_, .inr ?_⟩
          · rw [hstreams]
            exact hphase
          · rw [phaseAfter, huse, Option.elim_none]
      | some step =>
        rw [huse, Option.elim_some] at hstreams hdevice
        have hset : (s.step action reply).streams = s.streams.set stream step.phase := hstreams
        refine ⟨hsame, hdevice, ?_, fun other hother => ?_, fun other h => ?_⟩
        · rw [hset, List.length_set]
        · rw [hset, List.getElem?_set_ne (Ne.symm hother)]
        · obtain rfl := Option.some.inj (hphase.symm.trans h)
          refine ⟨step.phase, ?_, .inr ?_⟩
          · rw [hset]
            exact List.getElem?_set_self hlt
          · rw [phaseAfter, huse, Option.elim_some]

/-- What is in flight on a stream is dropped, then the stream, and its cleanup gets its replies. -/
def giveUp (stream : ℕ) (replies : List AnyReply) : List (Action mode) :=
  [.cancelStream stream, .dropStream stream, .pollStream stream replies []]

/-- A session whose first streams have been given up. -/
structure Winding (config : ValidConfig mode) (device : DevicePhase mode) (count done : ℕ)
    (s : System F mode) : Prop where
  reachable : System.Reachable config s
  panic : s.panic = none
  device : s.device = device
  length : s.streams.length = count
  gone : ∀ stream, stream < done → ∀ phase, s.streams[stream]? = some phase → phase.live = false

/-- A use of a stream that is not yet given up. -/
theorem Winding.touched {config : ValidConfig mode} {device : DevicePhase mode} {count done : ℕ}
    {s : System F mode} (h : Winding config device count done s) {action : Action mode}
    {use : StreamPhase F mode → (Receiver F mode → StreamWorld F mode) → Option (StreamStep F mode)}
    {reply : ℕ → AnyReply} (htouches : Touches done use s (s.step action reply)) :
    Winding config device count done (s.step action reply) where
  reachable := h.reachable.step action reply
  panic := htouches.panic
  device := htouches.device.trans h.device
  length := htouches.length.trans h.length
  gone stream hlt phase hphase := by
    rw [htouches.others stream (Nat.ne_of_lt hlt)] at hphase
    exact h.gone stream hlt phase hphase

/-- **One more stream is given up.** -/
theorem Winding.giveUp {config : ValidConfig mode} {device : DevicePhase mode} {count done : ℕ}
    {s : System F mode} (h : Winding config device count done s) (hlt : done < count)
    {replies : List AnyReply} (hlength : 5 ≤ replies.length) (reply : ℕ → AnyReply) :
    Winding config device count (done + 1) (runFrom reply s (giveUp done replies)) := by
  have hthere : done < s.streams.length := h.length.symm ▸ hlt
  have hphase : s.streams[done]? = some s.streams[done] := List.getElem?_eq_getElem hthere
  -- what is in flight is dropped
  have hcancel := step_touches h.reachable h.panic (.cancelStream done) rfl rfl reply
  have h₁ := h.touched hcancel
  obtain ⟨phase₁, hphase₁, hsettled⟩ := hcancel.own _ hphase
  replace hsettled : settled phase₁ = true := by
    rcases hsettled with rfl | rfl
    · rfl
    · exact cancel_settles _ _
  -- then the stream
  have hdrop := step_touches h₁.reachable h₁.panic (.dropStream done) rfl rfl reply
  have h₂ := h₁.touched hdrop
  obtain ⟨phase₂, hphase₂, hgivenUp⟩ := hdrop.own phase₁ hphase₁
  replace hgivenUp : givenUp phase₂ = true := by
    rcases hgivenUp with rfl | rfl
    · rfl
    · exact drop_givesUp hsettled _
  -- and its cleanup ends
  have hfresh : PanicFreedom.actionPanic
      ((s.step (.cancelStream done) reply).step (.dropStream done) reply)
      (.pollStream done replies []) = none := by
    rw [PanicFreedom.actionPanic, hphase₂]
    exact usedUp_of_givenUp hgivenUp
  have hpoll := step_touches h₂.reachable h₂.panic (.pollStream done replies []) rfl hfresh reply
  have h₃ := h₂.touched hpoll
  obtain ⟨phase₃, hphase₃, hgone⟩ := hpoll.own phase₂ hphase₂
  refine ⟨h₃.reachable, h₃.panic, h₃.device, h₃.length, fun stream hstream phase hphase => ?_⟩
  rcases Nat.lt_succ_iff_lt_or_eq.mp hstream with hearlier | rfl
  · exact h₃.gone stream hearlier phase hphase
  · obtain rfl : phase₃ = phase := Option.some.inj (hphase₃.symm.trans hphase)
    rcases hgone with rfl | rfl
    · rfl
    · exact poll_gone hgivenUp ((BoundedWaits.reachable_keeps h₂.reachable).streams phase₂
        (List.mem_of_getElem? hphase₂)) stream hlength _

/-- All streams of a session are given up. -/
def giveUpAll (count : ℕ) (replies : List AnyReply) : List (Action mode) :=
  (List.range count).flatMap fun stream => giveUp stream replies

theorem Winding.giveUpAll {config : ValidConfig mode} {device : DevicePhase mode} {count : ℕ}
    {s : System F mode} (h : Winding config device count 0 s) {replies : List AnyReply}
    (hlength : 5 ≤ replies.length) (reply : ℕ → AnyReply) :
    ∀ done, done ≤ count →
      Winding config device count done (runFrom reply s (giveUpAll done replies)) := by
  intro done
  induction done with
  | zero => exact fun _ => h
  | succ done ih =>
    intro hle
    have hstep := (ih (Nat.le_of_succ_le hle)).giveUp hle hlength reply
    unfold SessionRecovery.giveUpAll at hstep ⊢
    rw [List.range_succ, List.flatMap_append, List.flatMap_singleton]
    unfold runFrom at hstep ⊢
    rw [List.foldl_append]
    exact hstep

/-! ## Shutting down -/

omit [SampleArithmetic F] in
/-- A command of the device touches the wire alone. -/
theorem deviceCommand_accepted {reply : AnyReply} (h : Accepts reply) (request : OutRequest)
    (replies : Supply Transfer Transfer.Reply) (w : DeviceWorld mode) :
    ∃ wire, feedOperation DeviceWorld.port (controlOut request) (reply :: replies) w =
      (some (.ok (), replies), { w with wire := wire }) := by
  rw [controlOut, feed_leaf_cons, h.controlOut]
  exact ⟨_, rfl⟩

omit [SampleArithmetic F] in
/-- The two commands that switch the hardware off. -/
theorem shutdownHardware_accepted {off bias : AnyReply} (hoff : Accepts off) (hbias : Accepts bias)
    (replies : Supply Transfer Transfer.Reply) (w : DeviceWorld mode) :
    ∃ wire, feedOperation DeviceWorld.port shutdownHardware (off :: bias :: replies) w =
      (some (.ok (), replies), { w with wire := wire }) := by
  obtain ⟨wire₁, hoff⟩ := deviceCommand_accepted hoff (.receiverMode .off) (bias :: replies) w
  obtain ⟨wire₂, hbias⟩ := deviceCommand_accepted hbias (.setRfBias false) replies
    { w with wire := wire₁ }
  unfold shutdownHardware
  simp only [feed_andThen, feed_map, feed_mapErr, hoff, onFed_some, tryFed_ok, hbias]
  exact ⟨wire₂, rfl⟩

omit [SampleArithmetic F] in
/-- **A shutdown on an accepting device** succeeds whenever nobody holds the claim. -/
theorem shutdown_accepted {w : DeviceWorld mode} (hfree : w.session.state.claim ≠ .held)
    {off bias : AnyReply} (hoff : Accepts off) (hbias : Accepts bias)
    (replies : Supply Transfer Transfer.Reply) :
    ∃ rest w', feedOperation DeviceWorld.port Session.shutdown (off :: bias :: replies) w =
      (some (.ok (), rest), w') ∧ w'.session.state.device = .closed ∧ w'.panic = w.panic := by
  unfold Session.shutdown
  simp only [feed_andThen, feed_map, feed_ready, onFed_some]
  cases hdevice : w.session.state.device with
  | closed =>
    have hbegin : w.session.beginShutdown = (.ok false, w.session) := by
      simp [Session.beginShutdown, hdevice]
    simp only [hbegin, tryFed_ok, Bool.false_eq_true, if_false, feed_right, feed_ready]
    exact ⟨_, _, rfl, hdevice, rfl⟩
  | opened | closing =>
    have hruns : w.session.beginShutdown.1 = .ok true := by
      simp [Session.beginShutdown, hdevice, hfree]
    obtain ⟨wire, hfed⟩ := shutdownHardware_accepted hoff hbias replies
      { w with session := w.session.beginShutdown.2 }
    simp only [hruns, tryFed_ok, if_true, feed_left, feed_map, hfed, onFed_some]
    exact ⟨_, _, rfl, rfl, rfl⟩

/-- A device that has been opened and not been dropped. -/
def deviceOpen : DevicePhase mode → Bool
  | .idle _ => true
  | .operating _ _ _ => true
  | _ => false

/-- Everything but the device is given up, and the device is shut down. -/
def shutDownAll (count : ℕ) (replies : List AnyReply) : List (Action mode) :=
  .cancelDevice :: (giveUpAll count replies ++ [.callDevice .shutdown, .pollDevice replies])

/-- Everything is given up. -/
def leave (count : ℕ) (replies : List AnyReply) : List (Action mode) :=
  .cancelDevice :: .dropDevice :: giveUpAll count replies

/-- An action that leaves a device behind does not end the session. -/
theorem step_of_device {s : System F mode} (hgoes : s.panic = none ∧ s.ended = false)
    {action : Action mode} (hdevice : (s.act action).device ≠ .dropped) (reply : ℕ → AnyReply) :
    s.step action reply = s.act action := by
  rw [step_of_running hgoes]
  cases howned : (s.act action).owned with
  | true => rfl
  | false => exact absurd (owned_false_iff.mp howned).1 hdevice

/-- A session with its device goes on. -/
theorem ended_of_device {config : ValidConfig mode} {s : System F mode}
    (h : System.Reachable config s) (hdevice : s.device ≠ .dropped) : s.ended = false := by
  cases hended : s.ended with
  | false => rfl
  | true => exact absurd (owned_false_iff.mp ((reachable_inv h).ended.mp hended)).1 hdevice

/-- Nobody holds the claim of a session whose streams are all given up. -/
theorem Winding.free {config : ValidConfig mode} {device : DevicePhase mode} {count : ℕ}
    {s : System F mode} (h : Winding config device count count s) :
    (∀ phase ∈ s.streams, phase.live = false) ∧ s.session.state.claim ≠ .held := by
  have hgone : ∀ phase ∈ s.streams, phase.live = false := by
    intro phase hphase
    obtain ⟨stream, hlt, hget⟩ := List.mem_iff_getElem.mp hphase
    exact h.gone stream (h.length ▸ hlt) phase (List.getElem?_eq_some_iff.mpr ⟨hlt, hget⟩)
  refine ⟨hgone, fun hheld => ?_⟩
  have hlive := (reachable_inv h.reachable).system.live
  rw [if_pos hheld] at hlive
  have hpos : 0 < s.streams.countP StreamPhase.live := by omega
  obtain ⟨phase, hphase, hlive⟩ := List.countP_pos_iff.mp hpos
  exact absurd (hgone phase hphase) (Bool.not_eq_false _ ▸ hlive)

/-- The poll of an operation that ends. -/
theorem pollDevice_ends {s : System F mode} {config : Config mode} {operation : DeviceOperation mode}
    {flight : DeviceFlight mode} (hdevice : s.device = .operating config operation flight)
    {replies : List AnyReply} {result : Result Unit} {w : DeviceWorld mode}
    (hpoll : flight.poll DeviceWorld.port replies (s.deviceWorld config) = (.finished result, w)) :
    s.act (.pollDevice replies) = s.putDevice w (.idle w.config) [.device operation result] := by
  show s.pollDevice replies = _
  unfold System.pollDevice
  rw [hdevice]
  dsimp only
  rw [hpoll]

/-- **An operation of the device that gets all its replies**: it is built and polled, and leaves
the device idle. -/
theorem device_answered {s : System F mode} (hgoes : s.panic = none ∧ s.ended = false)
    {idle : Config mode} (hdevice : s.device = .idle idle) (operation : DeviceOperation mode)
    {built : Operation (DeviceWorld mode) (Result Unit)}
    (hbuilt : Device.call operation (s.deviceWorld idle) = .ok built)
    {replies rest : Supply Transfer Transfer.Reply} {result : Result Unit} {w' : DeviceWorld mode}
    (hfed : feedOperation DeviceWorld.port built replies (s.deviceWorld idle) =
      (some (result, rest), w')) (reply : ℕ → AnyReply) :
    (s.step (.callDevice operation) reply).step (.pollDevice replies) reply =
      s.putDevice w' (.idle w'.config) [.device operation result] := by
  have hcalled : s.act (.callDevice operation) =
      { s with device := .operating idle operation (.unpolled built.denote) } := by
    show s.callDevice operation = _
    unfold System.callDevice
    rw [hdevice]
    dsimp only
    rw [hbuilt]
  have hstep := step_of_device hgoes (by rw [hcalled]; exact (nomatch ·)) reply
  rw [hstep, hcalled]
  generalize hcall : ({ s with
    device := DevicePhase.operating idle operation (.unpolled built.denote) } : System F mode) =
    called
  have hgoes' : called.panic = none ∧ called.ended = false := by
    rw [← hcall]
    exact hgoes
  have hthere : called.device = .operating idle operation (.unpolled built.denote) := by
    rw [← hcall]
  have hview : called.deviceWorld idle = s.deviceWorld idle := by
    rw [← hcall]
    rfl
  have hpolled := pollDevice_ends hthere (hview ▸ Flight.poll_of_feed hfed)
  rw [step_of_device hgoes' (by rw [hpolled]; exact (nomatch ·)) reply, hpolled, ← hcall]
  rfl

/-- The shutdown of an idle device whose session has no stream. -/
theorem shutdown_goes {config : ValidConfig mode} {idle : Config mode} {count : ℕ}
    {s : System F mode} (h : Winding config (.idle idle) count count s) {replies : List AnyReply}
    (hall : ∀ other ∈ replies, Accepts other) (hlength : 2 ≤ replies.length) (reply : ℕ → AnyReply) :
    let wound := runFrom reply s [.callDevice .shutdown, .pollDevice replies]
    wound.panic = none ∧ wound.streams = s.streams ∧ wound.session.state.device = .closed ∧
      ∃ before, wound.history = before ++ [.device .shutdown (.ok ())] := by
  match replies, hall, hlength with
  | off :: bias :: replies, hall, _ =>
    have hoff : Accepts off := hall _ (by simp)
    have hbias : Accepts bias := hall _ (by simp)
    have hthere : s.device ≠ .dropped := by
      rw [h.device]
      exact (nomatch ·)
    obtain ⟨rest, w', hfed, hclosed, hpanic⟩ :=
      shutdown_accepted (w := s.deviceWorld idle) h.free.2 hoff hbias replies
    have hgoes : s.panic = none ∧ s.ended = false := ⟨h.panic, ended_of_device h.reachable hthere⟩
    have hanswered := device_answered hgoes h.device .shutdown rfl hfed reply
    unfold runFrom
    rw [List.foldl_cons, List.foldl_cons, List.foldl_nil, hanswered]
    exact ⟨hpanic.trans h.panic, rfl, hclosed, s.history, rfl⟩

/-- What is in flight on an open device is dropped. -/
theorem cancelDevice_idle {config : ValidConfig mode} {s : System F mode}
    (h : System.Reachable config s) (hpanic : s.panic = none) (hopen : deviceOpen s.device = true)
    (reply : ℕ → AnyReply) :
    ∃ idle, Winding config (.idle idle) s.streams.length 0 (s.step .cancelDevice reply) := by
  have hthere : s.device ≠ .dropped := by
    intro hdropped
    rw [hdropped] at hopen
    exact nomatch hopen
  have hgoes : s.panic = none ∧ s.ended = false := ⟨hpanic, ended_of_device h hthere⟩
  have hidle : ∃ idle, s.act .cancelDevice = { s with device := .idle idle } := by
    show ∃ idle, s.cancelDevice = _
    unfold System.cancelDevice
    cases hdevice : s.device with
    | idle config =>
      have hsame : s = { s with device := .idle config } := by rw [← hdevice]
      exact ⟨config, hsame⟩
    | operating config operation flight => exact ⟨config, rfl⟩
    | opening config flight => rw [hdevice] at hopen; exact nomatch hopen
    | dropped => exact absurd hdevice hthere
  obtain ⟨idle, hact⟩ := hidle
  have hstep := step_of_device hgoes (by rw [hact]; exact (nomatch ·)) reply
  have hreachable := h.step .cancelDevice reply
  rw [hstep, hact] at hreachable ⊢
  exact ⟨idle, hreachable, hpanic, rfl, rfl, fun stream hlt => absurd hlt (Nat.not_lt_zero stream)⟩

/-- A device with nothing in flight. -/
def resting : DevicePhase mode → Bool
  | .idle _ => true
  | .dropped => true
  | _ => false

theorem cancelDevice_rests (s : System F mode) : resting (s.act .cancelDevice).device = true := by
  show resting s.cancelDevice.device = true
  unfold System.cancelDevice
  cases hdevice : s.device with
  | opening config flight => rfl
  | operating config operation flight => rfl
  | idle config => exact congrArg resting hdevice
  | dropped => exact congrArg resting hdevice

theorem dropDevice_drops {s : System F mode} (h : resting s.device = true) :
    (s.act .dropDevice).device = .dropped := by
  show s.dropDevice.device = .dropped
  unfold System.dropDevice
  cases hdevice : s.device with
  | idle config => rfl
  | dropped => exact hdevice
  | opening config flight => rw [hdevice] at h; exact nomatch h
  | operating config operation flight => rw [hdevice] at h; exact nomatch h

/-- A step of the device that leaves panics alone: the handle is as its action says, or it has been
dropped before. -/
theorem deviceStep {config : ValidConfig mode} {s : System F mode} (h : System.Reachable config s)
    (hpanic : s.panic = none) (action : Action mode)
    (hfresh : PanicFreedom.actionPanic s action = none) (reply : ℕ → AnyReply) :
    (s.step action reply).panic = none ∧
      ((s.step action reply).device = (s.act action).device ∨
        (s.step action reply).device = .dropped) := by
  cases hended : s.ended with
  | true =>
    have hover : ¬(s.panic = none ∧ s.ended = false) := by
      rw [hended]
      exact fun hgoes => Bool.false_ne_true hgoes.2.symm
    rw [step_of_over hover]
    exact ⟨hpanic, .inr (owned_false_iff.mp ((reachable_inv h).ended.mp hended)).1⟩
  | false =>
    have hmade := PanicFreedom.act_panic h hpanic action
    rw [hfresh] at hmade
    exact ⟨(step_streams hpanic hended action reply).2.2.trans hmade,
      .inl (BoundedWaits.step_device hpanic hended action reply)⟩

/-- The device handle is dropped, whatever it is doing. -/
theorem dropDevice_dropped {config : ValidConfig mode} {s : System F mode}
    (h : System.Reachable config s) (hpanic : s.panic = none) (reply : ℕ → AnyReply) :
    Winding config .dropped s.streams.length 0
      ((s.step .cancelDevice reply).step .dropDevice reply) := by
  have h₁ := h.step .cancelDevice reply
  obtain ⟨hpanic₁, hdevice₁⟩ := deviceStep h hpanic .cancelDevice rfl reply
  have hrests : resting (s.step .cancelDevice reply).device = true := by
    rcases hdevice₁ with hdevice₁ | hdevice₁ <;> rw [hdevice₁]
    · exact cancelDevice_rests s
    · rfl
  obtain ⟨hpanic₂, hdevice₂⟩ := deviceStep h₁ hpanic₁ .dropDevice rfl reply
  have hdropped : ((s.step .cancelDevice reply).step .dropDevice reply).device = .dropped := by
    rcases hdevice₂ with hdevice₂ | hdevice₂ <;> rw [hdevice₂]
    exact dropDevice_drops hrests
  have hcancel : (s.act .cancelDevice).streams = s.streams := by
    show s.cancelDevice.streams = s.streams
    unfold System.cancelDevice
    split <;> rfl
  have hdrop : ∀ t : System F mode, (t.act .dropDevice).streams = t.streams := by
    intro t
    show t.dropDevice.streams = t.streams
    unfold System.dropDevice
    split <;> rfl
  refine ⟨h₁.step .dropDevice reply, hpanic₂, hdropped, ?_, fun stream hlt =>
    absurd hlt (Nat.not_lt_zero stream)⟩
  rw [step_keeps_streams (hdrop _) reply, step_keeps_streams hcancel reply]

/-- **A session can always be shut down, and always be left.**  Take any reachable state of a session
that has not panicked.  If the device is open, drop what is in flight on it and on its streams, drop
the streams, let the cleanups end, and call `shutdown`: on a device that accepts the commands it
returns `Ok`, whatever has failed, been refused or been given up before; the hardware is off, and
nothing is issued any more.  And in any case, dropping the device handle and the streams ends the
session with the two commands that switch the hardware off, whatever the device answers. -/
theorem session_winds_down {config : ValidConfig mode} {s : System F mode}
    (h : System.Reachable config s) (hpanic : s.panic = none) {replies : List AnyReply}
    (hlength : 5 ≤ replies.length) (reply : ℕ → AnyReply) :
    (deviceOpen s.device = true → (∀ other ∈ replies, Accepts other) →
      let wound := runFrom reply s (shutDownAll s.streams.length replies)
      wound.panic = none ∧ (∀ phase ∈ wound.streams, phase.live = false) ∧
        (∃ before, wound.history = before ++ [.device .shutdown (.ok ())]) ∧
        wound.session.state.device = .closed ∧ ShutDown wound.wire ∧
        ∀ later, Later wound later → later.wire = wound.wire) ∧
    let left := runFrom reply s (leave s.streams.length replies)
    left.panic = none ∧ left.ended = true ∧ EndsOff left.wire := by
  constructor
  · intro hopen hall wound
    obtain ⟨idle, hwinding⟩ := cancelDevice_idle h hpanic hopen reply
    have hgivenUp := hwinding.giveUpAll hlength reply s.streams.length (Nat.le_refl _)
    obtain ⟨hpanic', hstreams, hclosed, hreported⟩ :=
      shutdown_goes hgivenUp hall (by omega) reply
    have hwound : wound = runFrom reply (runFrom reply (s.step .cancelDevice reply)
        (giveUpAll s.streams.length replies)) [.callDevice .shutdown, .pollDevice replies] := by
      show runFrom reply s (shutDownAll s.streams.length replies) = _
      unfold runFrom shutDownAll
      rw [List.foldl_cons, List.foldl_append]
    have hreachable : System.Reachable config wound := by
      rw [hwound]
      exact (hgivenUp.reachable.step _ _).step _ _
    rw [← hwound] at hpanic' hstreams hclosed hreported
    refine ⟨hpanic', ?_, hreported, hclosed, (reachable_inv hreachable).system.closed hclosed,
      fun later => SafeOff.closed_later hreachable hclosed⟩
    rw [hstreams]
    exact hgivenUp.free.1
  · have hgivenUp := (dropDevice_dropped h hpanic reply).giveUpAll hlength reply s.streams.length
      (Nat.le_refl _)
    have howned : (runFrom reply s (leave s.streams.length replies)).owned = false :=
      owned_false_iff.mpr ⟨hgivenUp.device, fun phase hphase => by
        rw [hgivenUp.free.1 phase hphase]
        exact Bool.false_ne_true⟩
    have hinv := reachable_inv hgivenUp.reachable
    exact ⟨hgivenUp.panic, hinv.ended.mpr howned, hinv.endsOff howned⟩

/-- A session with a close in flight on its stream and an operation in flight on its device. -/
def interruptedSession : System Rat .rawAdc :=
  System.after (ValidConfig.standard .rawAdc) (fun _ => obliging)
    [.pollDevice (List.replicate 16 obliging), .rxStream, .callStream 0 .start,
      .pollStream 0 (List.replicate 4 obliging) [], .callStream 0 .close, .pollStream 0 [] [],
      .callDevice (.setBiasTee true), .pollDevice []]

theorem interruptedSession_winds_down :
    (∃ before, (runFrom (fun _ => obliging) interruptedSession
        (shutDownAll interruptedSession.streams.length (List.replicate 5 obliging))).history =
      before ++ [.device .shutdown (.ok ())]) ∧
    (runFrom (fun _ => obliging) interruptedSession
      (leave interruptedSession.streams.length (List.replicate 5 obliging))).ended = true := by
  have hreachable : System.Reachable (ValidConfig.standard .rawAdc) interruptedSession :=
    System.reachable_after _ _ _
  have hopen : deviceOpen interruptedSession.device = true := by decide +kernel
  have hall : ∀ other ∈ List.replicate 5 obliging, Accepts other := fun other hother =>
    List.eq_of_mem_replicate hother ▸ obliging_accepts
  obtain ⟨hshuts, hleaves⟩ := session_winds_down hreachable (by decide +kernel)
    (by decide : 5 ≤ (List.replicate 5 obliging).length) fun _ => obliging
  obtain ⟨_, _, hreported, _⟩ := hshuts hopen hall
  exact ⟨hreported, hleaves.2.1⟩

end HydraSdr.Analysis.SessionRecovery
