import HydraSdr.Analysis.SystemInvariant

/-!
# Runs, as the streams see them

The effect of an action on the streams and on the history, and the induction rules that the
results about whole runs use: one for properties of the driver, and one for properties of a stream
that every move keeps.
-/

set_option autoImplicit false

namespace HydraSdr.Analysis

open HydraSdr.Program HydraSdr.Computation

variable {F : Type} {mode : SampleFormat}

/-- An event that is not about a stream, and what it says about the session. -/
def DeviceEvent (session : Session) : CallEvent F mode → Prop
  | .opened _ => True
  | .device operation result =>
    operation = .shutdown → result = .ok () → session.state.device = .closed
  | .acquired result => ∃ e, result = .error e
  | _ => False

/-- What the device and its handle may do to the state that is shared with the streams. -/
structure SharedStep (s s' : System F mode) : Prop where
  valid : ValidReceive s.session.receive → ValidReceive s'.session.receive
  wire : Extends s.wire s'.wire
  opened : s'.session.state.device = .opened → s'.session.state = s.session.state
  closed : s.session.state.device = .closed →
    s'.session.state = s.session.state ∧ s'.wire = s.wire
  live : ∀ phase ∈ s.streams, phase.live = true →
    s'.session.state = s.session.state ∧ QuietlyExtends s.wire s'.wire

variable [SampleArithmetic F]

/-- The effect of an action: it leaves the streams alone, it acquires the claim, or it is a step
of one stream. -/
inductive Effect (s : System F mode) : System F mode → Prop
  | device {s' : System F mode} (hstreams : s'.streams = s.streams) (hshared : SharedStep s s')
      (events : List (CallEvent F mode)) (hhistory : s'.history = s.history ++ events)
      (hevents : ∀ event ∈ events, DeviceEvent s'.session event) : Effect s s'
  | acquire {s' : System F mode} (hopen : s.session.state.device = .opened)
      (havailable : s.session.state.claim = .available)
      (hsession : s'.session = s.session.setClaim .held) (hwire : s'.wire = s.wire)
      (hstreams : s'.streams = s.streams ++
        [.idle (Receiver.new { receiver := .stopped, cleanupArmed := true })])
      (hhistory : s'.history = s.history ++ [.acquired (.ok ())]) : Effect s s'
  | stream {stream : ℕ} {phase : StreamPhase F mode} {step : StreamStep F mode}
      (hphase : s.streams[stream]? = some phase)
      (hsteps : Steps stream s.session s.wire s.panic phase step) :
      Effect s (s.putStream stream step)

/-- Nothing happens to the streams. -/
theorem effect_same {s s' : System F mode} (hstreams : s'.streams = s.streams)
    (hsession : s'.session = s.session) (hwire : s'.wire = s.wire)
    (hhistory : s'.history = s.history) : Effect s s' :=
  .device hstreams ⟨by rw [hsession]; exact id, by rw [hwire]; exact .refl _, fun _ => by rw [hsession], fun _ => ⟨by rw [hsession], hwire⟩,
    fun _ _ _ => ⟨by rw [hsession], by rw [hwire]; exact .refl _⟩⟩ []
    (by rw [hhistory, List.append_nil]) fun _ h => absurd h List.not_mem_nil

theorem onStream_effect {s : System F mode} (h : SystemInv s) {stream : ℕ}
    {use : StreamPhase F mode → (Receiver F mode → StreamWorld F mode) →
      Option (StreamStep F mode)} (huse : StreamUse s stream use) : Effect s (s.onStream stream use) := by
  unfold System.onStream
  split
  · exact effect_same rfl rfl rfl rfl
  · rename_i phase hphase
    split
    · exact effect_same rfl rfl rfl rfl
    · rename_i step hstep
      exact .stream hphase (huse phase step (h.streams phase (List.mem_of_getElem? hphase)) hstep)

/-- A step of the device, with the events it causes. -/
theorem putDevice_effect {s : System F mode} (h : SystemInv s) {config : Config mode}
    {w : DeviceWorld mode} (hstep : DeviceStep (s.deviceWorld config) w)
    (hvalid : ValidReceive w.session.receive) (phase : DevicePhase mode)
    {events : List (CallEvent F mode)} (hevents : ∀ event ∈ events, DeviceEvent w.session event) :
    Effect s (s.putDevice w phase events) := by
  refine .device rfl ⟨fun _ => hvalid, hstep.wire, fun hopen => (hstep.opened hopen).1, hstep.closed,
    fun stream hstream hlive => ?_⟩ events rfl hevents
  obtain ⟨hheld, hopen⟩ := h.held_of_live hstream hlive
  exact hstep.opened ((hstep.held hheld).trans hopen)

theorem pollDevice_effect {s : System F mode} (h : SystemInv s) (replies : List AnyReply) :
    Effect s (s.pollDevice replies) := by
  unfold System.pollDevice
  have hdevice := h.device
  cases hphase : s.device with
  | opening config flight =>
    rw [hphase] at hdevice
    have hsegment := devicePoll_segment deviceEnd_compose hdevice replies
    dsimp only
    generalize hpoll : flight.poll DeviceWorld.port replies (s.deviceWorld config) = outcome
    have hsegment' : Segment DeviceWorld.port DeviceRely DeviceGuar DeviceEnd
        (s.deviceWorld config) outcome := hpoll ▸ hsegment
    obtain ⟨progress, w⟩ := outcome
    cases progress with
    | finished result =>
      have hvalid := DeviceEnd.valid hsegment' h.valid
      cases result with
      | ok value =>
        exact putDevice_effect h hsegment'.step hvalid _ fun event hevent =>
          List.mem_singleton.mp hevent ▸ trivial
      | error e =>
        exact putDevice_effect h hsegment'.step hvalid _ fun event hevent =>
          List.mem_singleton.mp hevent ▸ trivial
    | waiting ticket request next =>
      exact putDevice_effect h hsegment'.1.step (hsegment'.1.settings.valid h.valid) _
        fun _ h => absurd h List.not_mem_nil
  | operating config operation flight =>
    rw [hphase] at hdevice
    have hsegment := devicePoll_segment (callEnd_compose operation) hdevice.2 replies
    dsimp only
    generalize hpoll : flight.poll DeviceWorld.port replies (s.deviceWorld config) = outcome
    have hsegment' : Segment DeviceWorld.port DeviceRely DeviceGuar (CallEnd operation)
        (s.deviceWorld config) outcome := hpoll ▸ hsegment
    obtain ⟨progress, w⟩ := outcome
    cases progress with
    | finished result =>
      exact putDevice_effect h hsegment'.1.step (hsegment'.1.valid h.valid) _ fun event hevent =>
        List.mem_singleton.mp hevent ▸ hsegment'.2
    | waiting ticket request next =>
      exact putDevice_effect h hsegment'.1.step (hsegment'.1.settings.valid h.valid) _
        fun _ h => absurd h List.not_mem_nil
  | idle config => exact effect_same rfl rfl rfl rfl
  | dropped => exact effect_same rfl rfl rfl rfl

/-- **The effect of every action.** -/
theorem act_effect {s : System F mode} (h : SystemInv s) (action : Action mode) :
    Effect s (s.act action) := by
  cases action_cases s action with
  | stream hact huse => exact hact ▸ onStream_effect h huse
  | callDevice operation =>
    show Effect s (s.callDevice operation)
    unfold System.callDevice
    split
    · split <;> exact effect_same rfl rfl rfl rfl
    · exact effect_same rfl rfl rfl rfl
  | pollDevice replies => exact pollDevice_effect h replies
  | cancelDevice =>
    show Effect s s.cancelDevice
    unfold System.cancelDevice
    split <;> exact effect_same rfl rfl rfl rfl
  | dropDevice =>
    show Effect s s.dropDevice
    unfold System.dropDevice
    split <;> exact effect_same rfl rfl rfl rfl
  | rxStream =>
    show Effect s s.rxStream
    unfold System.rxStream
    split
    · rcases acquire_cases s.session with ⟨hopen, havailable, hacquire⟩ | ⟨_, e, hacquire⟩
      · rw [hacquire]
        exact .acquire hopen havailable rfl rfl rfl rfl
      · rw [hacquire]
        exact .device rfl
          ⟨id, .refl _, fun _ => rfl, fun _ => ⟨rfl, rfl⟩, fun _ _ _ => ⟨rfl, .refl _⟩⟩ _ rfl fun event hevent => List.mem_singleton.mp hevent ▸ ⟨e, rfl⟩
    · exact effect_same rfl rfl rfl rfl

/-- Dropping the session has no effect on streams: there are none. -/
theorem dropSession_effect {s : System F mode} (howned : s.owned = false) (reply : ℕ → AnyReply) :
    Effect s (s.dropSession reply) := by
  obtain ⟨_, hstreams⟩ := owned_false_iff.mp howned
  have hshared : SharedStep s (s.dropSession reply) := by
    refine ⟨fun hvalid => ?_, dropSession_extends reply s, fun _ => ?_, fun hclosed => ?_,
      fun phase hphase hlive => absurd hlive (hstreams phase hphase)⟩
    · unfold System.dropSession
      split <;> exact hvalid
    · unfold System.dropSession
      split <;> rfl
    · unfold System.dropSession
      rw [if_pos hclosed]
      exact ⟨rfl, rfl⟩
  refine .device ?_ hshared [] ?_ fun _ h => absurd h List.not_mem_nil
  · unfold System.dropSession
    split <;> rfl
  · unfold System.dropSession
    split <;> simp

/-- A step is a sequence of effects: the action's, and the end of the session. -/
theorem step_effects {s : System F mode} (h : RunInv s) {inv : System F mode → Prop}
    (heffect : ∀ s s', SystemInv s → SystemInv s' → Effect s s' → inv s → inv s')
    (action : Action mode) (reply : ℕ → AnyReply) (hs : inv s) : inv (s.step action reply) := by
  unfold System.step
  split
  · exact hs
  · rename_i hgoes
    rw [Bool.or_eq_true, not_or, Bool.not_eq_true, Bool.not_eq_true] at hgoes
    obtain ⟨hpanic, hended⟩ := hgoes
    have hact := h.system.act (Option.isNone_iff_eq_none.mp (by simpa using hpanic)) hended action
    have hinv := heffect s (s.act action) h.system hact (act_effect h.system action) hs
    dsimp only
    split
    · exact hinv
    · rename_i hgone
      rw [Bool.or_eq_true, not_or, Bool.not_eq_true] at hgone
      exact heffect _ _ hact (hact.dropSession hgone.1 reply).1
        (dropSession_effect hgone.1 reply) hinv

/-- **Induction over runs**, by the effects of their steps. -/
theorem reachable_induct {config : ValidConfig mode} {inv : System F mode → Prop}
    (hinitial : inv (System.initial config))
    (heffect : ∀ s s', SystemInv s → SystemInv s' → Effect s s' → inv s → inv s')
    {s : System F mode} (h : System.Reachable config s) : inv s := by
  induction h with
  | initial => exact hinitial
  | step action reply hs ih => exact step_effects (reachable_inv hs) heffect action reply ih

/-- The states that a run goes on to. -/
inductive Later (s : System F mode) : System F mode → Prop
  | now : Later s s
  | step {s' : System F mode} (action : Action mode) (reply : ℕ → AnyReply) (h : Later s s') :
      Later s (s'.step action reply)

theorem Later.reachable {config : ValidConfig mode} {s s' : System F mode} (h : Later s s')
    (hs : System.Reachable config s) : System.Reachable config s' := by
  induction h with
  | now => exact hs
  | step action reply _ ih => exact ih.step action reply

/-- **Induction over what follows a reachable state.** -/
theorem later_induct {config : ValidConfig mode} {inv : System F mode → Prop} {s s' : System F mode}
    (hs : System.Reachable config s)
    (heffect : ∀ s s', SystemInv s → SystemInv s' → Effect s s' → inv s → inv s')
    (h : Later s s') (hinv : inv s) : inv s' := by
  induction h with
  | now => exact hinv
  | step action reply h ih => exact step_effects (reachable_inv (h.reachable hs)) heffect action reply ih

/-- The events of an effect are added to the history. -/
theorem Effect.history {s s' : System F mode} (heffect : Effect s s') :
    ∃ events, s'.history = s.history ++ events := by
  cases heffect with
  | device _ _ events hhistory _ => exact ⟨events, hhistory⟩
  | acquire _ _ _ _ _ hhistory => exact ⟨_, hhistory⟩
  | @stream _ _ step _ _ => exact ⟨step.events, rfl⟩

/-- **A closed device stays as it is**, and nothing more is issued to it. -/
theorem Effect.closed {s s' : System F mode} (hinv : SystemInv s) (heffect : Effect s s')
    (hclosed : s.session.state.device = .closed) :
    s'.session.state = s.session.state ∧ s'.wire = s.wire := by
  cases heffect with
  | device _ hshared _ _ _ => exact hshared.closed hclosed
  | acquire hopen _ _ _ _ _ => exact nomatch hclosed.symm.trans hopen
  | stream hphase hsteps =>
    obtain ⟨receiver, hreceiver, _⟩ := hsteps
    obtain ⟨_, hopen⟩ := hinv.held_of_live (List.mem_of_getElem? hphase) (live_of_receiver hreceiver)
    exact nomatch hclosed.symm.trans hopen

/-! ## What a step does to streams and history -/

omit [SampleArithmetic F] in
/-- A stream that is there is used. -/
theorem onStream_some {s : System F mode} {stream : ℕ} {phase : StreamPhase F mode}
    (hphase : s.streams[stream]? = some phase)
    (use : StreamPhase F mode → (Receiver F mode → StreamWorld F mode) → Option (StreamStep F mode)) :
    s.onStream stream use =
      (use phase s.streamWorld).elim s fun step => s.putStream stream step := by
  unfold System.onStream
  rw [hphase]
  dsimp only
  cases use phase s.streamWorld <;> rfl

omit [SampleArithmetic F] in
theorem onStream_none {s : System F mode} {stream : ℕ} (hphase : s.streams[stream]? = none)
    (use : StreamPhase F mode → (Receiver F mode → StreamWorld F mode) → Option (StreamStep F mode)) :
    s.onStream stream use = s := by
  unfold System.onStream
  rw [hphase]

/-- A poll of a read on an idle stream. -/
theorem act_pollRead {s : System F .f32Iq} {stream room : ℕ} {arrivals rest : List Arrival}
    {receiver : Receiver F .f32Iq} (hphase : s.streams[stream]? = some (.idle receiver))
    {polled : Option (Result (List (Complex F)))} {w' : StreamWorld F .f32Iq}
    (hread : Receiver.pollRead (s.streamWorld receiver) room arrivals = .ok (polled, w', rest)) :
    s.act (.pollRead stream room arrivals) = s.putStream stream
      (.of w' (.idle w'.receiver) (polled.toList.map fun result =>
        .samples stream result w'.receiver.queue)) := by
  refine (onStream_some hphase _).trans ?_
  show s.putStream stream (StreamStep.ofChecked _ _ ((Receiver.pollRead _ _ _).map _)) = _
  rw [hread]
  rfl

/-- A read that waits on an idle stream returns no samples where a poll of it is pending. -/
theorem act_readBlocking {s : System F .f32Iq} {stream room : ℕ} {arrivals rest : List Arrival}
    {receiver : Receiver F .f32Iq} (hphase : s.streams[stream]? = some (.idle receiver))
    {polled : Option (Result (List (Complex F)))} {w' : StreamWorld F .f32Iq}
    (hread : Receiver.pollRead (s.streamWorld receiver) room arrivals = .ok (polled, w', rest)) :
    s.act (.readBlocking stream room arrivals) = s.putStream stream
      (.of w' (.idle w'.receiver) [.samples stream (polled.getD (.ok [])) w'.receiver.queue]) := by
  refine (onStream_some hphase _).trans ?_
  show s.putStream stream (StreamStep.ofChecked _ _ ((Receiver.readBlocking _ _ _).map _)) = _
  rw [readBlocking_poll, hread]
  rfl

omit [SampleArithmetic F] in
/-- The end of a session changes no stream and no history. -/
theorem dropSession_streams (reply : ℕ → AnyReply) (s : System F mode) :
    (s.dropSession reply).streams = s.streams ∧ (s.dropSession reply).history = s.history ∧
      (s.dropSession reply).panic = s.panic := by
  unfold System.dropSession
  split <;> exact ⟨rfl, rfl, rfl⟩

/-- A step does what its action does to streams and history. -/
theorem step_streams {s : System F mode} (hpanic : s.panic = none) (hended : s.ended = false)
    (action : Action mode) (reply : ℕ → AnyReply) :
    (s.step action reply).streams = (s.act action).streams ∧
      (s.step action reply).history = (s.act action).history ∧
      (s.step action reply).panic = (s.act action).panic := by
  have hgoes : ¬(s.panic.isSome || s.ended) = true := by
    rw [hpanic, hended]
    exact Bool.false_ne_true
  unfold System.step
  rw [if_neg hgoes]
  dsimp only
  split
  · exact ⟨rfl, rfl, rfl⟩
  · exact dropSession_streams reply _

/-- Nothing happens after a panic or the end of the session. -/
theorem step_of_over {s : System F mode} (hover : ¬(s.panic = none ∧ s.ended = false))
    (action : Action mode) (reply : ℕ → AnyReply) : s.step action reply = s := by
  unfold System.step
  rw [if_pos]
  cases hpanic : s.panic with
  | some panic => rfl
  | none =>
    cases hended : s.ended with
    | true => rfl
    | false => exact absurd ⟨hpanic, hended⟩ hover

/-- An action that leaves the streams alone does so as a step. -/
theorem step_keeps_streams {s : System F mode} {action : Action mode}
    (h : (s.act action).streams = s.streams) (reply : ℕ → AnyReply) :
    (s.step action reply).streams = s.streams := by
  by_cases hgoes : s.panic = none ∧ s.ended = false
  · rw [(step_streams hgoes.1 hgoes.2 action reply).1]
    exact h
  · rw [step_of_over hgoes]

theorem callDevice_streams (s : System F mode) (operation : DeviceOperation mode) :
    (s.act (.callDevice operation)).streams = s.streams := by
  show (s.callDevice operation).streams = s.streams
  unfold System.callDevice
  split
  · split <;> rfl
  · rfl

theorem pollDevice_streams (s : System F mode) (replies : List AnyReply) :
    (s.act (.pollDevice replies)).streams = s.streams := by
  show (s.pollDevice replies).streams = s.streams
  unfold System.pollDevice
  split
  · split <;> rfl
  · split <;> rfl
  · rfl

/-- A step that adds no event to the history. -/
theorem history_of_length {s : System F mode} (h : SystemInv s) (hpanic : s.panic = none)
    (hended : s.ended = false) (action : Action mode) (reply : ℕ → AnyReply)
    (hlength : (s.step action reply).history.length = s.history.length) :
    (s.step action reply).history = s.history := by
  obtain ⟨_, hhistory, _⟩ := step_streams hpanic hended action reply
  obtain ⟨events, hevents⟩ := (act_effect h action).history
  rw [hhistory, hevents, List.length_append] at hlength
  have hnone : events = [] := List.eq_nil_of_length_eq_zero (by omega)
  rw [hhistory, hevents, hnone, List.append_nil]

/-! ## What an effect does to one stream -/

/-- Where a live stream after an effect comes from: others have acted, it has made moves, it has
been dropped and cleans up, or it is new. -/
inductive Evolved (s s' : System F mode) (stream : ℕ) (receiver' : Receiver F mode) : Prop
  | untouched {phase : StreamPhase F mode} (hphase : s.streams[stream]? = some phase)
      (hreceiver : phase.receiver? = some receiver')
      (hrely : StreamRely (s.streamWorld receiver') (s'.streamWorld receiver'))
  | moved {phase : StreamPhase F mode} {receiver : Receiver F mode} {w' : StreamWorld F mode}
      (hphase : s.streams[stream]? = some phase) (hreceiver : phase.receiver? = some receiver)
      (hmoves : Moves (s.streamWorld receiver) w') (hreceiver' : w'.receiver = receiver')
      (hsession : s'.session = s.session) (hwire : s'.wire = w'.wire)
  | dropped {phase : StreamPhase F mode} {receiver : Receiver F mode} {w' : StreamWorld F mode}
      (hphase : s.streams[stream]? = some phase) (hreceiver : phase.receiver? = some receiver)
      (hmoves : Moves (s.streamWorld receiver) w') (hqueue : receiver'.queue = none)
      (hwire : s'.wire = w'.wire)
  | acquired (hstream : stream = s.streams.length) (hqueue : receiver'.queue = none)

theorem Effect.evolved {s s' : System F mode} (hinv : SystemInv s) (heffect : Effect s s')
    {stream : ℕ} {phase' : StreamPhase F mode} (hphase' : s'.streams[stream]? = some phase')
    {receiver' : Receiver F mode} (hreceiver' : phase'.receiver? = some receiver') :
    Evolved s s' stream receiver' := by
  have hlive' := live_of_receiver hreceiver'
  cases heffect with
  | device hstreams hshared events hhistory hevents =>
    rw [hstreams] at hphase'
    obtain ⟨hstate, hwire⟩ := hshared.live phase' (List.mem_of_getElem? hphase') hlive'
    exact .untouched hphase' hreceiver' ⟨rfl, hshared.valid, hstate, hwire⟩
  | acquire hopen havailable hsession hwire hstreams hhistory =>
    rw [hstreams] at hphase'
    rcases Nat.lt_or_ge stream s.streams.length with hlt | hge
    · rw [List.getElem?_append_left hlt] at hphase'
      obtain ⟨hheld, _⟩ := hinv.held_of_live (List.mem_of_getElem? hphase') hlive'
      exact nomatch havailable.symm.trans hheld
    · have hlength : stream = s.streams.length := by
        have hlt := (List.getElem?_eq_some_iff.mp hphase').1
        rw [List.length_append, List.length_singleton] at hlt
        omega
      rw [hlength, List.getElem?_append_right (Nat.le_refl _), Nat.sub_self] at hphase'
      obtain rfl := Option.some.inj hphase'
      obtain rfl := Option.some.inj hreceiver'
      exact .acquired hlength rfl
  | @stream index phase step hphase hsteps =>
    obtain ⟨receiver, hreceiver, houtcome⟩ := hsteps
    obtain ⟨hlt, hget⟩ := List.getElem?_eq_some_iff.mp hphase
    have hmem : phase' ∈ s.streams.set index step.phase := List.mem_of_getElem? hphase'
    by_cases hindex : index = stream
    · subst hindex
      have hnew : phase' = step.phase := by
        have hset : (s.streams.set index step.phase)[index]? = some phase' := hphase'
        rw [List.getElem?_set_self hlt] at hset
        exact (Option.some.inj hset).symm
      rw [hnew] at hreceiver'
      cases houtcome with
      | kept hmoves hsession hwire hkept _ _ =>
        obtain rfl := Option.some.inj (hkept.symm.trans hreceiver')
        exact .moved hphase hreceiver hmoves rfl hsession hwire
      | dropped hmoves hsession hwire hdropped hqueue _ _ =>
        obtain rfl := Option.some.inj (hdropped.symm.trans hreceiver')
        exact .dropped hphase hreceiver hmoves hqueue hwire
      | released _ _ _ _ _ hgone _ _ _ =>
        rw [hgone] at hreceiver'
        exact nomatch hreceiver'
    · have hset : (s.streams.set index step.phase)[stream]? = some phase' := hphase'
      rw [List.getElem?_set_ne hindex] at hset
      exfalso
      have hgone : (s.streams.set index .gone)[stream]? = some phase' := by
        rw [List.getElem?_set_ne hindex]
        exact hset
      rcases hinv.others_gone hphase (live_of_receiver hreceiver) .gone
        (List.mem_of_getElem? hgone) with rfl | hnot
      · exact nomatch hreceiver'
      · exact hnot hlive'

/-- **What every move of a stream keeps holds of every stream of a reachable state.**  It has to be
true of a stream without a queue, and may rely on what others do. -/
theorem reachable_stream {config : ValidConfig mode} {inv : StreamWorld F mode → Prop}
    (hnone : ∀ w, w.receiver.queue = none → inv w)
    (hmove : ∀ w w', StreamInv w → Move w w' → inv w → inv w')
    (hrely : ∀ w w', StreamRely w w' → inv w → inv w') {s : System F mode}
    (h : System.Reachable config s) {phase : StreamPhase F mode} (hphase : phase ∈ s.streams)
    {receiver : Receiver F mode} (hreceiver : phase.receiver? = some receiver) :
    inv (s.streamWorld receiver) := by
  have hall : ∀ (stream : ℕ) phase receiver, s.streams[stream]? = some phase →
      phase.receiver? = some receiver → inv (s.streamWorld receiver) := by
    refine @reachable_induct _ _ _ config (fun s => ∀ (stream : ℕ) phase receiver,
      s.streams[stream]? = some phase → phase.receiver? = some receiver →
        inv (s.streamWorld receiver)) ?_ ?_ _ h
    · intro stream phase receiver hphase
      exact nomatch hphase
    · intro s s' hinv _ heffect ih stream phase' receiver' hphase' hreceiver'
      cases heffect.evolved hinv hphase' hreceiver' with
      | untouched hphase hreceiver hstep =>
        exact hrely _ _ hstep (ih stream _ _ hphase hreceiver)
      | @moved phase receiver w' hphase hreceiver hmoves hsame hsession hwire =>
        have hstart := hinv.streamInv (List.mem_of_getElem? hphase) hreceiver
        have hend := hmoves.keep_inv hmove hstart (ih stream _ _ hphase hreceiver)
        refine hrely w' _ ⟨hsame.symm, ?_, ?_, ?_⟩ hend
        · show ValidReceive w'.session.receive → ValidReceive s'.session.receive
          rw [hsession, hmoves.sameOwner.session]
          exact id
        · show s'.session.state = w'.session.state
          rw [hsession, hmoves.sameOwner.session]
          rfl
        · show QuietlyExtends w'.wire s'.wire
          rw [hwire]
          exact .refl _
      | dropped _ _ _ hqueue _ => exact hnone _ hqueue
      | acquired _ hqueue => exact hnone _ hqueue
  obtain ⟨stream, hlt, hget⟩ := List.mem_iff_getElem.mp hphase
  exact hall stream phase receiver (List.getElem?_eq_some_iff.mpr ⟨hlt, hget⟩) hreceiver

end HydraSdr.Analysis
