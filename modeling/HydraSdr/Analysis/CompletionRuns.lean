import HydraSdr.Analysis.StreamActs

/-!
# Runs with the completions that a stream takes

A run of a session together with every completion that one of its streams has taken so far, and the
induction rule for what holds of both.
-/

set_option autoImplicit false

namespace HydraSdr.Analysis

open HydraSdr.Program HydraSdr.Computation

variable {F : Type} [SampleArithmetic F] {mode : SampleFormat}

/-! ## What a step does to one stream -/

/-- The stream that an event is about. -/
def eventStream : CallEvent F mode → Option ℕ
  | .started stream _ _ _ => some stream
  | .stopped stream _ => some stream
  | .closed stream _ => some stream
  | .cleanedUp stream _ => some stream
  | .block stream _ _ => some stream
  | .samples stream _ _ => some stream
  | _ => none

omit [SampleArithmetic F] in
theorem eventStream_apart {event : CallEvent F mode} (h : ApartEvent event) :
    eventStream event = none := by
  cases event <;> first | rfl | exact absurd h id

/-- The events of an act are about its stream. -/
theorem StreamAct.about {stream : ℕ} {w w' : StreamWorld F mode} {work : Work}
    {events : List (CallEvent F mode)} (h : StreamAct stream w work events w') :
    ∀ event ∈ events, eventStream event = some stream := by
  cases h with
  | control _ hevents =>
    intro event hevent
    cases hevents event hevent <;> rfl
  | stops _ _ => simp [eventStream]
  | blocks _ _ _ _ hreport => cases hreport <;> simp [eventStream]
  | reads _ hreport => cases hreport <;> simp [eventStream]

/-- What a step does to one stream: nothing, its claim is acquired, or an act. -/
inductive Stepped (stream : ℕ) (s s' : System F mode) (events : List (CallEvent F mode)) :
    Work → Prop
  | untouched (hstream : s'.streams[stream]? = s.streams[stream]?)
      (hevents : ∀ event ∈ events, eventStream event ≠ some stream) :
      Stepped stream s s' events (none, 0)
  | added {claim : RxStreamClaim} (hnone : s.streams[stream]? = none)
      (hnew : s'.streams[stream]? = some (.idle (Receiver.new claim)))
      (hevents : ∀ event ∈ events, eventStream event ≠ some stream) :
      Stepped stream s s' events (none, 0)
  | acted {phase phase' : StreamPhase F mode} {receiver : Receiver F mode} {work : Work}
      {w' : StreamWorld F mode} (hphase : s.streams[stream]? = some phase)
      (hreceiver : phase.receiver? = some receiver)
      (hact : StreamAct stream (s.streamWorld receiver) work events w')
      (hphase' : s'.streams[stream]? = some phase') (hleaves : Leaves phase w'.receiver phase')
      (hwire : Extends w'.wire s'.wire) (hcleans : OnlyCleansUp stream phase events) :
      Stepped stream s s' events work

/-- The work of an action for a stream. -/
def streamWork (stream : ℕ) (s : System F mode) (action : Action mode) : Work :=
  if actionStream action = some stream then actionWork s action else (none, 0)

/-- **What an action does to one stream.** -/
theorem Acted.stepped {s s' : System F mode} {action : Action mode} (h : Acted s action s')
    (stream : ℕ) : ∃ events, s'.history = s.history ++ events ∧
      Stepped stream s s' events (streamWork stream s action) := by
  cases h with
  | @apart _ events hwork hstreams hhistory hevents =>
    have hnone : streamWork stream s action = (none, 0) := by
      unfold streamWork
      split
      · exact hwork
      · rfl
    have hapart : ∀ event ∈ events, eventStream event ≠ some stream := by
      intro event hevent
      rw [eventStream_apart (hevents event hevent)]
      exact nofun
    refine ⟨events, hhistory, ?_⟩
    rw [hnone]
    rcases hstreams with hsame | ⟨claim, hadded⟩
    · exact .untouched (by rw [hsame]) hapart
    · rcases Nat.lt_trichotomy stream s.streams.length with hlt | rfl | hgt
      · exact .untouched (by rw [hadded, List.getElem?_append_left hlt]) hapart
      · have hnew : s'.streams[s.streams.length]? = some (.idle (Receiver.new claim)) := by
          rw [hadded]
          simp
        exact .added (by simp) hnew hapart
      · refine .untouched ?_ hapart
        have hlength : s'.streams.length = s.streams.length + 1 := by
          rw [hadded, List.length_append, List.length_singleton]
        rw [List.getElem?_eq_none (by omega), List.getElem?_eq_none (by omega)]
  | @acts other phase step hstream hphase hacts =>
    obtain ⟨receiver, w', hreceiver, hact, hleaves, hwire, hcleans⟩ := hacts
    refine ⟨step.events, rfl, ?_⟩
    by_cases hother : other = stream
    · subst hother
      have hwork : streamWork other s action = actionWork s action := if_pos hstream
      rw [hwork]
      refine .acted hphase hreceiver hact ?_ hleaves (hwire ▸ Extends.refl _) hcleans
      show (s.streams.set other step.phase)[other]? = some step.phase
      rw [List.getElem?_set_self (List.getElem?_eq_some_iff.mp hphase).1]
    · have hwork : streamWork stream s action = (none, 0) := by
        unfold streamWork
        rw [hstream, if_neg]
        intro hsame
        exact hother (Option.some.inj hsame)
      rw [hwork]
      refine .untouched ?_ ?_
      · show (s.streams.set other step.phase)[stream]? = s.streams[stream]?
        rw [List.getElem?_set_ne hother]
      · intro event hevent hsame
        exact hother (Option.some.inj ((hact.about event hevent).symm.trans hsame))

/-- An action leaves the streams alone that it does not use. -/
theorem Acted.others {s s' : System F mode} {action : Action mode} (h : Acted s action s')
    {stream : ℕ} (hother : actionStream action ≠ some stream) {phase : StreamPhase F mode}
    (hphase : s.streams[stream]? = some phase) : s'.streams[stream]? = some phase := by
  cases h with
  | apart _ hstreams _ _ =>
    rcases hstreams with hsame | ⟨claim, hadded⟩
    · rw [hsame]
      exact hphase
    · rw [hadded, List.getElem?_append_left (List.getElem?_eq_some_iff.mp hphase).1]
      exact hphase
  | @acts other _ step hstream _ _ =>
    have hne : other ≠ stream := by
      rintro rfl
      exact hother hstream
    show (s.streams.set other step.phase)[stream]? = some phase
    rw [List.getElem?_set_ne hne]
    exact hphase

/-! ## Runs -/

/-- The completions that the loops take from this queue. -/
def takesOf : Option (Queue × List Arrival) → List Taken
  | none => []
  | some (queue, arrivals) => loopTakes arrivals queue

/-- The work of a step of a run for a stream: nothing happens after a panic or the end of the
session. -/
def stepWork (stream : ℕ) (s : System F mode) (action : Action mode) : Work :=
  if s.panic.isSome || s.ended then (none, 0) else streamWork stream s action

/-- The runs of a session opened with `config`, with the completions that a stream has taken, oldest
first, and the number of accepted buffers that it has discarded because the factor had changed. -/
inductive Traced (config : ValidConfig mode) (stream : ℕ) : System F mode → List Taken → ℕ → Prop
  | initial : Traced config stream (System.initial config) [] 0
  | step {s : System F mode} {takes : List Taken} {discards : ℕ} (action : Action mode)
      (reply : ℕ → AnyReply) (h : Traced config stream s takes discards) :
      Traced config stream (s.step action reply)
        (takes ++ takesOf (stepWork stream s action).1)
        (discards + (stepWork stream s action).2)

theorem Traced.reachable {config : ValidConfig mode} {stream : ℕ} {s : System F mode}
    {takes : List Taken} {discards : ℕ} (h : Traced config stream s takes discards) :
    System.Reachable config s := by
  induction h with
  | initial => exact .initial
  | step action reply _ ih => exact ih.step action reply

/-- Every run has them. -/
theorem reachable_traced {config : ValidConfig mode} (stream : ℕ) {s : System F mode}
    (h : System.Reachable config s) : ∃ takes discards, Traced config stream s takes discards := by
  induction h with
  | initial => exact ⟨[], 0, .initial⟩
  | step action reply _ ih =>
    obtain ⟨takes, discards, htraced⟩ := ih
    exact ⟨_, _, htraced.step action reply⟩

/-- The events of a step. -/
def newEvents (s s' : System F mode) : List (CallEvent F mode) :=
  s'.history.drop s.history.length

omit [SampleArithmetic F] in
theorem newEvents_eq {s s' : System F mode} {events : List (CallEvent F mode)}
    (h : s'.history = s.history ++ events) : newEvents s s' = events := by
  unfold newEvents
  rw [h, List.drop_left]

/-- A step does what its action does to the wire, and may end the session. -/
theorem step_wire {s : System F mode} (hpanic : s.panic = none) (hended : s.ended = false)
    (action : Action mode) (reply : ℕ → AnyReply) :
    Extends (s.act action).wire (s.step action reply).wire := by
  have hgoes : ¬(s.panic.isSome || s.ended) = true := by
    rw [hpanic, hended]
    exact Bool.false_ne_true
  unfold System.step
  rw [if_neg hgoes]
  dsimp only
  split
  · exact .refl _
  · exact dropSession_extends reply _

/-- Steps only add to the wire. -/
theorem step_extends {config : ValidConfig mode} {s : System F mode}
    (h : System.Reachable config s) (action : Action mode) (reply : ℕ → AnyReply) :
    Extends s.wire (s.step action reply).wire := by
  have heffects : ∀ s₁ s₂ : System F mode, SystemInv s₁ → SystemInv s₂ → Effect s₁ s₂ →
      Extends s.wire s₁.wire → Extends s.wire s₂.wire := by
    intro _ _ _ _ heffect ih
    exact ih.trans heffect.extends
  exact step_effects (reachable_inv h) heffects action reply (.refl _)

/-- Nothing is done after a panic or the end of the session. -/
theorem stepWork_over {s : System F mode} (hover : ¬(s.panic = none ∧ s.ended = false))
    (stream : ℕ) (action : Action mode) : stepWork stream s action = (none, 0) := by
  unfold stepWork
  rw [if_pos]
  cases hpanic : s.panic with
  | some panic => rfl
  | none =>
    cases hended : s.ended with
    | true => rfl
    | false => exact absurd ⟨hpanic, hended⟩ hover

/-- **What a step of a run does to one stream.** -/
theorem step_stepped {config : ValidConfig mode} {s : System F mode}
    (h : System.Reachable config s) (action : Action mode) (reply : ℕ → AnyReply) (stream : ℕ) :
    ∃ events, (s.step action reply).history = s.history ++ events ∧
      Stepped stream s (s.step action reply) events (stepWork stream s action) := by
  by_cases hgoes : s.panic = none ∧ s.ended = false
  · obtain ⟨hstreams, hhistory, _⟩ := step_streams hgoes.1 hgoes.2 action reply
    have hwork : stepWork stream s action = streamWork stream s action := by
      unfold stepWork
      rw [hgoes.1, hgoes.2]
      rfl
    obtain ⟨events, hevents, hstepped⟩ := (reachable_acted h action).stepped stream
    have hwire := step_wire hgoes.1 hgoes.2 action reply
    refine ⟨events, hhistory.trans hevents, ?_⟩
    rw [hwork]
    generalize streamWork stream s action = work at hstepped
    cases hstepped with
    | untouched hstream hevents => exact .untouched (by rw [hstreams, hstream]) hevents
    | added hnone hnew hevents => exact .added hnone (by rw [hstreams, hnew]) hevents
    | acted hphase hreceiver hact hphase' hleaves hacted hcleans =>
      exact .acted hphase hreceiver hact (by rw [hstreams, hphase']) hleaves (hacted.trans hwire)
        hcleans
  · refine ⟨[], ?_, ?_⟩
    · rw [step_of_over hgoes, List.append_nil]
    · rw [stepWork_over hgoes, step_of_over hgoes]
      exact .untouched rfl fun _ h => absurd h List.not_mem_nil

/-- **Induction over runs**, as one stream sees them. -/
theorem traced_induct {config : ValidConfig mode} {stream : ℕ}
    {inv : System F mode → List Taken → ℕ → Prop} (hinitial : inv (System.initial config) [] 0)
    (hstep : ∀ s s' takes discards events work, System.Reachable config s →
      System.Reachable config s' → s'.history = s.history ++ events → Extends s.wire s'.wire →
      Stepped stream s s' events work → inv s takes discards →
      inv s' (takes ++ takesOf work.1) (discards + work.2))
    {s : System F mode} {takes : List Taken} {discards : ℕ}
    (h : Traced config stream s takes discards) : inv s takes discards := by
  induction h with
  | initial => exact hinitial
  | step action reply htraced ih =>
    have hreachable := htraced.reachable
    obtain ⟨events, hhistory, hstepped⟩ := step_stepped hreachable action reply stream
    exact hstep _ _ _ _ events _ hreachable (hreachable.step action reply) hhistory
      (step_extends hreachable action reply) hstepped ih

/-- What a run goes on to has taken more. -/
theorem Traced.later {config : ValidConfig mode} {stream : ℕ} {s s' : System F mode}
    {takes : List Taken} {discards : ℕ} (h : Traced config stream s takes discards)
    (hlater : Later s s') :
    ∃ more further, Traced config stream s' (takes ++ more) (discards + further) := by
  induction hlater with
  | now => exact ⟨[], 0, by rwa [List.append_nil]⟩
  | step action reply _ ih =>
    obtain ⟨more, further, htraced⟩ := ih
    have hstep := htraced.step action reply
    rw [List.append_assoc, Nat.add_assoc] at hstep
    exact ⟨_, _, hstep⟩

/-! ## Reads -/

omit [SampleArithmetic F] in
/-- Setting the queue that is set already. -/
theorem setQueue_same {w : StreamWorld F mode} {queue : Queue}
    (h : w.receiver.queue = some queue) : w.setQueue queue = w := by
  unfold StreamWorld.setQueue StreamWorld.onReceiver
  rw [← h]

/-- The queue of a stream that agrees with the hardware is open. -/
theorem queue_open {w : StreamWorld F mode} (hinv : StreamInv w) {queue : Queue}
    (hqueue : w.receiver.queue = some queue) : queue.bulkIn ≠ none := by
  obtain ⟨bulkIn, hbulk, _⟩ := hinv.endpoint queue hqueue
  rw [hbulk]
  exact Option.some_ne_none _

/-- A read that has begun. -/
theorem beginRead_inv {w w₁ : StreamWorld F .f32Iq} (hinv : StreamInv w)
    (hbegin : Receiver.beginRead w = (.ok (), w₁)) : StreamInv w₁ := by
  obtain ⟨hmoves, _⟩ := beginRead_moves hinv
  rw [hbegin] at hmoves
  exact hinv.moves hmoves

/-- A read that is refused discards nothing. -/
theorem readDiscards_refused {w w₁ : StreamWorld F .f32Iq} {e : Error}
    (h : Receiver.beginRead w = (.error e, w₁)) : readDiscards w = 0 := by
  unfold readDiscards
  unfold Receiver.beginRead at h
  split
  · rename_i queue hrunning hqueue
    rw [hrunning, hqueue] at h
    dsimp only at h
    split at h
    · exact nomatch (Prod.mk.inj h).1
    · exact nomatch (Prod.mk.inj h).1
  · rfl

/-- A read of nothing fills nothing. -/
theorem readFill_noRoom (w : StreamWorld F .f32Iq) : readFill 0 w = none := by
  unfold readFill
  split <;> rfl

/-- What a read that does not fill takes. -/
theorem takesOf_none {room : ℕ} {w : StreamWorld F .f32Iq} (h : readFill room w = none)
    (arrivals : List Arrival) : takesOf ((readFill room w).map (·, arrivals)) = [] := by
  rw [h]
  rfl

/-- What a read that fills takes. -/
theorem takesOf_some {room : ℕ} {w : StreamWorld F .f32Iq} {queue : Queue}
    (h : readFill room w = some queue) (arrivals : List Arrival) :
    takesOf ((readFill room w).map (·, arrivals)) = loopTakes arrivals queue := by
  rw [h]
  rfl

/-! ## What every act keeps -/

/-- What the acts of a stream do keeps a property of the stream, of the completions it has taken and
of the number it has discarded: control moves and conversion leave the latter alone, a read begins
by discarding, and a fill takes. -/
structure KeptByActs
    (keep : {mode : SampleFormat} → StreamWorld F mode → List Taken → ℕ → Prop) : Prop where
  new : ∀ {mode : SampleFormat} (w : StreamWorld F mode) claim,
    w.receiver = Receiver.new claim → keep w [] 0
  rely : ∀ {mode : SampleFormat} (w w' : StreamWorld F mode) takes discards,
    w'.receiver = w.receiver → Extends w.wire w'.wire → keep w takes discards →
    keep w' takes discards
  control : ∀ {mode : SampleFormat} (w w' : StreamWorld F mode) takes discards, StreamInv w →
    Move w w' → (w.receiver.claim.receiver ≠ .running ∨
      w' = w.onReceiver (Receiver.setState .cleanupRequired)) → keep w takes discards →
    keep w' takes discards
  release : ∀ (w : StreamWorld F .rawAdc) queue takes discards,
    w.receiver.queue = some queue → keep w takes discards →
    keep (w.setQueue queue.releaseCurrent) takes discards
  begin : ∀ (w w' : StreamWorld F .f32Iq) takes discards,
    Receiver.beginRead w = (.ok (), w') → keep w takes discards →
    keep w' takes (discards + readDiscards w)
  fill : ∀ {mode : SampleFormat} (w : StreamWorld F mode) queue queue' arrivals rest result takes
    discards, StreamInv (w.setQueue queue) → queue.current = none →
    Fills queue arrivals result queue' rest → keep (w.setQueue queue) takes discards →
    keep (afterFill result queue' w) (takes ++ loopTakes arrivals queue) discards
  process : ∀ (w w' : StreamWorld F .f32Iq) queue room result takes discards,
    w.receiver.queue = some queue → Receiver.processRead w queue room = .ok (result, w') →
    keep w takes discards → keep w' takes discards

variable {keep : {mode : SampleFormat} → StreamWorld F mode → List Taken → ℕ → Prop}

theorem KeptByActs.controlMoves (hkeep : KeptByActs keep) {w w' : StreamWorld F mode}
    (hinv : StreamInv w) (hmoves : ControlMoves w w') {takes : List Taken} {discards : ℕ}
    (h : keep w takes discards) : keep w' takes discards := by
  induction hmoves with
  | none => exact h
  | step hmoves move hcontrol _ ih =>
    exact hkeep.control _ _ _ _ (hinv.moves hmoves.moves) move hcontrol ih

/-- A poll of a read. -/
theorem KeptByActs.read (hkeep : KeptByActs keep) {w w' : StreamWorld F .f32Iq}
    (hinv : StreamInv w) {room : ℕ} {arrivals rest : List Arrival}
    {polled : Option (Result (List (Complex F)))}
    (hread : Receiver.pollRead w room arrivals = .ok (polled, w', rest)) {takes : List Taken}
    {discards : ℕ} (h : keep w takes discards) :
    keep w' (takes ++ takesOf ((readFill room w).map (·, arrivals)))
      (discards + readDiscards w) := by
  cases pollRead_cases hread with
  | refused hbegin =>
    have hfill : readFill room w = none := by
      unfold readFill
      rw [hbegin]
    rw [takesOf_none hfill, readDiscards_refused hbegin, List.append_nil]
    exact h
  | @begun w₁ _ queue _ _ hbegin hqueue hbegun =>
    have hbegan := hkeep.begin w w₁ takes discards hbegin h
    have hinv₁ := beginRead_inv hinv hbegin
    have hset := setQueue_same hqueue
    have hopen := queue_open hinv₁ hqueue
    cases hbegun with
    | noRoom hroom =>
      rw [hroom, takesOf_none (readFill_noRoom w), List.append_nil]
      exact hbegan
    | held hroom hheld hprocess =>
      rw [takesOf_none (readFill_held hbegin hqueue hheld), List.append_nil]
      exact hkeep.process _ _ _ _ _ _ _ hqueue hprocess hbegan
    | pending hroom hcurrent hcarried hfill =>
      rw [takesOf_some (readFill_empty hbegin hqueue hroom hcurrent hcarried)]
      rw [← hset] at hbegan hinv₁
      exact hkeep.fill _ _ _ _ _ _ _ _ hinv₁ hcurrent (fillLoop_fills hopen hfill) hbegan
    | rejected hroom hcurrent hcarried hfill =>
      rw [takesOf_some (readFill_empty hbegin hqueue hroom hcurrent hcarried)]
      rw [← hset] at hbegan hinv₁
      exact hkeep.fill _ _ _ _ _ _ _ _ hinv₁ hcurrent (fillLoop_fills hopen hfill) hbegan
    | filled hroom hcurrent hcarried hfill hprocess =>
      rw [takesOf_some (readFill_empty hbegin hqueue hroom hcurrent hcarried)]
      rw [← hset] at hbegan hinv₁
      have hfilled :=
        hkeep.fill _ _ _ _ _ _ _ _ hinv₁ hcurrent (fillLoop_fills hopen hfill) hbegan
      exact hkeep.process _ _ _ _ _ _ _ rfl hprocess hfilled

/-- **Every act** keeps what its parts keep. -/
theorem KeptByActs.act (hkeep : KeptByActs keep) {stream : ℕ} {w w' : StreamWorld F mode}
    {work : Work} {events : List (CallEvent F mode)} (hinv : StreamInv w)
    (hact : StreamAct stream w work events w') {takes : List Taken} {discards : ℕ}
    (h : keep w takes discards) : keep w' (takes ++ takesOf work.1) (discards + work.2) := by
  cases hact with
  | control hmoves _ =>
    rw [show takesOf (none : Option (Queue × List Arrival)) = [] from rfl, List.append_nil]
    exact hkeep.controlMoves hinv hmoves h
  | stops hmoves hpauses =>
    rw [show takesOf (none : Option (Queue × List Arrival)) = [] from rfl, List.append_nil]
    have hstate := not_running hpauses.1
    exact hkeep.control _ _ _ _ (hinv.moves hmoves.moves) hpauses.move (.inl hstate)
      (hkeep.controlMoves hinv hmoves h)
  | @blocks _ w₁ queue _ _ _ _ _ hmoves hstate hqueue hfill _ =>
    have hinv₁ := hinv.moves hmoves.moves
    have hreleased := hinv₁.moves (Move.release w₁ hstate hqueue).moves
    refine hkeep.fill _ _ _ _ _ _ _ _ hreleased (releaseCurrent_current queue)
      (fillLoop_fills (queue_open hreleased rfl) hfill) ?_
    exact hkeep.release _ _ _ _ hqueue (hkeep.controlMoves hinv hmoves h)
  | reads hread _ => exact hkeep.read hinv hread h

/-- What every act keeps holds of the stream, while its user has it; before it is handed out, it
takes nothing. -/
structure KeptTrace (keep : {mode : SampleFormat} → StreamWorld F mode → List Taken → ℕ → Prop)
    (stream : ℕ) (s : System F mode) (takes : List Taken) (discards : ℕ) : Prop where
  kept : ∀ phase receiver, s.streams[stream]? = some phase →
    ownedReceiver phase = some receiver → keep (s.streamWorld receiver) takes discards
  missing : s.streams[stream]? = none → takes = [] ∧ discards = 0

omit [SampleArithmetic F] in
theorem receiver_of_owned {phase : StreamPhase F mode} {receiver : Receiver F mode}
    (h : ownedReceiver phase = some receiver) : phase.receiver? = some receiver := by
  cases phase with
  | idle _ => exact h
  | operating _ _ _ _ => exact h
  | reading _ _ => exact h
  | awaiting _ _ => exact h
  | cleaning _ _ => exact nomatch h
  | gone => exact nomatch h

omit [SampleArithmetic F] in
/-- A stream that its user has after an act, and before it. -/
theorem Leaves.owned {phase phase' : StreamPhase F mode} {receiver receiver' : Receiver F mode}
    {left : Receiver F mode} (h : Leaves phase left phase') (hreceiver : phase.receiver? = some receiver)
    (howned : ownedReceiver phase' = some receiver') :
    ownedReceiver phase = some receiver ∧ receiver' = left := by
  cases h with
  | kept hleft hboth =>
    obtain ⟨before, hbefore⟩ := Option.isSome_iff_exists.mp (hboth (by rw [howned]; rfl))
    refine ⟨?_, Option.some.inj ((receiver_of_owned howned).symm.trans hleft)⟩
    rw [hbefore, ← receiver_of_owned hbefore, hreceiver]
  | dropped hnone _ => exact nomatch hnone.symm.trans howned

/-- One step of a run. -/
theorem KeptByActs.stepped (hkeep : KeptByActs keep) {config : ValidConfig mode} {stream : ℕ}
    {s s' : System F mode} {events : List (CallEvent F mode)} {work : Work}
    (hs : System.Reachable config s) (hextends : Extends s.wire s'.wire)
    (hstepped : Stepped stream s s' events work) {takes : List Taken} {discards : ℕ}
    (h : KeptTrace keep stream s takes discards) :
    KeptTrace keep stream s' (takes ++ takesOf work.1) (discards + work.2) := by
  cases hstepped with
  | untouched hstream _ =>
    rw [show takesOf (none : Option (Queue × List Arrival)) = [] from rfl, List.append_nil]
    refine ⟨?_, ?_⟩
    · intro phase receiver hphase howned
      rw [hstream] at hphase
      exact hkeep.rely (s.streamWorld receiver) (s'.streamWorld receiver) _ _ rfl hextends
        (h.kept phase receiver hphase howned)
    · rw [hstream]
      exact h.missing
  | added hnone hnew _ =>
    obtain ⟨rfl, rfl⟩ := h.missing hnone
    refine ⟨?_, ?_⟩
    · intro phase receiver hphase howned
      obtain rfl := Option.some.inj (hnew.symm.trans hphase)
      exact hkeep.new _ _ (Option.some.inj howned).symm
    · intro hgone
      exact nomatch hgone.symm.trans hnew
  | @acted _ _ _ _ w' hphase hreceiver hact hphase' hleaves hwire _ =>
    refine ⟨?_, ?_⟩
    · intro phase receiver hphase'' howned
      obtain rfl := Option.some.inj (hphase'.symm.trans hphase'')
      obtain ⟨hbefore, rfl⟩ := hleaves.owned hreceiver howned
      have hinv := (reachable_inv hs).system.streamInv (List.mem_of_getElem? hphase) hreceiver
      have hacted := hkeep.act hinv hact (h.kept _ _ hphase hbefore)
      exact hkeep.rely w' (s'.streamWorld w'.receiver) _ _ rfl hwire hacted
    · intro hgone
      exact nomatch hgone.symm.trans hphase'

/-- **What every act keeps holds in every run**, of the stream and of what it has taken. -/
theorem KeptByActs.traced (hkeep : KeptByActs keep) {config : ValidConfig mode} {stream : ℕ}
    {s : System F mode} {takes : List Taken} {discards : ℕ}
    (h : Traced config stream s takes discards) : KeptTrace keep stream s takes discards := by
  have hinitial : KeptTrace keep stream (System.initial config) [] 0 :=
    ⟨fun _ _ hphase => (nomatch hphase), fun _ => ⟨rfl, rfl⟩⟩
  refine traced_induct hinitial ?_ h
  intro s s' takes discards events work hs _ _ hextends hstepped hkept
  exact hkeep.stepped hs hextends hstepped hkept

/-! ## The fills of acts -/

/-- The queue that a read begins to fill is the one that is filled. -/
theorem readFill_fills {w w' : StreamWorld F .f32Iq} (hinv : StreamInv w) {room : ℕ}
    {arrivals rest : List Arrival} {polled : Option (Result (List (Complex F)))}
    (hread : Receiver.pollRead w room arrivals = .ok (polled, w', rest)) {queue : Queue}
    (hfill : readFill room w = some queue) :
    queue.bulkIn ≠ none ∧ ∃ result queue', Fills queue arrivals result queue' rest := by
  obtain ⟨hbegun, hqueue, hcurrent, hcarried⟩ := readFill_some hfill
  cases pollRead_cases hread with
  | refused hbegin =>
    rw [hbegin] at hbegun
    exact nomatch hbegun
  | begun hbegin hqueue₁ hread =>
    rw [hbegin] at hqueue hcarried
    obtain rfl := Option.some.inj (hqueue.symm.trans hqueue₁)
    have hopen := queue_open (beginRead_inv hinv hbegin) hqueue
    cases hread with
    | noRoom hroom =>
      rw [hroom, readFill_noRoom] at hfill
      exact nomatch hfill
    | held _ hheld _ =>
      rcases hheld with hsome | hsome
      · rw [hcurrent] at hsome
        exact nomatch hsome
      · exact absurd hcarried hsome
    | pending _ _ _ hloop => exact ⟨hopen, _, _, fillLoop_fills hopen hloop⟩
    | rejected _ _ _ hloop => exact ⟨hopen, _, _, fillLoop_fills hopen hloop⟩
    | filled _ _ _ hloop _ => exact ⟨hopen, _, _, fillLoop_fills hopen hloop⟩

/-- **The queue that an act begins to fill** has what every operation on a queue keeps. -/
theorem KeptByQueue.actFill {since : ℕ} {kept : Queue → Prop} (hkeep : KeptByQueue since kept)
    {stream : ℕ} {w w' : StreamWorld F mode} {work : Work} {events : List (CallEvent F mode)}
    (hsince : since ≤ w.wire.opened) (hinv : StreamInv w) (hkept : QueueHas kept w.receiver)
    (hact : StreamAct stream w work events w') {queue : Queue} {arrivals : List Arrival}
    (hwork : work.1 = some (queue, arrivals)) :
    kept queue ∧ queue.current = none ∧ queue.bulkIn ≠ none ∧
      ∃ result queue' rest, Fills queue arrivals result queue' rest := by
  cases hact with
  | control _ _ => exact nomatch hwork
  | stops _ _ => exact nomatch hwork
  | @blocks _ w₁ before _ _ _ _ _ hmoves hstate hqueue hfill _ =>
    cases hwork
    have hreleased := (hinv.moves hmoves.moves).moves (Move.release w₁ hstate hqueue).moves
    have hopen := queue_open hreleased rfl
    exact ⟨hkeep.release before (hkeep.moves hsince hinv hmoves.moves hkept before hqueue),
      releaseCurrent_current before, hopen, _, _, _, fillLoop_fills hopen hfill⟩
  | @reads w _ room _ rest _ _ hread _ =>
    obtain ⟨found, hfound, hpair⟩ := Option.map_eq_some_iff.mp hwork
    cases hpair
    obtain ⟨_, hqueue, hcurrent, _⟩ := readFill_some hfound
    obtain ⟨hopen, result, queue', hfills⟩ := readFill_fills hinv hread hfound
    exact ⟨hkeep.moves hsince hinv (beginRead_moves hinv).1 hkept queue hqueue, hcurrent, hopen,
      result, queue', rest, hfills⟩

/-- The queue that a step of a run begins to fill. -/
theorem KeptByQueue.stepFill {since : ℕ} {kept : Queue → Prop} (hkeep : KeptByQueue since kept)
    {config : ValidConfig mode} {stream : ℕ} {s s' : System F mode}
    {events : List (CallEvent F mode)} {work : Work} (hs : System.Reachable config s)
    (hsince : since ≤ s.wire.opened) (hkept : StreamQueueHas kept s stream)
    (hstepped : Stepped stream s s' events work) {queue : Queue} {arrivals : List Arrival}
    (hwork : work.1 = some (queue, arrivals)) :
    kept queue ∧ queue.current = none ∧ queue.bulkIn ≠ none ∧
      ∃ result queue' rest, Fills queue arrivals result queue' rest := by
  cases hstepped with
  | untouched _ _ => exact nomatch hwork
  | added _ _ _ => exact nomatch hwork
  | acted hphase hreceiver hact _ _ _ _ =>
    have hinv := (reachable_inv hs).system.streamInv (List.mem_of_getElem? hphase) hreceiver
    exact hkeep.actFill hsince hinv (hkept _ _ hphase hreceiver) hact hwork

end HydraSdr.Analysis
