import HydraSdr.Analysis.CompletionPolls

/-!
# Live changes of the packing

Which packing the block of a next-block future comes in, when the packing of the session changes
between the polls of the future.  A future that has not restarted the pipeline looks at the packing
at each poll; one that restarts it takes the packing of the poll in which it began to, and does not
look again.
-/

set_option autoImplicit false

namespace HydraSdr.Analysis.LivePacking

open HydraSdr.Program HydraSdr.Computation HydraSdr.Analysis

variable {F : Type} {mode : SampleFormat}

/-- The queue of a stream, if it has one, is of this packing. -/
abbrev PackedAs (packing : Bool) (receiver : Receiver F mode) : Prop :=
  QueueHas (fun queue => queue.settings.packing = packing) receiver

/-- Nothing but the stream's own operation touches its receiver. -/
def SameReceiver (w w' : StreamWorld F mode) : Prop := w'.receiver = w.receiver

/-- Nothing is asked of the state at a wait. -/
def Anything (_ _ : StreamWorld F mode) : Prop := True

/-- An operation that succeeds leaves a queue of this packing. -/
def Adopted (packing : Bool) (_ : StreamWorld F mode) (result : Result Unit)
    (w : StreamWorld F mode) : Prop :=
  result = .ok () → PackedAs packing w.receiver

theorem sameReceiver_refl (w : StreamWorld F mode) : SameReceiver w w := rfl

theorem sameReceiver_trans (a b c : StreamWorld F mode) (hab : SameReceiver a b)
    (hbc : SameReceiver b c) : SameReceiver a c :=
  Eq.trans hbc hab

/-! ## Filling -/

variable [SampleArithmetic F]

theorem packedAs_afterFill {packing : Bool} {result : Option (Result Unit)} {queue : Queue}
    (hqueue : queue.settings.packing = packing) (w : StreamWorld F mode) :
    PackedAs packing (afterFill result queue w).receiver := by
  match result with
  | none => exact queueHas_some rfl hqueue
  | some (.ok _) => exact queueHas_some rfl hqueue
  | some (.error e) => exact queueHas_none (retireStream_queue _)

/-- The wait for a completion leaves the packing of the queue alone. -/
theorem pollNextBlock_packedAs {packing : Bool} {w w' : StreamWorld F .rawAdc}
    {arrivals rest : List Arrival} {result : Option (Result Unit)}
    (h : Receiver.pollNextBlock w arrivals = .ok (result, w', rest))
    (hpacked : PackedAs packing w.receiver) : PackedAs packing w'.receiver := by
  have hfill := pollNextBlock_fill w
  split at hfill
  · obtain ⟨e, hsame⟩ := hfill
    cases h.symm.trans (hsame arrivals)
    exact hpacked
  · rename_i queue hqueue
    obtain ⟨⟨result', queue', rest'⟩, hloop, hsame⟩ := map_ok ((hfill arrivals).symm.trans h)
    cases hsame
    refine packedAs_afterFill ?_ w
    rw [fillLoop_settings hloop]
    unfold blockFill at hqueue
    split at hqueue
    · obtain ⟨before, hbefore, rfl⟩ := Option.map_eq_some_iff.mp hqueue
      rw [releaseCurrent_settings]
      exact hpacked before hbefore
    · exact nomatch hqueue

/-- What the end of a poll says: the queue keeps its packing, and a block comes from it. -/
theorem fill_packedAs {packing : Bool} {w w' : StreamWorld F .rawAdc}
    {waiting last future : NextBlockFuture F} {arrivals rest : List Arrival}
    {result : Option (Result (Option SampleBlock))}
    (h : NextBlockFuture.fill waiting last w arrivals = .ok (result, future, w', rest))
    (hpacked : PackedAs packing w.receiver) :
    PackedAs packing w'.receiver ∧ (result = none → future = waiting) ∧
      ∀ block, result = some (.ok (some block)) →
        ∃ queue, w'.receiver.queue = some queue ∧ queue.settings.packing = packing := by
  obtain ⟨⟨filled, w₁, rest₁⟩, hpoll, h⟩ := bind_ok h
  have hpacked₁ := pollNextBlock_packedAs hpoll hpacked
  match filled, h with
  | none, h => cases h; exact ⟨hpacked₁, fun _ => rfl, fun _ h => nomatch h⟩
  | some (.error e), h => cases h; exact ⟨hpacked₁, (nomatch ·), fun _ h => nomatch h⟩
  | some (.ok _), h =>
    obtain ⟨current, hcurrent, h⟩ := bind_ok h
    cases h
    refine ⟨hpacked₁, (nomatch ·), fun block hblock => ?_⟩
    obtain ⟨_, rfl, _⟩ := map_ok (Option.some.inj hblock)
    unfold Receiver.currentBlock at hcurrent
    split at hcurrent
    · exact nomatch Except.ok.inj hcurrent
    · rename_i queue hqueue
      exact ⟨queue, hqueue, hpacked₁ queue hqueue⟩

/-- Only a stream with a queue waits for a completion. -/
theorem queue_of_pending {w w' : StreamWorld F .rawAdc} {waiting last future : NextBlockFuture F}
    {arrivals rest : List Arrival}
    (h : NextBlockFuture.fill waiting last w arrivals = .ok (none, future, w', rest)) :
    ∃ queue, w.receiver.queue = some queue := by
  obtain ⟨⟨filled, w₁, rest₁⟩, hpoll, h⟩ := bind_ok h
  cases hqueue : w.receiver.queue with
  | some queue => exact ⟨queue, rfl⟩
  | none =>
    have hfill := pollNextBlock_fill w
    have hnone : blockFill w = none := by
      unfold blockFill
      rw [hqueue]
      split <;> rfl
    rw [hnone] at hfill
    obtain ⟨e, hsame⟩ := hfill
    cases hpoll.symm.trans (hsame arrivals)
    exact nomatch h

/-! ## Restarting -/

omit [SampleArithmetic F] in
/-- The receiver is the same when the reply to a transfer arrives. -/
theorem safe_transfer {transfer : Transfer}
    {post : StreamWorld F mode → transfer.Reply → StreamWorld F mode → Prop}
    {start w : StreamWorld F mode}
    (hnext : ∀ start' w' reply, w'.receiver = w.receiver → post start' reply w') :
    OperationSafe StreamWorld.port SameReceiver Anything post
      (.leaf transfer : Operation (StreamWorld F mode) transfer.Reply) start w :=
  safe_leaf.mpr ⟨trivial, fun _ hsame reply => hnext _ _ reply hsame⟩

omit [SampleArithmetic F] in
theorem safe_controlOut {request : OutRequest}
    {post : StreamWorld F mode → Result Unit → StreamWorld F mode → Prop}
    {start w : StreamWorld F mode}
    (hnext : ∀ start' w' reply, w'.receiver = w.receiver → post start' reply w') :
    OperationSafe StreamWorld.port SameReceiver Anything post (controlOut request) start w :=
  @safe_transfer F mode (.controlOut request) post start w hnext

omit [SampleArithmetic F] in
/-- Submitting the buffers of the queue of a restart. -/
theorem initializeQueue_packedAs {packing : Bool} {start w : StreamWorld F mode}
    (hpacked : PackedAs packing w.receiver) :
    OperationSafe StreamWorld.port SameReceiver Anything (Adopted packing)
      (Receiver.initializeQueue w).2 start (Receiver.initializeQueue w).1 := by
  unfold Receiver.initializeQueue
  split
  · exact safe_ready.mpr (nomatch ·)
  · split
    · exact safe_ready.mpr (nomatch ·)
    · refine safe_map.mpr (safe_transfer fun start' w' reply hsame => ?_)
      have hpacked' : PackedAs packing w'.receiver := by
        rw [hsame]
        exact hpacked
      cases reply with
      | error e => exact (nomatch ·)
      | ok value =>
        intro _
        cases hqueue : w'.receiver.queue with
        | none => exact queueHas_none hqueue
        | some queue =>
          dsimp only
          cases hsubmit : queue.submitBuffers with
          | error panic => exact hpacked'
          | ok queue' =>
            refine queueHas_some rfl ?_
            have hsettings : queue'.settings = queue.settings := by
              unfold Queue.submitBuffers at hsubmit
              split at hsubmit
              · exact Except.ok.inj hsubmit ▸ rfl
              · exact nomatch hsubmit
              · exact Except.ok.inj hsubmit ▸ rfl
            rw [hsettings]
            exact hpacked' queue hqueue

/-- **A restart of the pipeline adopts the packing it found when it began**, whatever becomes of the
packing while it waits. -/
theorem startPipeline_packedAs (start w : StreamWorld F mode) :
    OperationSafe StreamWorld.port SameReceiver Anything (Adopted w.session.receive.packing)
      (Receiver.startPipeline true w).2 start (Receiver.startPipeline true w).1 := by
  generalize (Receiver.startPipeline true w).1 = w₁
  generalize hpacking : w.session.receive.packing = packing
  -- the commands, up to an error
  have hrun : OperationSafe StreamWorld.port SameReceiver Anything (Adopted packing)
      ((.left (controlOut (.receiverMode .off)) :
        Operation (StreamWorld F mode) (Result Unit)).andThen fun _ w₂ =>
        (w₂, (Receiver.prepareQueue w.session.receive).andThen fun _ w₃ =>
          (w₃, (controlOut (.receiverMode .rx)).andThen fun _ w₄ =>
            ((Receiver.initializeQueue w₄).1, .left (Receiver.initializeQueue w₄).2)))) start w₁ := by
    refine safe_andThen.mpr (safe_left.mpr
      (safe_controlOut fun start₂ w₂ reply _ => ?_))
    cases reply with
    | error e => exact (nomatch ·)
    | ok value =>
      refine safe_andThen.mpr (safe_map.mpr (safe_transfer fun start₃ w₃ reply _ => ?_))
      cases reply with
      | error e => exact (nomatch ·)
      | ok value =>
        refine safe_andThen.mpr (safe_controlOut fun start₄ w₄ reply hsame => ?_)
        cases reply with
        | error e => exact (nomatch ·)
        | ok value =>
          refine safe_left.mpr (initializeQueue_packedAs ?_)
          rw [hsame]
          exact queueHas_some rfl hpacking
  refine safe_continueWith.mpr (hrun.mono fun start₂ result w₂ hadopted => ?_)
  cases result with
  | ok value => exact safe_left.mpr (safe_ready.mpr fun _ => hadopted rfl)
  | error e =>
    exact safe_right.mpr (safe_map.mpr (safe_controlOut fun _ _ _ _ h => nomatch h))

/-- `refresh_packing` adopts the packing in force when it is polled first. -/
theorem refreshPacking_packedAs (w : StreamWorld F .rawAdc) :
    OperationSafe StreamWorld.port SameReceiver Anything (Adopted w.session.receive.packing)
      (Receiver.refreshPacking w) w w := by
  refine safe_andThen.mpr (safe_ready.mpr ?_)
  cases w.receiver.ensureRunning with
  | error e => exact (nomatch ·)
  | ok value =>
    dsimp only [AfterOk]
    by_cases hchanged : Receiver.packingChanged w = true
    · rw [if_pos hchanged]
      exact safe_left.mpr (startPipeline_packedAs w
        (w.onReceiver (Receiver.setState .cleanupRequired)))
    · rw [if_neg hchanged]
      refine safe_right.mpr (safe_ready.mpr fun _ queue hqueue => ?_)
      unfold Receiver.packingChanged at hchanged
      rw [hqueue] at hchanged
      simpa using hchanged

/-! ## The polls of a future -/

/-- A restart in flight adopts this packing. -/
abbrev RestartAdopts (packing : Bool) (flight : StreamFlight F .rawAdc (Result Unit))
    (w : StreamWorld F .rawAdc) : Prop :=
  FlightSafe StreamWorld.port SameReceiver Anything (Adopted packing) flight w

/-- A future that restarts the pipeline, or has restarted it, has adopted this packing. -/
def Restarts (packing : Bool) (w : StreamWorld F .rawAdc) : NextBlockFuture F → Prop
  | .restarting progress => RestartAdopts packing (.polled progress) w
  | .filling => PackedAs packing w.receiver
  | _ => False

/-- The packings that a future has seen at its polls, and what they say of its queue: those of a
direct future were all the queue's own, one that restarts has adopted another. -/
def Adopts (original : Bool) (seen : List Bool) (w : StreamWorld F .rawAdc) :
    NextBlockFuture F → Prop
  | .direct => (∀ packing ∈ seen, packing = original) ∧ PackedAs original w.receiver
  | .completed => True
  | .returned => True
  | future => ∃ packing ∈ seen, packing ≠ original ∧ Restarts packing w future

omit [SampleArithmetic F] in
/-- Others may act between two polls. -/
theorem Adopts.rely {original : Bool} {seen : List Bool} {w w' : StreamWorld F .rawAdc}
    {future : NextBlockFuture F} (h : Adopts original seen w future) (hsame : SameReceiver w w') :
    Adopts original seen w' future := by
  have hpacked : ∀ packing, PackedAs packing w.receiver → PackedAs packing w'.receiver := by
    intro packing hpacked
    rw [show w'.receiver = w.receiver from hsame]
    exact hpacked
  cases future with
  | direct => exact ⟨h.1, hpacked original h.2⟩
  | restarting progress =>
    obtain ⟨packing, hmem, hne, hwaits⟩ := h
    have hflight : RestartAdopts packing (.polled progress) w := hwaits
    exact ⟨packing, hmem, hne, FlightSafe.mono_rely sameReceiver_trans hflight hsame⟩
  | filling =>
    obtain ⟨packing, hmem, hne, hpacked'⟩ := h
    exact ⟨packing, hmem, hne, hpacked packing hpacked'⟩
  | completed => trivial
  | returned => trivial

/-- The future has returned a block from a queue of this packing. -/
def Delivers (packing : Bool) (w' : StreamWorld F .rawAdc)
    (result : Option (Result (Option SampleBlock))) : Prop :=
  ∀ block, result = some (.ok (some block)) →
    ∃ queue, w'.receiver.queue = some queue ∧ queue.settings.packing = packing

/-- A restart that goes on in a poll. -/
theorem restart_restarts {packing : Bool} {w w' : StreamWorld F .rawAdc}
    {future' : NextBlockFuture F} {arrivals rest : List Arrival}
    {outcome : StreamProgress F .rawAdc (Result Unit) × StreamWorld F .rawAdc}
    {result : Option (Result (Option SampleBlock))}
    (hsegment : Segment StreamWorld.port SameReceiver Anything (Adopted packing) w outcome)
    (h : NextBlockFuture.restart outcome.1 outcome.2 arrivals = .ok (result, future', w', rest)) :
    (result = none → Restarts packing w' future') ∧ Delivers packing w' result := by
  obtain ⟨progress, w₁⟩ := outcome
  match progress, hsegment, h with
  | .waiting ticket request next, hsegment, h =>
    cases h
    exact ⟨fun _ => hsegment.2, fun _ h => nomatch h⟩
  | .finished (.error e), hsegment, h =>
    cases h
    exact ⟨(nomatch ·), fun _ h => nomatch h⟩
  | .finished (.ok _), hsegment, h =>
    obtain ⟨hpacked, hwaiting, hblock⟩ := fill_packedAs h (hsegment rfl)
    exact ⟨fun hpending => hwaiting hpending ▸ hpacked, hblock⟩

omit [SampleArithmetic F] in
/-- A segment of a restart, and those that follow it within one poll. -/
theorem segment_resumeAll {packing : Bool} {w : StreamWorld F .rawAdc}
    {outcome : StreamProgress F .rawAdc (Result Unit) × StreamWorld F .rawAdc}
    (h : Segment StreamWorld.port SameReceiver Anything (Adopted packing) w outcome)
    (replies : List AnyReply) :
    Segment StreamWorld.port SameReceiver Anything (Adopted packing) w
      (outcome.1.resumeAll StreamWorld.port replies outcome.2) :=
  h.resumeAll sameReceiver_refl (fun _ _ _ _ _ => trivial) (fun _ _ _ _ _ h => h) replies

/-- Between two packings there is no third. -/
theorem eq_of_ne_of_ne {original first second : Bool} (hfirst : first ≠ original)
    (hsecond : second ≠ original) : first = second := by
  revert hfirst hsecond
  cases original <;> cases first <;> cases second <;> simp

/-- What a poll of a future leads to: it is pending and goes on, or it returns a block, which is of
the packing in force unless the future has adopted a packing that is no longer in force. -/
structure PollAdopts (original : Bool) (seen : List Bool) (w w' : StreamWorld F .rawAdc)
    (future' : NextBlockFuture F) (result : Option (Result (Option SampleBlock))) : Prop where
  pending : result = none → Adopts original (seen ++ [w.session.receive.packing]) w' future'
  block : ∀ block, result = some (.ok (some block)) → ∃ queue, w'.receiver.queue = some queue ∧
    (queue.settings.packing = w.session.receive.packing ↔
      ∀ packing ∈ seen, packing ≠ original → w.session.receive.packing = packing)

omit [SampleArithmetic F] in
theorem adopts_of_restarts {original packing : Bool} {seen : List Bool} {w : StreamWorld F .rawAdc}
    {future : NextBlockFuture F} (hmem : packing ∈ seen) (hne : packing ≠ original)
    (h : Restarts packing w future) : Adopts original seen w future := by
  cases future with
  | direct => exact absurd h id
  | completed => trivial
  | returned => trivial
  | restarting progress => exact ⟨packing, hmem, hne, h⟩
  | filling => exact ⟨packing, hmem, hne, h⟩

omit [SampleArithmetic F] in
/-- A future that has adopted another packing in an earlier poll. -/
theorem pollAdopts_adopted {original packing : Bool} {seen : List Bool}
    {w w' : StreamWorld F .rawAdc} {future' : NextBlockFuture F}
    {result : Option (Result (Option SampleBlock))} (hmem : packing ∈ seen)
    (hne : packing ≠ original) (hrestarts : result = none → Restarts packing w' future')
    (hdelivers : Delivers packing w' result) :
    PollAdopts original seen w w' future' result := by
  refine ⟨fun hpending => ?_, fun block hblock => ?_⟩
  · exact adopts_of_restarts (List.mem_append_left _ hmem) hne (hrestarts hpending)
  · obtain ⟨queue, hqueue, hpacking⟩ := hdelivers block hblock
    refine ⟨queue, hqueue, ?_⟩
    rw [hpacking]
    refine ⟨fun hforce other _ hother => ?_, fun hseen => (hseen packing hmem hne).symm⟩
    rw [← hforce]
    exact eq_of_ne_of_ne hne hother

omit [SampleArithmetic F] in
/-- A future that has seen only the queue's packing in its earlier polls, and delivers in the one
now in force. -/
theorem pollAdopts_direct {original : Bool} {seen : List Bool} {w w' : StreamWorld F .rawAdc}
    {future' : NextBlockFuture F} {result : Option (Result (Option SampleBlock))}
    (hseen : ∀ packing ∈ seen, packing = original)
    (hpending : result = none → Adopts original (seen ++ [w.session.receive.packing]) w' future')
    (hdelivers : Delivers w.session.receive.packing w' result) :
    PollAdopts original seen w w' future' result := by
  refine ⟨hpending, fun block hblock => ?_⟩
  obtain ⟨queue, hqueue, hpacking⟩ := hdelivers block hblock
  exact ⟨queue, hqueue, fun _ other hmem hne => absurd (hseen other hmem) hne, fun _ => hpacking⟩

/-- **A poll of a future** keeps what its earlier polls have seen. -/
theorem poll_adopts {original : Bool} {seen : List Bool} {w w' : StreamWorld F .rawAdc}
    {future future' : NextBlockFuture F} {replies : List AnyReply} {arrivals rest : List Arrival}
    {result : Option (Result (Option SampleBlock))} (h : Adopts original seen w future)
    (hpoll : future.poll w replies arrivals = .ok (result, future', w', rest)) :
    PollAdopts original seen w w' future' result := by
  cases future with
  | direct =>
    obtain ⟨hseen, hpacked⟩ := h
    unfold NextBlockFuture.poll at hpoll
    dsimp only at hpoll
    split at hpoll
    · rename_i hchanged
      -- the restart adopts the packing that this poll sees
      obtain ⟨hrestarts, hdelivers⟩ := restart_restarts
        (segment_resumeAll (Safe.advance (refreshPacking_packedAs w)) replies) hpoll
      refine pollAdopts_direct hseen (fun hpending => ?_) hdelivers
      have hne : w.session.receive.packing ≠ original := by
        unfold Receiver.packingChanged at hchanged
        split at hchanged
        · exact nomatch hchanged
        · rename_i queue hqueue
          rw [hpacked queue hqueue] at hchanged
          exact (bne_iff_ne.mp hchanged).symm
      exact adopts_of_restarts (List.mem_append_right seen (List.mem_singleton.mpr rfl)) hne
        (hrestarts hpending)
    · rename_i hunchanged
      have hforce : PackedAs w.session.receive.packing w.receiver := by
        intro queue hqueue
        unfold Receiver.packingChanged at hunchanged
        rw [hqueue] at hunchanged
        simpa using hunchanged
      refine pollAdopts_direct hseen (fun hpending => ?_) (fill_packedAs hpoll hforce).2.2
      obtain ⟨hpacked', hwaiting, _⟩ := fill_packedAs hpoll hpacked
      obtain ⟨queue, hqueue⟩ := queue_of_pending (hpending ▸ hpoll)
      rw [hwaiting hpending]
      refine ⟨fun packing hmem => ?_, hpacked'⟩
      rcases List.mem_append.mp hmem with hmem | hmem
      · exact hseen packing hmem
      · rw [List.mem_singleton.mp hmem]
        exact (hforce queue hqueue).symm.trans (hpacked queue hqueue)
  | restarting progress =>
    obtain ⟨packing, hmem, hne, hwaits⟩ := h
    have hflight : RestartAdopts packing (.polled progress) w := hwaits
    obtain ⟨hrestarts, hdelivers⟩ := restart_restarts
      (FlightSafe.poll sameReceiver_refl (fun _ => trivial) (fun _ _ _ _ _ => trivial)
        (fun _ _ _ _ _ h => h) hflight replies) hpoll
    exact pollAdopts_adopted hmem hne hrestarts hdelivers
  | filling =>
    obtain ⟨packing, hmem, hne, hpacked⟩ := h
    obtain ⟨hpacked', hwaiting, hblock⟩ := fill_packedAs hpoll hpacked
    exact pollAdopts_adopted hmem hne (fun hpending => hwaiting hpending ▸ hpacked') hblock
  | completed => exact nomatch hpoll
  | returned => exact nomatch hpoll

/-! ## Runs -/

/-- A run of the driver during which a next-block future of a stream is polled and stays pending,
with the packing in force at each of its polls, oldest first.  Between its polls anything may happen
that leaves the stream alone. -/
inductive PendingRun (stream : ℕ) (start : System F .rawAdc) : List Bool → System F .rawAdc → Prop
  | begun : PendingRun stream start [] start
  | other {seen : List Bool} {s : System F .rawAdc} (action : Action .rawAdc) (reply : ℕ → AnyReply)
      (h : PendingRun stream start seen s)
      (hother : ∀ replies arrivals, action ≠ .pollStream stream replies arrivals)
      (hsame : (s.step action reply).streams[stream]? = s.streams[stream]?) :
      PendingRun stream start seen (s.step action reply)
  | poll {seen : List Bool} {s : System F .rawAdc} (replies : List AnyReply)
      (arrivals : List Arrival) (reply : ℕ → AnyReply) (h : PendingRun stream start seen s)
      (hpending : (s.step (.pollStream stream replies arrivals) reply).history = s.history) :
      PendingRun stream start (seen ++ [s.session.receive.packing])
        (s.step (.pollStream stream replies arrivals) reply)

/-- The future of a stream has adopted what its polls have seen, unless nothing happens any more. -/
def StreamAdopts (stream : ℕ) (original : Bool) (seen : List Bool) (s : System F .rawAdc) : Prop :=
  ∃ receiver future, s.streams[stream]? = some (.reading receiver future) ∧
    (s.panic = none → s.ended = false → Adopts original seen (s.streamWorld receiver) future)

/-- **A pending run keeps what the polls of the future have seen.** -/
theorem pendingRun_adopts {stream : ℕ} {start s : System F .rawAdc} {seen : List Bool}
    {original : Bool} (hstart : StreamAdopts stream original [] start)
    (hrun : PendingRun stream start seen s) : StreamAdopts stream original seen s := by
  induction hrun with
  | begun => exact hstart
  | @other seen s action reply _ _ hsame ih =>
    obtain ⟨receiver, future, hphase, hadopts⟩ := ih
    refine ⟨receiver, future, hsame.trans hphase, fun hpanic hended => ?_⟩
    by_cases hgoes : s.panic = none ∧ s.ended = false
    · exact (hadopts hgoes.1 hgoes.2).rely (sameReceiver_refl _)
    · rw [step_of_over hgoes] at hpanic hended
      exact absurd ⟨hpanic, hended⟩ hgoes
  | @poll seen s replies arrivals reply _ hpending ih =>
    obtain ⟨receiver, future, hphase, hadopts⟩ := ih
    obtain ⟨hlt, _⟩ := List.getElem?_eq_some_iff.mp hphase
    by_cases hgoes : s.panic = none ∧ s.ended = false
    · obtain ⟨hstreams, hhistory, hpanic'⟩ :=
        step_streams hgoes.1 hgoes.2 (.pollStream stream replies arrivals) reply
      rw [act_pollStream hphase] at hstreams hhistory hpanic'
      cases hpoll : future.poll (s.streamWorld receiver) replies arrivals with
      | error panic =>
        rw [hpoll] at hstreams hpanic'
        refine ⟨receiver, future, ?_, fun hpanic => ?_⟩
        · rw [hstreams]
          exact List.getElem?_set_self hlt
        · rw [hpanic] at hpanic'
          exact nomatch hpanic'.trans (show s.panic.or (some panic) = some panic by rw [hgoes.1]; rfl)
      | ok outcome =>
        obtain ⟨result, future', w', rest⟩ := outcome
        rw [hpoll] at hstreams hhistory hpanic'
        cases result with
        | some result =>
          rw [hpending] at hhistory
          exact absurd hhistory (by simp [System.putStream, StreamStep.ofChecked, Except.map,
            StreamPhase.pollNextBlock, StreamStep.of])
        | none =>
          refine ⟨w'.receiver, future', ?_, fun _ _ => ?_⟩
          · rw [hstreams]
            exact List.getElem?_set_self hlt
          · exact ((poll_adopts (hadopts hgoes.1 hgoes.2) hpoll).pending rfl).rely rfl
    · rw [step_of_over hgoes]
      exact ⟨receiver, future, hphase, fun hpanic hended => absurd ⟨hpanic, hended⟩ hgoes⟩

/-- The last poll of a run, when it returns a block. -/
theorem stream_block {stream : ℕ} {original : Bool} {seen : List Bool} {s : System F .rawAdc}
    (hadopts : StreamAdopts stream original seen s) {replies : List AnyReply}
    {arrivals : List Arrival} {reply : ℕ → AnyReply} {block : SampleBlock} {queue : Option Queue}
    (hblock : (s.step (.pollStream stream replies arrivals) reply).history =
      s.history ++ [.block stream (.ok (some block)) queue]) :
    ∃ delivering, queue = some delivering ∧
      (delivering.settings.packing = s.session.receive.packing ↔
        ∀ packing ∈ seen, packing ≠ original → s.session.receive.packing = packing) := by
  obtain ⟨receiver, future, hphase, hadopts⟩ := hadopts
  have hgoes : s.panic = none ∧ s.ended = false := by
    by_contra hover
    rw [step_of_over hover] at hblock
    exact absurd hblock (by simp)
  obtain ⟨_, hhistory, _⟩ :=
    step_streams hgoes.1 hgoes.2 (.pollStream stream replies arrivals) reply
  rw [act_pollStream hphase, hblock] at hhistory
  cases hpoll : future.poll (s.streamWorld receiver) replies arrivals with
  | error panic =>
    rw [hpoll] at hhistory
    exact absurd hhistory (by simp [System.putStream, StreamStep.ofChecked, Except.map, StreamStep.of])
  | ok outcome =>
    obtain ⟨result, future', w', rest⟩ := outcome
    rw [hpoll] at hhistory
    have hevents := List.append_cancel_left hhistory
    cases result with
    | none => exact nomatch hevents
    | some result =>
      injection hevents with hevent _
      injection hevent with _ hresult hqueue
      obtain ⟨delivering, hdelivering, hpacking⟩ :=
        (poll_adopts (hadopts hgoes.1 hgoes.2) hpoll).block block (congrArg some hresult.symm)
      exact ⟨delivering, hqueue.trans hdelivering, hpacking⟩

/-- **The packing of a block that a next-block future returns** is the one in force at the poll that
returns it, if and only if no earlier poll of the future has seen a packing that was not the
queue's and is not in force any more. -/
theorem block_packing_iff {config : ValidConfig .rawAdc} {start s : System F .rawAdc}
    (h : System.Reachable config start) {stream : ℕ} {receiver : Receiver F .rawAdc}
    (hstart : start.streams[stream]? = some (.reading receiver .direct))
    (hrunning : receiver.claim.receiver = .running) {seen : List Bool}
    (hrun : PendingRun stream start seen s) {replies : List AnyReply} {arrivals : List Arrival}
    {reply : ℕ → AnyReply} {block : SampleBlock} {queue : Option Queue}
    (hblock : (s.step (.pollStream stream replies arrivals) reply).history =
      s.history ++ [.block stream (.ok (some block)) queue]) :
    ∃ original delivering, receiver.queue = some original ∧ queue = some delivering ∧
      (delivering.settings.packing = s.session.receive.packing ↔
        ∀ packing ∈ seen, packing ≠ original.settings.packing →
          s.session.receive.packing = packing) := by
  have hinv := (reachable_inv h).system.streamInv (List.mem_of_getElem? hstart) rfl
  obtain ⟨original, horiginal, _⟩ := (hinv.running hrunning).2
  have hadopts : StreamAdopts stream original.settings.packing [] start :=
    ⟨receiver, .direct, hstart, fun _ _ =>
      ⟨fun _ hmem => absurd hmem List.not_mem_nil, queueHas_some horiginal rfl⟩⟩
  obtain ⟨delivering, hdelivering, hpacking⟩ :=
    stream_block (pendingRun_adopts hadopts hrun) hblock
  exact ⟨original, delivering, horiginal, hdelivering, hpacking⟩

/-- Every block that a next-block future returns is of the packing in force at that poll. -/
def AlwaysLive (F : Type) [SampleArithmetic F] : Prop :=
  ∀ (config : ValidConfig .rawAdc) (start s : System F .rawAdc), System.Reachable config start →
    ∀ (stream : ℕ) (receiver : Receiver F .rawAdc),
      start.streams[stream]? = some (.reading receiver .direct) →
      receiver.claim.receiver = .running → ∀ seen, PendingRun stream start seen s →
      ∀ replies arrivals reply block queue,
        (s.step (.pollStream stream replies arrivals) reply).history =
          s.history ++ [.block stream (.ok (some block)) queue] →
        ∃ delivering, queue = some delivering ∧
          delivering.settings.packing = s.session.receive.packing

/-! ## A change that lands during a restart -/

/-- A running stream with an unpacked queue, whose packing is switched on, and a future that has
not been polled. -/
def unpolledRead : System Rat .rawAdc :=
  System.after (ValidConfig.standard .rawAdc) (fun _ => obliging)
    [.pollDevice (List.replicate 16 obliging), .rxStream, .callStream 0 .start,
      .pollStream 0 (List.replicate 4 obliging) [], .callDevice (.setPacking true),
      .pollDevice [obliging], .nextBlock 0]

/-- The future has begun to restart the pipeline with packing. -/
def restartingRead : System Rat .rawAdc := unpolledRead.step (.pollStream 0 [] []) fun _ => obliging

/-- The packing has been switched off again. -/
def switchedRead : System Rat .rawAdc :=
  (restartingRead.step (.callDevice (.setPacking false)) fun _ => obliging).step
    (.pollDevice [obliging]) fun _ => obliging

/-- Whether a phase is that of a running stream with an unpacked queue and an unpolled future. -/
def readsUnpacked : StreamPhase Rat .rawAdc → Bool
  | .reading receiver .direct => receiver.claim.receiver = .running ∧
      (receiver.queue.map fun queue => queue.settings.packing) = some false
  | _ => false

/-- Whether a poll of a reading phase fills a packed queue that delivers. -/
def fillsPacked (replies : List AnyReply) (s : System Rat .rawAdc) : StreamPhase Rat .rawAdc → Bool
  | .reading receiver future => (futureFill future replies (s.streamWorld receiver)).any fun queue =>
      Delivering queue ∧ queue.settings.packing = true
  | _ => false

theorem unpolledRead_reachable :
    System.Reachable (ValidConfig.standard .rawAdc) unpolledRead := System.reachable_after _ _ _

/-- The future is polled once before the packing is switched off. -/
theorem switchedRead_pending : PendingRun 0 unpolledRead [true] switchedRead := by
  have hrestarting : PendingRun 0 unpolledRead [true] restartingRead := by
    have hhistory := history_of_length (reachable_inv unpolledRead_reachable).system
      (Option.isNone_iff_eq_none.mp (by decide +kernel)) (by decide +kernel) (.pollStream 0 [] [])
      (fun _ => obliging) (by decide +kernel)
    have hrun := PendingRun.begun.poll [] [] (fun _ => obliging) hhistory
    rwa [show unpolledRead.session.receive.packing = true by decide +kernel] at hrun
  have hcalled := hrestarting.other (.callDevice (.setPacking false)) (fun _ => obliging)
    (fun _ _ h => nomatch h) (congrArg (·[0]?) (step_keeps_streams (callDevice_streams _ _) _))
  exact hcalled.other (.pollDevice [obliging]) (fun _ => obliging) (fun _ _ h => nomatch h)
    (congrArg (·[0]?) (step_keeps_streams (pollDevice_streams _ _) _))

/-- The block that the future then returns is packed. -/
theorem switchedRead_block :
    ∃ block delivering, (switchedRead.step (.pollStream 0 (List.replicate 4 obliging)
        [fullTransfer true]) fun _ => obliging).history =
      switchedRead.history ++ [.block 0 (.ok (some block)) (some delivering)] ∧
      delivering.settings.packing = true := by
  have hphases : (switchedRead.streams[0]?).any
      (fillsPacked (List.replicate 4 obliging) switchedRead) = true := by decide +kernel
  obtain ⟨phase, hphase, hfills⟩ := (Option.any_eq_true _ _).mp hphases
  unfold fillsPacked at hfills
  split at hfills
  · rename_i receiver future
    obtain ⟨queue, hqueue, hdelivering⟩ := (Option.any_eq_true _ _).mp hfills
    obtain ⟨hdelivering, hpacked⟩ := of_decide_eq_true hdelivering
    obtain ⟨block, delivering, hhistory, hsettings⟩ := step_fullTransfer
      (Option.isNone_iff_eq_none.mp (show switchedRead.panic.isNone = true by decide +kernel))
      (show switchedRead.ended = false by decide +kernel) hphase hqueue hdelivering
      fun _ => obliging
    rw [hpacked] at hhistory
    exact ⟨block, delivering, hhistory, by rw [hsettings]; exact hpacked⟩
  · exact nomatch hfills

/-- **A change that lands while the future restarts is not adopted**: the packing is switched on,
the future begins to restart the pipeline, the packing is switched off again, and the block that the
future returns is packed. -/
theorem change_during_restart : ¬AlwaysLive Rat := by
  intro halways
  obtain ⟨block, queue, hblock, hpacked⟩ := switchedRead_block
  have hphases : (unpolledRead.streams[0]?).any readsUnpacked = true := by decide +kernel
  obtain ⟨phase, hphase, hreads⟩ := (Option.any_eq_true _ _).mp hphases
  unfold readsUnpacked at hreads
  split at hreads
  · rename_i receiver
    obtain ⟨hrunning, _⟩ := of_decide_eq_true hreads
    obtain ⟨delivering, hsame, hforce⟩ := halways _ _ _ unpolledRead_reachable 0 receiver hphase
      hrunning _ switchedRead_pending _ _ _ block _ hblock
    obtain rfl := Option.some.inj hsame
    rw [hpacked, show switchedRead.session.receive.packing = false by decide +kernel] at hforce
    exact nomatch hforce
  · exact nomatch hreads

/-- The condition and its failure, in that run. -/
theorem switchedRead_packing_iff :
    ∃ original delivering : Queue, original.settings.packing = false ∧
      (delivering.settings.packing = switchedRead.session.receive.packing ↔
        ∀ packing ∈ [true], packing ≠ original.settings.packing →
          switchedRead.session.receive.packing = packing) := by
  obtain ⟨block, queue, hblock, _⟩ := switchedRead_block
  have hphases : (unpolledRead.streams[0]?).any readsUnpacked = true := by decide +kernel
  obtain ⟨phase, hphase, hreads⟩ := (Option.any_eq_true _ _).mp hphases
  unfold readsUnpacked at hreads
  split at hreads
  · rename_i receiver
    obtain ⟨hrunning, hunpacked⟩ := of_decide_eq_true hreads
    obtain ⟨original, delivering, horiginal, _, hpacking⟩ :=
      block_packing_iff unpolledRead_reachable hphase hrunning switchedRead_pending hblock
    rw [horiginal] at hunpacked
    exact ⟨original, delivering, Option.some.inj hunpacked, hpacking⟩
  · exact nomatch hreads

end HydraSdr.Analysis.LivePacking
