import HydraSdr.Analysis.BlockDelivery

/-!
# Restarts never expose stale data

A stop and a restart that keep the queue cut its transfers off: whatever is returned or reported
afterwards, by whichever reads, further restarts and failed attempts, comes from transfers submitted
later.
-/

set_option autoImplicit false

namespace HydraSdr.Analysis.RestartFreshness

open HydraSdr.Program HydraSdr.Computation HydraSdr.Analysis HydraSdr.Analysis.BlockDelivery

variable {F : Type} {mode : SampleFormat}

/-! ## Submissions after a state -/

/-- A stream, or what is left of it, has this queue on this endpoint. -/
def HasQueue (s : System F mode) (stream : ℕ) (queue : Queue) (bulkIn : BulkIn) : Prop :=
  ∃ phase receiver, s.streams[stream]? = some phase ∧ phase.receiver? = some receiver ∧
    receiver.queue = some queue ∧ queue.bulkIn = some bulkIn

/-- In this state a transfer of the stream has not been submitted yet: its endpoint has not been
opened, or is the stream's and has seen fewer submissions. -/
def SubmittedAfter (s : System F mode) (stream endpoint number : ℕ) : Prop :=
  s.wire.opened < endpoint ∨ ∃ queue bulkIn, HasQueue s stream queue bulkIn ∧
    bulkIn.id = endpoint ∧ bulkIn.submitted ≤ number

theorem SubmittedAfter.mono {s : System F mode} {stream endpoint number number' : ℕ}
    (h : SubmittedAfter s stream endpoint number) (hle : number ≤ number') :
    SubmittedAfter s stream endpoint number' := by
  rcases h with hopened | ⟨queue, bulkIn, hqueue, hid, hsubmitted⟩
  · exact .inl hopened
  · exact .inr ⟨queue, bulkIn, hqueue, hid, hsubmitted.trans hle⟩

/-- The transfers of a queue that have not been cancelled were submitted after the state. -/
def CutAfter (s : System F mode) (stream : ℕ) (queue : Queue) : Prop :=
  Stamped queue ∧ ∀ bulkIn, queue.bulkIn = some bulkIn →
    SubmittedAfter s stream bulkIn.id bulkIn.cancelled

/-- **Every operation on a queue keeps it cut off**: a pause only cancels more. -/
theorem keptByQueue_cutAfter (s : System F mode) (stream : ℕ) :
    KeptByQueue s.wire.opened (CutAfter s stream) where
  opened id settings hnew := by
    refine ⟨(keptByQueue_stamped _).opened id settings hnew, ?_⟩
    intro bulkIn hbulk
    obtain rfl := Option.some.inj hbulk
    exact .inl hnew
  submit queue bulkIn hbulk hinitialized h := by
    refine ⟨(keptByQueue_stamped s.wire.opened).submit queue bulkIn hbulk hinitialized h.1, ?_⟩
    intro bulkIn' hbulk'
    obtain rfl := Option.some.inj hbulk'
    rw [foldl_submit_id, foldl_submit_cancelled]
    exact h.2 bulkIn hbulk
  release queue h := by
    refine ⟨(keptByQueue_stamped s.wire.opened).release queue h.1, ?_⟩
    intro bulkIn' hbulk'
    rcases releaseCurrent_cases queue with ⟨buffer, bulkIn, _, hbulk, heq⟩ | ⟨_, heq⟩
    · rw [heq] at hbulk'
      obtain rfl := Option.some.inj hbulk'
      exact h.2 bulkIn hbulk
    · rw [heq] at hbulk'
      exact h.2 bulkIn' hbulk'
  pause queue bulkIn hbulk hcurrent h := by
    refine ⟨(keptByQueue_stamped s.wire.opened).pause queue bulkIn hbulk hcurrent h.1, ?_⟩
    intro bulkIn' hbulk'
    obtain rfl := Option.some.inj hbulk'
    exact (h.2 bulkIn hbulk).mono (h.1 bulkIn hbulk).1.cancelled
  stats _ _ h := h
  settings _ _ _ h := h
  turn queue bulkIn buffer pending arrival turn queue' hbulk hpending hcurrent hcases hresult h := by
    refine ⟨h.1.turn hbulk hpending hcurrent hcases, ?_⟩
    intro bulkIn' hbulk'
    cases hcases with
    | discarded _ =>
      obtain rfl := Option.some.inj hbulk'
      exact h.2 bulkIn hbulk
    | accepted _ _ =>
      obtain rfl := Option.some.inj hbulk'
      exact h.2 bulkIn hbulk
    | rejected _ _ => exact nomatch hbulk'

/-- **What a fill of such a queue does not discard** was submitted after the state. -/
theorem fills_after {s : System F mode} {stream : ℕ} {queue queue' : Queue}
    {arrivals rest : List Arrival} {result : Option (Result Unit)}
    (hfills : Fills queue arrivals result queue' rest) (hopen : queue.bulkIn ≠ none)
    (hcurrent : queue.current = none) (h : CutAfter s stream queue) :
    ∀ taken ∈ loopTakes arrivals queue, taken.fate ≠ .discarded →
      SubmittedAfter s stream taken.endpoint taken.completion.buffer.number := by
  obtain ⟨bulkIn, hbulk⟩ := Option.ne_none_iff_exists'.mp hopen
  intro taken htaken hfate
  have hfresh : bulkIn.cancelled ≤ taken.completion.buffer.number := by
    have hiff := hfills.discarded_iff h.1 hcurrent hbulk taken htaken
    exact Nat.not_lt.mp ((not_congr hiff).mp hfate)
  rw [hfills.endpoint hbulk taken htaken]
  exact (h.2 bulkIn hbulk).mono hfresh

/-! ## The converter's input -/

/-- A part of a completion of the endpoint, with a number for which `allowed` holds. -/
def ReceivedPart (bulkIn : BulkIn) (allowed : ℕ → Prop) (raw : List UInt8) : Prop :=
  ∃ completion ∈ bulkIn.completed, allowed completion.buffer.number ∧
    ∃ offset, raw = (completion.buffer.bytes.take completion.actualLen).drop offset

/-- Since it was reset last, the converter has been called on such parts only, and the current
buffer is that of such a completion. -/
structure ReceivedFrom (bulkIn : BulkIn) (allowed : ℕ → Prop) (processor : IqProcessor F)
    (queue : Queue) [SampleArithmetic F] : Prop where
  fed : Fed (fun raw _ => ReceivedPart bulkIn allowed raw) processor.converter processor.pending
  current : ∀ buffer, queue.current = some buffer → ∃ completion ∈ bulkIn.completed,
    allowed completion.buffer.number ∧ completion.buffer = buffer ∧
      completion.actualLen = queue.currentLen

variable [SampleArithmetic F]

/-- What is left of the current buffer is such a part. -/
theorem ReceivedFrom.unread {bulkIn : BulkIn} {allowed : ℕ → Prop} {processor : IqProcessor F}
    {queue : Queue} (h : ReceivedFrom bulkIn allowed processor queue) {buffer : Buffer}
    {raw : List UInt8} (hcurrent : queue.current = some buffer)
    (hraw : processor.unread queue buffer = .ok raw) : ReceivedPart bulkIn allowed raw := by
  obtain ⟨completion, hcompletion, hallowed, rfl, hlength⟩ := h.current buffer hcurrent
  refine ⟨completion, hcompletion, hallowed, processor.offset, ?_⟩
  rw [hlength]
  unfold IqProcessor.unread at hraw
  split at hraw
  · exact (Except.ok.inj hraw).symm
  · exact nomatch hraw

theorem ReceivedFrom.mono {bulkIn : BulkIn} {allowed allowed' : ℕ → Prop}
    {processor : IqProcessor F} {queue : Queue} (h : ReceivedFrom bulkIn allowed processor queue)
    (hmono : ∀ number, allowed number → allowed' number) :
    ReceivedFrom bulkIn allowed' processor queue := by
  refine ⟨h.fed.mono ?_, ?_⟩
  · rintro raw _ ⟨completion, hcompletion, hallowed, hpart⟩
    exact ⟨completion, hcompletion, hmono _ hallowed, hpart⟩
  · intro buffer hcurrent
    obtain ⟨completion, hcompletion, hallowed, hsame⟩ := h.current buffer hcurrent
    exact ⟨completion, hcompletion, hmono _ hallowed, hsame⟩

/-- The endpoint may have handed out more, and the queue may have given its buffer back. -/
theorem ReceivedFrom.more {bulkIn bulkIn' : BulkIn} {allowed : ℕ → Prop}
    {processor : IqProcessor F} {queue queue' : Queue}
    (h : ReceivedFrom bulkIn allowed processor queue)
    (hcompleted : ∀ completion ∈ bulkIn.completed, completion ∈ bulkIn'.completed)
    (hcurrent : ∀ buffer, queue'.current = some buffer →
      queue.current = some buffer ∧ queue'.currentLen = queue.currentLen) :
    ReceivedFrom bulkIn' allowed processor queue' := by
  refine ⟨h.fed.mono ?_, ?_⟩
  · rintro raw _ ⟨completion, hcompletion, hpart⟩
    exact ⟨completion, hcompleted _ hcompletion, hpart⟩
  · intro buffer hbuffer
    obtain ⟨hbefore, hlength⟩ := hcurrent buffer hbuffer
    obtain ⟨completion, hcompletion, hallowed, hbuffer', hactual⟩ := h.current buffer hbefore
    exact ⟨completion, hcompleted _ hcompletion, hallowed, hbuffer', hactual.trans hlength.symm⟩

/-- All that an IQ stream has kept comes from transfers that have not been cancelled. -/
def FromUncancelled (processor : IqProcessor F) (queue : Queue) : Prop :=
  ∀ bulkIn, queue.bulkIn = some bulkIn →
    ReceivedFrom bulkIn (fun number => bulkIn.cancelled ≤ number) processor queue

/-- A completion that is taken was cancelled exactly when it is discarded. -/
theorem fromUncancelled_turn {processor : IqProcessor F} {queue queue' : Queue} {bulkIn : BulkIn}
    {buffer : Buffer} {pending : List Buffer} {arrival : Arrival} {turn : Queue.Turn}
    (hbulk : queue.bulkIn = some bulkIn) (hpending : bulkIn.pending = buffer :: pending)
    (hcurrent : queue.current = none)
    (hcases : TurnCases queue bulkIn buffer pending arrival turn queue') (hstamped : Stamped queue)
    (h : FromUncancelled processor queue) : FromUncancelled processor queue' := by
  have hbefore := h bulkIn hbulk
  have hhanded : ∀ completion ∈ bulkIn.completed,
      completion ∈ bulkIn.completed ++ [BulkIn.completion buffer arrival] :=
    fun completion hcompletion => List.mem_append_left _ hcompletion
  intro bulkIn' hbulk'
  cases hcases with
  | discarded _ =>
    obtain rfl := Option.some.inj hbulk'
    refine hbefore.more hhanded ?_
    intro other hother
    exact nomatch hcurrent.symm.trans hother
  | accepted hzero _ =>
    obtain rfl := Option.some.inj hbulk'
    have hfresh : bulkIn.cancelled ≤ buffer.number := by
      have hnot := (not_congr ((hstamped bulkIn hbulk).1.oldest hpending)).mp (not_not.mpr hzero)
      exact Nat.not_lt.mp hnot
    refine ⟨hbefore.fed.mono ?_, ?_⟩
    · rintro raw _ ⟨completion, hcompletion, hpart⟩
      exact ⟨completion, hhanded completion hcompletion, hpart⟩
    · intro other hother
      obtain rfl := Option.some.inj hother
      exact ⟨_, List.mem_append_right _ (List.mem_singleton_self _), hfresh, rfl, rfl⟩
  | rejected _ _ => exact nomatch hbulk'

/-- **Everything keeps what was cancelled away**: a pause resets the processor. -/
theorem keptByReads_fromUncancelled :
    KeptByReads (FromUncancelled : IqProcessor F → Queue → Prop) where
  reset queue _ hcurrent bulkIn _ := by
    refine ⟨.reset, ?_⟩
    intro buffer hbuffer
    exact nomatch hcurrent.symm.trans hbuffer
  same processor queue queue' hsame h bulkIn' hbulk' := by
    have hcancelled := hsame.cancelled
    have hcompleted := hsame.completed
    rw [hbulk'] at hcancelled hcompleted
    obtain ⟨bulkIn, hbulk, hcancelled'⟩ := Option.map_eq_some_iff.mp hcancelled.symm
    rw [hbulk] at hcompleted
    have hcompleted' : bulkIn'.completed = bulkIn.completed := Option.some.inj hcompleted
    have hbefore := h bulkIn hbulk
    rw [hcancelled'] at hbefore
    refine hbefore.more ?_ ?_
    · rw [hcompleted']
      exact fun _ hcompletion => hcompletion
    · rw [hsame.current]
      exact fun _ hbuffer => ⟨hbuffer, hsame.currentLen⟩
  turn _ _ _ _ _ _ _ _ hbulk hpending hcurrent _ hcases _ hstamped _ h :=
    fromUncancelled_turn hbulk hpending hcurrent hcases hstamped h
  read room processor queue written processor' queue' _ hread h bulkIn' hbulk' := by
    have hfed : ∀ bulkIn, queue.bulkIn = some bulkIn →
        ReceivedFrom bulkIn (fun number => bulkIn.cancelled ≤ number) processor' queue := by
      intro bulkIn hbulk
      have hbefore := h bulkIn hbulk
      refine ⟨hread.fed ?_ hbefore.fed, hbefore.current⟩
      intro buffer raw hcurrent hraw
      exact hbefore.unread hcurrent hraw
    cases hread with
    | carried _ => exact hfed bulkIn' hbulk'
    | filled _ _ _ _ _ _ _ => exact hfed bulkIn' hbulk'
    | released hcurrent _ _ _ _ _ =>
      have hreleased : ∀ {allowed : ℕ → Prop} {bulkIn : BulkIn} {left : IqProcessor F},
          ReceivedFrom bulkIn allowed left queue → bulkIn'.completed = bulkIn.completed →
          ReceivedFrom bulkIn' allowed left queue.releaseCurrent := by
        intro allowed bulkIn left hleft hcompleted
        refine hleft.more ?_ ?_
        · rw [hcompleted]
          exact fun _ hcompletion => hcompletion
        · intro buffer hbuffer
          exact nomatch (releaseCurrent_current queue).symm.trans hbuffer
      rcases releaseCurrent_cases queue with ⟨buffer, bulkIn, _, hbulk, heq⟩ | ⟨_, heq⟩
      · rw [heq] at hbulk'
        obtain rfl := Option.some.inj hbulk'
        exact hreleased (hfed bulkIn hbulk) rfl
      · rw [heq] at hbulk'
        exact hreleased (hfed bulkIn' hbulk') rfl

/-! ## Stops and restarts -/

/-- A stop that succeeds, or a start that succeeds on the queue it found, cuts off the transfers of
the stream. -/
def CutsOff (stream : ℕ) : CallEvent F mode → Prop
  | .stopped other (.ok _) => other = stream
  | .started other found (.ok _) queue => other = stream ∧ found ≠ none ∧
      (queue.bind Queue.bulkIn).map BulkIn.id = found
  | _ => False

omit [SampleArithmetic F] in
theorem CutsOff.about {stream : ℕ} {event : CallEvent F mode} (h : CutsOff stream event) :
    eventStream event = some stream := by
  unfold CutsOff at h
  split at h
  · exact congrArg some h
  · exact congrArg some h.1
  · exact False.elim h

/-- **Everything submitted before a stop or a restart has been cancelled** when it succeeds. -/
theorem cancelled_of_cutsOff {config : ValidConfig mode} {stream : ℕ} {s s' : System F mode}
    {events : List (CallEvent F mode)} {work : Work} (hs : System.Reachable config s)
    (hstepped : Stepped stream s s' events work) {event : CallEvent F mode}
    (hevent : event ∈ events) (hcuts : CutsOff stream event) {queue : Queue} {bulkIn : BulkIn}
    (hqueue : HasQueue s' stream queue bulkIn) : bulkIn.cancelled = bulkIn.submitted := by
  obtain ⟨phase', receiver, hphase', hreceiver', hqueue, hbulk⟩ := hqueue
  cases hstepped with
  | untouched _ hothers => exact absurd hcuts.about (hothers event hevent)
  | added _ _ hothers => exact absurd hcuts.about (hothers event hevent)
  | @acted _ _ _ _ w' hphase hreceiver hact hphase'' hleaves _ _ =>
    obtain rfl := Option.some.inj (hphase'.symm.trans hphase'')
    have hinv := (reachable_inv hs).system.streamInv (List.mem_of_getElem? hphase) hreceiver
    have hleft : w'.receiver = receiver := by
      cases hleaves with
      | kept hleft _ => exact Option.some.inj (hleft.symm.trans hreceiver')
      | dropped _ hnone => exact nomatch (hnone receiver hreceiver').symm.trans hqueue
    rw [← hleft] at hqueue
    cases hact with
    | control hmoves hevents =>
      cases hevents event hevent with
      | @started _ _ found result hready =>
        cases result with
        | error e => exact False.elim hcuts
        | ok value =>
          obtain ⟨_, _, hfound⟩ := hcuts
          obtain ⟨queue', hqueue', _, hcancelled⟩ := hready rfl
          obtain rfl := Option.some.inj (hqueue.symm.trans hqueue')
          refine hcancelled bulkIn hbulk ?_
          rw [← hfound, hqueue, Option.bind_some, hbulk, Option.map_some]
      | @stopped _ _ result hreport =>
        cases result with
        | error e => exact False.elim hcuts
        | ok stats =>
          have hstopped := (hreport stats rfl).1
          exact ((hinv.moves hmoves.moves).paused hstopped queue bulkIn hqueue hbulk).2
      | closed _ => exact False.elim hcuts
      | cleanedUp _ => exact False.elim hcuts
      | failed _ => exact False.elim hcuts
    | stops hmoves hpauses =>
      have hafter := (hinv.moves hmoves.moves).moves hpauses.move.moves
      obtain ⟨_, _, rfl⟩ := hpauses
      exact (hafter.paused rfl queue bulkIn hqueue hbulk).2
    | blocks _ _ _ _ hreport =>
      cases hreport with
      | pending => exact absurd hevent List.not_mem_nil
      | timeout =>
        obtain rfl := List.mem_singleton.mp hevent
        exact False.elim hcuts
      | delivered _ =>
        obtain rfl := List.mem_singleton.mp hevent
        exact False.elim hcuts
      | failed _ =>
        obtain rfl := List.mem_singleton.mp hevent
        exact False.elim hcuts
    | reads _ hreport =>
      cases hreport with
      | pending => exact absurd hevent List.not_mem_nil
      | timeout =>
        obtain rfl := List.mem_singleton.mp hevent
        exact False.elim hcuts
      | returned _ =>
        obtain rfl := List.mem_singleton.mp hevent
        exact False.elim hcuts

/-- The queue of the stream is cut off from then on. -/
theorem cutAfter_of_cutsOff {config : ValidConfig mode} {stream : ℕ} {s s' : System F mode}
    {events : List (CallEvent F mode)} {work : Work} (hs : System.Reachable config s)
    (hs' : System.Reachable config s') (hstepped : Stepped stream s s' events work)
    {event : CallEvent F mode} (hevent : event ∈ events) (hcuts : CutsOff stream event) :
    StreamQueueHas (CutAfter s' stream) s' stream := by
  intro phase receiver hphase hreceiver queue hqueue
  have hstamped := reachable_queue (keptByQueue_stamped 0) hs' (List.mem_of_getElem? hphase)
    hreceiver queue hqueue
  refine ⟨hstamped, ?_⟩
  intro bulkIn hbulk
  have hlive : HasQueue s' stream queue bulkIn :=
    ⟨phase, receiver, hphase, hreceiver, hqueue, hbulk⟩
  have hcancelled := cancelled_of_cutsOff hs hstepped hevent hcuts hlive
  exact .inr ⟨queue, bulkIn, hlive, rfl, hcancelled.ge⟩

/-! ## Reports -/

/-- The samples that a read has returned, leaving this queue, were converted from completions of
transfers submitted after the state, and so was whatever the converter had been fed before. -/
def MadeAfter (s : System F mode) (stream : ℕ) (samples : List (Complex F))
    (left : Option Queue) : Prop :=
  ∃ room processor queue bulkIn processor' queue', queue.bulkIn = some bulkIn ∧
    ReceivedFrom bulkIn (SubmittedAfter s stream bulkIn.id) processor queue ∧
    ReadOutcome room processor queue samples processor' queue' ∧ left = some queue'

/-- An error does not come from a completion at all, or is the status or length of one that has been
rejected, of a transfer submitted after the state. -/
def BlamedAfter (s : System F mode) (stream : ℕ) (fill : Option (Queue × List Arrival))
    (e : Error) : Prop :=
  fill = none ∨ ∃ queue arrivals taken, fill = some (queue, arrivals) ∧
    taken ∈ loopTakes arrivals queue ∧ taken.fate = .rejected ∧
    queue.checkCompletion taken.completion = .error e ∧
    SubmittedAfter s stream taken.endpoint taken.completion.buffer.number

/-- What is returned or reported of the stream in a step with this fill comes from transfers
submitted after the state. -/
def ReportedAfter (s : System F mode) (stream : ℕ) (fill : Option (Queue × List Arrival)) :
    CallEvent F mode → Prop
  | .block other (.ok (some block)) queue => other = stream →
      ∃ taken ∈ takesOf fill, Delivers taken (queue, block) ∧
        SubmittedAfter s stream taken.endpoint taken.completion.buffer.number
  | .block other (.error e) _ => other = stream → BlamedAfter s stream fill e
  | .samples other (.ok samples) queue => other = stream →
      samples ≠ [] → MadeAfter s stream samples queue
  | .samples other (.error e) _ => other = stream → BlamedAfter s stream fill e
  | _ => True

omit [SampleArithmetic F] in
/-- A fill that fails blames a transfer submitted after the state. -/
theorem blamedAfter_of_fails {s : System F mode} {stream : ℕ} {queue queue' : Queue}
    {arrivals rest : List Arrival} {e : Error}
    (hfills : Fills queue arrivals (some (.error e)) queue' rest) (hopen : queue.bulkIn ≠ none)
    (hcurrent : queue.current = none) (h : CutAfter s stream queue) :
    BlamedAfter s stream (some (queue, arrivals)) e := by
  obtain ⟨taken, htaken, hfate, hcheck⟩ := hfills.rejects rfl
  have hnot : taken.fate ≠ .discarded := by
    rw [hfate]
    exact Fate.noConfusion
  exact .inr ⟨queue, arrivals, taken, rfl, htaken, hfate, hcheck,
    fills_after hfills hopen hcurrent h taken htaken hnot⟩

/-- What the caller of `next_block` is told. -/
theorem blockReport_after {s : System F .rawAdc} {stream : ℕ} {w : StreamWorld F .rawAdc}
    {queue queue' : Queue} {arrivals rest : List Arrival} {result : Option (Result Unit)}
    {events : List (CallEvent F .rawAdc)} (hinv : StreamInv (w.setQueue queue))
    (hfills : Fills queue arrivals result queue' rest) (hcurrent : queue.current = none)
    (hreport : BlockReport stream (afterFill result queue' w) result events)
    (h : CutAfter s stream queue) :
    ∀ event ∈ events, ReportedAfter s stream (some (queue, arrivals)) event := by
  have hopen := queue_open hinv rfl
  have hdelivers := deliveries_fill hinv hfills hreport
  intro event hevent
  cases hreport with
  | pending => exact absurd hevent List.not_mem_nil
  | timeout =>
    obtain rfl := List.mem_singleton.mp hevent
    trivial
  | @delivered block hblock =>
    obtain rfl := List.mem_singleton.mp hevent
    intro _
    rw [deliveries_block] at hdelivers
    obtain ⟨taken, _, hdelivered, _, haccepts⟩ := List.forall₂_cons_right_iff.mp hdelivers
    have hmem : taken ∈ acceptedOf (loopTakes arrivals queue) := by
      rw [haccepts]
      exact List.mem_cons_self
    obtain ⟨htaken, haccepted⟩ := List.mem_filter.mp hmem
    have hnot : taken.fate ≠ .discarded := by
      rw [of_decide_eq_true haccepted]
      exact Fate.noConfusion
    exact ⟨taken, htaken, hdelivered, fills_after hfills hopen hcurrent h taken htaken hnot⟩
  | failed e =>
    obtain rfl := List.mem_singleton.mp hevent
    intro _
    exact blamedAfter_of_fails hfills hopen hcurrent h

/-- What the caller of a read is told. -/
theorem readReport_after {config : ValidConfig .f32Iq} {s s₁ : System F .f32Iq} {stream : ℕ}
    (hs : System.Reachable config s₁) {phase : StreamPhase F .f32Iq}
    (hphase : s₁.streams[stream]? = some phase) {receiver : Receiver F .f32Iq}
    (hreceiver : phase.receiver? = some receiver) {w' : StreamWorld F .f32Iq} {room : ℕ}
    {arrivals rest : List Arrival} {polled : Option (Result (List (Complex F)))}
    (hread : Receiver.pollRead (s₁.streamWorld receiver) room arrivals = .ok (polled, w', rest))
    {events : List (CallEvent F .f32Iq)} (hreport : ReadReport stream w' polled events)
    (hopened : s.wire.opened ≤ s₁.wire.opened) (h : StreamQueueHas (CutAfter s stream) s₁ stream) :
    ∀ event ∈ events, ReportedAfter s stream
      ((readFill room (s₁.streamWorld receiver)).map (·, arrivals)) event := by
  have hmem := List.mem_of_getElem? hphase
  have hinv := (reachable_inv hs).system.streamInv hmem hreceiver
  have hcut : QueueHas (CutAfter s stream) (s₁.streamWorld receiver).receiver :=
    h phase receiver hphase hreceiver
  have hsound := soundRead hinv (reachable_reads keptByReads_aligned hs hmem hreceiver) room arrivals
  intro event hevent
  cases hreport with
  | pending => exact absurd hevent List.not_mem_nil
  | timeout =>
    obtain rfl := List.mem_singleton.mp hevent
    intro _ hsome
    exact absurd rfl hsome
  | returned result =>
    obtain rfl := List.mem_singleton.mp hevent
    cases result with
    | ok samples =>
      intro _ hsome
      obtain ⟨_, queue, queue', hfrom, houtcome, hqueue'⟩ :=
        hsound.samples samples w' rest (pollRead_room hread hsome) hread
      obtain ⟨hopen, hkept⟩ :=
        (keptByQueue_cutAfter s stream).converts hopened hinv hcut hfrom
      obtain ⟨bulkIn, hbulk⟩ := Option.ne_none_iff_exists'.mp hopen
      have hreads := reachable_reads keptByReads_fromUncancelled hs hmem hreceiver
      have hreceived := (keptByReads_fromUncancelled.converts hinv hreads hfrom).kept bulkIn hbulk
      refine ⟨room, _, queue, bulkIn, _, queue', hbulk, hreceived.mono ?_, houtcome, hqueue'⟩
      intro number hnumber
      exact (hkept.2 bulkIn hbulk).mono hnumber
    | error e =>
      intro _
      rcases hsound.error e w' rest hread with hbegin | ⟨queue, queue', left, hfill, hloop⟩
      · cases hfill : readFill room (s₁.streamWorld receiver) with
        | none => exact .inl rfl
        | some queue => exact nomatch (readFill_some hfill).1.symm.trans hbegin
      · rw [hfill, Option.map_some]
        obtain ⟨_, hqueue, hcurrent, _⟩ := readFill_some hfill
        obtain ⟨hmoves, _⟩ := beginRead_moves hinv
        have hopen := queue_open (hinv.moves hmoves) hqueue
        have hkept := (keptByQueue_cutAfter s stream).moves hopened hinv hmoves hcut queue hqueue
        exact blamedAfter_of_fails (fillLoop_fills hopen hloop) hopen hcurrent hkept

/-- **What a step reports** of a stream that is cut off. -/
theorem stepped_reports {config : ValidConfig mode} {s s₁ s₂ : System F mode} {stream : ℕ}
    {events : List (CallEvent F mode)} {work : Work} (hs : System.Reachable config s₁)
    (hopened : s.wire.opened ≤ s₁.wire.opened) (h : StreamQueueHas (CutAfter s stream) s₁ stream)
    (hstepped : Stepped stream s₁ s₂ events work) :
    ∀ event ∈ events, ReportedAfter s stream work.1 event := by
  have hapart : (∀ event ∈ events, eventStream event ≠ some stream) →
      ∀ event ∈ events, ReportedAfter s stream work.1 event := by
    intro hothers event hevent
    have hother := hothers event hevent
    unfold ReportedAfter
    split
    all_goals first
      | trivial
      | exact fun hsame => absurd (congrArg some hsame) hother
  cases hstepped with
  | untouched _ hothers => exact hapart hothers
  | added _ _ hothers => exact hapart hothers
  | acted hphase hreceiver hact _ _ _ _ =>
    have hinv := (reachable_inv hs).system.streamInv (List.mem_of_getElem? hphase) hreceiver
    cases hact with
    | control _ hevents =>
      intro event hevent
      cases hevents event hevent with
      | failed e => exact fun _ => .inl rfl
      | started _ => trivial
      | stopped _ => trivial
      | closed _ => trivial
      | cleanedUp _ => trivial
    | stops _ _ =>
      intro event hevent
      obtain rfl := List.mem_singleton.mp hevent
      trivial
    | @blocks _ w₁ queue _ _ _ _ _ hmoves hstate hqueue hfill hreport =>
      have hreleased := (hinv.moves hmoves.moves).moves (Move.release w₁ hstate hqueue).moves
      have hfills := fillLoop_fills (queue_open hreleased rfl) hfill
      have hkept := (keptByQueue_cutAfter s stream).moves hopened hinv hmoves.moves
        (h _ _ hphase hreceiver) queue hqueue
      exact blockReport_after hreleased hfills (releaseCurrent_current queue) hreport
        ((keptByQueue_cutAfter s stream).release queue hkept)
    | reads hread hreport =>
      exact readReport_after hs hphase hreceiver hread hreport hopened h

/-- What a step takes and does not discard, of a stream that is cut off. -/
theorem stepped_takes {config : ValidConfig mode} {s s₁ s₂ : System F mode} {stream : ℕ}
    {events : List (CallEvent F mode)} {work : Work} (hs : System.Reachable config s₁)
    (hopened : s.wire.opened ≤ s₁.wire.opened) (h : StreamQueueHas (CutAfter s stream) s₁ stream)
    (hstepped : Stepped stream s₁ s₂ events work) :
    ∀ taken ∈ takesOf work.1, taken.fate ≠ .discarded →
      SubmittedAfter s stream taken.endpoint taken.completion.buffer.number := by
  intro taken htaken
  cases hwork : work.1 with
  | none =>
    rw [hwork] at htaken
    exact absurd htaken List.not_mem_nil
  | some fill =>
    obtain ⟨queue, arrivals⟩ := fill
    obtain ⟨hkept, hcurrent, hopen, _, _, _, hfills⟩ :=
      (keptByQueue_cutAfter s stream).stepFill hs hopened h hstepped hwork
    rw [hwork] at htaken
    exact fills_after hfills hopen hcurrent hkept taken htaken

/-! ## Polls and waits -/

omit [SampleArithmetic F] in
/-- `poll_fill` takes what there is to discard, and one completion more. -/
theorem pollFill_takes {queue queue' : Queue} (hopen : queue.bulkIn ≠ none)
    {arrivals rest : List Arrival} {result : Option (Result Unit)}
    (h : queue.pollFill arrivals = .ok (result, queue', rest)) :
    arrivals.length ≤ rest.length + (queue.discardRemaining + 1) := by
  unfold Queue.pollFill at h
  split at h
  · cases h
    omega
  · have hcount := (fillLoop_fills hopen h).count
    omega

/-- `wait_fill` takes as many. -/
theorem waitFill_takes {queue queue' : Queue} (hopen : queue.bulkIn ≠ none)
    {arrivals rest : List Arrival} {result : Result Bool}
    (h : queue.waitFill arrivals = .ok (result, queue', rest)) :
    arrivals.length ≤ rest.length + (queue.discardRemaining + 1) := by
  cases hcurrent : queue.current with
  | some buffer =>
    unfold Queue.waitFill at h
    rw [hcurrent] at h
    cases h
    omega
  | none =>
    have hcount := (fillLoop_fills hopen (waitFill_eq hcurrent h)).count
    omega

/-- **Restarts never expose stale data.**  In every reachable state the counter of a stream's open
queue is at most the number of its pending transfers, and a poll or wait takes at most that many
completions and one more.  Once a stop succeeds, or a start on the queue it found, whatever the run
goes on to do: completions that are not discarded are of transfers submitted after that, and so are
those of every block and sample returned and of every status or length reported. -/
theorem restart_never_stale {config : ValidConfig mode} {s : System F mode}
    (h : System.Reachable config s) (stream : ℕ) :
    (∀ queue bulkIn, HasQueue s stream queue bulkIn →
      queue.discardRemaining ≤ bulkIn.pending.length) ∧
    (∀ queue : Queue, queue.bulkIn ≠ none → ∀ arrivals queue' rest,
      (∀ result, queue.pollFill arrivals = .ok (result, queue', rest) →
        arrivals.length ≤ rest.length + (queue.discardRemaining + 1)) ∧
      ∀ result, queue.waitFill arrivals = .ok (result, queue', rest) →
        arrivals.length ≤ rest.length + (queue.discardRemaining + 1)) ∧
    ∀ action reply, (∃ event ∈ newEvents s (s.step action reply), CutsOff stream event) →
      ∀ s', Later (s.step action reply) s' → ∀ action' reply',
        (∀ taken ∈ takesOf (stepWork stream s' action').1, taken.fate ≠ .discarded →
          SubmittedAfter (s.step action reply) stream taken.endpoint
            taken.completion.buffer.number) ∧
        ∀ event ∈ newEvents s' (s'.step action' reply'),
          ReportedAfter (s.step action reply) stream (stepWork stream s' action').1 event := by
  refine ⟨?_, ?_, ?_⟩
  · rintro queue bulkIn ⟨phase, receiver, hphase, hreceiver, hqueue, hbulk⟩
    have hstamped := reachable_queue (keptByQueue_stamped 0) h (List.mem_of_getElem? hphase)
      hreceiver queue hqueue
    exact (hstamped bulkIn hbulk).1.bounded
  · intro queue hopen arrivals queue' rest
    exact ⟨fun result => pollFill_takes hopen, fun result => waitFill_takes hopen⟩
  · rintro action reply ⟨event, hevent, hcuts⟩ s' hlater action' reply'
    have hreachable := h.step action reply
    have hreachable' := hlater.reachable hreachable
    obtain ⟨events, hhistory, hstepped⟩ := step_stepped h action reply stream
    rw [newEvents_eq hhistory] at hevent
    have hcut := cutAfter_of_cutsOff h hreachable hstepped hevent hcuts
    have hkept := later_queue hreachable (keptByQueue_cutAfter _ stream) hcut hlater
    have hopened := later_opened hreachable hlater
    obtain ⟨events', hhistory', hstepped'⟩ := step_stepped hreachable' action' reply' stream
    rw [newEvents_eq hhistory']
    exact ⟨stepped_takes hreachable' hopened hkept hstepped',
      stepped_reports hreachable' hopened hkept hstepped'⟩

/-- An IQ stream has been started, and is about to be stopped. -/
def stoppingStream : System Rat .f32Iq :=
  System.after (ValidConfig.standard .f32Iq) (fun _ => obliging)
    [.pollDevice (List.replicate 16 obliging), .rxStream, .callStream 0 .start,
      .pollStream 0 (List.replicate 4 obliging) [], .callStream 0 .stop]

def stoppedStream : System Rat .f32Iq :=
  stoppingStream.step (.pollStream 0 [obliging] []) fun _ => obliging

/-- It has been started again, and its endpoint still waits for the transfers from before. -/
def restartedStream : System Rat .f32Iq :=
  (stoppedStream.step (.callStream 0 .start) fun _ => obliging).step
    (.pollStream 0 (List.replicate 4 obliging) []) fun _ => obliging

/-- A read during which all of these fail, and one transfer more. -/
def failedReads : Action .f32Iq :=
  .pollRead 0 1 (List.replicate 17 ⟨.error .busy, 0, []⟩)

def reportsStop : CallEvent Rat .f32Iq → Bool
  | .stopped 0 (.ok _) => true
  | _ => false

def reportsFailure : CallEvent Rat .f32Iq → Bool
  | .samples 0 (.error _) _ => true
  | _ => false

theorem failedReads_not_stale :
    ∃ e queue, CallEvent.samples 0 (.error e) queue ∈
        newEvents restartedStream (restartedStream.step failedReads fun _ => obliging) ∧
      (stepWork 0 restartedStream failedReads).1.isSome = true ∧
      BlamedAfter stoppedStream 0 (stepWork 0 restartedStream failedReads).1 e := by
  have hreachable : System.Reachable (ValidConfig.standard .f32Iq) stoppingStream :=
    System.reachable_after _ _ _
  have hstop : (newEvents stoppingStream stoppedStream).any reportsStop = true := by decide +kernel
  have hfailure : (newEvents restartedStream
      (restartedStream.step failedReads fun _ => obliging)).any reportsFailure = true := by
    decide +kernel
  have hlater : Later stoppedStream restartedStream := (Later.now.step _ _).step _ _
  obtain ⟨stop, hmem, hstops⟩ := List.any_eq_true.mp hstop
  obtain ⟨failure, hmem', hfails⟩ := List.any_eq_true.mp hfailure
  have hcuts : CutsOff 0 stop := by
    unfold reportsStop at hstops
    split at hstops
    · rfl
    · exact nomatch hstops
  have hreported := ((restart_never_stale hreachable 0).2.2 _ _ ⟨stop, hmem, hcuts⟩ _ hlater
    failedReads fun _ => obliging).2 failure hmem'
  unfold reportsFailure at hfails
  split at hfails
  · exact ⟨_, _, hmem', by decide +kernel, hreported rfl⟩
  · exact nomatch hfails

end HydraSdr.Analysis.RestartFreshness
