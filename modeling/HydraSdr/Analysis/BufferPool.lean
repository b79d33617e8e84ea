import HydraSdr.Analysis.CompletionPolls

/-!
# The buffer pool of a queue

The buffers of a queue are handed around between the queue, its endpoint and the caller.  None is
lost on the way, and an endpoint is only ever asked for a completion with all of them submitted.
-/

set_option autoImplicit false

namespace HydraSdr.Analysis.BufferPool

open HydraSdr.Program HydraSdr.Computation HydraSdr.Analysis

variable {F : Type} {mode : SampleFormat}

/-! ## The pool -/

/-- The lengths of all buffers of a queue: those not yet submitted, those submitted, and the one
that holds the current samples. -/
def pool (queue : Queue) (bulkIn : BulkIn) : List ℕ :=
  (queue.buffers ++ bulkIn.pending ++ queue.current.toList).map Buffer.capacity

/-- The pool of an open queue is complete, and an initialised queue has submitted it. -/
structure Pooled (queue : Queue) : Prop where
  submitted : queue.initialized = true → queue.buffers = []
  complete : ∀ bulkIn, queue.bulkIn = some bulkIn →
    pool queue bulkIn = List.replicate RFONE_TRANSFER_COUNT (transferLength queue.settings.packing)

/-- A pool that has only been shuffled is still complete. -/
theorem complete_of_perm {lengths lengths' : List ℕ} {count length : ℕ}
    (hperm : List.Perm lengths' lengths) (h : lengths = List.replicate count length) :
    lengths' = List.replicate count length :=
  List.perm_replicate.mp (h ▸ hperm)

theorem foldl_submit_capacities (buffers : List Buffer) (bulkIn : BulkIn) :
    (buffers.foldl BulkIn.submit bulkIn).pending.map Buffer.capacity =
      (bulkIn.pending ++ buffers).map Buffer.capacity := by
  induction buffers generalizing bulkIn with
  | nil => rw [List.foldl_nil, List.append_nil]
  | cons buffer buffers ih =>
    rw [List.foldl_cons, ih, submit_pending]
    simp

theorem pooled_new (id : ℕ) (settings : ReceiveSettings) :
    Pooled (Queue.new (BulkIn.opened id) settings) where
  submitted h := nomatch h
  complete bulkIn h := by
    obtain rfl := Option.some.inj h
    simp [pool, Queue.new, BulkIn.opened, BulkIn.allocate]

/-- Giving the current buffer back moves it to the end of the submitted ones. -/
theorem pooled_release {queue : Queue} (h : Pooled queue) : Pooled queue.releaseCurrent := by
  rcases releaseCurrent_cases queue with ⟨buffer, bulkIn, hcurrent, hbulk, heq⟩ | ⟨hnone, heq⟩
  · rw [heq]
    refine ⟨h.submitted, fun bulkIn' hbulk' => ?_⟩
    obtain rfl := Option.some.inj hbulk'
    have hcomplete := h.complete bulkIn hbulk
    unfold pool at hcomplete ⊢
    rw [hcurrent] at hcomplete
    rw [← hcomplete]
    simp
  · rw [heq]
    refine ⟨h.submitted, fun bulkIn hbulk => ?_⟩
    have hbulk' : queue.bulkIn = some bulkIn := hbulk
    rcases hnone with hcurrent | hclosed
    · have hcomplete := h.complete bulkIn hbulk'
      unfold pool at hcomplete ⊢
      rw [hcurrent] at hcomplete
      exact hcomplete
    · exact nomatch hclosed.symm.trans hbulk'

/-- A completion takes the oldest submitted buffer: it is submitted again, or becomes the current
one. -/
theorem pooled_turn {queue queue' : Queue} {bulkIn : BulkIn} {buffer : Buffer}
    {pending : List Buffer} {arrival : Arrival} {turn : Queue.Turn}
    (hbulk : queue.bulkIn = some bulkIn) (hpending : bulkIn.pending = buffer :: pending)
    (hcurrent : queue.current = none)
    (hcases : TurnCases queue bulkIn buffer pending arrival turn queue')
    (hresult : ∀ e, turn ≠ .ends (.error e)) (h : Pooled queue) : Pooled queue' := by
  have hcomplete := h.complete bulkIn hbulk
  unfold pool at hcomplete
  rw [hpending, hcurrent] at hcomplete
  cases hcases with
  | discarded _ =>
    refine ⟨h.submitted, fun bulkIn' hbulk' => complete_of_perm ?_ hcomplete⟩
    obtain rfl := Option.some.inj hbulk'
    simp only [pool, hcurrent, submit_pending, BulkIn.handOut, BulkIn.completion, Option.toList_none,
      List.append_nil, List.map_append, List.map_cons, List.map_nil]
    exact List.Perm.append_left _ (List.perm_append_singleton _ _)
  | accepted _ _ =>
    refine ⟨h.submitted, fun bulkIn' hbulk' => complete_of_perm ?_ hcomplete⟩
    obtain rfl := Option.some.inj hbulk'
    simp only [pool, BulkIn.handOut, BulkIn.completion, Option.toList_none, Option.toList_some,
      List.append_nil, List.map_append, List.map_cons, List.map_nil, List.append_assoc]
    exact List.Perm.append_left _ (List.perm_append_singleton _ _)
  | rejected _ _ => exact absurd rfl (hresult _)

/-- **Every operation on a queue keeps its pool complete.** -/
theorem keptByQueue_pooled (since : ℕ) : KeptByQueue since Pooled where
  opened id settings _ := pooled_new id settings
  submit queue bulkIn hbulk _ h := by
    refine ⟨fun _ => rfl, fun bulkIn' hbulk' => ?_⟩
    obtain rfl := Option.some.inj hbulk'
    refine complete_of_perm ?_ (h.complete bulkIn hbulk)
    simp only [pool, List.nil_append, List.map_append, foldl_submit_capacities]
    exact List.perm_append_comm.append_right _
  release queue h := pooled_release h
  pause queue bulkIn hbulk _ h := by
    refine ⟨h.submitted, fun bulkIn' hbulk' => ?_⟩
    obtain rfl := Option.some.inj hbulk'
    exact h.complete bulkIn hbulk
  stats queue stats h := ⟨h.submitted, h.complete⟩
  settings queue settings hpacking h := by
    refine ⟨h.submitted, fun bulkIn hbulk => ?_⟩
    show pool queue bulkIn = List.replicate _ (transferLength settings.packing)
    rw [hpacking]
    exact h.complete bulkIn hbulk
  turn queue bulkIn buffer pending arrival turn queue' hbulk hpending hcurrent hcases hresult h :=
    pooled_turn hbulk hpending hcurrent hcases hresult h

/-! ## Queues of a run -/

/-- The pool of an open queue, counted. -/
theorem Pooled.count {queue : Queue} (h : Pooled queue) {bulkIn : BulkIn}
    (hbulk : queue.bulkIn = some bulkIn) :
    queue.buffers.length + bulkIn.pending.length + queue.current.toList.length =
      RFONE_TRANSFER_COUNT := by
  have hlength := congrArg List.length (h.complete bulkIn hbulk)
  simpa only [pool, List.length_map, List.length_append, List.length_replicate] using hlength

/-- Every buffer of the pool has the length of the queue's packing. -/
theorem Pooled.capacity {queue : Queue} (h : Pooled queue) {bulkIn : BulkIn}
    (hbulk : queue.bulkIn = some bulkIn) {buffer : Buffer}
    (hbuffer : buffer ∈ queue.buffers ++ bulkIn.pending ++ queue.current.toList) :
    buffer.capacity = transferLength queue.settings.packing := by
  have hmem : buffer.capacity ∈ pool queue bulkIn := List.mem_map_of_mem hbuffer
  rw [h.complete bulkIn hbulk] at hmem
  exact List.eq_of_mem_replicate hmem

/-- A queue that may ask has submitted its whole pool. -/
theorem pending_of_mayAsk {queue : Queue} (h : MayAsk Pooled queue) :
    ∃ bulkIn, queue.bulkIn = some bulkIn ∧ bulkIn.pending.length = RFONE_TRANSFER_COUNT := by
  obtain ⟨bulkIn, hbulk⟩ := h.endpoint
  have hcount := h.kept.count hbulk
  rw [h.kept.submitted h.initialized, h.current] at hcount
  exact ⟨bulkIn, hbulk, by simpa using hcount⟩

/-- The queue of an endpoint keeps its packing. -/
theorem keptByQueue_packing {opened id : ℕ} (hid : id ≤ opened) (packing : Bool) :
    KeptByQueue opened fun queue => ∃ bulkIn, queue.bulkIn = some bulkIn ∧
      (bulkIn.id = id → queue.settings.packing = packing) where
  opened other settings hnew := by
    refine ⟨_, rfl, fun hsame => ?_⟩
    have hother : other = id := hsame
    omega
  submit queue bulkIn hbulk _ h := by
    obtain ⟨other, hother, hpacking⟩ := h
    obtain rfl := Option.some.inj (hbulk.symm.trans hother)
    refine ⟨_, rfl, ?_⟩
    rw [foldl_submit_id]
    exact hpacking
  release queue h := by
    obtain ⟨bulkIn, hbulk, hpacking⟩ := h
    obtain ⟨bulkIn', hbulk', hid', _⟩ := (keepsEndpoint_releaseCurrent queue).bulkIn bulkIn hbulk
    refine ⟨bulkIn', hbulk', ?_⟩
    rw [hid', releaseCurrent_settings]
    exact hpacking
  pause queue bulkIn hbulk _ h := by
    obtain ⟨other, hother, hpacking⟩ := h
    obtain rfl := Option.some.inj (hbulk.symm.trans hother)
    exact ⟨_, rfl, hpacking⟩
  stats queue stats h := h
  settings queue settings hsame h := by
    obtain ⟨bulkIn, hbulk, hpacking⟩ := h
    exact ⟨bulkIn, hbulk, fun hid' => hsame.trans (hpacking hid')⟩
  turn queue bulkIn buffer pending arrival turn queue' hbulk _ _ hcases hresult h := by
    obtain ⟨other, hother, hpacking⟩ := h
    obtain rfl := Option.some.inj (hbulk.symm.trans hother)
    cases hcases with
    | discarded _ => exact ⟨_, rfl, hpacking⟩
    | accepted _ _ => exact ⟨_, rfl, hpacking⟩
    | rejected _ _ => exact absurd rfl (hresult _)

/-- A stream has this queue on this endpoint. -/
def HasQueue (s : System F mode) (stream : ℕ) (queue : Queue) (bulkIn : BulkIn) : Prop :=
  ∃ phase receiver, s.streams[stream]? = some phase ∧ phase.receiver? = some receiver ∧
    receiver.queue = some queue ∧ queue.bulkIn = some bulkIn

variable [SampleArithmetic F]

/-- **Buffers are conserved and an empty endpoint is never polled.**  While the endpoint of a queue
is open, its buffers are all accounted for and have the length of its packing, and an initialised
queue has submitted all it does not hold.  The calls with which an action asks for completions are
its `completionPolls`, and each is made with all buffers submitted and none held.  The packing of a queue stays the same for as long as its endpoint
is there. -/
theorem buffers_conserved {config : ValidConfig mode} {s : System F mode}
    (h : System.Reachable config s) :
    (∀ stream queue bulkIn, HasQueue s stream queue bulkIn →
      queue.buffers.length + bulkIn.pending.length + queue.current.toList.length =
        RFONE_TRANSFER_COUNT ∧
      (queue.initialized = true → queue.buffers = []) ∧
      (∀ buffer ∈ queue.buffers ++ bulkIn.pending ++ queue.current.toList,
        buffer.capacity = transferLength queue.settings.packing) ∧
      ∀ s' queue' bulkIn', Later s s' → HasQueue s' stream queue' bulkIn' →
        bulkIn'.id = bulkIn.id → queue'.settings.packing = queue.settings.packing) ∧
    ∀ action, ActionAsks s action ∧ ∀ asking ∈ completionPolls s action, asking.current = none ∧
      ∃ bulkIn, asking.bulkIn = some bulkIn ∧ bulkIn.pending.length = RFONE_TRANSFER_COUNT := by
  refine ⟨?_, fun action => ⟨act_asks s action, fun asking hasking => ?_⟩⟩
  · rintro stream queue bulkIn ⟨phase, receiver, hphase, hreceiver, hqueue, hbulk⟩
    have hpooled : Pooled queue := reachable_queue (keptByQueue_pooled 0) h
      (List.mem_of_getElem? hphase) hreceiver queue hqueue
    refine ⟨hpooled.count hbulk, hpooled.submitted,
      fun buffer hbuffer => hpooled.capacity hbulk hbuffer, ?_⟩
    rintro s' queue' bulkIn' hlater ⟨phase', receiver', hphase', hreceiver', hqueue', hbulk'⟩ hid
    have hinv := (reachable_inv h).system.streamInv (List.mem_of_getElem? hphase) hreceiver
    obtain ⟨bulkIn₀, hbulk₀, hle⟩ := hinv.endpoint queue hqueue
    obtain rfl := Option.some.inj (hbulk.symm.trans hbulk₀)
    have hstart : StreamQueueHas (fun other => ∃ endpoint, other.bulkIn = some endpoint ∧
        (endpoint.id = bulkIn.id → other.settings.packing = queue.settings.packing)) s stream := by
      intro phase₀ receiver₀ hphase₀ hreceiver₀ queue₀ hqueue₀
      obtain rfl := Option.some.inj (hphase.symm.trans hphase₀)
      obtain rfl := Option.some.inj (hreceiver.symm.trans hreceiver₀)
      obtain rfl := Option.some.inj (hqueue.symm.trans hqueue₀)
      exact ⟨bulkIn, hbulk, fun _ => rfl⟩
    obtain ⟨bulkIn'', hbulk'', hpacking⟩ := later_queue h
      (keptByQueue_packing hle queue.settings.packing) hstart hlater phase' receiver' hphase'
      hreceiver' queue' hqueue'
    obtain rfl := Option.some.inj (hbulk'.symm.trans hbulk'')
    exact hpacking hid
  · have hask := completionPolls_mayAsk (keptByQueue_pooled 0) h action asking hasking
    exact ⟨hask.current, pending_of_mayAsk hask⟩

/-- A raw stream that has been started, and a read of it that has been begun. -/
def begunRead : System Rat .rawAdc :=
  System.after (ValidConfig.standard .rawAdc) (fun _ => obliging)
    [.pollDevice (List.replicate 16 obliging), .rxStream, .callStream 0 .start,
      .pollStream 0 (List.replicate 4 obliging) [], .nextBlock 0]

theorem begunRead_conserved :
    (completionPolls begunRead (.pollStream 0 [] [])).length = 1 ∧
    ∀ asking ∈ completionPolls begunRead (.pollStream 0 [] []), asking.current = none ∧
      ∃ bulkIn, asking.bulkIn = some bulkIn ∧ bulkIn.pending.length = RFONE_TRANSFER_COUNT := by
  have hreachable : System.Reachable (ValidConfig.standard .rawAdc) begunRead :=
    System.reachable_after _ _ _
  exact ⟨by decide +kernel, ((buffers_conserved hreachable).2 _).2⟩

end HydraSdr.Analysis.BufferPool
