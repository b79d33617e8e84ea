import HydraSdr.Analysis.StreamRuns

/-!
# Queues over whole runs

The rule by which a property of queues is shown of every queue of a run, and the life of a queue:
what later states of a run say of a queue on the same endpoint.
-/

set_option autoImplicit false

namespace HydraSdr.Analysis

open HydraSdr.Program

variable {F : Type} {mode : SampleFormat}

/-! ## What every operation on a queue keeps -/

/-- What the driver may do to a queue keeps the property: build it on an endpoint newer than the
first `since`, submit its buffers, give the current one back, pause it, count, adopt settings of the
same packing, and take a completion without failing. -/
structure KeptByQueue (since : ℕ) (keep : Queue → Prop) : Prop where
  opened : ∀ id settings, since < id → keep (Queue.new (BulkIn.opened id) settings)
  submit : ∀ queue bulkIn, queue.bulkIn = some bulkIn → queue.initialized = false → keep queue →
    keep { queue with
      bulkIn := some (queue.buffers.foldl BulkIn.submit bulkIn)
      buffers := []
      initialized := true }
  release : ∀ queue, keep queue → keep queue.releaseCurrent
  pause : ∀ queue bulkIn, queue.bulkIn = some bulkIn → queue.current = none → keep queue →
    keep { queue with
      discardRemaining := bulkIn.pending.length
      bulkIn := some bulkIn.cancelAll }
  stats : ∀ queue stats, keep queue → keep { queue with stats := stats }
  settings : ∀ queue settings, settings.packing = queue.settings.packing → keep queue →
    keep { queue with settings := settings }
  turn : ∀ queue bulkIn buffer pending arrival turn queue', queue.bulkIn = some bulkIn →
    bulkIn.pending = buffer :: pending → queue.current = none →
    TurnCases queue bulkIn buffer pending arrival turn queue' → (∀ e, turn ≠ .ends (.error e)) →
    keep queue → keep queue'

/-- A stream's queue, if it has one, satisfies the property. -/
def QueueHas (keep : Queue → Prop) (receiver : Receiver F mode) : Prop :=
  ∀ queue, receiver.queue = some queue → keep queue

theorem queueHas_none {keep : Queue → Prop} {receiver : Receiver F mode}
    (h : receiver.queue = none) : QueueHas keep receiver :=
  fun _ hqueue => nomatch h.symm.trans hqueue

theorem queueHas_some {keep : Queue → Prop} {receiver : Receiver F mode} {queue : Queue}
    (hqueue : receiver.queue = some queue) (h : keep queue) : QueueHas keep receiver :=
  fun _ hother => Option.some.inj (hqueue.symm.trans hother) ▸ h

theorem KeptByQueue.discard {since : ℕ} {keep : Queue → Prop} (hkeep : KeptByQueue since keep)
    {queue : Queue} (h : keep queue) : keep queue.discardCurrent := by
  obtain ⟨stats, heq⟩ := discardCurrent_eq queue
  rw [heq]
  exact hkeep.stats _ stats (hkeep.release _ h)

theorem discardCurrent_settings (queue : Queue) : queue.discardCurrent.settings = queue.settings := by
  obtain ⟨stats, heq⟩ := discardCurrent_eq queue
  rw [heq]
  exact releaseCurrent_settings queue

/-- Taking a completion keeps what every operation on a queue keeps. -/
theorem KeptByQueue.take {since : ℕ} {keep : Queue → Prop} (hkeep : KeptByQueue since keep)
    {queue queue' : Queue} {arrival : Arrival} {turn : Queue.Turn} (hcurrent : queue.current = none)
    (hturn : queue.turn (some arrival) = .ok (turn, queue'))
    (hresult : ∀ e, turn ≠ .ends (.error e)) (h : keep queue) : keep queue' := by
  rcases turn_cases hturn with ⟨_, hend, _⟩ | ⟨bulkIn, buffer, pending, hbulk, hpending, hcases⟩
  · exact absurd hend (hresult _)
  · exact hkeep.turn queue bulkIn buffer pending arrival turn queue' hbulk hpending hcurrent hcases
      hresult h

/-- A fill that does not fail keeps what every operation on a queue keeps. -/
theorem KeptByQueue.fill {since : ℕ} {keep : Queue → Prop} (hkeep : KeptByQueue since keep)
    {queue queue' : Queue} {arrivals rest : List Arrival} {result : Option (Result Unit)}
    (hfills : Fills queue arrivals result queue' rest) (hresult : ∀ e, result ≠ some (.error e))
    (hcurrent : queue.current = none) (h : keep queue) : keep queue' := by
  induction hfills with
  | waits _ => exact h
  | again hbulk hpending hcases _ ih =>
    have hgoes : ∀ e, Queue.Turn.again ≠ .ends (.error e) := fun _ => Queue.Turn.noConfusion
    refine ih hresult ?_ (hkeep.turn _ _ _ _ _ _ _ hbulk hpending hcurrent hcases hgoes h)
    cases hcases
    exact hcurrent
  | ends hbulk hpending hcases =>
    have hends : ∀ e, Queue.Turn.ends _ ≠ .ends (.error e) :=
      fun e hend => hresult e (congrArg some (Queue.Turn.ends.inj hend))
    exact hkeep.turn _ _ _ _ _ _ _ hbulk hpending hcurrent hcases hends h

variable [SampleArithmetic F]

/-- **Every move of a stream** keeps what every operation on a queue keeps. -/
theorem KeptByQueue.move {since : ℕ} {keep : Queue → Prop} (hkeep : KeptByQueue since keep)
    {w w' : StreamWorld F mode} (hsince : since ≤ w.wire.opened) (hinv : StreamInv w)
    (move : Move w w') (h : QueueHas keep w.receiver) : QueueHas keep w'.receiver := by
  cases move with
  | requireCleanup _ => exact h
  | issue _ _ _ => exact h
  | settle _ _ _ _ _ => exact h
  | retire _ _ => exact queueHas_none (retireStream_queue _)
  | adopt _ settings _ _ _ hpacking =>
    intro queue' hqueue'
    obtain ⟨queue, hqueue, _, hcases⟩ := adopt_queue settings w.receiver hqueue'
    have hsame := (hpacking queue hqueue).symm
    rcases hcases with ⟨_, rfl⟩ | rfl
    · exact hkeep.settings queue settings hsame (h queue hqueue)
    · exact hkeep.settings _ settings (by rw [discardCurrent_settings]; exact hsame)
        (hkeep.discard (h queue hqueue))
  | openQueue _ wire settings _ _ _ _ _ _ hopened =>
    refine queueHas_some rfl (hkeep.opened _ settings ?_)
    rw [hopened]
    exact Nat.lt_succ_of_le hsince
  | submitBuffers _ _ hqueue hnew hsubmit =>
    obtain ⟨bulkIn, hbulk, _⟩ := hinv.endpoint _ hqueue
    rw [submitBuffers_open hbulk hsubmit]
    exact queueHas_some rfl (hkeep.submit _ bulkIn hbulk hnew (h _ hqueue))
  | run _ _ _ _ _ => exact h
  | pause _ _ _ =>
    intro queue' hqueue'
    obtain ⟨queue, hqueue, rfl⟩ := Option.map_eq_some_iff.mp hqueue'
    obtain ⟨bulkIn, hbulk, _⟩ := hinv.endpoint queue hqueue
    obtain ⟨bulkIn', hbulk', _, hpause⟩ := pause_open hbulk
    rw [hpause]
    exact hkeep.pause _ bulkIn' hbulk' (releaseCurrent_current queue)
      (hkeep.release _ (h queue hqueue))
  | release _ _ hqueue => exact queueHas_some rfl (hkeep.release _ (h _ hqueue))
  | take _ arrival _ hqueue hcurrent _ hturn hresult =>
    exact queueHas_some rfl (hkeep.take hcurrent hturn hresult (h _ hqueue))
  | reject _ _ _ _ _ _ => exact queueHas_none (retireStream_queue _)
  | redecimate _ _ hqueue _ =>
    exact queueHas_some rfl (hkeep.settings _ _ (by rw [discardCurrent_settings])
      (hkeep.discard (h _ hqueue)))
  | @convert _ _ _ _ result _ _ hqueue hprocess =>
    cases result with
    | error e => exact queueHas_none (retireStream_queue _)
    | ok samples =>
      refine queueHas_some rfl ?_
      rcases process_queue hprocess with heq | heq
      · rw [heq]
        exact h _ hqueue
      · rw [heq]
        exact hkeep.release _ (h _ hqueue)

theorem KeptByQueue.moves {since : ℕ} {keep : Queue → Prop} (hkeep : KeptByQueue since keep)
    {w w' : StreamWorld F mode} (hsince : since ≤ w.wire.opened) (hinv : StreamInv w)
    (hmoves : Moves w w') (h : QueueHas keep w.receiver) : QueueHas keep w'.receiver := by
  induction hmoves with
  | none => exact h
  | step moves move ih =>
    exact hkeep.move (hsince.trans moves.extends.opened) (hinv.moves moves) move ih

/-- What holds of the queue of one stream, while it is live. -/
def StreamQueueHas (keep : Queue → Prop) (s : System F mode) (stream : ℕ) : Prop :=
  ∀ phase receiver, s.streams[stream]? = some phase → phase.receiver? = some receiver →
    QueueHas keep receiver

/-- **Every effect** keeps what every operation on a queue keeps. -/
theorem KeptByQueue.effect {since : ℕ} {keep : Queue → Prop} (hkeep : KeptByQueue since keep)
    {s s' : System F mode} (hsince : since ≤ s.wire.opened) (hinv : SystemInv s)
    (heffect : Effect s s') {stream : ℕ} (h : StreamQueueHas keep s stream) :
    StreamQueueHas keep s' stream := by
  intro phase' receiver' hphase' hreceiver'
  cases heffect.evolved hinv hphase' hreceiver' with
  | untouched hphase hreceiver _ => exact h _ _ hphase hreceiver
  | moved hphase hreceiver hmoves hsame _ _ =>
    rw [← hsame]
    exact hkeep.moves hsince (hinv.streamInv (List.mem_of_getElem? hphase) hreceiver) hmoves
      (h _ _ hphase hreceiver)
  | dropped _ _ _ hqueue _ => exact queueHas_none hqueue
  | acquired _ hqueue => exact queueHas_none hqueue

/-- Steps of a stream only add to the wire. -/
theorem Outcome.extends {stream : ℕ} {w : StreamWorld F mode} {step : StreamStep F mode}
    (h : Outcome stream w step) : Extends w.wire step.wire := by
  cases h with
  | kept hmoves _ hwire _ _ _ =>
    rw [hwire]
    exact hmoves.extends
  | dropped hmoves _ hwire _ _ _ _ =>
    rw [hwire]
    exact hmoves.extends
  | released hmoves _ _ hwire _ _ _ _ _ =>
    rw [hwire]
    exact hmoves.extends

/-- Effects only add to the wire. -/
theorem Effect.extends {s s' : System F mode} (heffect : Effect s s') :
    Extends s.wire s'.wire := by
  cases heffect with
  | device _ hshared _ _ _ => exact hshared.wire
  | acquire _ _ _ hwire _ _ =>
    rw [hwire]
    exact .refl _
  | stream hphase hsteps =>
    obtain ⟨receiver, _, houtcome⟩ := hsteps
    exact houtcome.extends

/-- **What every operation on a queue keeps holds of every queue of a reachable state.** -/
theorem reachable_queue {keep : Queue → Prop} (hkeep : KeptByQueue 0 keep)
    {config : ValidConfig mode} {s : System F mode} (h : System.Reachable config s)
    {phase : StreamPhase F mode} (hphase : phase ∈ s.streams) {receiver : Receiver F mode}
    (hreceiver : phase.receiver? = some receiver) : QueueHas keep receiver := by
  have hall : ∀ stream, StreamQueueHas keep s stream := by
    refine @reachable_induct _ _ _ config (fun s => ∀ stream, StreamQueueHas keep s stream) ?_ ?_ _ h
    · exact fun _ _ _ hphase => nomatch hphase
    · exact fun _ _ hinv _ heffect ih stream =>
        hkeep.effect (Nat.zero_le _) hinv heffect (ih stream)
  obtain ⟨stream, hlt, hget⟩ := List.mem_iff_getElem.mp hphase
  exact hall stream phase receiver (List.getElem?_eq_some_iff.mpr ⟨hlt, hget⟩) hreceiver

/-- Endpoints stay counted while a run goes on. -/
theorem later_opened {config : ValidConfig mode} {s s' : System F mode}
    (hs : System.Reachable config s) (h : Later s s') : s.wire.opened ≤ s'.wire.opened := by
  refine @later_induct _ _ _ config (fun s' => s.wire.opened ≤ s'.wire.opened) _ _ hs ?_ h
    (Nat.le_refl _)
  intro a b _ _ heffect hopened
  exact hopened.trans heffect.extends.opened

/-- **What the queue of a stream keeps while a run goes on**, unless it is replaced by one on an
endpoint opened later. -/
theorem later_queue {keep : Queue → Prop} {config : ValidConfig mode} {s s' : System F mode}
    (hs : System.Reachable config s) (hkeep : KeptByQueue s.wire.opened keep) {stream : ℕ}
    (hstart : StreamQueueHas keep s stream) (h : Later s s') : StreamQueueHas keep s' stream := by
  have hboth : s.wire.opened ≤ s'.wire.opened ∧ StreamQueueHas keep s' stream := by
    refine @later_induct _ _ _ config
      (fun s' => s.wire.opened ≤ s'.wire.opened ∧ StreamQueueHas keep s' stream) _ _ hs ?_ h
      ⟨Nat.le_refl _, hstart⟩
    rintro a b hinv _ heffect ⟨hopened, hqueue⟩
    exact ⟨hopened.trans heffect.extends.opened, hkeep.effect hopened hinv heffect hqueue⟩
  exact hboth.2

end HydraSdr.Analysis
