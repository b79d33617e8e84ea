import HydraSdr.Analysis.EndpointAccounts
import Mathlib.Data.List.Forall2

/-!
# Delivery of raw blocks

Every accepted completion of a raw stream is returned as a block, once and in the order of
completion, whichever of the blocking call, the polled future and their cancellations take part.  Its
buffer stays with the stream until the next fill begins or the stream is stopped or closed.
-/

set_option autoImplicit false

namespace HydraSdr.Analysis.BlockDelivery

open HydraSdr.Program HydraSdr.Computation HydraSdr.Analysis

variable {F : Type} {mode : SampleFormat}

/-! ## Blocks -/

/-- A block that a call has returned, with the queue that the call has left. -/
abbrev Delivery := Option Queue × SampleBlock

/-- The block that an event hands over for a stream. -/
def deliveredBy (stream : ℕ) : CallEvent F mode → Option Delivery
  | .block other (.ok (some block)) queue => if other = stream then some (queue, block) else none
  | _ => none

/-- The blocks that the calls of a stream have returned, oldest first. -/
def deliveries (stream : ℕ) (history : List (CallEvent F mode)) : List Delivery :=
  history.filterMap (deliveredBy stream)

/-- Whether a block has been returned by a call that has left a queue on this endpoint. -/
def fromEndpoint (endpoint : ℕ) (delivery : Delivery) : Bool :=
  (delivery.1.bind Queue.bulkIn).any fun bulkIn => bulkIn.id == endpoint

/-- A block has all the bytes of an accepted completion: it is as long as the transfers of its
queue. -/
structure Delivers (taken : Taken) (delivery : Delivery) : Prop where
  endpoint : ∃ queue bulkIn, delivery.1 = some queue ∧ queue.bulkIn = some bulkIn ∧
    bulkIn.id = taken.endpoint ∧
    taken.completion.actualLen = transferLength queue.settings.packing
  status : taken.completion.status = .ok ()
  bytes : delivery.2.raw = taken.completion.buffer.bytes.take taken.completion.actualLen
  full : delivery.2.raw.length = taken.completion.actualLen

@[simp] theorem deliveries_append (stream : ℕ) (history events : List (CallEvent F mode)) :
    deliveries stream (history ++ events) =
      deliveries stream history ++ deliveries stream events := by
  simp [deliveries]

theorem deliveries_block (stream : ℕ) (block : SampleBlock) (queue : Option Queue) :
    deliveries stream ([.block stream (.ok (some block)) queue] : List (CallEvent F mode)) =
      [(queue, block)] := by
  simp [deliveries, deliveredBy]

theorem eventStream_of_delivered {stream : ℕ} {event : CallEvent F mode} {delivery : Delivery}
    (h : deliveredBy stream event = some delivery) : eventStream event = some stream := by
  unfold deliveredBy at h
  split at h
  · split at h
    · rename_i hsame
      exact congrArg some hsame
    · exact nomatch h
  · exact nomatch h

/-- Events of other streams hand over nothing. -/
theorem deliveries_apart {stream : ℕ} {events : List (CallEvent F mode)}
    (h : ∀ event ∈ events, eventStream event ≠ some stream) : deliveries stream events = [] := by
  unfold deliveries
  rw [List.filterMap_eq_nil_iff]
  intro event hevent
  cases hdelivered : deliveredBy stream event with
  | none => rfl
  | some delivery => exact absurd (eventStream_of_delivered hdelivered) (h event hevent)

/-- The block of a queue. -/
theorem block_ok {queue : Queue} {block : SampleBlock} {buffer : Buffer}
    (hcurrent : queue.current = some buffer) (h : queue.block = .ok (.ok block)) :
    block.raw = buffer.bytes.take queue.currentLen ∧ queue.currentLen ≤ buffer.bytes.length := by
  unfold Queue.block at h
  rw [hcurrent] at h
  dsimp only at h
  split at h
  · exact nomatch h
  · rename_i hlength
    cases h
    exact ⟨rfl, Nat.not_lt.mp hlength⟩

variable [SampleArithmetic F]

omit [SampleArithmetic F] in
/-- Acts that do not read hand over nothing. -/
theorem deliveries_control {stream : ℕ} {w' : StreamWorld F mode} {events : List (CallEvent F mode)}
    (h : ∀ event ∈ events, ControlEvent stream w' event) : deliveries stream events = [] := by
  unfold deliveries
  rw [List.filterMap_eq_nil_iff]
  intro event hevent
  cases h event hevent <;> rfl

/-- **A fill that accepts a completion hands it over.** -/
theorem deliveries_fill {stream : ℕ} {w : StreamWorld F .rawAdc} {queue queue' : Queue}
    {arrivals rest : List Arrival} {result : Option (Result Unit)}
    {events : List (CallEvent F .rawAdc)} (hinv : StreamInv (w.setQueue queue))
    (hfills : Fills queue arrivals result queue' rest)
    (hreport : BlockReport stream (afterFill result queue' w) result events) :
    List.Forall₂ Delivers (acceptedOf (loopTakes arrivals queue)) (deliveries stream events) := by
  rcases hfills.accepts with ⟨rfl, taken, haccepted, hcurrent', hlength, hcheck⟩ | ⟨hnot, hnone, _⟩
  · obtain ⟨bulkIn, hbulk, _⟩ := hinv.endpoint queue rfl
    obtain ⟨bulkIn', hbulk', hid, _⟩ := hfills.completed (fun _ h => nomatch h) hbulk
    have hendpoint : taken.endpoint = bulkIn.id := by
      apply hfills.endpoint hbulk
      have hmem : taken ∈ acceptedOf (loopTakes arrivals queue) := by
        rw [haccepted]
        exact List.mem_singleton_self taken
      exact (List.mem_filter.mp hmem).1
    obtain ⟨hstatus, hactual, _⟩ := checkCompletion_ok hcheck
    rw [haccepted]
    cases hreport with
    | delivered hblock =>
      have hblock' : queue'.block = .ok (.ok _) := hblock
      obtain ⟨hraw, hfits⟩ := block_ok hcurrent' hblock'
      rw [deliveries_block]
      refine .cons ⟨⟨queue', bulkIn', rfl, hbulk', hid.trans hendpoint.symm, ?_⟩, hstatus, ?_, ?_⟩ .nil
      · rw [hactual, hfills.settings]
      · rw [hraw, hlength]
      · rw [hraw, List.length_take, ← hlength, Nat.min_eq_left hfits]
  · rw [hnone]
    cases hreport with
    | pending => exact .nil
    | timeout => exact .nil
    | delivered _ => exact absurd rfl hnot
    | failed e => exact .nil

/-- What a step hands over is what it accepts. -/
theorem stepped_delivers {config : ValidConfig .rawAdc} {stream : ℕ} {s s' : System F .rawAdc}
    {events : List (CallEvent F .rawAdc)} {work : Work} (hs : System.Reachable config s)
    (hstepped : Stepped stream s s' events work) :
    List.Forall₂ Delivers (acceptedOf (takesOf work.1)) (deliveries stream events) := by
  cases hstepped with
  | untouched _ hothers =>
    rw [deliveries_apart hothers]
    exact .nil
  | added _ _ hothers =>
    rw [deliveries_apart hothers]
    exact .nil
  | acted hphase hreceiver hact _ _ _ _ =>
    have hinv := (reachable_inv hs).system.streamInv (List.mem_of_getElem? hphase) hreceiver
    cases hact with
    | control _ hevents =>
      rw [deliveries_control hevents]
      exact .nil
    | stops _ _ => exact .nil
    | @blocks _ w₁ queue _ _ _ _ _ hmoves hstate hqueue hfill hreport =>
      have hreleased := (hinv.moves hmoves.moves).moves (Move.release w₁ hstate hqueue).moves
      exact deliveries_fill hreleased (fillLoop_fills (queue_open hreleased rfl) hfill) hreport

/-- **Every accepted completion is handed over**, once and in order. -/
theorem traced_delivers {config : ValidConfig .rawAdc} {stream : ℕ} {s : System F .rawAdc}
    {takes : List Taken} {discards : ℕ} (h : Traced config stream s takes discards) :
    List.Forall₂ Delivers (acceptedOf takes) (deliveries stream s.history) := by
  refine @traced_induct F _ .rawAdc config stream
    (fun s takes _ => List.Forall₂ Delivers (acceptedOf takes) (deliveries stream s.history))
    .nil ?_ s takes discards h
  intro s s' takes _ events work hs _ hhistory _ hstepped ih
  rw [hhistory, deliveries_append, acceptedOf_append]
  exact List.rel_append ih (stepped_delivers hs hstepped)

omit [SampleArithmetic F] in
theorem acceptedOf_takesAt (endpoint : ℕ) (takes : List Taken) :
    acceptedOf (takesAt endpoint takes) =
      (acceptedOf takes).filter fun taken => taken.endpoint = endpoint := by
  unfold acceptedOf takesAt
  rw [List.filter_filter, List.filter_filter]
  congr 1
  funext taken
  exact Bool.and_comm _ _

omit [SampleArithmetic F] in
/-- What is accepted from one endpoint and what is handed over from it. -/
theorem delivers_endpoint {accepted : List Taken} {delivered : List Delivery}
    (h : List.Forall₂ Delivers accepted delivered) (endpoint : ℕ) :
    List.Forall₂ Delivers (accepted.filter fun taken => taken.endpoint = endpoint)
      (delivered.filter (fromEndpoint endpoint)) := by
  refine List.rel_filter ?_ h
  intro taken delivery hdelivers
  obtain ⟨queue, bulkIn, hqueue, hbulk, hid, _⟩ := hdelivers.endpoint
  show decide (taken.endpoint = endpoint) = true ↔ fromEndpoint endpoint delivery = true
  rw [decide_eq_true_eq]
  unfold fromEndpoint
  rw [hqueue, Option.bind_some, hbulk, ← hid]
  exact beq_iff_eq.symm

/-! ## The buffer of a block -/

/-- A queue whose buffers have not been submitted holds none and has asked for nothing. -/
def Untouched (queue : Queue) : Prop :=
  queue.initialized = false → queue.current = none ∧
    ∀ bulkIn, queue.bulkIn = some bulkIn → bulkIn.pending = []

omit [SampleArithmetic F] in
/-- A queue that holds a buffer has submitted its pool. -/
theorem initialized_of_held {queue : Queue} (h : Untouched queue) (hheld : queue.current ≠ none) :
    queue.initialized = true := by
  by_contra hnot
  exact hheld (h (Bool.not_eq_true _ ▸ hnot)).1

omit [SampleArithmetic F] in
theorem keptByQueue_untouched (since : ℕ) : KeptByQueue since Untouched where
  opened id settings _ _ := by
    refine ⟨rfl, ?_⟩
    intro bulkIn hbulk
    obtain rfl := Option.some.inj hbulk
    rfl
  submit _ _ _ _ _ hfalse := nomatch hfalse
  release queue h hnew := by
    obtain ⟨hcurrent, hpending⟩ := h (by
      rw [← (keepsEndpoint_releaseCurrent queue).initialized]
      exact hnew)
    rw [releaseCurrent_of_none hcurrent]
    exact ⟨hcurrent, hpending⟩
  pause queue bulkIn hbulk _ h hnew := by
    obtain ⟨hcurrent, hpending⟩ := h hnew
    refine ⟨hcurrent, ?_⟩
    intro bulkIn' hbulk'
    obtain rfl := Option.some.inj hbulk'
    exact hpending bulkIn hbulk
  stats _ _ h := h
  settings _ _ _ h := h
  turn queue bulkIn buffer pending _ _ _ hbulk hpending _ hcases _ h hnew := by
    have hbefore : queue.initialized = false := by
      cases hcases <;> exact hnew
    have hempty := (h hbefore).2 bulkIn hbulk
    exact nomatch hpending.symm.trans hempty

/-- The endpoint of a queue, if it has one, has been opened after so many others. -/
def NewerThan (opened : ℕ) (queue : Queue) : Prop :=
  ∀ bulkIn, queue.bulkIn = some bulkIn → opened < bulkIn.id

omit [SampleArithmetic F] in
theorem keptByQueue_newerThan (opened : ℕ) : KeptByQueue opened (NewerThan opened) where
  opened id settings hnew bulkIn hbulk := by
    obtain rfl := Option.some.inj hbulk
    exact hnew
  submit queue bulkIn hbulk _ h bulkIn' hbulk' := by
    obtain rfl := Option.some.inj hbulk'
    rw [foldl_submit_id]
    exact h bulkIn hbulk
  release queue h bulkIn' hbulk' := by
    obtain ⟨bulkIn, hbulk, hid, _⟩ := sameEndpoint_release queue bulkIn' hbulk'
    rw [hid]
    exact h bulkIn hbulk
  pause queue bulkIn hbulk _ h bulkIn' hbulk' := by
    obtain rfl := Option.some.inj hbulk'
    exact h bulkIn hbulk
  stats _ _ h := h
  settings _ _ _ h := h
  turn queue bulkIn _ _ _ _ _ hbulk _ _ hcases hresult h bulkIn' hbulk' := by
    have hid : bulkIn'.id = bulkIn.id := by
      cases hcases with
      | discarded _ =>
        obtain rfl := Option.some.inj hbulk'
        rfl
      | accepted _ _ =>
        obtain rfl := Option.some.inj hbulk'
        rfl
      | rejected _ _ => exact absurd rfl (hresult _)
    rw [hid]
    exact h bulkIn hbulk

/-- A fill stays on its endpoint. -/
theorem afterFill_newer {w : StreamWorld F mode} {queue queue' : Queue}
    {arrivals rest : List Arrival} {result : Option (Result Unit)} {opened : ℕ}
    (hfills : Fills queue arrivals result queue' rest) (hopen : queue.bulkIn ≠ none)
    (h : NewerThan opened queue) :
    QueueHas (NewerThan opened) (afterFill result queue' w).receiver := by
  obtain ⟨bulkIn, hbulk⟩ := Option.ne_none_iff_exists'.mp hopen
  by_cases hfailed : ∃ e, result = some (.error e)
  · obtain ⟨e, rfl⟩ := hfailed
    exact queueHas_none (retireStream_queue _)
  · have hresult : ∀ e, result ≠ some (.error e) := fun e he => hfailed ⟨e, he⟩
    obtain ⟨bulkIn', hbulk', hid, _⟩ := hfills.completed hresult hbulk
    have hleft : (afterFill result queue' w).receiver.queue = some queue' := by
      match result with
      | none => rfl
      | some (.ok _) => rfl
      | some (.error e) => exact absurd rfl (hresult e)
    refine queueHas_some hleft ?_
    intro other hother
    obtain rfl := Option.some.inj (hbulk'.symm.trans hother)
    rw [hid]
    exact h bulkIn hbulk

/-- Pausing stays on the endpoint. -/
theorem queueHas_pause {opened : ℕ} {receiver : Receiver F mode}
    (h : QueueHas (NewerThan opened) receiver) :
    QueueHas (NewerThan opened) receiver.pause := by
  intro queue' hqueue' bulkIn' hbulk'
  obtain ⟨queue, hqueue, rfl⟩ := Option.map_eq_some_iff.mp hqueue'
  obtain ⟨bulkIn, hbulk, hid, _⟩ := sameEndpoint_pause queue bulkIn' hbulk'
  rw [hid]
  exact h queue hqueue bulkIn hbulk

/-- **Control moves keep a queue that holds a buffer**, or give it up: the stream then has no queue,
or one on an endpoint opened later. -/
theorem controlMoves_hold {w w' : StreamWorld F mode} (hmoves : ControlMoves w w')
    (hinv : StreamInv w) {queue : Queue} (hqueue : w.receiver.queue = some queue)
    (hheld : queue.current ≠ none) (hinitialized : queue.initialized = true) :
    w'.receiver.queue = some queue ∨ QueueHas (NewerThan w.wire.opened) w'.receiver := by
  induction hmoves with
  | none => exact .inl hqueue
  | @step m m' hmoves move hcontrol hstops ih =>
    have hinv' := hinv.moves hmoves.moves
    rcases ih with hsame | hnewer
    · rcases hcontrol with hstate | rfl
      · cases move with
        | requireCleanup _ => exact .inl hsame
        | issue _ _ _ => exact .inl hsame
        | settle _ _ _ _ _ => exact .inl hsame
        | run _ _ _ _ _ => exact .inl hsame
        | retire _ _ => exact .inr (queueHas_none (retireStream_queue _))
        | adopt _ _ _ _ hcurrent _ => exact absurd (hcurrent queue hsame) hheld
        | openQueue _ _ _ _ _ _ hnone _ _ _ => exact nomatch hsame.symm.trans hnone
        | submitBuffers _ _ hother hnew _ =>
          obtain rfl := Option.some.inj (hsame.symm.trans hother)
          exact nomatch hnew.symm.trans hinitialized
        | pause _ hcleanup _ => exact absurd (hstops rfl) (not_stopped hcleanup)
        | release _ hrunning _ => exact absurd hrunning hstate
        | take _ _ hrunning _ _ _ _ _ => exact absurd hrunning hstate
        | reject _ _ hrunning _ _ _ => exact absurd hrunning hstate
        | redecimate _ hrunning _ _ => exact absurd hrunning hstate
        | convert _ hrunning _ _ => exact absurd hrunning hstate
      · exact .inl hsame
    · exact .inr ((keptByQueue_newerThan _).move hmoves.moves.extends.opened hinv' move hnewer)

/-- What a fill leaves of the endpoint it was given.  Each completion that it has discarded has been
submitted again and nothing else has, and the queue holds the buffer of the one it has accepted. -/
structure Refilled (bulkIn : BulkIn) (takes : List Taken) (queue' : Queue) (bulkIn' : BulkIn) :
    Prop where
  id : bulkIn'.id = bulkIn.id
  completed : bulkIn'.completed = bulkIn.completed ++ takes.map Taken.completion
  submitted : bulkIn'.submitted =
    bulkIn.submitted + takes.countP fun taken => taken.fate = .discarded
  current : queue'.current = (acceptedOf takes).getLast?.map fun taken => taken.completion.buffer

/-- What a step does to the buffer of the block that was handed over last.  It stays with the stream,
and nothing is submitted; or a fill begins by submitting it; or a stop succeeds, which submits it and
cancels; or the endpoint is gone, and its buffers with it. -/
inductive HeldStep (stream : ℕ) (s' : System F .rawAdc) (events : List (CallEvent F .rawAdc))
    (fill : Option (Queue × List Arrival)) (queue : Queue) (bulkIn : BulkIn) (buffer : Buffer) : Prop
  | kept (hqueue : OwnsQueue s' stream queue bulkIn) (hfill : fill = none)
      (hevents : ∀ stats, .stopped stream (.ok stats) ∉ events)
  | filled {arrivals : List Arrival} (hfill : fill = some (queue.releaseCurrent, arrivals))
      (hsubmit : queue.releaseCurrent.bulkIn = some (bulkIn.submit buffer))
      (hqueue : ∀ queue' bulkIn', OwnsQueue s' stream queue' bulkIn' →
        Refilled (bulkIn.submit buffer) (loopTakes arrivals queue.releaseCurrent) queue' bulkIn')
      (hevents : ∀ stats, .stopped stream (.ok stats) ∉ events)
  | stopped {stats : StreamingStats} (hevent : .stopped stream (.ok stats) ∈ events)
      (hqueue : OwnsQueue s' stream queue.pause (bulkIn.submit buffer).cancelAll)
      (hcurrent : queue.pause.current = none)
  | freed (hgone : ∀ queue' bulkIn', OwnsQueue s' stream queue' bulkIn' → bulkIn'.id ≠ bulkIn.id)

omit [SampleArithmetic F] in
/-- Giving the current buffer back submits it. -/
theorem releaseCurrent_submits {queue : Queue} {bulkIn : BulkIn} {buffer : Buffer}
    (hbulk : queue.bulkIn = some bulkIn) (hcurrent : queue.current = some buffer) :
    queue.releaseCurrent.bulkIn = some (bulkIn.submit buffer) := by
  unfold Queue.releaseCurrent
  rw [hbulk, hcurrent]

omit [SampleArithmetic F] in
theorem pause_submits {queue : Queue} {bulkIn : BulkIn} {buffer : Buffer}
    (hbulk : queue.bulkIn = some bulkIn) (hcurrent : queue.current = some buffer) :
    queue.pause.bulkIn = some (bulkIn.submit buffer).cancelAll := by
  unfold Queue.pause
  dsimp only
  rw [releaseCurrent_submits hbulk hcurrent]

omit [SampleArithmetic F] in
/-- The queue that a stream has after an act, if it has one, is the one that the act has left. -/
theorem ownsQueue_left {stream : ℕ} {s' : System F mode} {phase phase' : StreamPhase F mode}
    {receiver left : Receiver F mode} (hreceiver : phase.receiver? = some receiver)
    (hphase' : s'.streams[stream]? = some phase') (hleaves : Leaves phase left phase')
    {queue : Queue} {bulkIn : BulkIn} (h : OwnsQueue s' stream queue bulkIn) :
    left.queue = some queue ∧ queue.bulkIn = some bulkIn := by
  obtain ⟨other, receiver', hother, howned, hqueue, hbulk⟩ := h
  obtain rfl := Option.some.inj (hphase'.symm.trans hother)
  obtain ⟨_, rfl⟩ := hleaves.owned hreceiver howned
  exact ⟨hqueue, hbulk⟩

omit [SampleArithmetic F] in
/-- A queue that an act has left is one that the stream has, or the stream has none. -/
theorem ownsQueue_or {stream : ℕ} {s' : System F mode} {phase phase' : StreamPhase F mode}
    {left : Receiver F mode} (hphase' : s'.streams[stream]? = some phase')
    (hleaves : Leaves phase left phase') {queue : Queue} {bulkIn : BulkIn}
    (hqueue : left.queue = some queue) (hbulk : queue.bulkIn = some bulkIn) :
    OwnsQueue s' stream queue bulkIn ∨ ∀ queue' bulkIn', ¬OwnsQueue s' stream queue' bulkIn' := by
  cases howned : ownedReceiver phase' with
  | none =>
    refine .inr ?_
    rintro queue' bulkIn' ⟨other, receiver', hother, howned', _⟩
    obtain rfl := Option.some.inj (hphase'.symm.trans hother)
    exact nomatch howned.symm.trans howned'
  | some receiver' =>
    cases hleaves with
    | kept hleft _ =>
      obtain rfl := Option.some.inj ((receiver_of_owned howned).symm.trans hleft)
      exact .inl ⟨phase', _, hphase', howned, hqueue, hbulk⟩
    | dropped hnone _ => exact nomatch hnone.symm.trans howned

/-- **A fill submits what it discards**, and holds what it accepts. -/
theorem fills_refilled {w : StreamWorld F .rawAdc} {queue queue' queue'' : Queue}
    {arrivals rest : List Arrival} {result : Option (Result Unit)} {bulkIn bulkIn' : BulkIn}
    (hfills : Fills queue arrivals result queue' rest) (hcurrent : queue.current = none)
    (hbulk : queue.bulkIn = some bulkIn)
    (hqueue : (afterFill result queue' w).receiver.queue = some queue'')
    (hbulk' : queue''.bulkIn = some bulkIn') :
    Refilled bulkIn (loopTakes arrivals queue) queue'' bulkIn' := by
  have hresult : ∀ e, result ≠ some (.error e) := by
    rintro e rfl
    exact nomatch (retireStream_queue _).symm.trans hqueue
  have hleft : queue'' = queue' := by
    match result with
    | none => exact (Option.some.inj hqueue).symm
    | some (.ok _) => exact (Option.some.inj hqueue).symm
    | some (.error e) => exact absurd rfl (hresult e)
  subst hleft
  obtain ⟨other, hother, hid, hcompleted⟩ := hfills.completed hresult hbulk
  obtain rfl := Option.some.inj (hbulk'.symm.trans hother)
  refine ⟨hid, hcompleted, hfills.submitted hbulk hbulk', ?_⟩
  rcases hfills.accepts with ⟨_, taken, haccepted, hheld, _⟩ | ⟨_, hnone, hempty⟩
  · rw [haccepted, hheld]
    rfl
  · rw [hnone, hempty hcurrent]
    rfl

omit [SampleArithmetic F] in
/-- What the caller of `next_block` is told is not that the stream has stopped. -/
theorem blockReport_not_stopped {stream : ℕ} {w' : StreamWorld F .rawAdc}
    {result : Option (Result Unit)} {events : List (CallEvent F .rawAdc)}
    (h : BlockReport stream w' result events) (stopped : Result StreamingStats) :
    .stopped stream stopped ∉ events := by
  cases h <;> simp

/-- **A buffer is given back exactly once**, and not before it has to be. -/
theorem stepped_held {config : ValidConfig .rawAdc} {stream : ℕ} {s s' : System F .rawAdc}
    {events : List (CallEvent F .rawAdc)} {work : Work} (hs : System.Reachable config s)
    (hstepped : Stepped stream s s' events work) {queue : Queue} {bulkIn : BulkIn}
    {buffer : Buffer} (hqueue : OwnsQueue s stream queue bulkIn)
    (hcurrent : queue.current = some buffer) :
    HeldStep stream s' events work.1 queue bulkIn buffer := by
  obtain ⟨phase, receiver, hphase, howned, hreceiver, hbulk⟩ := hqueue
  have hheld : queue.current ≠ none := by
    rw [hcurrent]
    exact Option.some_ne_none _
  cases hstepped with
  | untouched hstream hothers =>
    refine .kept ⟨phase, receiver, hstream.trans hphase, howned, hreceiver, hbulk⟩ rfl ?_
    intro stats hevent
    exact hothers _ hevent rfl
  | added hnone _ _ => exact nomatch hnone.symm.trans hphase
  | @acted _ phase' _ _ _ hphase₁ hreceiver₁ hact hphase' hleaves _ _ =>
    obtain rfl := Option.some.inj (hphase.symm.trans hphase₁)
    obtain rfl := Option.some.inj ((receiver_of_owned howned).symm.trans hreceiver₁)
    have hmem := List.mem_of_getElem? hphase
    have hinv := (reachable_inv hs).system.streamInv hmem hreceiver₁
    have hinitialized : queue.initialized = true :=
      initialized_of_held
        (reachable_queue (keptByQueue_untouched 0) hs hmem hreceiver₁ queue hreceiver) hheld
    have hle : bulkIn.id ≤ s.wire.opened := by
      obtain ⟨bulkIn', hbulk', hle⟩ := hinv.endpoint queue hreceiver
      obtain rfl := Option.some.inj (hbulk.symm.trans hbulk')
      exact hle
    -- a queue on an endpoint opened later is not this one
    have hnewer : ∀ {left : Receiver F .rawAdc} {work : Work},
        QueueHas (NewerThan s.wire.opened) left → Leaves phase left phase' →
        HeldStep stream s' events work.1 queue bulkIn buffer := by
      intro left work hnew hleft
      refine .freed ?_
      intro queue' bulkIn' howns
      obtain ⟨hqueue', hbulk'⟩ := ownsQueue_left hreceiver₁ hphase' hleft howns
      have hlt := hnew queue' hqueue' bulkIn' hbulk'
      omega
    cases hact with
    | control hmoves hevents =>
      rcases controlMoves_hold hmoves hinv hreceiver hheld hinitialized with hsame | hnew
      · rcases ownsQueue_or hphase' hleaves hsame hbulk with howns | hnone
        · refine .kept howns rfl ?_
          intro stats hevent
          cases hevents _ hevent with
          | stopped hreport =>
            have hstopped := (hreport stats rfl).1
            exact hheld ((hinv.moves hmoves.moves).paused hstopped queue bulkIn hsame hbulk).1
        · exact .freed fun queue' bulkIn' howns => absurd howns (hnone queue' bulkIn')
      · exact hnewer hnew hleaves
    | @stops _ _ m _ hmoves hpauses =>
      obtain ⟨_, _, rfl⟩ := hpauses
      rcases controlMoves_hold hmoves hinv hreceiver hheld hinitialized with hsame | hnew
      · have hpaused : (m.onReceiver Receiver.pause).receiver.queue = some queue.pause := by
          show m.receiver.queue.map Queue.pause = some queue.pause
          rw [hsame]
          rfl
        rcases ownsQueue_or hphase' hleaves hpaused (pause_submits hbulk hcurrent) with
          howns | hnone
        · exact .stopped (List.mem_singleton_self _) howns (pause_current queue)
        · exact .freed fun queue' bulkIn' howns => absurd howns (hnone queue' bulkIn')
      · exact hnewer (queueHas_pause hnew) hleaves
    | @blocks _ w₁ queue₁ _ _ _ _ _ hmoves hstate hqueue₁ hfill hreport =>
      have hreleased := (hinv.moves hmoves.moves).moves (Move.release w₁ hstate hqueue₁).moves
      have hopen := queue_open hreleased rfl
      have hfills := fillLoop_fills hopen hfill
      rcases controlMoves_hold hmoves hinv hreceiver hheld hinitialized with hsame | hnew
      · obtain rfl := Option.some.inj (hsame.symm.trans hqueue₁)
        refine .filled rfl (releaseCurrent_submits hbulk hcurrent) ?_ fun _ => blockReport_not_stopped hreport _
        intro queue' bulkIn' howns
        obtain ⟨hqueue', hbulk'⟩ := ownsQueue_left hreceiver₁ hphase' hleaves howns
        exact fills_refilled hfills (releaseCurrent_current queue)
          (releaseCurrent_submits hbulk hcurrent) hqueue' hbulk'
      · refine hnewer (afterFill_newer hfills hopen ?_) hleaves
        exact (keptByQueue_newerThan _).release queue₁ (hnew queue₁ hqueue₁)

/-- A move that does not read fills no current buffer. -/
theorem control_current {w w' : StreamWorld F mode} (move : Move w w')
    (hcontrol : w.receiver.claim.receiver ≠ .running ∨
      w' = w.onReceiver (Receiver.setState .cleanupRequired)) {queue' : Queue} {buffer : Buffer}
    (hqueue' : w'.receiver.queue = some queue') (hcurrent : queue'.current = some buffer) :
    ∃ queue, w.receiver.queue = some queue ∧ queue.current = some buffer := by
  rcases hcontrol with hstate | rfl
  · cases move with
    | requireCleanup _ => exact ⟨queue', hqueue', hcurrent⟩
    | issue _ _ _ => exact ⟨queue', hqueue', hcurrent⟩
    | settle _ _ _ _ _ => exact ⟨queue', hqueue', hcurrent⟩
    | run _ _ _ _ _ => exact ⟨queue', hqueue', hcurrent⟩
    | retire _ _ => exact nomatch (retireStream_queue _).symm.trans hqueue'
    | adopt _ settings _ _ hnone _ =>
      obtain ⟨queue, hqueue, _, ⟨_, rfl⟩ | rfl⟩ := adopt_queue settings w.receiver hqueue'
      · exact ⟨queue, hqueue, hcurrent⟩
      · have hdiscarded : queue.discardCurrent.current = some buffer := hcurrent
        rw [discardCurrent_of_none (hnone queue hqueue)] at hdiscarded
        exact ⟨queue, hqueue, hdiscarded⟩
    | openQueue _ _ _ _ _ _ _ _ _ _ =>
      obtain rfl := Option.some.inj hqueue'
      exact nomatch hcurrent
    | submitBuffers _ _ hqueue _ hsubmit =>
      obtain rfl := Option.some.inj hqueue'
      refine ⟨_, hqueue, ?_⟩
      unfold Queue.submitBuffers at hsubmit
      split at hsubmit
      · cases hsubmit
        exact hcurrent
      · exact nomatch hsubmit
      · cases hsubmit
        exact hcurrent
    | pause _ _ _ =>
      obtain ⟨queue, _, rfl⟩ := Option.map_eq_some_iff.mp hqueue'
      exact nomatch (pause_current queue).symm.trans hcurrent
    | release _ hrunning _ => exact absurd hrunning hstate
    | take _ _ hrunning _ _ _ _ _ => exact absurd hrunning hstate
    | reject _ _ hrunning _ _ _ => exact absurd hrunning hstate
    | redecimate _ hrunning _ _ => exact absurd hrunning hstate
    | convert _ hrunning _ _ => exact absurd hrunning hstate
  · exact ⟨queue', hqueue', hcurrent⟩

/-- A buffer that a stream holds is that of the completion it has accepted last. -/
def HoldsLast (receiver : Receiver F mode) (takes : List Taken) : Prop :=
  ∀ queue buffer, receiver.queue = some queue → queue.current = some buffer →
    ∃ taken, (acceptedOf takes).getLast? = some taken ∧ taken.completion.buffer = buffer

omit [SampleArithmetic F] in
theorem holdsLast_none {receiver : Receiver F mode} (h : receiver.queue = none)
    (takes : List Taken) : HoldsLast receiver takes :=
  fun _ _ hqueue _ => nomatch h.symm.trans hqueue

omit [SampleArithmetic F] in
theorem holdsLast_empty {receiver : Receiver F mode} {queue : Queue}
    (hqueue : receiver.queue = some queue) (hcurrent : queue.current = none)
    (takes : List Taken) : HoldsLast receiver takes := by
  intro queue' buffer hqueue' hcurrent'
  obtain rfl := Option.some.inj (hqueue.symm.trans hqueue')
  exact nomatch hcurrent.symm.trans hcurrent'

/-- Every act keeps it so. -/
theorem holdsLast_kept :
    KeptByActs fun (w : StreamWorld F _) takes _ => HoldsLast w.receiver takes where
  new w claim hnew := by
    rw [hnew]
    exact holdsLast_none rfl _
  rely w w' _ _ hreceiver _ h := by
    rw [hreceiver]
    exact h
  control w w' _ _ _ move hcontrol h queue' buffer hqueue' hcurrent' := by
    obtain ⟨queue, hqueue, hcurrent⟩ := control_current move hcontrol hqueue' hcurrent'
    exact h queue buffer hqueue hcurrent
  release _ queue _ _ _ _ := holdsLast_empty rfl (releaseCurrent_current queue) _
  begin w w' _ _ hbegin h := by
    obtain ⟨_, queue, _, ⟨_, rfl⟩ | ⟨_, rfl⟩⟩ := beginRead_ok hbegin
    · refine holdsLast_empty rfl ?_ _
      obtain ⟨stats, heq⟩ := discardCurrent_eq queue
      show queue.discardCurrent.current = none
      rw [heq]
      exact releaseCurrent_current queue
    · exact h
  fill w queue queue' arrivals rest result takes _ _ hcurrent hfills _ := by
    rcases hfills.accepts with ⟨rfl, taken, haccepted, hcurrent', _⟩ | ⟨hnot, _, hnone⟩
    · intro other buffer hother hbuffer
      obtain rfl := Option.some.inj hother
      refine ⟨taken, ?_, Option.some.inj (hcurrent'.symm.trans hbuffer)⟩
      rw [acceptedOf_append, haccepted, List.getLast?_concat]
    · match result with
      | none => exact holdsLast_empty rfl (hnone hcurrent) _
      | some (.ok _) => exact absurd rfl hnot
      | some (.error e) => exact holdsLast_none (retireStream_queue _) _
  process w w' queue room result _ _ hqueue hprocess h := by
    obtain ⟨⟨_, processor, queue'⟩, hprocessed, heq⟩ := bind_ok hprocess
    cases heq
    cases result with
    | error e => exact holdsLast_none (retireStream_queue _) _
    | ok samples =>
      rcases process_queue hprocessed with rfl | rfl
      · intro other buffer hother hcurrent
        obtain rfl := Option.some.inj hother
        exact h _ buffer hqueue hcurrent
      · exact holdsLast_empty rfl (releaseCurrent_current queue) _

/-- What becomes of the buffers of an open endpoint.  Every transfer submitted to it has been handed
out once, in the order of submission, or is waited for; and every buffer that has been handed out has
been submitted again, once, but for the one that the queue holds. -/
structure GivenBack (queue : Queue) (bulkIn : BulkIn) : Prop where
  sequence : InSequence bulkIn
  pending : queue.buffers.length + bulkIn.pending.length + queue.current.toList.length =
    RFONE_TRANSFER_COUNT
  submitted : queue.buffers.length + bulkIn.submitted + queue.current.toList.length =
    RFONE_TRANSFER_COUNT + bulkIn.completed.length

/-- A buffer that a queue holds is the one that has been handed out last.  The endpoint waits for all
others of the pool, which have been submitted after it. -/
structure HeldBack (bulkIn : BulkIn) (buffer : Buffer) : Prop where
  last : (bulkIn.completed.map BulkInCompletion.buffer).getLast? = some buffer
  others : bulkIn.pending.length + 1 = RFONE_TRANSFER_COUNT
  younger : ∀ other ∈ bulkIn.pending, buffer.number < other.number

/-- **The buffers of an endpoint are given back** once each. -/
theorem reachable_givenBack {config : ValidConfig mode} {s : System F mode}
    (hs : System.Reachable config s) {stream : ℕ} {queue : Queue} {bulkIn : BulkIn}
    (h : OwnsQueue s stream queue bulkIn) :
    GivenBack queue bulkIn ∧
      ∀ buffer, queue.current = some buffer → HeldBack bulkIn buffer := by
  obtain ⟨phase, receiver, hphase, howned, hqueue, hbulk⟩ := h
  have hmem := List.mem_of_getElem? hphase
  have hreceiver := receiver_of_owned howned
  have hpooled := reachable_queue (BufferPool.keptByQueue_pooled 0) hs hmem hreceiver queue hqueue
  have hcount := hpooled.count hbulk
  obtain ⟨hsequence, hlast⟩ := reachable_queue (keptByQueue_sequenced 0) hs hmem hreceiver queue
    hqueue bulkIn hbulk
  have hsubmitted := hsequence.submitted
  refine ⟨⟨hsequence, hcount, by omega⟩, ?_⟩
  intro buffer hcurrent
  have hinitialized : queue.initialized = true := by
    refine initialized_of_held
      (reachable_queue (keptByQueue_untouched 0) hs hmem hreceiver queue hqueue) ?_
    rw [hcurrent]
    exact Option.some_ne_none buffer
  refine ⟨hlast buffer hcurrent, ?_, ?_⟩
  · rw [hpooled.submitted hinitialized, hcurrent] at hcount
    simpa using hcount
  · exact hsequence.younger (List.mem_of_getLast? (hlast buffer hcurrent))

/-- The actions that run `next_block`: a poll of its future, or of the blocking call. -/
inductive RunsNextBlock (s : System F .rawAdc) (stream : ℕ) : Action .rawAdc → Prop
  | future {receiver : Receiver F .rawAdc} {future : NextBlockFuture F}
      (hphase : s.streams[stream]? = some (.reading receiver future)) (replies : List AnyReply)
      (arrivals : List Arrival) : RunsNextBlock s stream (.pollStream stream replies arrivals)
  | blocking {receiver : Receiver F .rawAdc} {found : Option ℕ}
      {flight : StreamFlight F .rawAdc (Result Unit)}
      (hphase : s.streams[stream]? = some (.operating receiver found .waitBlock flight))
      (replies : List AnyReply) (arrivals : List Arrival) :
      RunsNextBlock s stream (.pollStream stream replies arrivals)

/-- Nothing else fills. -/
theorem stepWork_runs {s : System F .rawAdc} {stream : ℕ} {action : Action .rawAdc}
    (h : (stepWork stream s action).1 ≠ none) : RunsNextBlock s stream action := by
  unfold stepWork at h
  split at h
  · exact absurd rfl h
  · unfold streamWork at h
    split at h
    · rename_i hstream
      cases action with
      | pollStream other replies arrivals =>
        obtain rfl := Option.some.inj hstream
        cases hphase : s.streams[other]? with
        | none => simp [actionWork, actionFill, hphase] at h
        | some phase =>
          cases phase with
          | reading receiver future => exact .future hphase replies arrivals
          | operating receiver found call flight =>
            cases call with
            | waitBlock => exact .blocking hphase replies arrivals
            | _ => simp [actionWork, actionFill, hphase, phaseFill, waitFill] at h
          | _ => simp [actionWork, actionFill, hphase, phaseFill] at h
      | _ => exact absurd rfl h
    · exact absurd rfl h

/-! ## Delivery -/

/-- **Raw blocks are delivered exactly once and in order.**  The blocks that the calls of a stream
have returned are the completions that it has accepted, one for each and in the same order, each with
all of its bytes.  Those returned from the open endpoint are the ones accepted of all that it has
handed out, and the queue counts them as processed.  Every buffer handed out is submitted again
once, but for that of the last block while the stream holds it: the endpoint then waits for all the
others only.  It stays with the stream until `next_block` begins to fill or a stop succeeds, which
submits it, or until its endpoint is closed. -/
theorem blocks_delivered {config : ValidConfig .rawAdc} {stream : ℕ} {s : System F .rawAdc}
    {takes : List Taken} {discards : ℕ} (h : Traced config stream s takes discards) :
    List.Forall₂ Delivers (acceptedOf takes) (deliveries stream s.history) ∧
    ∀ queue bulkIn, OwnsQueue s stream queue bulkIn →
      bulkIn.completed = (takesAt bulkIn.id takes).map Taken.completion ∧
      List.Forall₂ Delivers (acceptedOf (takesAt bulkIn.id takes))
        ((deliveries stream s.history).filter (fromEndpoint bulkIn.id)) ∧
      ((deliveries stream s.history).filter (fromEndpoint bulkIn.id)).length =
        queue.stats.buffersProcessed ∧
      GivenBack queue bulkIn ∧
      ∀ buffer, queue.current = some buffer →
        (∃ taken, (acceptedOf takes).getLast? = some taken ∧ taken.completion.buffer = buffer) ∧
        HeldBack bulkIn buffer ∧
        ∀ action reply, ((stepWork stream s action).1 ≠ none → RunsNextBlock s stream action) ∧
          HeldStep stream (s.step action reply) (newEvents s (s.step action reply))
            (stepWork stream s action).1 queue bulkIn buffer := by
  have hdelivers := traced_delivers h
  refine ⟨hdelivers, ?_⟩
  intro queue bulkIn howns
  have haccount := traced_endpoint h howns
  have hendpoint := delivers_endpoint hdelivers bulkIn.id
  rw [← acceptedOf_takesAt] at hendpoint
  obtain ⟨hgiven, hback⟩ := reachable_givenBack h.reachable howns
  refine ⟨haccount.completed, hendpoint, ?_, hgiven, ?_⟩
  · rw [haccount.processed, hendpoint.length_eq]
  · intro buffer hcurrent
    refine ⟨?_, hback buffer hcurrent, fun action reply => ⟨stepWork_runs, ?_⟩⟩
    · obtain ⟨phase, receiver, hphase, howned, hqueue, _⟩ := howns
      exact (holdsLast_kept.traced h).kept phase receiver hphase howned queue buffer hqueue hcurrent
    · obtain ⟨events, hhistory, hstepped⟩ := step_stepped h.reachable action reply stream
      rw [newEvents_eq hhistory]
      exact stepped_held h.reachable hstepped howns hcurrent

/-- A raw stream has been started, and `next_block` has been called on it. -/
def calledBlock : System Rat .rawAdc :=
  System.after (ValidConfig.standard .rawAdc) (fun _ => obliging)
    [.pollDevice (List.replicate 16 obliging), .rxStream, .callStream 0 .start,
      .pollStream 0 (List.replicate 4 obliging) [], .nextBlock 0]

/-- Whether a poll of a reading phase fills a queue that delivers. -/
def fillsQueue (s : System Rat .rawAdc) : StreamPhase Rat .rawAdc → Bool
  | .reading receiver future => (futureFill future [] (s.streamWorld receiver)).any fun queue =>
      Delivering queue
  | _ => false

theorem calledBlock_delivered :
    ∃ packing takes discards, Traced (ValidConfig.standard .rawAdc) 0
      (calledBlock.step (.pollStream 0 [] [fullTransfer packing]) fun _ => obliging) takes discards ∧
      deliveries 0 (calledBlock.step (.pollStream 0 [] [fullTransfer packing])
        fun _ => obliging).history ≠ [] ∧
      List.Forall₂ Delivers (acceptedOf takes) (deliveries 0
        (calledBlock.step (.pollStream 0 [] [fullTransfer packing]) fun _ => obliging).history) := by
  have hreachable : System.Reachable (ValidConfig.standard .rawAdc) calledBlock :=
    System.reachable_after _ _ _
  have hphases : (calledBlock.streams[0]?).any (fillsQueue calledBlock) = true := by decide +kernel
  obtain ⟨phase, hphase, hfills⟩ := (Option.any_eq_true _ _).mp hphases
  unfold fillsQueue at hfills
  split at hfills
  · obtain ⟨queue, hqueue, hdelivering⟩ := (Option.any_eq_true _ _).mp hfills
    obtain ⟨block, queue', hhistory, _⟩ := step_fullTransfer
      (Option.isNone_iff_eq_none.mp (show calledBlock.panic.isNone = true by decide +kernel))
      (show calledBlock.ended = false by decide +kernel) hphase hqueue
      (of_decide_eq_true hdelivering) fun _ => obliging
    obtain ⟨takes, discards, htraced⟩ := reachable_traced 0 hreachable
    have hstep := htraced.step (.pollStream 0 [] [fullTransfer queue.settings.packing])
      fun _ => obliging
    refine ⟨queue.settings.packing, _, _, hstep, ?_, (blocks_delivered hstep).1⟩
    rw [hhistory, deliveries_append, deliveries_block]
    simp
  · exact nomatch hfills

end HydraSdr.Analysis.BlockDelivery
