import HydraSdr.Analysis.CompletionRuns

/-!
# What an endpoint has handed out

The open endpoint of a stream has handed out exactly what the stream has taken from it, and the
queue on it counts as processed what it has accepted of that.  Endpoints that a stream has given up
are never opened again.
-/

set_option autoImplicit false

namespace HydraSdr.Analysis

open HydraSdr.Program HydraSdr.Computation

variable {F : Type} {mode : SampleFormat}

/-- What has been taken from one endpoint. -/
def takesAt (endpoint : ℕ) (takes : List Taken) : List Taken :=
  takes.filter fun taken => taken.endpoint = endpoint

@[simp] theorem takesAt_append (endpoint : ℕ) (takes more : List Taken) :
    takesAt endpoint (takes ++ more) = takesAt endpoint takes ++ takesAt endpoint more := by
  simp [takesAt]

/-- All of them come from the endpoint. -/
theorem takesAt_all {endpoint : ℕ} {takes : List Taken}
    (h : ∀ taken ∈ takes, taken.endpoint = endpoint) : takesAt endpoint takes = takes := by
  unfold takesAt
  rw [List.filter_eq_self]
  intro taken htaken
  exact decide_eq_true (h taken htaken)

/-- None of them comes from the endpoint. -/
theorem takesAt_none {endpoint : ℕ} {takes : List Taken}
    (h : ∀ taken ∈ takes, taken.endpoint ≠ endpoint) : takesAt endpoint takes = [] := by
  unfold takesAt
  rw [List.filter_eq_nil_iff]
  intro taken htaken
  simpa using h taken htaken

/-- A queue on an endpoint accounts for what has been taken from it. -/
structure QueueAccount (takes : List Taken) (queue : Queue) (bulkIn : BulkIn) : Prop where
  completed : bulkIn.completed = (takesAt bulkIn.id takes).map Taken.completion
  processed : queue.stats.buffersProcessed = (acceptedOf (takesAt bulkIn.id takes)).length

/-- The endpoints from which a stream has taken have been opened, and its queue accounts for the
one it is on. -/
structure EndpointAccount (w : StreamWorld F mode) (takes : List Taken) : Prop where
  opened : ∀ taken ∈ takes, taken.endpoint ≤ w.wire.opened
  queue : ∀ queue bulkIn, w.receiver.queue = some queue → queue.bulkIn = some bulkIn →
    QueueAccount takes queue bulkIn

/-- Whether a queue still accounts for its endpoint depends on the counter and on what has been
handed out. -/
theorem QueueAccount.same {takes : List Taken} {queue queue' : Queue} {bulkIn bulkIn' : BulkIn}
    (h : QueueAccount takes queue bulkIn) (hid : bulkIn'.id = bulkIn.id)
    (hcompleted : bulkIn'.completed = bulkIn.completed)
    (hprocessed : queue'.stats.buffersProcessed = queue.stats.buffersProcessed) :
    QueueAccount takes queue' bulkIn' := by
  constructor
  · rw [hcompleted, hid, h.completed]
  · rw [hprocessed, hid, h.processed]

/-- The endpoint is the same and has handed out nothing since. -/
def SameEndpoint (queue queue' : Queue) : Prop :=
  ∀ bulkIn', queue'.bulkIn = some bulkIn' → ∃ bulkIn, queue.bulkIn = some bulkIn ∧
    bulkIn'.id = bulkIn.id ∧ bulkIn'.completed = bulkIn.completed

theorem sameEndpoint_of_eq {queue queue' : Queue} (h : queue'.bulkIn = queue.bulkIn) :
    SameEndpoint queue queue' := by
  intro bulkIn' hbulk'
  exact ⟨bulkIn', h ▸ hbulk', rfl, rfl⟩

theorem SameEndpoint.trans {a b c : Queue} (hab : SameEndpoint a b) (hbc : SameEndpoint b c) :
    SameEndpoint a c := by
  intro bulkIn'' hbulk''
  obtain ⟨bulkIn', hbulk', hid', hcompleted'⟩ := hbc bulkIn'' hbulk''
  obtain ⟨bulkIn, hbulk, hid, hcompleted⟩ := hab bulkIn' hbulk'
  exact ⟨bulkIn, hbulk, hid'.trans hid, hcompleted'.trans hcompleted⟩

theorem sameEndpoint_release (queue : Queue) : SameEndpoint queue queue.releaseCurrent := by
  intro bulkIn' hbulk'
  rcases releaseCurrent_cases queue with ⟨buffer, bulkIn, _, hbulk, heq⟩ | ⟨_, heq⟩
  · rw [heq] at hbulk'
    obtain rfl := Option.some.inj hbulk'
    exact ⟨bulkIn, hbulk, rfl, rfl⟩
  · rw [heq] at hbulk'
    exact ⟨bulkIn', hbulk', rfl, rfl⟩

theorem sameEndpoint_pause (queue : Queue) : SameEndpoint queue queue.pause := by
  refine (sameEndpoint_release queue).trans ?_
  intro bulkIn' hbulk'
  unfold Queue.pause at hbulk'
  dsimp only at hbulk'
  cases hbulk : queue.releaseCurrent.bulkIn with
  | none =>
    rw [hbulk] at hbulk'
    exact nomatch hbulk.symm.trans hbulk'
  | some bulkIn =>
    rw [hbulk] at hbulk'
    obtain rfl := Option.some.inj hbulk'
    exact ⟨bulkIn, rfl, rfl, rfl⟩

theorem sameEndpoint_discard (queue : Queue) : SameEndpoint queue queue.discardCurrent := by
  obtain ⟨stats, heq⟩ := discardCurrent_eq queue
  rw [heq]
  exact (sameEndpoint_release queue).trans (sameEndpoint_of_eq rfl)

/-- Discarding counts nothing as processed. -/
theorem discardCurrent_processed (queue : Queue) :
    queue.discardCurrent.stats.buffersProcessed = queue.stats.buffersProcessed := by
  unfold Queue.discardCurrent
  split <;> rcases releaseCurrent_cases _ with ⟨_, _, _, _, heq⟩ | ⟨_, heq⟩ <;> rw [heq]

/-- The queue is replaced by one on the same endpoint. -/
theorem EndpointAccount.replace {w w' : StreamWorld F mode} {takes : List Taken}
    (h : EndpointAccount w takes) {queue queue' : Queue} (hqueue : w.receiver.queue = some queue)
    (hqueue' : w'.receiver.queue = some queue') (hwire : Extends w.wire w'.wire)
    (hendpoint : SameEndpoint queue queue')
    (hprocessed : queue'.stats.buffersProcessed = queue.stats.buffersProcessed) :
    EndpointAccount w' takes := by
  refine ⟨fun taken htaken => (h.opened taken htaken).trans hwire.opened, ?_⟩
  intro queue'' bulkIn' hqueue'' hbulk'
  obtain rfl := Option.some.inj (hqueue'.symm.trans hqueue'')
  obtain ⟨bulkIn, hbulk, hid, hcompleted⟩ := hendpoint bulkIn' hbulk'
  exact (h.queue queue bulkIn hqueue hbulk).same hid hcompleted hprocessed

/-- The queue is given up. -/
theorem EndpointAccount.giveUp {w w' : StreamWorld F mode} {takes : List Taken}
    (h : EndpointAccount w takes) (hqueue' : w'.receiver.queue = none)
    (hwire : Extends w.wire w'.wire) : EndpointAccount w' takes := by
  refine ⟨fun taken htaken => (h.opened taken htaken).trans hwire.opened, ?_⟩
  intro queue' _ hqueue'' _
  exact nomatch hqueue'.symm.trans hqueue''

/-- The queue is left alone. -/
theorem EndpointAccount.same {w w' : StreamWorld F mode} {takes : List Taken}
    (h : EndpointAccount w takes) (hqueue : w'.receiver.queue = w.receiver.queue)
    (hwire : Extends w.wire w'.wire) : EndpointAccount w' takes := by
  refine ⟨fun taken htaken => (h.opened taken htaken).trans hwire.opened, ?_⟩
  rw [hqueue]
  exact h.queue

variable [SampleArithmetic F]

theorem EndpointAccount.control {w w' : StreamWorld F mode} {takes : List Taken}
    (hinv : StreamInv w) (move : Move w w')
    (hcontrol : w.receiver.claim.receiver ≠ .running ∨
      w' = w.onReceiver (Receiver.setState .cleanupRequired))
    (h : EndpointAccount w takes) : EndpointAccount w' takes := by
  rcases hcontrol with hstate | rfl
  · have hextends := move.extends
    cases move with
    | requireCleanup _ => exact h.same rfl hextends
    | issue _ _ _ => exact h.same rfl hextends
    | settle _ _ _ _ _ => exact h.same rfl hextends
    | run _ _ _ _ _ => exact h.same rfl hextends
    | retire _ _ => exact h.giveUp (retireStream_queue _) hextends
    | adopt _ settings _ _ _ _ =>
      cases hqueue : w.receiver.queue with
      | none =>
        refine h.giveUp ?_ hextends
        show (Receiver.adopt settings w.receiver).queue = none
        unfold Receiver.adopt
        rw [hqueue]
        exact hqueue
      | some queue =>
        cases hqueue' : (w.receiver.adopt settings).queue with
        | none => exact h.giveUp hqueue' hextends
        | some queue' =>
          obtain ⟨before, hbefore, _, hcases⟩ := adopt_queue settings w.receiver hqueue'
          obtain rfl := Option.some.inj (hqueue.symm.trans hbefore)
          rcases hcases with ⟨_, rfl⟩ | rfl
          · exact h.replace hqueue hqueue' hextends (sameEndpoint_of_eq rfl) rfl
          · exact h.replace hqueue hqueue' hextends
              ((sameEndpoint_discard queue).trans (sameEndpoint_of_eq rfl))
              (discardCurrent_processed queue)
    | openQueue _ wire settings _ _ _ _ _ _ hopened =>
      refine ⟨fun taken htaken => (h.opened taken htaken).trans hextends.opened, ?_⟩
      intro queue bulkIn hqueue hbulk
      obtain rfl := Option.some.inj hqueue
      obtain rfl := Option.some.inj hbulk
      have hnone : takesAt (BulkIn.opened wire.opened).id takes = [] := by
        refine takesAt_none fun taken htaken => ?_
        have hle := h.opened taken htaken
        show taken.endpoint ≠ wire.opened
        omega
      constructor
      · rw [hnone]
        rfl
      · rw [hnone]
        rfl
    | submitBuffers _ _ hqueue _ hsubmit =>
      obtain ⟨bulkIn, hbulk, _⟩ := hinv.endpoint _ hqueue
      rw [submitBuffers_open hbulk hsubmit] at hextends ⊢
      refine h.replace hqueue rfl hextends ?_ rfl
      intro bulkIn' hbulk'
      obtain rfl := Option.some.inj hbulk'
      exact ⟨bulkIn, hbulk, foldl_submit_id _ _, foldl_submit_completed _ _⟩
    | pause _ _ _ =>
      cases hqueue : w.receiver.queue with
      | none =>
        refine h.giveUp ?_ hextends
        show w.receiver.queue.map Queue.pause = none
        rw [hqueue]
        rfl
      | some queue =>
        have hpaused : w.receiver.queue.map Queue.pause = some queue.pause := by
          rw [hqueue]
          rfl
        refine h.replace hqueue hpaused hextends (sameEndpoint_pause queue) ?_
        rw [pause_stats]
    | release _ hrunning _ => exact absurd hrunning hstate
    | take _ _ hrunning _ _ _ _ _ => exact absurd hrunning hstate
    | reject _ _ hrunning _ _ _ => exact absurd hrunning hstate
    | redecimate _ hrunning _ _ => exact absurd hrunning hstate
    | convert _ hrunning _ _ => exact absurd hrunning hstate
  · exact h.same rfl (.refl _)

/-- A fill takes from the endpoint what it hands out. -/
theorem EndpointAccount.fill {w : StreamWorld F mode} {queue queue' : Queue}
    {arrivals rest : List Arrival} {result : Option (Result Unit)} {takes : List Taken}
    (hinv : StreamInv (w.setQueue queue)) (hfills : Fills queue arrivals result queue' rest)
    (h : EndpointAccount (w.setQueue queue) takes) :
    EndpointAccount (afterFill result queue' w) (takes ++ loopTakes arrivals queue) := by
  obtain ⟨bulkIn, hbulk, hopened⟩ := hinv.endpoint queue rfl
  have hendpoint := hfills.endpoint hbulk
  have hall : ∀ taken ∈ takes ++ loopTakes arrivals queue, taken.endpoint ≤ w.wire.opened := by
    intro taken htaken
    rcases List.mem_append.mp htaken with hbefore | hnew
    · exact h.opened taken hbefore
    · rw [hendpoint taken hnew]
      exact hopened
  by_cases hfailed : ∃ e, result = some (.error e)
  · obtain ⟨e, rfl⟩ := hfailed
    refine ⟨hall, ?_⟩
    intro queue'' _ hqueue'' _
    exact nomatch (retireStream_queue _).symm.trans hqueue''
  · have hresult : ∀ e, result ≠ some (.error e) := fun e he => hfailed ⟨e, he⟩
    have hleft : afterFill result queue' w = w.setQueue queue' := by
      match result with
      | none => rfl
      | some (.ok _) => rfl
      | some (.error e) => exact absurd rfl (hresult e)
    rw [hleft]
    refine ⟨hall, ?_⟩
    intro queue'' bulkIn'' hqueue'' hbulk''
    obtain rfl := Option.some.inj hqueue''
    obtain ⟨bulkIn', hbulk', hid, hcompleted⟩ := hfills.completed hresult hbulk
    obtain rfl := Option.some.inj (hbulk'.symm.trans hbulk'')
    have haccount := h.queue queue bulkIn rfl hbulk
    constructor
    · rw [hcompleted, hid, takesAt_append, takesAt_all hendpoint, List.map_append,
        haccount.completed]
    · rw [hid, takesAt_append, takesAt_all hendpoint, acceptedOf_append, List.length_append,
        ← haccount.processed, hfills.stats]
      rfl

/-- Every act keeps account. -/
theorem endpointAccount_kept :
    KeptByActs (fun (w : StreamWorld F _) takes _ => EndpointAccount w takes) where
  new w claim hnew := by
    refine ⟨fun _ htaken => absurd htaken List.not_mem_nil, ?_⟩
    intro queue _ hqueue _
    rw [hnew] at hqueue
    exact nomatch hqueue
  rely w w' takes _ hreceiver hextends h := h.same (by rw [hreceiver]) hextends
  control _ _ _ _ hinv move hcontrol h := h.control hinv move hcontrol
  release _ queue _ _ hqueue h :=
    h.replace hqueue rfl (.refl _) (sameEndpoint_release queue) (by rw [releaseCurrent_stats])
  begin w w' takes _ hbegin h := by
    obtain ⟨_, queue, hqueue, ⟨_, rfl⟩ | ⟨_, rfl⟩⟩ := beginRead_ok hbegin
    · exact h.replace hqueue rfl (.refl _)
        ((sameEndpoint_discard queue).trans (sameEndpoint_of_eq rfl))
        (discardCurrent_processed queue)
    · exact h
  fill _ _ _ _ _ _ _ _ hinv _ hfills h := h.fill hinv hfills
  process w w' queue room result takes _ hqueue hprocess h := by
    obtain ⟨⟨_, processor, queue'⟩, hprocessed, heq⟩ := bind_ok hprocess
    cases heq
    cases result with
    | error e => exact h.giveUp (retireStream_queue _) (.refl _)
    | ok samples =>
      rcases process_queue hprocessed with rfl | rfl
      · exact h.replace hqueue rfl (.refl _) (sameEndpoint_of_eq rfl) rfl
      · exact h.replace hqueue rfl (.refl _) (sameEndpoint_release queue)
          (by rw [releaseCurrent_stats])

/-- A stream that its user has not dropped has this queue on this endpoint. -/
def OwnsQueue (s : System F mode) (stream : ℕ) (queue : Queue) (bulkIn : BulkIn) : Prop :=
  ∃ phase receiver, s.streams[stream]? = some phase ∧ ownedReceiver phase = some receiver ∧
    receiver.queue = some queue ∧ queue.bulkIn = some bulkIn

/-- **The open endpoint of a stream** has handed out what the stream has taken from it. -/
theorem traced_endpoint {config : ValidConfig mode} {stream : ℕ} {s : System F mode}
    {takes : List Taken} {discards : ℕ} (h : Traced config stream s takes discards) {queue : Queue}
    {bulkIn : BulkIn} (hqueue : OwnsQueue s stream queue bulkIn) :
    QueueAccount takes queue bulkIn := by
  obtain ⟨phase, receiver, hphase, howned, hreceiver, hbulk⟩ := hqueue
  exact ((endpointAccount_kept.traced h).kept phase receiver hphase howned).queue queue bulkIn
    hreceiver hbulk

end HydraSdr.Analysis
