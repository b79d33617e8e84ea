import HydraSdr.Analysis.EndpointAccounts

/-!
# Streaming statistics

The counters of a stream account for every completion that it has taken, whatever becomes of its
queues: each queue counts for itself, and its counters are added up when it is retired.
-/

set_option autoImplicit false

namespace HydraSdr.Analysis.StreamStatistics

open HydraSdr.Program HydraSdr.Computation HydraSdr.Analysis

variable {F : Type} {mode : SampleFormat}

/-! ## Accounts -/

/-- The counters of a stream that has taken these completions and has discarded so many of those it
had accepted, because the factor had changed. -/
def account (takes : List Taken) (discards : ℕ) : StreamingStats :=
  { tally takes with buffersDropped := (tally takes).buffersDropped + discards }

/-- What the counters of a stream say. -/
structure Accounts (takes : List Taken) (discards : ℕ) (stats : StreamingStats) : Prop where
  received : stats.buffersReceived = takes.length
  balanced : stats.buffersReceived + discards = stats.buffersProcessed + stats.buffersDropped
  restart : stats.buffersDiscardedOnRestart ≤ stats.buffersDropped
  dropped : stats.buffersDropped ≤ stats.buffersReceived
  processed : stats.buffersProcessed ≤ stats.buffersReceived

/-- No counter is smaller. -/
structure AtLeast (stats stats' : StreamingStats) : Prop where
  received : stats.buffersReceived ≤ stats'.buffersReceived
  processed : stats.buffersProcessed ≤ stats'.buffersProcessed
  dropped : stats.buffersDropped ≤ stats'.buffersDropped
  restart : stats.buffersDiscardedOnRestart ≤ stats'.buffersDiscardedOnRestart

/-- How many accepted buffers a stream holds. -/
def held (receiver : Receiver F mode) : ℕ :=
  receiver.queue.elim 0 fun queue => queue.current.toList.length

/-- A stream accounts for what it has taken.  What it has discarded it had accepted before. -/
structure Accounted (takes : List Taken) (discards : ℕ) (receiver : Receiver F mode) : Prop where
  stats : receiver.currentStats = account takes discards
  accepted : discards + held receiver ≤ (acceptedOf takes).length

theorem accounts {takes : List Taken} {discards : ℕ}
    (h : discards ≤ (acceptedOf takes).length) :
    Accounts takes discards (account takes discards) := by
  have hbalanced := tally_balanced takes
  have hrestart := tally_restart_le takes
  have hprocessed : (tally takes).buffersProcessed = (acceptedOf takes).length := rfl
  have hreceived : (tally takes).buffersReceived = takes.length := rfl
  constructor <;> simp only [account] <;> omega

theorem account_atLeast (takes more : List Taken) (discards further : ℕ) :
    AtLeast (account takes discards) (account (takes ++ more) (discards + further)) := by
  constructor
  all_goals
    simp [account, tally_append, StreamingStats.combined]
    try omega

theorem account_append (takes more : List Taken) (discards : ℕ) :
    (account takes discards).combined (tally more) = account (takes ++ more) discards := by
  simp [account, tally_append, StreamingStats.combined]
  omega

/-! ## What leaves the counters alone -/

theorem currentStats_some {receiver : Receiver F mode} {queue : Queue}
    (h : receiver.queue = some queue) :
    receiver.currentStats = receiver.stats.combined queue.stats := by
  unfold Receiver.currentStats
  rw [h]

theorem held_some {receiver : Receiver F mode} {queue : Queue} (h : receiver.queue = some queue) :
    held receiver = queue.current.toList.length := by
  unfold held
  rw [h]
  rfl

theorem held_none {receiver : Receiver F mode} (h : receiver.queue = none) : held receiver = 0 := by
  unfold held
  rw [h]
  rfl

/-- Discarding is counted when there is something to discard. -/
theorem discardCurrent_stats (queue : Queue) : queue.discardCurrent.stats = { queue.stats with
    buffersDropped := queue.stats.buffersDropped + queue.current.toList.length } := by
  unfold Queue.discardCurrent
  cases hcurrent : queue.current with
  | none => exact releaseCurrent_stats queue
  | some buffer =>
    dsimp only
    rw [releaseCurrent_stats]
    rfl

variable [SampleArithmetic F]

/-- **Retiring a queue changes no counter.** -/
theorem retireStream_stats (receiver : Receiver F mode) :
    receiver.retireStream.currentStats = receiver.currentStats := by
  rw [currentStats_of_none (retireStream_queue receiver)]
  unfold Receiver.retireStream Receiver.currentStats
  cases receiver.queue <;> rfl

/-- The counters are the same, and nothing is held that was not. -/
structure SameAccount (receiver receiver' : Receiver F mode) : Prop where
  stats : receiver'.currentStats = receiver.currentStats
  held : held receiver' ≤ held receiver

theorem sameAccount_retire (receiver : Receiver F mode) :
    SameAccount receiver receiver.retireStream := by
  refine ⟨retireStream_stats receiver, ?_⟩
  rw [held_none (retireStream_queue receiver)]
  exact Nat.zero_le _

omit [SampleArithmetic F] in
/-- Another queue with the same counters that holds nothing new. -/
theorem sameAccount_queue {receiver receiver' : Receiver F mode} {queue queue' : Queue}
    (hqueue : receiver.queue = some queue) (hqueue' : receiver'.queue = some queue')
    (hstats : receiver'.stats = receiver.stats) (hcounted : queue'.stats = queue.stats)
    (hheld : queue'.current.toList.length ≤ queue.current.toList.length) :
    SameAccount receiver receiver' := by
  refine ⟨?_, ?_⟩
  · rw [currentStats_some hqueue, currentStats_some hqueue', hstats, hcounted]
  · rw [held_some hqueue, held_some hqueue']
    exact hheld

/-- A move that does not read changes no counter. -/
theorem control_sameAccount {w w' : StreamWorld F mode} (move : Move w w')
    (hcontrol : w.receiver.claim.receiver ≠ .running ∨
      w' = w.onReceiver (Receiver.setState .cleanupRequired)) :
    SameAccount w.receiver w'.receiver := by
  rcases hcontrol with hstate | rfl
  · cases move with
    | requireCleanup _ => exact ⟨rfl, Nat.le_refl _⟩
    | issue _ _ _ => exact ⟨rfl, Nat.le_refl _⟩
    | settle _ _ _ _ _ => exact ⟨rfl, Nat.le_refl _⟩
    | run _ _ _ _ _ => exact ⟨rfl, Nat.le_refl _⟩
    | retire _ _ => exact sameAccount_retire _
    | adopt _ settings _ _ hcurrent _ =>
      unfold StreamWorld.onReceiver Receiver.adopt
      cases hqueue : w.receiver.queue with
      | none => exact ⟨rfl, Nat.le_refl _⟩
      | some queue =>
        have hnone := hcurrent queue hqueue
        dsimp only
        split
        · rw [discardCurrent_of_none hnone]
          exact sameAccount_queue hqueue rfl rfl rfl (Nat.le_refl _)
        · exact sameAccount_queue hqueue rfl rfl rfl (Nat.le_refl _)
    | openQueue _ wire settings _ _ _ hqueue _ _ _ =>
      refine ⟨?_, Nat.zero_le _⟩
      rw [currentStats_of_none hqueue]
      rfl
    | submitBuffers _ _ hqueue _ hsubmit =>
      unfold Queue.submitBuffers at hsubmit
      split at hsubmit
      · cases hsubmit
        exact sameAccount_queue hqueue rfl rfl rfl (Nat.le_refl _)
      · exact nomatch hsubmit
      · cases hsubmit
        exact sameAccount_queue hqueue rfl rfl rfl (Nat.le_refl _)
    | pause _ _ _ =>
      unfold StreamWorld.onReceiver Receiver.pause
      cases hqueue : w.receiver.queue with
      | none => exact ⟨by rw [currentStats_of_none hqueue]; rfl, Nat.zero_le _⟩
      | some queue =>
        refine sameAccount_queue hqueue rfl rfl (pause_stats queue) ?_
        rw [pause_current]
        exact Nat.zero_le _
    | release _ hrunning _ => exact absurd hrunning hstate
    | take _ _ hrunning _ _ _ _ _ => exact absurd hrunning hstate
    | reject _ _ hrunning _ _ _ => exact absurd hrunning hstate
    | redecimate _ hrunning _ _ => exact absurd hrunning hstate
    | convert _ hrunning _ _ => exact absurd hrunning hstate
  · exact ⟨rfl, Nat.le_refl _⟩

/-- A read that fails retires its queue. -/
theorem sameAccount_failed {α : Type} (e : Error) (receiver : Receiver F mode) :
    SameAccount receiver (Receiver.failedRead (.error e : Result α) receiver) := by
  have hretire := sameAccount_retire receiver
  exact ⟨hretire.stats, hretire.held⟩

/-! ## What reading counts -/

omit [SampleArithmetic F] in
theorem Accounted.same {takes : List Taken} {discards : ℕ} {receiver receiver' : Receiver F mode}
    (h : Accounted takes discards receiver) (hsame : SameAccount receiver receiver') :
    Accounted takes discards receiver' :=
  ⟨hsame.stats.trans h.stats, (Nat.add_le_add_left hsame.held discards).trans h.accepted⟩

/-- A fill counts what it takes, also when it fails and its queue is retired. -/
theorem Accounted.fill {takes : List Taken} {discards : ℕ} {w : StreamWorld F mode}
    {queue queue' : Queue} (h : Accounted takes discards (w.setQueue queue).receiver)
    {arrivals rest : List Arrival} {result : Option (Result Unit)}
    (hfills : Fills queue arrivals result queue' rest) (hcurrent : queue.current = none) :
    Accounted (takes ++ loopTakes arrivals queue) discards (afterFill result queue' w).receiver := by
  have hfilled : Accounted (takes ++ loopTakes arrivals queue) discards
      (w.setQueue queue').receiver := by
    have hstats := h.stats
    have haccepted := h.accepted
    rw [currentStats_some rfl] at hstats
    rw [@held_some F _ _ queue rfl, hcurrent, Option.toList_none, List.length_nil] at haccepted
    refine ⟨?_, ?_⟩
    · rw [currentStats_some rfl, hfills.stats, ← combined_assoc, ← account_append, ← hstats]
      rfl
    · rw [@held_some F _ _ queue' rfl, acceptedOf_append, List.length_append]
      rcases hfills.accepts with ⟨_, taken, hone, hsome, _⟩ | ⟨_, hnil, hnone⟩
      · rw [hone, hsome, Option.toList_some, List.length_singleton, List.length_singleton]
        omega
      · rw [hnil, hnone hcurrent, Option.toList_none, List.length_nil]
        omega
  match result with
  | none => exact hfilled
  | some (.ok _) => exact hfilled
  | some (.error e) => exact hfilled.same (sameAccount_failed (α := Unit) e _)

omit [SampleArithmetic F] in
/-- Giving the current buffer back is counted nowhere. -/
theorem sameAccount_release {receiver receiver' : Receiver F mode} {queue : Queue}
    (hqueue : receiver.queue = some queue) (hqueue' : receiver'.queue = some queue.releaseCurrent)
    (hstats : receiver'.stats = receiver.stats) : SameAccount receiver receiver' := by
  refine sameAccount_queue hqueue hqueue' hstats (releaseCurrent_stats queue) ?_
  rw [releaseCurrent_current]
  exact Nat.zero_le _

/-- A read that begins discards a buffer that was accepted under another factor. -/
theorem Accounted.begin {takes : List Taken} {discards : ℕ} {w w₁ : StreamWorld F .f32Iq}
    (h : Accounted takes discards w.receiver) (hbegin : Receiver.beginRead w = (.ok (), w₁)) :
    Accounted takes (discards + readDiscards w) w₁.receiver := by
  obtain ⟨hstate, queue, hqueue, hcases⟩ := beginRead_ok hbegin
  have hrunning : w.receiver.ensureRunning = .ok () := if_pos hstate
  have hdiscards : readDiscards w =
      if queue.settings.decimation ≠ w.session.receive.decimation then queue.current.toList.length
      else 0 := by
    unfold readDiscards
    rw [hrunning, hqueue]
  rcases hcases with ⟨hchanged, rfl⟩ | ⟨hsame, rfl⟩
  · rw [hdiscards, if_pos hchanged]
    have hstats := h.stats
    have haccepted := h.accepted
    rw [currentStats_some hqueue] at hstats
    rw [held_some hqueue] at haccepted
    have hcurrent : queue.discardCurrent.current = none := by
      obtain ⟨stats, heq⟩ := discardCurrent_eq queue
      rw [heq]
      exact releaseCurrent_current queue
    refine ⟨?_, ?_⟩
    · rw [currentStats_some rfl]
      show w.receiver.stats.combined queue.discardCurrent.stats = _
      rw [discardCurrent_stats]
      have hdropped := congrArg StreamingStats.buffersDropped hstats
      simp only [account, StreamingStats.combined, StreamingStats.mk.injEq] at hstats hdropped ⊢
      omega
    · rw [held_some rfl]
      show _ + queue.discardCurrent.current.toList.length ≤ _
      rw [hcurrent]
      exact haccepted
  · rw [hdiscards, if_neg (not_not.mpr hsame)]
    exact h

/-- Conversion counts nothing, also when it fails. -/
theorem processRead_sameAccount {w w' : StreamWorld F .f32Iq} {queue : Queue} {room : ℕ}
    {result : Result (List (Complex F))} (hqueue : w.receiver.queue = some queue)
    (h : Receiver.processRead w queue room = .ok (result, w')) :
    SameAccount w.receiver w'.receiver := by
  obtain ⟨⟨_, processor, queue'⟩, hprocess, h⟩ := bind_ok h
  cases h
  have hconverted : SameAccount w.receiver (w.receiver.setIq queue' processor) := by
    rcases process_queue hprocess with rfl | rfl
    · exact sameAccount_queue hqueue rfl rfl rfl (Nat.le_refl _)
    · exact sameAccount_release hqueue rfl rfl
  cases result with
  | ok samples => exact hconverted
  | error e =>
    have hfailed := sameAccount_failed (α := List (Complex F)) e (w.receiver.setIq queue' processor)
    exact ⟨hfailed.stats.trans hconverted.stats, hfailed.held.trans hconverted.held⟩

/-- Every act keeps account. -/
theorem accounted_kept :
    KeptByActs fun (w : StreamWorld F _) takes discards => Accounted takes discards w.receiver where
  new w claim hnew := by
    rw [hnew]
    exact ⟨rfl, Nat.le_refl _⟩
  rely w w' _ _ hreceiver _ h := by
    rw [hreceiver]
    exact h
  control _ _ _ _ _ move hcontrol h := h.same (control_sameAccount move hcontrol)
  release _ _ _ _ hqueue h := h.same (sameAccount_release hqueue rfl rfl)
  begin _ _ _ _ hbegin h := h.begin hbegin
  fill _ _ _ _ _ _ _ _ _ hcurrent hfills h := h.fill hfills hcurrent
  process _ _ _ _ _ _ _ hqueue hprocess h := h.same (processRead_sameAccount hqueue hprocess)

/-! ## Reports -/

/-- What a stream reports in a state and by the events that led to it: its `current_stats`, and what
`stop` and `close` return. -/
inductive Reports (stream : ℕ) (s : System F mode) (events : List (CallEvent F mode)) :
    StreamingStats → Prop
  | current {phase : StreamPhase F mode} {receiver : Receiver F mode}
      (hphase : s.streams[stream]? = some phase) (howned : ownedReceiver phase = some receiver) :
      Reports stream s events receiver.currentStats
  | stopped {stats : StreamingStats} (hevent : .stopped stream (.ok stats) ∈ events) :
      Reports stream s events stats
  | closed {stats : StreamingStats} (hevent : .closed stream (.ok stats) ∈ events) :
      Reports stream s events stats

/-- What an act reports is what the stream counts after it. -/
theorem StreamAct.reports {stream : ℕ} {w w' : StreamWorld F mode} {work : Work}
    {events : List (CallEvent F mode)} (hact : StreamAct stream w work events w')
    {stats : StreamingStats} (hevent : .stopped stream (.ok stats) ∈ events ∨
      .closed stream (.ok stats) ∈ events) : stats = w'.receiver.currentStats := by
  cases hact with
  | control _ hevents =>
    rcases hevent with hevent | hevent
    · cases hevents _ hevent with
      | stopped hreport => exact (hreport stats rfl).2
    · cases hevents _ hevent with
      | closed hreport => exact hreport stats rfl
  | stops _ _ =>
    rcases hevent with hevent | hevent
    · cases List.mem_singleton.mp hevent
      rfl
    · exact nomatch List.mem_singleton.mp hevent
  | blocks _ _ _ _ hreport =>
    cases hreport <;> simp at hevent
  | reads _ hreport =>
    cases hreport <;> simp at hevent

/-- An event of a stream that its user has not dropped comes from an act that has kept account. -/
theorem stepped_accounted {config : ValidConfig mode} {stream : ℕ} {s s' : System F mode}
    {events : List (CallEvent F mode)} {work : Work} (hs : System.Reachable config s)
    (hstepped : Stepped stream s s' events work) {takes : List Taken} {discards : ℕ}
    (h : KeptTrace (fun (w : StreamWorld F _) takes discards => Accounted takes discards w.receiver)
      stream s takes discards) {event : CallEvent F mode} (hevent : event ∈ events)
    (habout : eventStream event = some stream)
    (hnot : ∀ claim, event ≠ .cleanedUp stream claim) :
    ∃ w w', StreamAct stream w work events w' ∧
      Accounted (takes ++ takesOf work.1) (discards + work.2) w'.receiver := by
  cases hstepped with
  | untouched _ hothers => exact absurd habout (hothers event hevent)
  | added _ _ hothers => exact absurd habout (hothers event hevent)
  | @acted phase _ _ _ w' hphase hreceiver hact _ _ _ hcleans =>
    cases howned : ownedReceiver phase with
    | none =>
      obtain ⟨claim, hclaim⟩ := hcleans howned event hevent
      exact absurd hclaim (hnot claim)
    | some receiver =>
      obtain rfl := Option.some.inj (hreceiver.symm.trans (receiver_of_owned howned))
      have hinv := (reachable_inv hs).system.streamInv (List.mem_of_getElem? hphase) hreceiver
      exact ⟨_, w', hact, accounted_kept.act hinv hact (h.kept phase _ hphase howned)⟩

/-- **What a step reports** is the account of everything taken and discarded until then. -/
theorem reports_account {config : ValidConfig mode} {stream : ℕ} {s : System F mode}
    {takes : List Taken} {discards : ℕ} (h : Traced config stream s takes discards)
    (action : Action mode) (reply : ℕ → AnyReply) {stats : StreamingStats}
    (hreports : Reports stream (s.step action reply) (newEvents s (s.step action reply)) stats) :
    stats = account (takes ++ takesOf (stepWork stream s action).1)
        (discards + (stepWork stream s action).2) ∧
      discards + (stepWork stream s action).2 ≤
        (acceptedOf (takes ++ takesOf (stepWork stream s action).1)).length := by
  have htrace := accounted_kept.traced h
  obtain ⟨events, hhistory, hstepped⟩ := step_stepped h.reachable action reply stream
  rw [newEvents_eq hhistory] at hreports
  cases hreports with
  | current hphase howned =>
    have haccounted := (accounted_kept.traced (h.step action reply)).kept _ _ hphase howned
    exact ⟨haccounted.stats, Nat.le_of_add_right_le haccounted.accepted⟩
  | stopped hevent =>
    obtain ⟨w, w', hact, haccounted⟩ := stepped_accounted h.reachable hstepped htrace hevent rfl
      (fun _ hsame => nomatch hsame)
    rw [StreamAct.reports hact (.inl hevent)]
    exact ⟨haccounted.stats, Nat.le_of_add_right_le haccounted.accepted⟩
  | closed hevent =>
    obtain ⟨w, w', hact, haccounted⟩ := stepped_accounted h.reachable hstepped htrace hevent rfl
      (fun _ hsame => nomatch hsame)
    rw [StreamAct.reports hact (.inr hevent)]
    exact ⟨haccounted.stats, Nat.le_of_add_right_le haccounted.accepted⟩

omit [SampleArithmetic F] in
/-- Building a queue changes no counter. -/
theorem newQueue_stats {receiver : Receiver F mode} (h : receiver.queue = none) (bulkIn : BulkIn)
    (settings : ReceiveSettings) :
    Receiver.currentStats { receiver with queue := some (Queue.new bulkIn settings) } =
      receiver.currentStats := by
  rw [currentStats_of_none h]
  rfl

/-- **Streaming statistics account for every completion.**  Whatever a stream reports, while a run
goes on or when it is stopped or closed, counts each completion that it has taken and each accepted
buffer that it has discarded for a changed factor; what it has taken from its open endpoint is what
that endpoint has handed out.  No counter ever decreases, and none changes where nothing is taken or
discarded.  Retiring a queue, closing it again when it is dropped and building one count nothing. -/
theorem statistics_account {config : ValidConfig mode} {stream : ℕ} {s : System F mode}
    {takes : List Taken} {discards : ℕ} (h : Traced config stream s takes discards)
    (action : Action mode) (reply : ℕ → AnyReply) :
    (∀ stats, Reports stream (s.step action reply) (newEvents s (s.step action reply)) stats →
      Accounts (takes ++ takesOf (stepWork stream s action).1)
        (discards + (stepWork stream s action).2) stats) ∧
    (∀ queue bulkIn, OwnsQueue (s.step action reply) stream queue bulkIn →
      bulkIn.completed = (takesAt bulkIn.id
        (takes ++ takesOf (stepWork stream s action).1)).map Taken.completion) ∧
    (∀ stats, Reports stream (s.step action reply) (newEvents s (s.step action reply)) stats →
      ∀ s₂, Later (s.step action reply) s₂ → ∀ action₂ reply₂, ∃ more further,
        Traced config stream (s₂.step action₂ reply₂)
          (takes ++ takesOf (stepWork stream s action).1 ++ more)
          (discards + (stepWork stream s action).2 + further) ∧
        ∀ stats₂, Reports stream (s₂.step action₂ reply₂) (newEvents s₂ (s₂.step action₂ reply₂))
          stats₂ → AtLeast stats stats₂ ∧ (more = [] → further = 0 → stats₂ = stats)) ∧
    ∀ receiver : Receiver F mode,
      receiver.retireStream.currentStats = receiver.currentStats ∧
      (∀ queue, receiver.queue = some queue →
        queue.close.stats = queue.stats ∧ queue.close.close = queue.close) ∧
      (receiver.queue = none → ∀ bulkIn settings,
        Receiver.currentStats { receiver with queue := some (Queue.new bulkIn settings) } =
          receiver.currentStats) := by
  refine ⟨?_, ?_, ?_, ?_⟩
  · intro stats hreports
    obtain ⟨rfl, hdiscards⟩ := reports_account h action reply hreports
    exact accounts hdiscards
  · intro queue bulkIn hqueue
    exact (traced_endpoint (h.step action reply) hqueue).completed
  · intro stats hreports s₂ hlater action₂ reply₂
    obtain ⟨rfl, _⟩ := reports_account h action reply hreports
    obtain ⟨more, further, htraced⟩ := (h.step action reply).later hlater
    have hstep := htraced.step action₂ reply₂
    rw [List.append_assoc, Nat.add_assoc] at hstep
    refine ⟨_, _, hstep, ?_⟩
    intro stats₂ hreports₂
    obtain ⟨rfl, _⟩ := reports_account htraced action₂ reply₂ hreports₂
    rw [List.append_assoc _ more, Nat.add_assoc _ further]
    refine ⟨account_atLeast _ _ _ _, ?_⟩
    intro hmore hfurther
    rw [hmore, hfurther, List.append_nil, Nat.add_zero]
  · intro receiver
    exact ⟨retireStream_stats receiver, fun _ _ => ⟨rfl, rfl⟩, newQueue_stats⟩

/-- An IQ stream has been started. -/
def startedCounting : System Rat .f32Iq :=
  System.after (ValidConfig.standard .f32Iq) (fun _ => obliging)
    [.pollDevice (List.replicate 16 obliging), .rxStream, .callStream 0 .start,
      .pollStream 0 (List.replicate 4 obliging) []]

/-- A read of it that gets a failed completion. -/
def failedCompletion : Action .f32Iq :=
  .pollRead 0 1 [⟨.error .busy, 0, []⟩]

/-- Whether a stream reports that its only completion has been dropped. -/
def reportsDropped (phase : StreamPhase Rat .f32Iq) : Bool :=
  (ownedReceiver phase).any fun receiver => receiver.currentStats == ⟨1, 0, 1, 0⟩

theorem failedCompletion_accounted :
    ∃ takes discards, Traced (ValidConfig.standard .f32Iq) 0 startedCounting takes discards ∧
      Accounts (takes ++ takesOf (stepWork 0 startedCounting failedCompletion).1)
        (discards + (stepWork 0 startedCounting failedCompletion).2) ⟨1, 0, 1, 0⟩ := by
  have hreachable : System.Reachable (ValidConfig.standard .f32Iq) startedCounting :=
    System.reachable_after _ _ _
  obtain ⟨takes, discards, htraced⟩ := reachable_traced 0 hreachable
  have hreports : ((startedCounting.step failedCompletion fun _ => obliging).streams[0]?).any
      reportsDropped = true := by
    decide +kernel
  obtain ⟨phase, hphase, hdropped⟩ := (Option.any_eq_true _ _).mp hreports
  obtain ⟨receiver, howned, hstats⟩ := (Option.any_eq_true _ _).mp hdropped
  refine ⟨takes, discards, htraced, ?_⟩
  rw [← show receiver.currentStats = ⟨1, 0, 1, 0⟩ from beq_iff_eq.mp hstats]
  exact (statistics_account htraced failedCompletion fun _ => obliging).1 _
    (.current hphase howned)

end HydraSdr.Analysis.StreamStatistics
