import HydraSdr.Program.Processing

/-!
# What the functions of a queue can do

Inversions of `turn`, of the fill loops and of `IqProcessor::process`, and the part of a queue's
state that everything but closing it keeps.
-/

set_option autoImplicit false

namespace HydraSdr.Analysis

open HydraSdr.Program

/-! ## Keeping the endpoint open -/

/-- The queue still has its endpoint, on which nothing has been cancelled. -/
structure KeepsEndpoint (queue queue' : Queue) : Prop where
  initialized : queue'.initialized = queue.initialized
  bulkIn : ∀ bulkIn, queue.bulkIn = some bulkIn → ∃ bulkIn', queue'.bulkIn = some bulkIn' ∧
    bulkIn'.id = bulkIn.id ∧ bulkIn'.cancelled = bulkIn.cancelled

theorem KeepsEndpoint.refl (queue : Queue) : KeepsEndpoint queue queue :=
  ⟨rfl, fun bulkIn h => ⟨bulkIn, h, rfl, rfl⟩⟩

theorem KeepsEndpoint.trans {a b c : Queue} (hab : KeepsEndpoint a b) (hbc : KeepsEndpoint b c) :
    KeepsEndpoint a c := by
  refine ⟨hbc.initialized.trans hab.initialized, fun bulkIn h => ?_⟩
  obtain ⟨bulkIn', h', hid, hcancelled⟩ := hab.bulkIn bulkIn h
  obtain ⟨bulkIn'', h'', hid', hcancelled'⟩ := hbc.bulkIn bulkIn' h'
  exact ⟨bulkIn'', h'', hid'.trans hid, hcancelled'.trans hcancelled⟩

@[simp] theorem submit_id (bulkIn : BulkIn) (buffer : Buffer) : (bulkIn.submit buffer).id = bulkIn.id :=
  rfl

@[simp] theorem submit_cancelled (bulkIn : BulkIn) (buffer : Buffer) :
    (bulkIn.submit buffer).cancelled = bulkIn.cancelled := rfl

@[simp] theorem submit_submitted (bulkIn : BulkIn) (buffer : Buffer) :
    (bulkIn.submit buffer).submitted = bulkIn.submitted + 1 := rfl

@[simp] theorem submit_pending (bulkIn : BulkIn) (buffer : Buffer) :
    (bulkIn.submit buffer).pending =
      bulkIn.pending ++ [{ buffer with number := bulkIn.submitted }] := rfl

theorem foldl_submit_id (buffers : List Buffer) (bulkIn : BulkIn) :
    (buffers.foldl BulkIn.submit bulkIn).id = bulkIn.id := by
  induction buffers generalizing bulkIn with
  | nil => rfl
  | cons buffer buffers ih => exact ih _

theorem foldl_submit_cancelled (buffers : List Buffer) (bulkIn : BulkIn) :
    (buffers.foldl BulkIn.submit bulkIn).cancelled = bulkIn.cancelled := by
  induction buffers generalizing bulkIn with
  | nil => rfl
  | cons buffer buffers ih => exact ih _

theorem foldl_submit_completed (buffers : List Buffer) (bulkIn : BulkIn) :
    (buffers.foldl BulkIn.submit bulkIn).completed = bulkIn.completed := by
  induction buffers generalizing bulkIn with
  | nil => rfl
  | cons buffer buffers ih => exact ih (bulkIn.submit buffer)

/-- The two cases of giving a buffer back. -/
theorem releaseCurrent_cases (queue : Queue) :
    (∃ buffer bulkIn, queue.current = some buffer ∧ queue.bulkIn = some bulkIn ∧
      queue.releaseCurrent =
        { queue with bulkIn := some (bulkIn.submit buffer), current := none, currentLen := 0 }) ∨
    ((queue.current = none ∨ queue.bulkIn = none) ∧
      queue.releaseCurrent = { queue with current := none, currentLen := 0 }) := by
  unfold Queue.releaseCurrent
  split
  · rename_i buffer bulkIn hcurrent hbulk
    exact .inl ⟨buffer, bulkIn, hcurrent, hbulk, rfl⟩
  · rename_i hnot
    refine .inr ⟨?_, rfl⟩
    cases hcurrent : queue.current with
    | none => exact .inl rfl
    | some buffer =>
      cases hbulk : queue.bulkIn with
      | none => exact .inr rfl
      | some bulkIn => exact absurd hbulk (hnot buffer bulkIn hcurrent)

@[simp] theorem releaseCurrent_current (queue : Queue) : queue.releaseCurrent.current = none := by
  rcases releaseCurrent_cases queue with ⟨_, _, _, _, h⟩ | ⟨_, h⟩ <;> rw [h]

@[simp] theorem releaseCurrent_settings (queue : Queue) :
    queue.releaseCurrent.settings = queue.settings := by
  rcases releaseCurrent_cases queue with ⟨_, _, _, _, h⟩ | ⟨_, h⟩ <;> rw [h]

@[simp] theorem releaseCurrent_discardRemaining (queue : Queue) :
    queue.releaseCurrent.discardRemaining = queue.discardRemaining := by
  rcases releaseCurrent_cases queue with ⟨_, _, _, _, h⟩ | ⟨_, h⟩ <;> rw [h]

@[simp] theorem releaseCurrent_stats (queue : Queue) : queue.releaseCurrent.stats = queue.stats := by
  rcases releaseCurrent_cases queue with ⟨_, _, _, _, h⟩ | ⟨_, h⟩ <;> rw [h]

@[simp] theorem pause_current (queue : Queue) : queue.pause.current = none := by
  unfold Queue.pause
  dsimp only
  split <;> exact releaseCurrent_current queue

@[simp] theorem pause_stats (queue : Queue) : queue.pause.stats = queue.stats := by
  unfold Queue.pause
  dsimp only
  split <;> exact releaseCurrent_stats queue

@[simp] theorem pause_settings (queue : Queue) : queue.pause.settings = queue.settings := by
  unfold Queue.pause
  dsimp only
  split <;> exact releaseCurrent_settings queue

/-- Giving back nothing changes nothing but the length. -/
theorem releaseCurrent_of_none {queue : Queue} (h : queue.current = none) :
    queue.releaseCurrent = { queue with currentLen := 0 } := by
  rcases releaseCurrent_cases queue with ⟨buffer, _, hcurrent, _, _⟩ | ⟨_, heq⟩
  · rw [h] at hcurrent
    exact nomatch hcurrent
  · rw [heq, ← h]

theorem keepsEndpoint_releaseCurrent (queue : Queue) : KeepsEndpoint queue queue.releaseCurrent := by
  rcases releaseCurrent_cases queue with ⟨buffer, bulkIn, _, hbulk, h⟩ | ⟨_, h⟩ <;> rw [h]
  · refine ⟨rfl, fun bulkIn' h' => ⟨_, rfl, ?_⟩⟩
    rw [hbulk] at h'
    rw [← Option.some.inj h']
    exact ⟨rfl, rfl⟩
  · exact ⟨rfl, fun bulkIn' h' => ⟨bulkIn', h', rfl, rfl⟩⟩

/-- Discarding is giving back, apart from the counters. -/
theorem discardCurrent_eq (queue : Queue) :
    ∃ stats, queue.discardCurrent = { queue.releaseCurrent with stats := stats } := by
  unfold Queue.discardCurrent
  split
  · rename_i buffer hcurrent
    cases hbulk : queue.bulkIn with
    | none => simp only [Queue.releaseCurrent, hcurrent, hbulk]; exact ⟨_, rfl⟩
    | some bulkIn => simp only [Queue.releaseCurrent, hcurrent, hbulk]; exact ⟨_, rfl⟩
  · exact ⟨queue.releaseCurrent.stats, rfl⟩

/-- There is nothing to discard without a current buffer. -/
theorem discardCurrent_of_none {queue : Queue} (h : queue.current = none) :
    queue.discardCurrent = { queue with currentLen := 0 } := by
  unfold Queue.discardCurrent
  split
  · rename_i buffer hcurrent
    exact nomatch h.symm.trans hcurrent
  · exact releaseCurrent_of_none h

theorem keepsEndpoint_discardCurrent (queue : Queue) :
    KeepsEndpoint queue queue.discardCurrent := by
  obtain ⟨stats, h⟩ := discardCurrent_eq queue
  rw [h]
  exact ⟨(keepsEndpoint_releaseCurrent queue).initialized,
    (keepsEndpoint_releaseCurrent queue).bulkIn⟩

/-! ## One completion -/

/-- Everything a turn with an arrival can do on an open endpoint. -/
inductive TurnCases (queue : Queue) (bulkIn : BulkIn) (buffer : Buffer) (pending : List Buffer)
    (arrival : Arrival) : Queue.Turn → Queue → Prop
  | discarded (hdiscard : queue.discardRemaining ≠ 0) :
      TurnCases queue bulkIn buffer pending arrival .again
        { queue with
          stats := { queue.stats with
            buffersReceived := queue.stats.buffersReceived + 1
            buffersDropped := queue.stats.buffersDropped + 1
            buffersDiscardedOnRestart := queue.stats.buffersDiscardedOnRestart + 1 }
          discardRemaining := queue.discardRemaining - 1
          bulkIn := some ((bulkIn.handOut pending (BulkIn.completion buffer arrival)).submit
            (BulkIn.completion buffer arrival).buffer) }
  | accepted (hdiscard : queue.discardRemaining = 0)
      (hcheck : queue.checkCompletion (BulkIn.completion buffer arrival) = .ok ()) :
      TurnCases queue bulkIn buffer pending arrival (.ends (.ok ()))
        { queue with
          stats := { queue.stats with
            buffersReceived := queue.stats.buffersReceived + 1
            buffersProcessed := queue.stats.buffersProcessed + 1 }
          bulkIn := some (bulkIn.handOut pending (BulkIn.completion buffer arrival))
          current := some (BulkIn.completion buffer arrival).buffer
          currentLen := arrival.actualLen }
  | rejected (hdiscard : queue.discardRemaining = 0) {e : Error}
      (hcheck : queue.checkCompletion (BulkIn.completion buffer arrival) = .error e) :
      TurnCases queue bulkIn buffer pending arrival (.ends (.error e))
        { queue with
          stats := { queue.stats with
            buffersReceived := queue.stats.buffersReceived + 1
            buffersDropped := queue.stats.buffersDropped + 1 }
          bulkIn := none
          current := none
          currentLen := 0
          buffers := [] }

/-- What a turn with an arrival can do. -/
theorem turn_cases {queue queue' : Queue} {arrival : Arrival} {turn : Queue.Turn}
    (h : queue.turn (some arrival) = .ok (turn, queue')) :
    (queue.bulkIn = none ∧
      turn = .ends (.error (.streamClosed "RX queue is closed")) ∧ queue' = queue) ∨
    ∃ bulkIn buffer pending, queue.bulkIn = some bulkIn ∧ bulkIn.pending = buffer :: pending ∧
      TurnCases queue bulkIn buffer pending arrival turn queue' := by
  unfold Queue.turn at h
  split at h
  · rename_i hbulk
    obtain ⟨rfl, rfl⟩ := Prod.mk.inj (Except.ok.inj h)
    exact .inl ⟨hbulk, rfl, rfl⟩
  · rename_i bulkIn hbulk
    obtain ⟨next, hnext, h⟩ := bind_ok h
    unfold BulkIn.nextComplete at hnext
    split at hnext
    · exact nomatch hnext
    · rename_i hsome
      exact nomatch hsome
    · rename_i buffer pending arrival' hpending harrival
      cases harrival
      obtain rfl := Except.ok.inj hnext
      refine .inr ⟨bulkIn, buffer, pending, hbulk, hpending, ?_⟩
      obtain ⟨accepted, haccept, h⟩ := bind_ok h
      unfold Queue.accept at haccept
      split at haccept
      · rename_i hdiscard
        obtain rfl := Except.ok.inj haccept
        obtain ⟨rfl, rfl⟩ := Prod.mk.inj (Except.ok.inj h)
        exact .discarded hdiscard
      · rename_i hdiscard
        have hzero : queue.discardRemaining = 0 := not_not.mp hdiscard
        split at haccept
        · rename_i e hcheck
          obtain rfl := Except.ok.inj haccept
          obtain ⟨rfl, rfl⟩ := Prod.mk.inj (Except.ok.inj h)
          exact .rejected hzero hcheck
        · rename_i hcheck
          obtain rfl := Except.ok.inj haccept
          obtain ⟨rfl, rfl⟩ := Prod.mk.inj (Except.ok.inj h)
          exact .accepted hzero hcheck

/-- A turn that does not fail keeps the endpoint. -/
theorem keepsEndpoint_turn {queue queue' : Queue} {arrival : Arrival} {turn : Queue.Turn}
    (h : queue.turn (some arrival) = .ok (turn, queue')) (hresult : ∀ e, turn ≠ .ends (.error e)) :
    KeepsEndpoint queue queue' := by
  rcases turn_cases h with ⟨_, hturn, _⟩ | ⟨bulkIn, buffer, pending, hbulk, _, hcases⟩
  · exact absurd hturn (hresult _)
  · cases hcases with
    | discarded _ =>
      refine ⟨rfl, fun bulkIn' h' => ⟨_, rfl, ?_⟩⟩
      rw [hbulk] at h'
      rw [← Option.some.inj h']
      exact ⟨rfl, rfl⟩
    | accepted _ _ =>
      refine ⟨rfl, fun bulkIn' h' => ⟨_, rfl, ?_⟩⟩
      rw [hbulk] at h'
      rw [← Option.some.inj h']
      exact ⟨rfl, rfl⟩
    | rejected _ _ => exact absurd rfl (hresult _)

/-- Without an arrival, a turn does not change the queue. -/
theorem turn_none {queue queue' : Queue} {turn : Queue.Turn}
    (h : queue.turn none = .ok (turn, queue')) :
    queue' = queue ∧ ((turn = .waits ∧ queue.bulkIn ≠ none) ∨
      (turn = .ends (.error (.streamClosed "RX queue is closed")) ∧ queue.bulkIn = none)) := by
  unfold Queue.turn at h
  split at h
  · rename_i hbulk
    obtain ⟨rfl, rfl⟩ := Prod.mk.inj (Except.ok.inj h)
    exact ⟨rfl, .inr ⟨rfl, hbulk⟩⟩
  · rename_i bulkIn hbulk
    obtain ⟨next, hnext, h⟩ := bind_ok h
    unfold BulkIn.nextComplete at hnext
    split at hnext
    · exact nomatch hnext
    · obtain rfl := Except.ok.inj hnext
      obtain ⟨rfl, rfl⟩ := Prod.mk.inj (Except.ok.inj h)
      exact ⟨rfl, .inl ⟨rfl, by rw [hbulk]; exact Option.some_ne_none _⟩⟩
    · rename_i hsome
      exact nomatch hsome

/-! ## A fill -/

theorem turn_settings {queue queue' : Queue} {arrival : Option Arrival} {turn : Queue.Turn}
    (h : queue.turn arrival = .ok (turn, queue')) : queue'.settings = queue.settings := by
  cases arrival with
  | none => rw [(turn_none h).1]
  | some arrival =>
    rcases turn_cases h with ⟨_, _, rfl⟩ | ⟨_, _, _, _, _, hcases⟩
    · rfl
    · cases hcases <;> rfl

theorem fillLoop_settings {arrivals rest : List Arrival} {queue queue' : Queue}
    {result : Option (Result Unit)}
    (h : Queue.fillLoop arrivals queue = .ok (result, queue', rest)) :
    queue'.settings = queue.settings := by
  induction arrivals generalizing queue with
  | nil =>
    obtain ⟨⟨turn, queue₁⟩, hturn, h⟩ := bind_ok h
    have hsettings := turn_settings hturn
    cases turn <;> cases h <;> exact hsettings
  | cons arrival arrivals ih =>
    obtain ⟨⟨turn, queue₁⟩, hturn, h⟩ := bind_ok h
    have hsettings := turn_settings hturn
    cases turn with
    | waits => cases h; exact hsettings
    | again => exact (ih h).trans hsettings
    | ends result => cases h; exact hsettings

/-- A run of the fill loops on an open queue: it goes on after completions from before a restart,
and ends with another one or when no more have arrived. -/
inductive Fills : Queue → List Arrival → Option (Result Unit) → Queue → List Arrival → Prop
  | waits (queue : Queue) : Fills queue [] none queue []
  | again {queue queue₁ queue' : Queue} {bulkIn : BulkIn} {buffer : Buffer} {pending : List Buffer}
      {arrival : Arrival} {arrivals rest : List Arrival} {result : Option (Result Unit)}
      (hbulk : queue.bulkIn = some bulkIn) (hpending : bulkIn.pending = buffer :: pending)
      (hcases : TurnCases queue bulkIn buffer pending arrival .again queue₁)
      (h : Fills queue₁ arrivals result queue' rest) :
      Fills queue (arrival :: arrivals) result queue' rest
  | ends {queue queue' : Queue} {bulkIn : BulkIn} {buffer : Buffer} {pending : List Buffer}
      {arrival : Arrival} {arrivals : List Arrival} {result : Result Unit}
      (hbulk : queue.bulkIn = some bulkIn) (hpending : bulkIn.pending = buffer :: pending)
      (hcases : TurnCases queue bulkIn buffer pending arrival (.ends result) queue') :
      Fills queue (arrival :: arrivals) (some result) queue' arrivals

/-- The fill loops of an open queue. -/
theorem fillLoop_fills {arrivals rest : List Arrival} {queue queue' : Queue}
    {result : Option (Result Unit)} (hopen : queue.bulkIn ≠ none)
    (h : Queue.fillLoop arrivals queue = .ok (result, queue', rest)) :
    Fills queue arrivals result queue' rest := by
  induction arrivals generalizing queue with
  | nil =>
    obtain ⟨⟨turn, queue₁⟩, hturn, h⟩ := bind_ok h
    obtain ⟨rfl, ⟨rfl, _⟩ | ⟨_, hclosed⟩⟩ := turn_none hturn
    · cases h
      exact .waits _
    · exact absurd hclosed hopen
  | cons arrival arrivals ih =>
    obtain ⟨⟨turn, queue₁⟩, hturn, h⟩ := bind_ok h
    rcases turn_cases hturn with ⟨hclosed, _⟩ | ⟨bulkIn, buffer, pending, hbulk, hpending, hcases⟩
    · exact absurd hclosed hopen
    · cases turn with
      | waits => exact nomatch hcases
      | again =>
        refine .again hbulk hpending hcases (ih ?_ h)
        cases hcases
        exact Option.some_ne_none _
      | ends ended =>
        cases h
        exact .ends hbulk hpending hcases

/-- A fill that succeeds leaves a current buffer. -/
theorem Fills.current {queue queue' : Queue} {arrivals rest : List Arrival}
    {result : Option (Result Unit)} (h : Fills queue arrivals result queue' rest)
    (hresult : result = some (.ok ())) : queue'.current.isSome = true := by
  induction h with
  | waits _ => exact nomatch hresult
  | again _ _ _ _ ih => exact ih hresult
  | ends _ _ hcases =>
    cases hcases with
    | accepted _ _ => rfl
    | rejected _ _ => exact nomatch hresult

/-- What makes a completion usable. -/
theorem checkCompletion_ok {queue : Queue} {completion : BulkInCompletion}
    (h : queue.checkCompletion completion = .ok ()) :
    completion.status = .ok () ∧ completion.actualLen = transferLength queue.settings.packing ∧
      completion.actualLen ≤ completion.buffer.bytes.length := by
  unfold Queue.checkCompletion at h
  split at h
  · exact nomatch h
  · rename_i hstatus
    split at h
    · exact nomatch h
    · rename_i hlength
      rw [not_or, not_not, Nat.not_lt] at hlength
      exact ⟨hstatus, hlength⟩

/-- A usable completion becomes the current one, when there is nothing to discard. -/
theorem accept_usable {queue : Queue} {completion : BulkInCompletion}
    (hdiscard : queue.discardRemaining = 0) (hcheck : queue.checkCompletion completion = .ok ()) :
    queue.accept completion = .ok (.ok true, { queue with
      stats := { queue.stats with
        buffersReceived := queue.stats.buffersReceived + 1
        buffersProcessed := queue.stats.buffersProcessed + 1 }
      current := some completion.buffer
      currentLen := completion.actualLen }) := by
  unfold Queue.accept
  rw [if_neg (not_not.mpr hdiscard), hcheck]

/-- An unusable one closes the queue. -/
theorem accept_unusable {queue : Queue} {completion : BulkInCompletion} {e : Error}
    (hdiscard : queue.discardRemaining = 0)
    (hcheck : queue.checkCompletion completion = .error e) :
    queue.accept completion = .ok (.error e, { queue with
      stats := { queue.stats with
        buffersReceived := queue.stats.buffersReceived + 1
        buffersDropped := queue.stats.buffersDropped + 1 } }.close) := by
  unfold Queue.accept
  rw [if_neg (not_not.mpr hdiscard), hcheck]

/-- The turns on an open endpoint are those of `TurnCases`. -/
theorem turn_of_cases {queue queue' : Queue} {bulkIn : BulkIn} {buffer : Buffer}
    {pending : List Buffer} {arrival : Arrival} {turn : Queue.Turn}
    (hbulk : queue.bulkIn = some bulkIn) (hpending : bulkIn.pending = buffer :: pending)
    (hcases : TurnCases queue bulkIn buffer pending arrival turn queue') :
    queue.turn (some arrival) = .ok (turn, queue') := by
  have hnext : bulkIn.nextComplete (some arrival) = .ok (some (BulkIn.completion buffer arrival,
      bulkIn.handOut pending (BulkIn.completion buffer arrival))) := by
    unfold BulkIn.nextComplete
    rw [hpending]
  generalize hhanded : ({ queue with
    bulkIn := some (bulkIn.handOut pending (BulkIn.completion buffer arrival)) } : Queue) = handed
  -- what `accept` says decides the turn
  have hturn : ∀ (outcome : Result Bool) {after : Queue},
      handed.accept (BulkIn.completion buffer arrival) = .ok (outcome, after) →
      queue.turn (some arrival) = .ok (match outcome with
        | .ok true => .ends (.ok ())
        | .ok false => .again
        | .error e => .ends (.error e), after) := by
    intro outcome after haccept
    unfold Queue.turn
    simp only [hbulk, hnext, bind, Except.bind, hhanded, haccept]
    match outcome with
    | .ok true => rfl
    | .ok false => rfl
    | .error e => rfl
  subst hhanded
  cases hcases with
  | discarded hdiscard =>
    refine hturn (.ok false) ?_
    unfold Queue.accept
    rw [if_pos hdiscard]
  | accepted hdiscard hcheck => exact hturn _ (accept_usable hdiscard hcheck)
  | rejected hdiscard hcheck => exact hturn _ (accept_unusable hdiscard hcheck)

/-- An endpoint with a transfer pending never panics. -/
theorem turn_total {queue : Queue} {bulkIn : BulkIn} {buffer : Buffer} {pending : List Buffer}
    (hbulk : queue.bulkIn = some bulkIn) (hpending : bulkIn.pending = buffer :: pending)
    (arrival : Arrival) :
    ∃ turn queue', queue.turn (some arrival) = .ok (turn, queue') ∧
      TurnCases queue bulkIn buffer pending arrival turn queue' := by
  by_cases hdiscard : queue.discardRemaining = 0
  · cases hcheck : queue.checkCompletion (BulkIn.completion buffer arrival) with
    | ok value =>
      have hcases : TurnCases queue bulkIn buffer pending arrival _ _ := .accepted hdiscard hcheck
      exact ⟨_, _, turn_of_cases hbulk hpending hcases, hcases⟩
    | error e =>
      have hcases : TurnCases queue bulkIn buffer pending arrival _ _ := .rejected hdiscard hcheck
      exact ⟨_, _, turn_of_cases hbulk hpending hcases, hcases⟩
  · have hcases : TurnCases queue bulkIn buffer pending arrival _ _ := .discarded hdiscard
    exact ⟨_, _, turn_of_cases hbulk hpending hcases, hcases⟩

/-- A turn with a usable completion, when there is nothing to discard. -/
theorem turn_accepted {queue : Queue} {bulkIn : BulkIn} {buffer : Buffer} {pending : List Buffer}
    {arrival : Arrival} (hbulk : queue.bulkIn = some bulkIn)
    (hpending : bulkIn.pending = buffer :: pending) (hdiscard : queue.discardRemaining = 0)
    (hcheck : queue.checkCompletion (BulkIn.completion buffer arrival) = .ok ()) :
    ∃ queue', queue.turn (some arrival) = .ok (.ends (.ok ()), queue') ∧
      queue'.settings = queue.settings ∧
      queue'.current = some (BulkIn.completion buffer arrival).buffer ∧
      queue'.currentLen = arrival.actualLen :=
  ⟨_, turn_of_cases hbulk hpending (.accepted hdiscard hcheck), rfl, rfl, rfl⟩

/-- A current buffer that holds as much as the completion said is handed out. -/
theorem block_of_current {queue : Queue} {buffer : Buffer} (hcurrent : queue.current = some buffer)
    (hlength : queue.currentLen ≤ buffer.bytes.length) : ∃ block, queue.block = .ok (.ok block) := by
  unfold Queue.block
  rw [hcurrent]
  dsimp only
  rw [if_neg (Nat.not_lt.mpr hlength)]
  exact ⟨_, rfl⟩

/-! ## Conversion -/

variable {F : Type} [SampleArithmetic F]

/-- Conversion gives the current buffer back or leaves the queue alone. -/
theorem processLoop_queue {room turns : ℕ} {processor processor' : IqProcessor F}
    {queue queue' : Queue} {written : List (Complex F)} {result : Result (List (Complex F))}
    (h : IqProcessor.processLoop room turns processor queue written =
      .ok (result, processor', queue')) :
    queue' = queue ∨ queue' = queue.releaseCurrent := by
  induction turns generalizing processor written with
  | zero =>
    unfold IqProcessor.processLoop at h
    exact .inl (Prod.mk.inj (Prod.mk.inj (Except.ok.inj h)).2).2.symm
  | succ turns ih =>
    unfold IqProcessor.processLoop at h
    split at h
    · split at h
      · exact .inl (Prod.mk.inj (Prod.mk.inj (Except.ok.inj h)).2).2.symm
      · obtain ⟨raw, _, h⟩ := bind_ok h
        obtain ⟨⟨converter, progress, samples⟩, _, h⟩ := bind_ok h
        dsimp only at h
        split at h
        · exact .inr (Prod.mk.inj (Prod.mk.inj (Except.ok.inj h)).2).2.symm
        · split at h
          · exact .inl (Prod.mk.inj (Prod.mk.inj (Except.ok.inj h)).2).2.symm
          · exact ih h
    · exact .inl (Prod.mk.inj (Prod.mk.inj (Except.ok.inj h)).2).2.symm

theorem process_queue {room : ℕ} {processor processor' : IqProcessor F} {queue queue' : Queue}
    {result : Result (List (Complex F))}
    (h : IqProcessor.process processor queue room = .ok (result, processor', queue')) :
    queue' = queue ∨ queue' = queue.releaseCurrent := by
  unfold IqProcessor.process at h
  split at h
  · exact .inl (Prod.mk.inj (Prod.mk.inj (Except.ok.inj h)).2).2.symm
  · split at h
    · exact processLoop_queue h
    · exact processLoop_queue h

theorem keepsEndpoint_process {room : ℕ} {processor processor' : IqProcessor F}
    {queue queue' : Queue} {result : Result (List (Complex F))}
    (h : IqProcessor.process processor queue room = .ok (result, processor', queue')) :
    KeepsEndpoint queue queue' := by
  rcases process_queue h with rfl | rfl
  · exact KeepsEndpoint.refl _
  · exact keepsEndpoint_releaseCurrent _

end HydraSdr.Analysis
