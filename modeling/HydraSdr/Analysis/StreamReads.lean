import HydraSdr.Analysis.StreamInvariant

/-!
# Reads are sequences of moves

The data paths of a running stream: the fill loops, and the reads of both sample modes by polling
and by waiting.
-/

set_option autoImplicit false

namespace HydraSdr.Analysis

open HydraSdr.Program

variable {F : Type} [SampleArithmetic F] {mode : SampleFormat}

/-- What a fill loop leaves behind: a stream whose fill has failed is given up. -/
def afterFill (result : Option (Result Unit)) (queue : Queue) (w : StreamWorld F mode) :
    StreamWorld F mode :=
  match result with
  | some (.error e) => (w.setQueue queue).onReceiver (Receiver.failedRead (.error e : Result Unit))
  | _ => w.setQueue queue

/-- The fill loop takes one completion after the other. -/
theorem fillLoop_moves {arrivals rest : List Arrival} {w : StreamWorld F mode}
    {queue queue' : Queue} {result : Option (Result Unit)}
    (hstate : w.receiver.claim.receiver = .running) (hcarried : CarriesNothing w.receiver.processor)
    (hcurrent : queue.current = none) (hopen : queue.bulkIn ≠ none)
    (h : Queue.fillLoop arrivals queue = .ok (result, queue', rest)) :
    Moves (w.setQueue queue) (afterFill result queue' w) := by
  induction arrivals generalizing queue with
  | nil =>
    obtain ⟨⟨turn, queue₁⟩, hturn, h⟩ := bind_ok h
    obtain ⟨hsame, ⟨rfl, _⟩ | ⟨rfl, hclosed⟩⟩ := turn_none hturn
    · obtain ⟨rfl, rfl⟩ : none = result ∧ queue₁ = queue' := by
        have := Except.ok.inj h
        exact ⟨congrArg Prod.fst this, congrArg (fun p => p.2.1) this⟩
      rw [hsame]
      exact .none
    · exact absurd hclosed hopen
  | cons arrival arrivals ih =>
    obtain ⟨⟨turn, queue₁⟩, hturn, h⟩ := bind_ok h
    cases turn with
    | waits =>
      obtain ⟨rfl, rfl⟩ : none = result ∧ queue₁ = queue' := by
        have := Except.ok.inj h
        exact ⟨congrArg Prod.fst this, congrArg (fun p => p.2.1) this⟩
      exact (Move.take (w.setQueue queue) arrival hstate rfl hcurrent hcarried hturn
        (fun _ => Queue.Turn.noConfusion)).moves
    | again =>
      have hstep := Move.take (w.setQueue queue) arrival hstate rfl hcurrent hcarried hturn
        (fun _ => Queue.Turn.noConfusion)
      have hkept : queue₁.current = none ∧ queue₁.bulkIn ≠ none := by
        rcases turn_cases hturn with ⟨_, hend, _⟩ | ⟨bulkIn, buffer, pending, _, _, hcases⟩
        · exact nomatch hend
        · cases hcases
          exact ⟨hcurrent, Option.some_ne_none _⟩
      exact hstep.moves.trans (ih hkept.1 hkept.2 h)
    | ends ended =>
      obtain ⟨rfl, rfl⟩ : some ended = result ∧ queue₁ = queue' := by
        have := Except.ok.inj h
        exact ⟨congrArg Prod.fst this, congrArg (fun p => p.2.1) this⟩
      cases ended with
      | ok value =>
        exact (Move.take (w.setQueue queue) arrival hstate rfl hcurrent hcarried hturn
          (fun e he => nomatch he)).moves
      | error e => exact (Move.reject (w.setQueue queue) arrival hstate rfl hcurrent hturn).moves

/-- `poll_fill` of a queue without a current buffer. -/
theorem pollFill_moves {arrivals rest : List Arrival} {w : StreamWorld F mode}
    {queue queue' : Queue} {result : Option (Result Unit)}
    (hstate : w.receiver.claim.receiver = .running) (hcarried : CarriesNothing w.receiver.processor)
    (hcurrent : queue.current = none) (hopen : queue.bulkIn ≠ none)
    (h : queue.pollFill arrivals = .ok (result, queue', rest)) :
    Moves (w.setQueue queue) (afterFill result queue' w) := by
  unfold Queue.pollFill at h
  rw [hcurrent] at h
  exact fillLoop_moves hstate hcarried hcurrent hopen h

/-- The result of a blocking fill, as one of a polled fill. -/
def fillResult : Result Bool → Option (Result Unit)
  | .ok true => some (.ok ())
  | .ok false => none
  | .error e => some (.error e)

/-- `wait_fill` of a queue without a current buffer is the same loop. -/
theorem waitFill_eq {arrivals rest : List Arrival} {queue queue' : Queue} {result : Result Bool}
    (hcurrent : queue.current = none)
    (h : queue.waitFill arrivals = .ok (result, queue', rest)) :
    Queue.fillLoop arrivals queue = .ok (fillResult result, queue', rest) := by
  unfold Queue.waitFill at h
  rw [hcurrent] at h
  obtain ⟨⟨filled, queue₁, rest₁⟩, hfill, h⟩ := bind_ok h
  rw [hfill]
  match filled, h with
  | none, h => cases h; rfl
  | some (.ok _), h => cases h; rfl
  | some (.error e), h => cases h; rfl

/-! ## Raw blocks -/

/-- **A poll for the next block** makes moves. -/
theorem pollNextBlock_moves {w w' : StreamWorld F .rawAdc} {arrivals rest : List Arrival}
    {result : Option (Result Unit)} (hinv : StreamInv w)
    (h : Receiver.pollNextBlock w arrivals = .ok (result, w', rest)) : Moves w w' := by
  unfold Receiver.pollNextBlock Receiver.ensureRunning at h
  by_cases hstate : w.receiver.claim.receiver = .running
  · obtain ⟨queue, hqueue, _⟩ := (hinv.running hstate).2
    obtain ⟨bulkIn, hbulk, _⟩ := hinv.endpoint queue hqueue
    rw [if_pos hstate, hqueue] at h
    obtain ⟨⟨filled, queue₁, rest₁⟩, hfill, h⟩ := bind_ok h
    have hopen : queue.releaseCurrent.bulkIn ≠ none := by
      obtain ⟨bulkIn', hbulk', _⟩ := (keepsEndpoint_releaseCurrent queue).bulkIn bulkIn hbulk
      rw [hbulk']
      exact Option.some_ne_none _
    have hmoves := (Move.release w hstate hqueue).moves.trans
      (pollFill_moves hstate trivial (releaseCurrent_current queue) hopen hfill)
    match filled, h with
    | none, h => cases h; exact hmoves
    | some (.ok _), h => cases h; exact hmoves
    | some (.error e), h => cases h; exact hmoves
  · rw [if_neg hstate] at h
    cases h
    exact .none

/-- **The blocking wait for the next block** makes moves, once the stream is known to run. -/
theorem waitNextBlock_moves {w w' : StreamWorld F .rawAdc} {arrivals rest : List Arrival}
    {result : Result (Option SampleBlock)} (hinv : StreamInv w)
    (hstate : w.receiver.claim.receiver = .running)
    (h : Receiver.waitNextBlock w arrivals = .ok (result, w', rest)) : Moves w w' := by
  obtain ⟨queue, hqueue, _⟩ := (hinv.running hstate).2
  obtain ⟨bulkIn, hbulk, _⟩ := hinv.endpoint queue hqueue
  unfold Receiver.waitNextBlock at h
  rw [hqueue] at h
  obtain ⟨⟨filled, queue₁, rest₁⟩, hfill, h⟩ := bind_ok h
  have hopen : queue.releaseCurrent.bulkIn ≠ none := by
    obtain ⟨bulkIn', hbulk', _⟩ := (keepsEndpoint_releaseCurrent queue).bulkIn bulkIn hbulk
    rw [hbulk']
    exact Option.some_ne_none _
  have hmoves := (Move.release w hstate hqueue).moves.trans
    (fillLoop_moves hstate trivial (releaseCurrent_current queue) hopen
      (waitFill_eq (releaseCurrent_current queue) hfill))
  match filled, h with
  | .error e, h => cases h; exact hmoves
  | .ok false, h => cases h; exact hmoves
  | .ok true, h =>
    obtain ⟨block, _, h⟩ := bind_ok h
    cases h
    exact hmoves

/-! ## IQ samples -/

/-- The beginning of a read makes moves, and leaves a stream that runs with its queue or an
error. -/
theorem beginRead_moves {w : StreamWorld F .f32Iq} (hinv : StreamInv w) :
    Moves w (Receiver.beginRead w).2 ∧
      ((Receiver.beginRead w).1 = .ok () →
        (Receiver.beginRead w).2.receiver.claim.receiver = .running) := by
  unfold Receiver.beginRead Receiver.ensureRunning
  by_cases hstate : w.receiver.claim.receiver = .running
  · obtain ⟨queue, hqueue, _⟩ := (hinv.running hstate).2
    rw [if_pos hstate, hqueue]
    dsimp only
    split
    · rename_i hchanged
      exact ⟨(Move.redecimate w hstate hqueue hchanged).moves, fun _ => hstate⟩
    · exact ⟨.none, fun _ => hstate⟩
  · rw [if_neg hstate]
    exact ⟨.none, (nomatch ·)⟩

/-- The conversion at the end of a read is a move. -/
theorem processRead_moves {w w' : StreamWorld F .f32Iq} {queue : Queue} {room : ℕ}
    {result : Result (List (Complex F))} (hstate : w.receiver.claim.receiver = .running)
    (hqueue : w.receiver.queue = some queue)
    (h : Receiver.processRead w queue room = .ok (result, w')) : Moves w w' := by
  obtain ⟨⟨converted, processor, queue'⟩, hprocess, h⟩ := bind_ok h
  cases h
  exact (Move.convert w hstate hqueue hprocess).moves

/-- What a poll of a read can do once it has begun, with this queue. -/
inductive BegunRead (w : StreamWorld F .f32Iq) (queue : Queue) (room : ℕ)
    (arrivals : List Arrival) :
    Option (Result (List (Complex F))) → StreamWorld F .f32Iq → List Arrival → Prop
  | noRoom (hroom : room = 0) : BegunRead w queue room arrivals (some (.ok [])) w arrivals
  | held {result : Result (List (Complex F))} {w' : StreamWorld F .f32Iq} (hroom : room ≠ 0)
      (hheld : queue.current.isSome = true ∨ IqProcessor.pending w.receiver.processor ≠ none)
      (hprocess : Receiver.processRead w queue room = .ok (result, w')) :
      BegunRead w queue room arrivals (some result) w' arrivals
  | pending {queue' : Queue} {rest : List Arrival} (hroom : room ≠ 0)
      (hcurrent : queue.current = none) (hcarried : CarriesNothing w.receiver.processor)
      (hfill : Queue.fillLoop arrivals queue = .ok (none, queue', rest)) :
      BegunRead w queue room arrivals none (w.setQueue queue') rest
  | rejected {queue' : Queue} {rest : List Arrival} {e : Error} (hroom : room ≠ 0)
      (hcurrent : queue.current = none) (hcarried : CarriesNothing w.receiver.processor)
      (hfill : Queue.fillLoop arrivals queue = .ok (some (.error e), queue', rest)) :
      BegunRead w queue room arrivals (some (.error e))
        ((w.setQueue queue').onReceiver (Receiver.failedRead (.error e : Result Unit))) rest
  | filled {queue' : Queue} {rest : List Arrival} {result : Result (List (Complex F))}
      {w' : StreamWorld F .f32Iq} (hroom : room ≠ 0) (hcurrent : queue.current = none)
      (hcarried : CarriesNothing w.receiver.processor)
      (hfill : Queue.fillLoop arrivals queue = .ok (some (.ok ()), queue', rest))
      (hprocess : Receiver.processRead (w.setQueue queue') queue' room = .ok (result, w')) :
      BegunRead w queue room arrivals (some result) w' rest

/-- What a poll of a read can do. -/
inductive ReadCases (w : StreamWorld F .f32Iq) (room : ℕ) (arrivals : List Arrival) :
    Option (Result (List (Complex F))) → StreamWorld F .f32Iq → List Arrival → Prop
  | refused {e : Error} (hbegin : Receiver.beginRead w = (.error e, w)) :
      ReadCases w room arrivals (some (.error e)) w arrivals
  | begun {w₁ w' : StreamWorld F .f32Iq} {queue : Queue}
      {polled : Option (Result (List (Complex F)))} {rest : List Arrival}
      (hbegin : Receiver.beginRead w = (.ok (), w₁))
      (hqueue : w₁.receiver.queue = some queue)
      (hread : BegunRead w₁ queue room arrivals polled w' rest) :
      ReadCases w room arrivals polled w' rest

/-- A read that begins finds a running stream, and gives up what another factor has left. -/
theorem beginRead_ok {w w₁ : StreamWorld F .f32Iq} (h : Receiver.beginRead w = (.ok (), w₁)) :
    w.receiver.claim.receiver = .running ∧ ∃ queue, w.receiver.queue = some queue ∧
      ((queue.settings.decimation ≠ w.session.receive.decimation ∧
        w₁ = w.onReceiver (Receiver.redecimate queue w.session.receive.decimation)) ∨
      (queue.settings.decimation = w.session.receive.decimation ∧ w₁ = w)) := by
  unfold Receiver.beginRead Receiver.ensureRunning at h
  by_cases hstate : w.receiver.claim.receiver = .running
  · rw [if_pos hstate] at h
    cases hqueue : w.receiver.queue with
    | none =>
      rw [hqueue] at h
      exact nomatch (Prod.mk.inj h).1
    | some queue =>
      rw [hqueue] at h
      dsimp only at h
      refine ⟨hstate, queue, rfl, ?_⟩
      split at h
      · rename_i hchanged
        exact .inl ⟨hchanged, (Prod.mk.inj h).2.symm⟩
      · rename_i hsame
        exact .inr ⟨not_not.mp hsame, (Prod.mk.inj h).2.symm⟩
  · rw [if_neg hstate] at h
    exact nomatch (Prod.mk.inj h).1

/-- The queue of a read that has begun, at the factor of the session. -/
theorem beginRead_queue {w w₁ : StreamWorld F .f32Iq} (h : Receiver.beginRead w = (.ok (), w₁)) :
    ∃ queue, w₁.receiver.queue = some queue ∧
      queue.settings.decimation = w.session.receive.decimation := by
  obtain ⟨_, queue, hqueue, ⟨_, rfl⟩ | ⟨hsame, rfl⟩⟩ := beginRead_ok h
  · exact ⟨_, rfl, rfl⟩
  · exact ⟨queue, hqueue, hsame⟩

/-- A read that is refused has not touched the stream. -/
theorem beginRead_error {w w₁ : StreamWorld F .f32Iq} {e : Error}
    (h : Receiver.beginRead w = (.error e, w₁)) : w₁ = w := by
  unfold Receiver.beginRead at h
  split at h
  · exact (Prod.mk.inj h).2.symm
  · exact (Prod.mk.inj h).2.symm
  · dsimp only at h
    split at h
    · exact nomatch (Prod.mk.inj h).1
    · exact nomatch (Prod.mk.inj h).1

/-- **Every poll of a read** is one of these. -/
theorem pollRead_cases {w w' : StreamWorld F .f32Iq} {room : ℕ} {arrivals rest : List Arrival}
    {polled : Option (Result (List (Complex F)))}
    (h : Receiver.pollRead w room arrivals = .ok (polled, w', rest)) :
    ReadCases w room arrivals polled w' rest := by
  unfold Receiver.pollRead at h
  cases hbegin : Receiver.beginRead w with
  | mk begun w₁ =>
    rw [hbegin] at h
    cases begun with
    | error e =>
      obtain rfl := beginRead_error hbegin
      cases h
      exact .refused hbegin
    | ok value =>
      obtain ⟨queue, hqueue, _⟩ := beginRead_queue hbegin
      refine .begun hbegin hqueue ?_
      dsimp only at h
      split at h
      · rename_i hroom
        cases h
        exact .noRoom hroom
      · rename_i hroom
        rw [hqueue] at h
        dsimp only [expect, bind, Except.bind] at h
        split at h
        · rename_i hempty
          rw [Bool.and_eq_true, Option.isNone_iff_eq_none] at hempty
          obtain ⟨hcurrent, hnone⟩ := hempty
          have hcarried : CarriesNothing w₁.receiver.processor := Option.isNone_iff_eq_none.mp hnone
          unfold Queue.pollFill at h
          rw [hcurrent] at h
          obtain ⟨⟨filled, queue', rest'⟩, hfill, h⟩ := bind_ok h
          match filled, h with
          | none, h =>
            cases h
            exact .pending hroom hcurrent hcarried hfill
          | some (.error e), h =>
            cases h
            exact .rejected hroom hcurrent hcarried hfill
          | some (.ok _), h =>
            obtain ⟨⟨result, w₂⟩, hprocess, h⟩ := bind_ok h
            cases h
            exact .filled hroom hcurrent hcarried hfill hprocess
        · rename_i hheld
          obtain ⟨⟨result, w₂⟩, hprocess, h⟩ := bind_ok h
          cases h
          refine .held hroom ?_ hprocess
          rw [Bool.and_eq_true, not_and_or, Option.isNone_iff_eq_none] at hheld
          rcases hheld with hcurrent | hsome
          · exact .inl (Option.isSome_iff_ne_none.mpr hcurrent)
          · exact .inr fun hnone => hsome (by rw [hnone]; rfl)

/-- A read that is refused. -/
theorem pollRead_refused {w w₁ : StreamWorld F .f32Iq} {e : Error}
    (hbegin : Receiver.beginRead w = (.error e, w₁)) (room : ℕ) (arrivals : List Arrival) :
    Receiver.pollRead w room arrivals = .ok (some (.error e), w₁, arrivals) := by
  unfold Receiver.pollRead
  rw [hbegin]

/-- A read of nothing. -/
theorem pollRead_noRoom {w w₁ : StreamWorld F .f32Iq} {room : ℕ}
    (hbegin : Receiver.beginRead w = (.ok (), w₁)) (hroom : room = 0) (arrivals : List Arrival) :
    Receiver.pollRead w room arrivals = .ok (some (.ok []), w₁, arrivals) := by
  unfold Receiver.pollRead
  rw [hbegin]
  dsimp only
  rw [if_pos hroom]

/-- A read that has begun and finds samples held comes to convert at once. -/
theorem pollRead_held {w w₁ : StreamWorld F .f32Iq} {queue : Queue} {room : ℕ}
    (hbegin : Receiver.beginRead w = (.ok (), w₁)) (hqueue : w₁.receiver.queue = some queue)
    (hroom : room ≠ 0)
    (hheld : queue.current.isSome = true ∨ IqProcessor.pending w₁.receiver.processor ≠ none)
    (arrivals : List Arrival) :
    Receiver.pollRead w room arrivals = (Receiver.processRead w₁ queue room).map
      fun outcome => (some outcome.1, outcome.2, arrivals) := by
  have hnot : ¬(queue.current.isNone &&
      (IqProcessor.pending w₁.receiver.processor).isNone) = true := by
    rw [Bool.and_eq_true, Option.isNone_iff_eq_none, Option.isNone_iff_eq_none]
    rintro ⟨hcurrent, hnone⟩
    rcases hheld with hsome | hsome
    · rw [hcurrent] at hsome
      exact nomatch hsome
    · exact hsome hnone
  unfold Receiver.pollRead
  rw [hbegin]
  dsimp only
  rw [if_neg hroom, hqueue]
  dsimp only [expect, bind, Except.bind]
  rw [if_neg hnot]
  cases Receiver.processRead w₁ queue room <;> rfl

/-- How a read goes on from its fill. -/
structure ReadFills (w w₁ : StreamWorld F .f32Iq) (queue : Queue) (room : ℕ)
    (arrivals : List Arrival) : Prop where
  panic : ∀ panic, Queue.fillLoop arrivals queue = .error panic →
    Receiver.pollRead w room arrivals = .error panic
  pending : ∀ queue' rest, Queue.fillLoop arrivals queue = .ok (none, queue', rest) →
    Receiver.pollRead w room arrivals = .ok (none, w₁.setQueue queue', rest)
  rejected : ∀ e queue' rest,
    Queue.fillLoop arrivals queue = .ok (some (.error e), queue', rest) →
    Receiver.pollRead w room arrivals = .ok (some (.error e),
      (w₁.setQueue queue').onReceiver (Receiver.failedRead (.error e : Result Unit)), rest)
  filled : ∀ queue' rest, Queue.fillLoop arrivals queue = .ok (some (.ok ()), queue', rest) →
    Receiver.pollRead w room arrivals =
      (Receiver.processRead (w₁.setQueue queue') queue' room).map
        fun outcome => (some outcome.1, outcome.2, rest)

/-- A read that has begun and finds nothing held fills first. -/
theorem pollRead_fills {w w₁ : StreamWorld F .f32Iq} {queue : Queue} {room : ℕ}
    (hbegin : Receiver.beginRead w = (.ok (), w₁)) (hqueue : w₁.receiver.queue = some queue)
    (hroom : room ≠ 0) (hcurrent : queue.current = none)
    (hcarried : CarriesNothing w₁.receiver.processor) (arrivals : List Arrival) :
    ReadFills w w₁ queue room arrivals := by
  have hempty : (queue.current.isNone &&
      (IqProcessor.pending w₁.receiver.processor).isNone) = true := by
    rw [Bool.and_eq_true, Option.isNone_iff_eq_none, Option.isNone_iff_eq_none]
    exact ⟨hcurrent, hcarried⟩
  refine ⟨fun panic hfill => ?_, fun queue' rest hfill => ?_, fun e queue' rest hfill => ?_,
    fun queue' rest hfill => ?_⟩
  all_goals
    unfold Receiver.pollRead
    rw [hbegin]
    dsimp only
    rw [if_neg hroom, hqueue]
    dsimp only [expect, bind, Except.bind]
    rw [if_pos hempty]
    unfold Queue.pollFill
    rw [hcurrent]
    dsimp only
    rw [hfill]
  · rfl
  · rfl
  · dsimp only
    cases Receiver.processRead (w₁.setQueue queue') queue' room <;> rfl

/-- **A poll of a read** makes moves. -/
theorem pollRead_moves {w w' : StreamWorld F .f32Iq} {room : ℕ} {arrivals rest : List Arrival}
    {result : Option (Result (List (Complex F)))} (hinv : StreamInv w)
    (h : Receiver.pollRead w room arrivals = .ok (result, w', rest)) : Moves w w' := by
  obtain ⟨hbegin, hrunning⟩ := beginRead_moves hinv
  cases pollRead_cases h with
  | refused _ => exact .none
  | @begun w₁ _ queue _ _ hbegun hqueue hread =>
    rw [hbegun] at hbegin hrunning
    have hstate : w₁.receiver.claim.receiver = .running := hrunning rfl
    obtain ⟨bulkIn, hbulk, _⟩ := (hinv.moves hbegin).endpoint queue hqueue
    have hopen : queue.bulkIn ≠ none := by
      rw [hbulk]
      exact Option.some_ne_none _
    have hself : w₁.setQueue queue = w₁ := by
      unfold StreamWorld.setQueue StreamWorld.onReceiver
      rw [← hqueue]
    -- the moves of a fill start from the queue as it is
    have hfills : ∀ {result queue' rest}, queue.current = none →
        CarriesNothing w₁.receiver.processor →
        Queue.fillLoop arrivals queue = .ok (result, queue', rest) →
        Moves w₁ (afterFill result queue' w₁) := by
      intro result queue' rest hcurrent hcarried hfill
      have hmoves := fillLoop_moves hstate hcarried hcurrent hopen hfill
      rw [hself] at hmoves
      exact hmoves
    cases hread with
    | noRoom _ => exact hbegin
    | held _ _ hprocess => exact hbegin.trans (processRead_moves hstate hqueue hprocess)
    | pending _ hcurrent hcarried hfill => exact hbegin.trans (hfills hcurrent hcarried hfill)
    | rejected _ hcurrent hcarried hfill => exact hbegin.trans (hfills hcurrent hcarried hfill)
    | filled _ hcurrent hcarried hfill hprocess =>
      exact (hbegin.trans (hfills hcurrent hcarried hfill)).trans
        (processRead_moves hstate rfl hprocess)

/-- **A blocking read is a poll** with the same completions; it times out when the poll stays
pending. -/
theorem readBlocking_poll (w : StreamWorld F .f32Iq) (room : ℕ) (arrivals : List Arrival) :
    Receiver.readBlocking w room arrivals = (Receiver.pollRead w room arrivals).map
      fun outcome => (outcome.1.getD (.ok []), outcome.2) := by
  unfold Receiver.readBlocking Receiver.pollRead
  generalize Receiver.beginRead w = begun
  obtain ⟨begun, w₁⟩ := begun
  cases begun with
  | error e => rfl
  | ok value =>
    dsimp only
    split
    · rfl
    · cases expect "running queue" w₁.receiver.queue with
      | error panic => rfl
      | ok queue =>
        dsimp only [bind, Except.bind]
        split
        · rename_i hempty
          rw [Bool.and_eq_true, Option.isNone_iff_eq_none] at hempty
          unfold Queue.waitFill Queue.pollFill
          rw [hempty.1]
          dsimp only [bind, Except.bind]
          cases Queue.fillLoop arrivals queue with
          | error panic => rfl
          | ok outcome =>
            obtain ⟨filled, queue', rest⟩ := outcome
            match filled with
            | none => rfl
            | some (.error e) => rfl
            | some (.ok _) =>
              dsimp only [pure, Except.pure]
              cases Receiver.processRead (w₁.setQueue queue') queue' room <;> rfl
        · cases Receiver.processRead w₁ queue room <;> rfl

/-- A blocking read does what a poll with the same completions does; a timeout is a poll that
stays pending. -/
theorem readBlocking_eq {w w' : StreamWorld F .f32Iq} {room : ℕ} {arrivals rest : List Arrival}
    {result : Result (List (Complex F))}
    (h : Receiver.readBlocking w room arrivals = .ok (result, w', rest)) :
    ∃ polled, Receiver.pollRead w room arrivals = .ok (polled, w', rest) ∧
      (polled = some result ∨ (polled = none ∧ result = .ok [])) := by
  rw [readBlocking_poll] at h
  obtain ⟨⟨polled, w₁, rest₁⟩, hpolled, houtcome⟩ := map_ok h
  cases houtcome
  cases polled with
  | none => exact ⟨none, hpolled, .inr ⟨rfl, rfl⟩⟩
  | some result => exact ⟨some result, hpolled, .inl rfl⟩

/-- **A blocking read** makes moves. -/
theorem readBlocking_moves {w w' : StreamWorld F .f32Iq} {room : ℕ} {arrivals rest : List Arrival}
    {result : Result (List (Complex F))} (hinv : StreamInv w)
    (h : Receiver.readBlocking w room arrivals = .ok (result, w', rest)) : Moves w w' := by
  obtain ⟨polled, hpolled, _⟩ := readBlocking_eq h
  exact pollRead_moves hinv hpolled

/-! ## Read futures -/

/-- A read future after a poll. -/
def afterRead (operation : ReadOperation) (polled : Option (Result (List (Complex F)))) :
    ReadOperation :=
  { operation with completed := polled.isSome }

/-- **A poll of a read future** is a poll of its read, unless the future has returned. -/
theorem readOperation_poll {operation : ReadOperation} (hgoes : operation.completed = false)
    (w : StreamWorld F .f32Iq) (arrivals : List Arrival) :
    operation.poll w arrivals = (Receiver.pollRead w operation.room arrivals).map
      fun outcome => (outcome.1, afterRead operation outcome.1, outcome.2) := by
  unfold ReadOperation.poll assertTrue
  rw [hgoes]
  show (Receiver.pollRead w operation.room arrivals >>= _) = _
  cases Receiver.pollRead w operation.room arrivals <;> rfl

/-- A read future that has returned. -/
theorem readOperation_again {operation : ReadOperation} (hover : operation.completed = true)
    (w : StreamWorld F .f32Iq) (arrivals : List Arrival) :
    operation.poll w arrivals = .error (.assertFailed "read future polled after completion") := by
  unfold ReadOperation.poll assertTrue
  rw [hover]
  rfl

/-- A poll of a read future that does not panic. -/
theorem readOperation_ok {operation operation' : ReadOperation} {w w' : StreamWorld F .f32Iq}
    {arrivals rest : List Arrival} {polled : Option (Result (List (Complex F)))}
    (h : operation.poll w arrivals = .ok (polled, operation', w', rest)) :
    operation.completed = false ∧ operation' = afterRead operation polled ∧
      Receiver.pollRead w operation.room arrivals = .ok (polled, w', rest) := by
  cases hover : operation.completed with
  | true => exact nomatch (readOperation_again hover w arrivals).symm.trans h
  | false =>
    rw [readOperation_poll hover] at h
    obtain ⟨⟨result, w₁, rest₁⟩, hread, houtcome⟩ := map_ok h
    cases houtcome
    exact ⟨rfl, rfl, hread⟩

end HydraSdr.Analysis
