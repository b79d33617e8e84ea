import HydraSdr.Analysis.QueueSteps

/-!
# The completions that a fill takes

What `poll_fill` and `wait_fill` take from their endpoint, one completion after the other, what
becomes of each, and what the queue counts and keeps of them.
-/

set_option autoImplicit false

namespace HydraSdr.Analysis

open HydraSdr.Program

/-- What becomes of a completion. -/
inductive Fate where
  | discarded
  | accepted
  | rejected
  deriving DecidableEq

/-- A completion that a queue has taken from its endpoint. -/
structure Taken where
  endpoint : ℕ
  completion : BulkInCompletion
  fate : Fate

/-- What a turn of the loops has made of the completion it took. -/
def Fate.of : Queue.Turn → Fate
  | .waits => .discarded
  | .again => .discarded
  | .ends (.ok _) => .accepted
  | .ends (.error _) => .rejected

/-- The completion that the endpoint of a queue hands out next. -/
def nextTaken (queue : Queue) (arrival : Arrival) : Option (ℕ × BulkInCompletion) :=
  match queue.bulkIn with
  | none => none
  | some bulkIn =>
    match bulkIn.nextComplete (some arrival) with
    | .ok (some (completion, _)) => some (bulkIn.id, completion)
    | _ => none

/-- The completions that the loops of `poll_fill` and `wait_fill` take. -/
def loopTakes : List Arrival → Queue → List Taken
  | [], _ => []
  | arrival :: arrivals, queue =>
    match nextTaken queue arrival, queue.turn (some arrival) with
    | some (endpoint, completion), .ok (turn, queue') =>
      ⟨endpoint, completion, Fate.of turn⟩ ::
        match turn with
        | .again => loopTakes arrivals queue'
        | _ => []
    | _, _ => []

/-- The completions that have been accepted. -/
def acceptedOf (takes : List Taken) : List Taken :=
  takes.filter fun taken => taken.fate = .accepted

/-- How a queue counts the completions it takes. -/
def tally (takes : List Taken) : StreamingStats where
  buffersReceived := takes.length
  buffersProcessed := (acceptedOf takes).length
  buffersDropped := takes.countP fun taken => taken.fate ≠ .accepted
  buffersDiscardedOnRestart := takes.countP fun taken => taken.fate = .discarded

@[simp] theorem acceptedOf_nil : acceptedOf [] = [] := rfl

theorem acceptedOf_cons (taken : Taken) (takes : List Taken) :
    acceptedOf (taken :: takes) =
      if taken.fate = .accepted then taken :: acceptedOf takes else acceptedOf takes := by
  simp [acceptedOf, List.filter_cons]

@[simp] theorem acceptedOf_append (takes more : List Taken) :
    acceptedOf (takes ++ more) = acceptedOf takes ++ acceptedOf more := by
  simp [acceptedOf]

theorem combined_assoc (a b c : StreamingStats) :
    (a.combined b).combined c = a.combined (b.combined c) := by
  simp [StreamingStats.combined, Nat.add_assoc]

@[simp] theorem combined_zero (stats : StreamingStats) : stats.combined .zero = stats := rfl

@[simp] theorem tally_nil : tally [] = .zero := rfl

theorem tally_append (takes more : List Taken) :
    tally (takes ++ more) = (tally takes).combined (tally more) := by
  simp [tally, StreamingStats.combined]

theorem tally_cons (taken : Taken) (takes : List Taken) :
    tally (taken :: takes) = (tally [taken]).combined (tally takes) :=
  tally_append [taken] takes

/-- Every completion is counted as processed or as dropped. -/
theorem tally_balanced (takes : List Taken) :
    (tally takes).buffersProcessed + (tally takes).buffersDropped = takes.length := by
  have hlength := takes.length_eq_countP_add_countP fun taken => decide (taken.fate = .accepted)
  simp only [decide_eq_true_eq] at hlength
  simp [tally, acceptedOf, hlength, ← List.countP_eq_length_filter]

theorem tally_restart_le (takes : List Taken) :
    (tally takes).buffersDiscardedOnRestart ≤ (tally takes).buffersDropped := by
  apply List.countP_mono_left
  intro taken _ hdiscarded
  simp at hdiscarded ⊢
  rw [hdiscarded]
  simp

/-! ## One turn -/

/-- What is taken by a turn, and by those after it. -/
theorem loopTakes_cons {queue queue' : Queue} {bulkIn : BulkIn} {buffer : Buffer}
    {pending : List Buffer} {arrival : Arrival} {turn : Queue.Turn}
    (hbulk : queue.bulkIn = some bulkIn) (hpending : bulkIn.pending = buffer :: pending)
    (hcases : TurnCases queue bulkIn buffer pending arrival turn queue') (arrivals : List Arrival) :
    loopTakes (arrival :: arrivals) queue =
      ⟨bulkIn.id, BulkIn.completion buffer arrival, Fate.of turn⟩ ::
        match turn with
        | .again => loopTakes arrivals queue'
        | _ => [] := by
  have hnext : nextTaken queue arrival = some (bulkIn.id, BulkIn.completion buffer arrival) := by
    unfold nextTaken BulkIn.nextComplete
    simp only [hbulk, hpending]
  rw [loopTakes, hnext, turn_of_cases hbulk hpending hcases]

/-- A completion is discarded exactly when some are left to be discarded. -/
theorem TurnCases.discarded_iff {queue queue' : Queue} {bulkIn : BulkIn} {buffer : Buffer}
    {pending : List Buffer} {arrival : Arrival} {turn : Queue.Turn}
    (hcases : TurnCases queue bulkIn buffer pending arrival turn queue') :
    Fate.of turn = .discarded ↔ queue.discardRemaining ≠ 0 := by
  cases hcases with
  | discarded hdiscard => simp [Fate.of, hdiscard]
  | accepted hdiscard _ => simp [Fate.of, hdiscard]
  | rejected hdiscard _ => simp [Fate.of, hdiscard]

/-- A turn counts its completion. -/
theorem TurnCases.stats {queue queue' : Queue} {bulkIn : BulkIn} {buffer : Buffer}
    {pending : List Buffer} {arrival : Arrival} {turn : Queue.Turn}
    (hcases : TurnCases queue bulkIn buffer pending arrival turn queue') :
    queue'.stats = queue.stats.combined
      (tally [⟨bulkIn.id, BulkIn.completion buffer arrival, Fate.of turn⟩]) := by
  cases hcases <;> simp [tally, acceptedOf, Fate.of, StreamingStats.combined]

/-! ## A fill -/

/-- **A fill counts what it takes.** -/
theorem Fills.stats {queue queue' : Queue} {arrivals rest : List Arrival}
    {result : Option (Result Unit)} (h : Fills queue arrivals result queue' rest) :
    queue'.stats = queue.stats.combined (tally (loopTakes arrivals queue)) := by
  induction h with
  | waits queue => rfl
  | again hbulk hpending hcases _ ih =>
    rw [loopTakes_cons hbulk hpending hcases, tally_cons, ← combined_assoc, ← hcases.stats]
    exact ih
  | ends hbulk hpending hcases =>
    rw [loopTakes_cons hbulk hpending hcases]
    exact hcases.stats

/-- A fill takes no more than what is left to be discarded, and one completion more. -/
theorem Fills.count {queue queue' : Queue} {arrivals rest : List Arrival}
    {result : Option (Result Unit)} (h : Fills queue arrivals result queue' rest) :
    (loopTakes arrivals queue).length + rest.length = arrivals.length ∧
      (loopTakes arrivals queue).length ≤ queue.discardRemaining + 1 := by
  induction h with
  | waits queue => simp [loopTakes]
  | again hbulk hpending hcases _ ih =>
    rw [loopTakes_cons hbulk hpending hcases]
    cases hcases with
    | discarded hdiscard =>
      simp only [List.length_cons] at ih ⊢
      omega
  | ends hbulk hpending hcases =>
    rw [loopTakes_cons hbulk hpending hcases]
    cases hcases <;> simp <;> omega

/-- What a fill takes comes from the endpoint of its queue. -/
theorem Fills.endpoint {queue queue' : Queue} {arrivals rest : List Arrival}
    {result : Option (Result Unit)} (h : Fills queue arrivals result queue' rest) {bulkIn : BulkIn}
    (hbulk : queue.bulkIn = some bulkIn) :
    ∀ taken ∈ loopTakes arrivals queue, taken.endpoint = bulkIn.id := by
  induction h generalizing bulkIn with
  | waits queue => simp [loopTakes]
  | again hbulk' hpending hcases _ ih =>
    rw [loopTakes_cons hbulk' hpending hcases]
    obtain rfl := Option.some.inj (hbulk.symm.trans hbulk')
    cases hcases with
    | discarded hdiscard =>
      intro taken htaken
      rcases List.mem_cons.mp htaken with rfl | htaken
      · rfl
      · exact ih rfl taken htaken
  | ends hbulk' hpending hcases =>
    rw [loopTakes_cons hbulk' hpending hcases]
    obtain rfl := Option.some.inj (hbulk.symm.trans hbulk')
    cases hcases <;> simp

/-- The endpoint of a fill that does not fail has handed out what the fill has taken. -/
theorem Fills.completed {queue queue' : Queue} {arrivals rest : List Arrival}
    {result : Option (Result Unit)} (h : Fills queue arrivals result queue' rest)
    (hresult : ∀ e, result ≠ some (.error e)) {bulkIn : BulkIn}
    (hbulk : queue.bulkIn = some bulkIn) :
    ∃ bulkIn', queue'.bulkIn = some bulkIn' ∧ bulkIn'.id = bulkIn.id ∧
      bulkIn'.completed = bulkIn.completed ++ (loopTakes arrivals queue).map Taken.completion := by
  induction h generalizing bulkIn with
  | waits queue => exact ⟨bulkIn, hbulk, rfl, by simp [loopTakes]⟩
  | again hbulk' hpending hcases _ ih =>
    rw [loopTakes_cons hbulk' hpending hcases]
    obtain rfl := Option.some.inj (hbulk.symm.trans hbulk')
    cases hcases with
    | discarded hdiscard =>
      obtain ⟨bulkIn', hbulk'', hid, hcompleted⟩ := ih hresult rfl
      refine ⟨bulkIn', hbulk'', hid, ?_⟩
      rw [hcompleted]
      simp [BulkIn.submit, BulkIn.handOut]
  | ends hbulk' hpending hcases =>
    rw [loopTakes_cons hbulk' hpending hcases]
    obtain rfl := Option.some.inj (hbulk.symm.trans hbulk')
    cases hcases with
    | accepted _ _ => exact ⟨_, rfl, rfl, by simp [BulkIn.handOut]⟩
    | rejected _ _ => exact absurd rfl (hresult _)

/-- A fill that does not fail has submitted the buffers of what it has discarded, and no others. -/
theorem Fills.submitted {queue queue' : Queue} {arrivals rest : List Arrival}
    {result : Option (Result Unit)} (h : Fills queue arrivals result queue' rest)
    {bulkIn bulkIn' : BulkIn} (hbulk : queue.bulkIn = some bulkIn)
    (hbulk' : queue'.bulkIn = some bulkIn') :
    bulkIn'.submitted = bulkIn.submitted +
      (loopTakes arrivals queue).countP fun taken => taken.fate = .discarded := by
  induction h generalizing bulkIn with
  | waits queue =>
    obtain rfl := Option.some.inj (hbulk.symm.trans hbulk')
    rfl
  | again hbulk₁ hpending hcases _ ih =>
    rw [loopTakes_cons hbulk₁ hpending hcases]
    obtain rfl := Option.some.inj (hbulk.symm.trans hbulk₁)
    cases hcases with
    | discarded _ =>
      rw [ih rfl hbulk', List.countP_cons_of_pos (by simp [Fate.of])]
      exact Nat.add_right_comm bulkIn.submitted 1 _
  | ends hbulk₁ hpending hcases =>
    rw [loopTakes_cons hbulk₁ hpending hcases]
    obtain rfl := Option.some.inj (hbulk.symm.trans hbulk₁)
    cases hcases with
    | accepted _ _ =>
      obtain rfl := Option.some.inj hbulk'
      rfl
    | rejected _ _ => exact nomatch hbulk'

/-- A fill leaves the settings of its queue alone. -/
theorem Fills.settings {queue queue' : Queue} {arrivals rest : List Arrival}
    {result : Option (Result Unit)} (h : Fills queue arrivals result queue' rest) :
    queue'.settings = queue.settings := by
  induction h with
  | waits queue => rfl
  | again _ _ hcases _ ih =>
    rw [ih]
    cases hcases with
    | discarded _ => rfl
  | ends _ _ hcases => cases hcases <;> rfl

/-- A fill that does not fail has rejected nothing. -/
theorem Fills.spares {queue queue' : Queue} {arrivals rest : List Arrival}
    {result : Option (Result Unit)} (h : Fills queue arrivals result queue' rest)
    (hresult : ∀ e, result ≠ some (.error e)) :
    ∀ taken ∈ loopTakes arrivals queue, taken.fate ≠ .rejected := by
  induction h with
  | waits _ => exact fun _ htaken => absurd htaken List.not_mem_nil
  | again hbulk hpending hcases _ ih =>
    rw [loopTakes_cons hbulk hpending hcases]
    intro taken htaken
    rcases List.mem_cons.mp htaken with rfl | htaken
    · exact Fate.noConfusion
    · exact ih hresult taken htaken
  | ends hbulk hpending hcases =>
    rw [loopTakes_cons hbulk hpending hcases]
    intro taken htaken
    have hhead : taken = _ := List.mem_singleton.mp htaken
    rw [hhead]
    cases hcases with
    | accepted _ _ => exact Fate.noConfusion
    | rejected _ _ => exact absurd rfl (hresult _)

/-- A fill that fails has closed its queue. -/
theorem Fills.closed {queue queue' : Queue} {arrivals rest : List Arrival}
    {result : Option (Result Unit)} (h : Fills queue arrivals result queue' rest) {e : Error}
    (hresult : result = some (.error e)) : queue'.bulkIn = none := by
  induction h with
  | waits _ => exact nomatch hresult
  | again _ _ _ _ ih => exact ih hresult
  | ends _ _ hcases =>
    cases hcases with
    | accepted _ _ => exact nomatch hresult
    | rejected _ _ => rfl

/-- **A fill accepts a completion exactly when it succeeds**, and that one is then the current
one. -/
theorem Fills.accepts {queue queue' : Queue} {arrivals rest : List Arrival}
    {result : Option (Result Unit)} (h : Fills queue arrivals result queue' rest) :
    (result = some (.ok ()) ∧ ∃ taken, acceptedOf (loopTakes arrivals queue) = [taken] ∧
      queue'.current = some taken.completion.buffer ∧
      queue'.currentLen = taken.completion.actualLen ∧
      queue.checkCompletion taken.completion = .ok ()) ∨
    (result ≠ some (.ok ()) ∧ acceptedOf (loopTakes arrivals queue) = [] ∧
      (queue.current = none → queue'.current = none)) := by
  induction h with
  | waits queue => exact .inr ⟨by simp, rfl, id⟩
  | again hbulk hpending hcases _ ih =>
    rw [loopTakes_cons hbulk hpending hcases, acceptedOf_cons]
    cases hcases with
    | discarded hdiscard => exact ih
  | ends hbulk hpending hcases =>
    rw [loopTakes_cons hbulk hpending hcases, acceptedOf_cons]
    cases hcases with
    | accepted _ hcheck => exact .inl ⟨rfl, _, rfl, rfl, rfl, hcheck⟩
    | rejected _ _ => exact .inr ⟨by simp, rfl, fun _ => rfl⟩

/-- A fill of an endpoint with transfers pending does not panic. -/
theorem fillLoop_total {queue : Queue} {bulkIn : BulkIn} (hbulk : queue.bulkIn = some bulkIn)
    (hpending : bulkIn.pending ≠ []) (arrivals : List Arrival) :
    ∃ outcome, Queue.fillLoop arrivals queue = .ok outcome := by
  induction arrivals generalizing queue bulkIn with
  | nil =>
    obtain ⟨buffer, pending, hpending⟩ := List.exists_cons_of_ne_nil hpending
    refine ⟨(none, queue, []), ?_⟩
    have hturn : queue.turn none = .ok (.waits, queue) := by
      unfold Queue.turn BulkIn.nextComplete
      simp only [hbulk, hpending]
      rfl
    unfold Queue.fillLoop
    rw [hturn]
    rfl
  | cons arrival arrivals ih =>
    obtain ⟨buffer, pending, hpending⟩ := List.exists_cons_of_ne_nil hpending
    obtain ⟨turn, queue', hturn, hcases⟩ := turn_total hbulk hpending arrival
    unfold Queue.fillLoop
    rw [hturn]
    cases hcases with
    | discarded _ =>
      apply ih rfl
      simp
    | accepted _ _ => exact ⟨_, rfl⟩
    | rejected _ _ => exact ⟨_, rfl⟩

end HydraSdr.Analysis
