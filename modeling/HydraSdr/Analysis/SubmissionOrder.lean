import HydraSdr.Analysis.QueueRuns
import HydraSdr.Analysis.TakenCompletions

/-!
# The order of submissions

A queue counts how many of its oldest transfers were submitted before it was paused last.  The
counter agrees with the positions at which those transfers wait, so a completion is discarded exactly
when its transfer is one of them.  Transfers are numbered as they are submitted, and each is handed
out once, in that order.
-/

set_option autoImplicit false

namespace HydraSdr.Analysis

open HydraSdr.Program

/-- The oldest `remaining` of the transfers that an endpoint waits for were submitted before
`cancel_all` was last called, and the others after that. -/
structure Ordered (remaining : ℕ) (bulkIn : BulkIn) : Prop where
  bounded : remaining ≤ bulkIn.pending.length
  stale : ∀ buffer ∈ bulkIn.pending.take remaining, buffer.number < bulkIn.cancelled
  fresh : ∀ buffer ∈ bulkIn.pending.drop remaining, bulkIn.cancelled ≤ buffer.number
  submitted : ∀ buffer ∈ bulkIn.pending, buffer.number < bulkIn.submitted
  cancelled : bulkIn.cancelled ≤ bulkIn.submitted

/-- The counter of a queue agrees with the order of its submissions, and its current buffer is not
one of those that it counts. -/
def Stamped (queue : Queue) : Prop :=
  ∀ bulkIn, queue.bulkIn = some bulkIn → Ordered queue.discardRemaining bulkIn ∧
    ∀ buffer, queue.current = some buffer → bulkIn.cancelled ≤ buffer.number

theorem ordered_opened (id : ℕ) : Ordered 0 (BulkIn.opened id) where
  bounded := Nat.le_refl 0
  stale _ hbuffer := absurd hbuffer List.not_mem_nil
  fresh _ hbuffer := absurd hbuffer List.not_mem_nil
  submitted _ hbuffer := absurd hbuffer List.not_mem_nil
  cancelled := Nat.le_refl 0

/-- A submission is younger than all others. -/
theorem Ordered.submit {remaining : ℕ} {bulkIn : BulkIn} (h : Ordered remaining bulkIn)
    (buffer : Buffer) : Ordered remaining (bulkIn.submit buffer) where
  bounded := by
    rw [submit_pending, List.length_append]
    exact h.bounded.trans (Nat.le_add_right _ _)
  stale other hother := by
    rw [submit_pending, List.take_append_of_le_length h.bounded] at hother
    exact h.stale other hother
  fresh other hother := by
    rw [submit_pending, List.drop_append_of_le_length h.bounded] at hother
    rcases List.mem_append.mp hother with hother | hother
    · exact h.fresh other hother
    · rw [List.mem_singleton.mp hother]
      exact h.cancelled
  submitted other hother := by
    rw [submit_pending] at hother
    rcases List.mem_append.mp hother with hother | hother
    · exact (h.submitted other hother).trans (Nat.lt_succ_self _)
    · rw [List.mem_singleton.mp hother]
      exact Nat.lt_succ_self _
  cancelled := h.cancelled.trans (Nat.le_succ _)

theorem Ordered.foldl_submit {remaining : ℕ} {bulkIn : BulkIn} (h : Ordered remaining bulkIn)
    (buffers : List Buffer) : Ordered remaining (buffers.foldl BulkIn.submit bulkIn) := by
  induction buffers generalizing bulkIn with
  | nil => exact h
  | cons buffer buffers ih => exact ih (h.submit buffer)

/-- When everything is cancelled, everything that is waited for is from before. -/
theorem Ordered.cancelAll {remaining : ℕ} {bulkIn : BulkIn} (h : Ordered remaining bulkIn) :
    Ordered bulkIn.pending.length bulkIn.cancelAll where
  bounded := Nat.le_refl _
  stale buffer hbuffer := h.submitted buffer (List.mem_of_mem_take hbuffer)
  fresh buffer hbuffer := by
    rw [show bulkIn.cancelAll.pending = bulkIn.pending from rfl, List.drop_length] at hbuffer
    exact absurd hbuffer List.not_mem_nil
  submitted := h.submitted
  cancelled := Nat.le_refl _

/-- The oldest transfer is one of those counted exactly when some are. -/
theorem Ordered.oldest {remaining : ℕ} {bulkIn : BulkIn} (h : Ordered remaining bulkIn)
    {buffer : Buffer} {pending : List Buffer} (hpending : bulkIn.pending = buffer :: pending) :
    remaining ≠ 0 ↔ buffer.number < bulkIn.cancelled := by
  cases remaining with
  | zero =>
    have hfresh := h.fresh buffer (by rw [hpending]; exact List.mem_cons_self)
    simpa using hfresh
  | succ remaining =>
    have hstale := h.stale buffer (by rw [hpending]; exact List.mem_cons_self)
    simpa using hstale

/-- The oldest transfer has completed. -/
theorem Ordered.handOut {remaining : ℕ} {bulkIn : BulkIn} (h : Ordered remaining bulkIn)
    {buffer : Buffer} {pending : List Buffer} (hpending : bulkIn.pending = buffer :: pending)
    (completion : BulkInCompletion) :
    Ordered (remaining - 1) (bulkIn.handOut pending completion) := by
  have hmem : ∀ other ∈ pending, other ∈ bulkIn.pending := by
    intro other hother
    rw [hpending]
    exact List.mem_cons_of_mem buffer hother
  have hremaining := h.bounded
  have hstale := h.stale
  have hfresh := h.fresh
  rw [hpending] at hremaining hstale hfresh
  refine ⟨?_, ?_, ?_, fun other hother => h.submitted other (hmem other hother), h.cancelled⟩
  · show remaining - 1 ≤ pending.length
    rw [List.length_cons] at hremaining
    omega
  · intro other hother
    cases remaining with
    | zero => exact absurd hother List.not_mem_nil
    | succ remaining => exact hstale other (List.mem_cons_of_mem buffer hother)
  · intro other hother
    cases remaining with
    | zero => exact hfresh other (List.mem_cons_of_mem buffer hother)
    | succ remaining => exact hfresh other hother

/-- A turn that does not fail keeps the order. -/
theorem Stamped.turn {queue queue' : Queue} {bulkIn : BulkIn} {buffer : Buffer}
    {pending : List Buffer} {arrival : Arrival} {turn : Queue.Turn} (h : Stamped queue)
    (hbulk : queue.bulkIn = some bulkIn) (hpending : bulkIn.pending = buffer :: pending)
    (hcurrent : queue.current = none)
    (hcases : TurnCases queue bulkIn buffer pending arrival turn queue') : Stamped queue' := by
  obtain ⟨hordered, _⟩ := h bulkIn hbulk
  have hhanded := hordered.handOut hpending (BulkIn.completion buffer arrival)
  intro bulkIn' hbulk'
  cases hcases with
  | discarded _ =>
    obtain rfl := Option.some.inj hbulk'
    exact ⟨hhanded.submit _, fun other hother => nomatch hcurrent.symm.trans hother⟩
  | accepted hzero _ =>
    obtain rfl := Option.some.inj hbulk'
    refine ⟨?_, ?_⟩
    · rw [hzero] at hhanded
      show Ordered queue.discardRemaining _
      rw [hzero]
      exact hhanded
    · intro other hother
      obtain rfl := Option.some.inj hother
      have hnot := (not_congr (hordered.oldest hpending)).mp (not_not.mpr hzero)
      exact Nat.not_lt.mp hnot
  | rejected _ _ => exact nomatch hbulk'

/-- **Every operation on a queue keeps its counter in order.** -/
theorem keptByQueue_stamped (since : ℕ) : KeptByQueue since Stamped where
  opened id settings _ bulkIn hbulk := by
    obtain rfl := Option.some.inj hbulk
    exact ⟨ordered_opened id, fun _ hcurrent => nomatch hcurrent⟩
  submit queue bulkIn hbulk _ h bulkIn' hbulk' := by
    obtain rfl := Option.some.inj hbulk'
    obtain ⟨hordered, hcurrent⟩ := h bulkIn hbulk
    rw [foldl_submit_cancelled]
    exact ⟨hordered.foldl_submit queue.buffers, hcurrent⟩
  release queue h bulkIn' hbulk' := by
    rcases releaseCurrent_cases queue with ⟨buffer, bulkIn, _, hbulk, heq⟩ | ⟨_, heq⟩
    · rw [heq] at hbulk' ⊢
      obtain rfl := Option.some.inj hbulk'
      exact ⟨(h bulkIn hbulk).1.submit buffer, fun _ hcurrent => nomatch hcurrent⟩
    · rw [heq] at hbulk' ⊢
      exact ⟨(h bulkIn' hbulk').1, fun _ hcurrent => nomatch hcurrent⟩
  pause queue bulkIn hbulk hcurrent h bulkIn' hbulk' := by
    obtain rfl := Option.some.inj hbulk'
    exact ⟨(h bulkIn hbulk).1.cancelAll, fun _ hother => nomatch hcurrent.symm.trans hother⟩
  stats _ _ h := h
  settings _ _ _ h := h
  turn _ _ _ _ _ _ _ hbulk hpending hcurrent hcases _ h := h.turn hbulk hpending hcurrent hcases

/-- The transfers of an endpoint are numbered as they are submitted.  Each of them has been handed out
once, the oldest first, or is still waited for. -/
def InSequence (bulkIn : BulkIn) : Prop :=
  (bulkIn.completed.map BulkInCompletion.buffer ++ bulkIn.pending).map Buffer.number =
    List.range bulkIn.submitted

/-- The transfers of a queue are in sequence, and its current buffer is the one that has been handed
out last. -/
def Sequenced (queue : Queue) : Prop :=
  ∀ bulkIn, queue.bulkIn = some bulkIn → InSequence bulkIn ∧
    ∀ buffer, queue.current = some buffer →
      (bulkIn.completed.map BulkInCompletion.buffer).getLast? = some buffer

/-- Every submission gets the next number. -/
theorem InSequence.submit {bulkIn : BulkIn} (h : InSequence bulkIn) (buffer : Buffer) :
    InSequence (bulkIn.submit buffer) := by
  unfold InSequence at h ⊢
  rw [submit_pending, ← List.append_assoc, List.map_append, List.map_append]
  show (bulkIn.completed.map BulkInCompletion.buffer).map Buffer.number ++ _ ++ _ = _
  rw [← List.map_append, h]
  exact (List.range_succ).symm

theorem InSequence.foldl_submit {bulkIn : BulkIn} (h : InSequence bulkIn) (buffers : List Buffer) :
    InSequence (buffers.foldl BulkIn.submit bulkIn) := by
  induction buffers generalizing bulkIn with
  | nil => exact h
  | cons buffer buffers ih => exact ih (h.submit buffer)

/-- The oldest transfer is the next to be handed out. -/
theorem InSequence.handOut {bulkIn : BulkIn} (h : InSequence bulkIn) {buffer : Buffer}
    {pending : List Buffer} (hpending : bulkIn.pending = buffer :: pending)
    (arrival : Arrival) :
    InSequence (bulkIn.handOut pending (BulkIn.completion buffer arrival)) := by
  unfold InSequence at h ⊢
  rw [hpending] at h
  show ((bulkIn.completed ++ [BulkIn.completion buffer arrival]).map BulkInCompletion.buffer ++
    pending).map Buffer.number = List.range bulkIn.submitted
  rw [← h]
  simp [BulkIn.completion]

/-- As many transfers have been submitted as have been handed out or are waited for. -/
theorem InSequence.submitted {bulkIn : BulkIn} (h : InSequence bulkIn) :
    bulkIn.submitted = bulkIn.completed.length + bulkIn.pending.length := by
  have hlength := congrArg List.length h
  simpa using hlength.symm

/-- What is waited for has been submitted after everything that has been handed out. -/
theorem InSequence.younger {bulkIn : BulkIn} (h : InSequence bulkIn) {buffer : Buffer}
    (hbuffer : buffer ∈ bulkIn.completed.map BulkInCompletion.buffer) :
    ∀ other ∈ bulkIn.pending, buffer.number < other.number := by
  have hsorted : ((bulkIn.completed.map BulkInCompletion.buffer ++ bulkIn.pending).map
      Buffer.number).Pairwise (· < ·) := by
    rw [h]
    exact List.pairwise_lt_range
  rw [List.map_append, List.pairwise_append] at hsorted
  intro other hother
  exact hsorted.2.2 _ (List.mem_map_of_mem hbuffer) _ (List.mem_map_of_mem hother)

/-- A turn that does not fail keeps the sequence. -/
theorem Sequenced.turn {queue queue' : Queue} {bulkIn : BulkIn} {buffer : Buffer}
    {pending : List Buffer} {arrival : Arrival} {turn : Queue.Turn} (h : Sequenced queue)
    (hbulk : queue.bulkIn = some bulkIn) (hpending : bulkIn.pending = buffer :: pending)
    (hcurrent : queue.current = none)
    (hcases : TurnCases queue bulkIn buffer pending arrival turn queue') : Sequenced queue' := by
  have hhanded := (h bulkIn hbulk).1.handOut hpending arrival
  intro bulkIn' hbulk'
  cases hcases with
  | discarded _ =>
    obtain rfl := Option.some.inj hbulk'
    refine ⟨hhanded.submit _, fun other hother => ?_⟩
    cases hcurrent.symm.trans hother
  | accepted _ _ =>
    obtain rfl := Option.some.inj hbulk'
    refine ⟨hhanded, fun other hother => ?_⟩
    obtain rfl := Option.some.inj hother
    simp [BulkIn.handOut]
  | rejected _ _ => cases hbulk'

/-- **Every operation on a queue keeps its transfers in sequence.** -/
theorem keptByQueue_sequenced (since : ℕ) : KeptByQueue since Sequenced where
  opened id settings _ bulkIn hbulk := by
    obtain rfl := Option.some.inj hbulk
    exact ⟨rfl, fun _ hcurrent => nomatch hcurrent⟩
  submit queue bulkIn hbulk _ h bulkIn' hbulk' := by
    obtain rfl := Option.some.inj hbulk'
    obtain ⟨hsequence, hcurrent⟩ := h bulkIn hbulk
    refine ⟨hsequence.foldl_submit queue.buffers, ?_⟩
    rw [foldl_submit_completed]
    exact hcurrent
  release queue h bulkIn' hbulk' := by
    rcases releaseCurrent_cases queue with ⟨buffer, bulkIn, _, hbulk, heq⟩ | ⟨_, heq⟩
    · rw [heq] at hbulk' ⊢
      obtain rfl := Option.some.inj hbulk'
      exact ⟨(h bulkIn hbulk).1.submit buffer, fun _ hcurrent => nomatch hcurrent⟩
    · rw [heq] at hbulk' ⊢
      exact ⟨(h bulkIn' hbulk').1, fun _ hcurrent => nomatch hcurrent⟩
  pause queue bulkIn hbulk hcurrent h bulkIn' hbulk' := by
    obtain rfl := Option.some.inj hbulk'
    exact ⟨(h bulkIn hbulk).1, fun _ hother => nomatch hcurrent.symm.trans hother⟩
  stats _ _ h := h
  settings _ _ _ h := h
  turn _ _ _ _ _ _ _ hbulk hpending hcurrent hcases _ h := h.turn hbulk hpending hcurrent hcases

/-- **A fill discards exactly the transfers from before the last pause.** -/
theorem Fills.discarded_iff {queue queue' : Queue} {arrivals rest : List Arrival}
    {result : Option (Result Unit)} (hfills : Fills queue arrivals result queue' rest)
    (h : Stamped queue) (hcurrent : queue.current = none) {bulkIn : BulkIn}
    (hbulk : queue.bulkIn = some bulkIn) :
    ∀ taken ∈ loopTakes arrivals queue,
      (taken.fate = .discarded ↔ taken.completion.buffer.number < bulkIn.cancelled) := by
  induction hfills generalizing bulkIn with
  | waits queue => exact fun _ htaken => absurd htaken List.not_mem_nil
  | again hbulk' hpending hcases _ ih =>
    obtain rfl := Option.some.inj (hbulk.symm.trans hbulk')
    rw [loopTakes_cons hbulk hpending hcases]
    intro taken htaken
    rcases List.mem_cons.mp htaken with rfl | htaken
    · have holdest := (h _ hbulk).1.oldest hpending
      exact hcases.discarded_iff.trans holdest
    · have hnext := h.turn hbulk hpending hcurrent hcases
      cases hcases with
      | discarded _ => exact ih hnext hcurrent rfl taken htaken
  | ends hbulk' hpending hcases =>
    obtain rfl := Option.some.inj (hbulk.symm.trans hbulk')
    rw [loopTakes_cons hbulk hpending hcases]
    intro taken htaken
    have hhead : taken = _ := List.mem_singleton.mp htaken
    rw [hhead]
    have holdest := (h _ hbulk).1.oldest hpending
    exact hcases.discarded_iff.trans holdest

/-- A fill that fails has rejected a completion, and fails as it says. -/
theorem Fills.rejects {queue queue' : Queue} {arrivals rest : List Arrival}
    {result : Option (Result Unit)} (hfills : Fills queue arrivals result queue' rest) {e : Error}
    (hresult : result = some (.error e)) :
    ∃ taken ∈ loopTakes arrivals queue, taken.fate = .rejected ∧
      queue.checkCompletion taken.completion = .error e := by
  induction hfills with
  | waits queue => exact nomatch hresult
  | again hbulk hpending hcases _ ih =>
    rw [loopTakes_cons hbulk hpending hcases]
    obtain ⟨taken, htaken, hfate, hcheck⟩ := ih hresult
    cases hcases with
    | discarded _ => exact ⟨taken, List.mem_cons_of_mem _ htaken, hfate, hcheck⟩
  | ends hbulk hpending hcases =>
    rw [loopTakes_cons hbulk hpending hcases]
    cases hcases with
    | accepted _ _ => exact nomatch hresult
    | rejected _ hcheck =>
      cases hresult
      exact ⟨_, List.mem_cons_self, rfl, hcheck⟩

end HydraSdr.Analysis
