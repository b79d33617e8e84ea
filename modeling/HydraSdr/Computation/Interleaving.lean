import HydraSdr.Computation.Submissions

/-!
# Operations that are polled between the steps of others

`Resumption.Runs` is one poll without the list of replies: some replies arrive, each as soon as it
is waited for, and the operation runs on.  It composes under `bind`, because an operation that is
over leaves the remaining replies to what comes after it.

`Flight.pollBetween` is a whole run of polls, between which others act on the state.
-/

set_option autoImplicit false

namespace HydraSdr.Computation

variable {ℓ : Type} {Reply : ℓ → Type} {σ α β ε ι : Type} {port : Port ℓ Reply σ}

/-- Where an operation can be after one poll. -/
inductive Resumption.Runs (port : Port ℓ Reply σ) :
    Resumption ℓ Reply σ α → σ → Progress ℓ Reply σ α × σ → Prop
  | pauses (operation : Resumption ℓ Reply σ α) (s : σ) :
      Runs port operation s (operation.advance port s)
  | answered {operation : Resumption ℓ Reply σ α} {s s' : σ} {ticket : ℕ} {request : ℓ}
      {next : Reply request → Resumption ℓ Reply σ α} {outcome : Progress ℓ Reply σ α × σ}
      (reply : (request : ℓ) → Reply request)
      (hwaits : operation.advance port s = (.waiting ticket request next, s'))
      (h : Runs port (next (reply request)) (port.settle ticket request (reply request) s') outcome) :
      Runs port operation s outcome

/-! ## Sequences -/

/-- The first part of a sequence comes to a wait. -/
theorem Resumption.advance_bind_waiting {operation : Resumption ℓ Reply σ α} {s s' : σ} {ticket : ℕ}
    {request : ℓ} {next : Reply request → Resumption ℓ Reply σ α}
    (h : operation.advance port s = (.waiting ticket request next, s'))
    (f : α → Resumption ℓ Reply σ β) :
    (operation.bind f).advance port s =
      (.waiting ticket request fun reply => (next reply).bind f, s') := by
  induction operation generalizing s with
  | done value => exact nomatch congrArg Prod.fst h
  | act effect rest ih => exact ih s h
  | submit other rest ih =>
    cases h
    rfl

/-- The first part of a sequence comes to its end. -/
theorem Resumption.advance_bind_finished {operation : Resumption ℓ Reply σ α} {s s' : σ} {value : α}
    (h : operation.advance port s = (.finished value, s')) (f : α → Resumption ℓ Reply σ β) :
    (operation.bind f).advance port s = (f value).advance port s' := by
  induction operation generalizing s with
  | done other =>
    cases h
    rfl
  | act effect rest ih => exact ih s h
  | submit other rest ih => exact nomatch congrArg Prod.fst h

/-- A closure that runs first. -/
theorem Resumption.Runs.act {effect : σ → σ} {next : σ → Resumption ℓ Reply σ α} {s : σ}
    {outcome : Progress ℓ Reply σ α × σ} (h : (next s).Runs port (effect s) outcome) :
    (Resumption.act effect next).Runs port s outcome := by
  cases h with
  | pauses _ _ => exact .pauses (.act effect next) s
  | answered reply hwaits hrest => exact .answered reply hwaits hrest

/-- The first part of a sequence is left waiting. -/
theorem Resumption.Runs.bind_waiting {operation : Resumption ℓ Reply σ α} {s s' : σ} {ticket : ℕ}
    {request : ℓ} {next : Reply request → Resumption ℓ Reply σ α}
    (h : operation.Runs port s (.waiting ticket request next, s')) (f : α → Resumption ℓ Reply σ β) :
    (operation.bind f).Runs port s (.waiting ticket request fun reply => (next reply).bind f, s') := by
  generalize houtcome : (Progress.waiting ticket request next, s') = outcome at h
  induction h with
  | pauses operation s =>
    rw [← Resumption.advance_bind_waiting houtcome.symm f]
    exact .pauses _ s
  | answered reply hwaits _ ih =>
    exact .answered reply (Resumption.advance_bind_waiting hwaits f) (ih houtcome)

/-- The first part of a sequence is over, and the second one runs in the same poll. -/
theorem Resumption.Runs.bind_finished {operation : Resumption ℓ Reply σ α} {s s' : σ} {value : α}
    (h : operation.Runs port s (.finished value, s')) {f : α → Resumption ℓ Reply σ β}
    {outcome : Progress ℓ Reply σ β × σ} (hf : (f value).Runs port s' outcome) :
    (operation.bind f).Runs port s outcome := by
  generalize hended : (Progress.finished value, s') = ended at h
  induction h with
  | pauses operation s =>
    have hadvance := Resumption.advance_bind_finished hended.symm f
    cases hf with
    | pauses _ _ =>
      rw [← hadvance]
      exact .pauses _ s
    | answered reply hwaits hrest => exact .answered reply (hadvance.trans hwaits) hrest
  | answered reply hwaits _ ih =>
    exact .answered reply (Resumption.advance_bind_waiting hwaits f) (ih hended)

/-! ## Polls -/

/-- The replies that arrive in a poll. -/
theorem Resumption.Runs.replies {operation : Resumption ℓ Reply σ α} {s : σ}
    {outcome : Progress ℓ Reply σ α × σ} (h : operation.Runs port s outcome) :
    ∃ replies : List ((request : ℓ) → Reply request),
      (operation.advance port s).1.resumeAll port replies (operation.advance port s).2 = outcome := by
  induction h with
  | pauses operation s => exact ⟨[], rfl⟩
  | answered reply hwaits _ ih =>
    obtain ⟨replies, hreplies⟩ := ih
    refine ⟨reply :: replies, ?_⟩
    rw [hwaits]
    exact hreplies

/-- Polls of an operation: in each round the replies that have arrived are polled for, and then
others act on the state.  `last` are the replies of the last poll. -/
def Flight.pollBetween (port : Port ℓ Reply σ) (last : List ((request : ℓ) → Reply request)) :
    List (List ((request : ℓ) → Reply request) × (σ → σ)) → Flight ℓ Reply σ α → σ →
      Progress ℓ Reply σ α × σ
  | [], flight, s => flight.poll port last s
  | (replies, others) :: rounds, flight, s =>
    match flight.poll port replies s with
    | (.finished value, s) => (.finished value, s)
    | (.waiting ticket request next, s) =>
      Flight.pollBetween port last rounds (.polled (.waiting ticket request next)) (others s)

end HydraSdr.Computation
