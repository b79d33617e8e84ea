import Mathlib.Data.Nat.Notation
import Mathlib.Logic.Basic

/-!
# Resumable operations under interference

A `Resumption` is what is left of an operation that runs closures on a host state and now and
then submits a request and has to wait for its reply.  Between two waits it runs without
interruption (`advance`); while it waits, others may change the state, and the operation may be
dropped instead of resumed.

`Safe` is the rely/guarantee reading of such an operation: from a state in which the current
uninterrupted segment began and the present state, every segment that ends in a wait is allowed
by `guar`, whatever the others do within `rely` while it waits and whatever the reply is, and
the segment that ends the operation satisfies `post`.  Its rules follow the constructors
(`safe_bind`, `safe_tryEach`); `Safe.advance`, `Waits.mono_rely` and `Waits.resume` give back
what it says about executions.
-/

set_option autoImplicit false

namespace HydraSdr.Computation

/-- What is left of an operation: a result, a closure to run on the state (`next` sees the
state it found), or a request to submit. -/
inductive Resumption (ℓ : Type) (Reply : ℓ → Type) (σ α : Type) : Type where
  | done (value : α)
  | act (effect : σ → σ) (next : σ → Resumption ℓ Reply σ α)
  | submit (request : ℓ) (next : Reply request → Resumption ℓ Reply σ α)

/-- How requests act on the state: `issue` when one is submitted, `settle` when its reply
arrives.  `ticket` names the request about to be issued. -/
structure Port (ℓ : Type) (Reply : ℓ → Type) (σ : Type) where
  ticket : σ → ℕ
  issue : ℓ → σ → σ
  settle : ℕ → (request : ℓ) → Reply request → σ → σ

/-- A port on a part of a larger state. -/
def Port.lift {ℓ : Type} {Reply : ℓ → Type} {σ τ : Type} (port : Port ℓ Reply σ) (get : τ → σ)
    (put : σ → τ → τ) : Port ℓ Reply τ where
  ticket s := port.ticket (get s)
  issue request s := put (port.issue request (get s)) s
  settle ticket request reply s := put (port.settle ticket request reply (get s)) s

/-- The outcome of one uninterrupted segment. -/
inductive Progress (ℓ : Type) (Reply : ℓ → Type) (σ α : Type) : Type where
  | finished (value : α)
  | waiting (ticket : ℕ) (request : ℓ) (next : Reply request → Resumption ℓ Reply σ α)

variable {ℓ : Type} {Reply : ℓ → Type} {σ α β ε ι : Type}

namespace Resumption

/-- Continue with the result. -/
def bind : Resumption ℓ Reply σ α → (α → Resumption ℓ Reply σ β) → Resumption ℓ Reply σ β
  | .done value, f => f value
  | .act effect next, f => .act effect fun s => (next s).bind f
  | .submit request next, f => .submit request fun reply => (next reply).bind f

/-- Run an operation for each item, stopping at the first error. -/
def tryEach (run : ι → Resumption ℓ Reply σ (Except ε Unit)) :
    List ι → Resumption ℓ Reply σ (Except ε Unit)
  | [] => .done (.ok ())
  | item :: items => (run item).bind fun
    | .ok _ => tryEach run items
    | .error e => .done (.error e)

/-- Run the closures up to the next wait or the end. -/
def advance (port : Port ℓ Reply σ) : Resumption ℓ Reply σ α → σ → Progress ℓ Reply σ α × σ
  | .done value, s => (.finished value, s)
  | .act effect next, s => (next s).advance port (effect s)
  | .submit request next, s => (.waiting (port.ticket s) request next, port.issue request s)

/-- Run with the given replies and nobody interfering.  `none` is an operation dropped at the
wait for which no reply is left. -/
def script (port : Port ℓ Reply σ) :
    List ((request : ℓ) → Reply request) → Resumption ℓ Reply σ α → σ → Option α × σ
  | [], operation, s =>
    match operation.advance port s with
    | (.finished value, s) => (some value, s)
    | (.waiting _ _ _, s) => (none, s)
  | reply :: replies, operation, s =>
    match operation.advance port s with
    | (.finished value, s) => (some value, s)
    | (.waiting ticket request next, s) =>
      script port replies (next (reply request)) (port.settle ticket request (reply request) s)

@[simp] theorem bind_done (value : α) (f : α → Resumption ℓ Reply σ β) :
    (done value).bind f = f value := rfl

@[simp] theorem bind_act (effect : σ → σ) (next : σ → Resumption ℓ Reply σ α)
    (f : α → Resumption ℓ Reply σ β) :
    (act effect next).bind f = act effect fun s => (next s).bind f := rfl

@[simp] theorem bind_submit (request : ℓ) (next : Reply request → Resumption ℓ Reply σ α)
    (f : α → Resumption ℓ Reply σ β) :
    (submit request next).bind f = submit request fun reply => (next reply).bind f := rfl

end Resumption

/-- The reply to what is being waited for arrives, and the operation runs on. -/
def Progress.resume (port : Port ℓ Reply σ) (reply : (request : ℓ) → Reply request) :
    Progress ℓ Reply σ α → σ → Progress ℓ Reply σ α × σ
  | .finished value, s => (.finished value, s)
  | .waiting ticket request next, s =>
    (next (reply request)).advance port (port.settle ticket request (reply request) s)

/-- Several replies arrive, each as soon as it is waited for. -/
def Progress.resumeAll (port : Port ℓ Reply σ) :
    List ((request : ℓ) → Reply request) → Progress ℓ Reply σ α → σ → Progress ℓ Reply σ α × σ
  | [], progress, s => (progress, s)
  | reply :: replies, progress, s =>
    (progress.resume port reply s).1.resumeAll port replies (progress.resume port reply s).2

@[simp] theorem Progress.resumeAll_finished (port : Port ℓ Reply σ)
    (replies : List ((request : ℓ) → Reply request)) (value : α) (s : σ) :
    (Progress.finished value : Progress ℓ Reply σ α).resumeAll port replies s =
      (.finished value, s) := by
  induction replies with
  | nil => rfl
  | cons reply replies ih => exact ih

/-- An operation that has been built: not yet polled, or polled and waiting. -/
inductive Flight (ℓ : Type) (Reply : ℓ → Type) (σ α : Type) : Type where
  | unpolled (operation : Resumption ℓ Reply σ α)
  | polled (progress : Progress ℓ Reply σ α)

/-- Poll an operation for which these replies have arrived. -/
def Flight.poll (port : Port ℓ Reply σ) (replies : List ((request : ℓ) → Reply request)) :
    Flight ℓ Reply σ α → σ → Progress ℓ Reply σ α × σ
  | .unpolled operation, s =>
    (operation.advance port s).1.resumeAll port replies (operation.advance port s).2
  | .polled progress, s => progress.resumeAll port replies s

/-- Run to the end, whatever the replies are.  They may depend on the ticket. -/
def Resumption.run (port : Port ℓ Reply σ) (reply : ℕ → (request : ℓ) → Reply request) :
    Resumption ℓ Reply σ α → σ → α × σ
  | .done value, s => (value, s)
  | .act effect next, s => (next s).run port reply (effect s)
  | .submit request next, s =>
    (next (reply (port.ticket s) request)).run port reply
      (port.settle (port.ticket s) request (reply (port.ticket s) request) (port.issue request s))

/-! ## The rely/guarantee reading -/

/-- `Safe port rely guar post operation start s`: the segment that began in `start` is at `s`
and goes on with `operation`. -/
def Safe (port : Port ℓ Reply σ) (rely guar : σ → σ → Prop) (post : σ → α → σ → Prop) :
    Resumption ℓ Reply σ α → σ → σ → Prop
  | .done value, start, s => post start value s
  | .act effect next, start, s => Safe port rely guar post (next s) start (effect s)
  | .submit request next, start, s =>
    guar start (port.issue request s) ∧
      ∀ s', rely (port.issue request s) s' → ∀ reply,
        Safe port rely guar post (next reply) s' (port.settle (port.ticket s) request reply s')

/-- An operation is waiting in the state `s`, and is safe from there on. -/
def Waits (port : Port ℓ Reply σ) (rely guar : σ → σ → Prop) (post : σ → α → σ → Prop) :
    Progress ℓ Reply σ α → σ → Prop
  | .finished _, _ => False
  | .waiting ticket request next, s =>
    ∀ s', rely s s' → ∀ reply,
      Safe port rely guar post (next reply) s' (port.settle ticket request reply s')

/-- What a segment that began in `start` may have led to. -/
def Segment (port : Port ℓ Reply σ) (rely guar : σ → σ → Prop) (post : σ → α → σ → Prop)
    (start : σ) : Progress ℓ Reply σ α × σ → Prop
  | (.finished value, s) => post start value s
  | (.waiting ticket request next, s) =>
    guar start s ∧ Waits port rely guar post (.waiting ticket request next) s

variable {port : Port ℓ Reply σ} {rely guar : σ → σ → Prop}

/-- A safe operation's next segment is as promised. -/
theorem Safe.advance {post : σ → α → σ → Prop} {operation : Resumption ℓ Reply σ α}
    {start s : σ} (h : Safe port rely guar post operation start s) :
    Segment port rely guar post start (operation.advance port s) := by
  induction operation generalizing s with
  | done value => exact h
  | act effect next ih => exact ih s h
  | submit request next ih => exact h

/-- Others may act within `rely` while an operation waits. -/
theorem Waits.mono_rely {post : σ → α → σ → Prop} {progress : Progress ℓ Reply σ α} {s s' : σ}
    (htrans : ∀ a b c, rely a b → rely b c → rely a c)
    (h : Waits port rely guar post progress s) (hr : rely s s') :
    Waits port rely guar post progress s' := by
  cases progress with
  | finished value => exact h
  | waiting ticket request next => exact fun s'' hr' => h s'' (htrans _ _ _ hr hr')

/-- Resuming a waiting operation runs a segment as promised. -/
theorem Waits.resume {post : σ → α → σ → Prop} {ticket : ℕ} {request : ℓ}
    {next : Reply request → Resumption ℓ Reply σ α} {s : σ} (hrefl : rely s s)
    (h : Waits port rely guar post (.waiting ticket request next) s)
    (reply : (request : ℓ) → Reply request) :
    Segment port rely guar post s ((Progress.waiting ticket request next).resume port reply s) :=
  Safe.advance (h s hrefl (reply request))

/-- An operation in flight is safe: if it has not been polled, wherever it is polled first. -/
def FlightSafe (port : Port ℓ Reply σ) (rely guar : σ → σ → Prop) (post : σ → α → σ → Prop) :
    Flight ℓ Reply σ α → σ → Prop
  | .unpolled operation, s => ∀ s', rely s s' → Safe port rely guar post operation s' s'
  | .polled progress, s => Waits port rely guar post progress s

/-- Others may act within `rely` between two polls. -/
theorem FlightSafe.mono_rely {post : σ → α → σ → Prop} {flight : Flight ℓ Reply σ α} {s s' : σ}
    (htrans : ∀ a b c, rely a b → rely b c → rely a c)
    (h : FlightSafe port rely guar post flight s) (hr : rely s s') :
    FlightSafe port rely guar post flight s' := by
  cases flight with
  | unpolled operation => exact fun s'' hr' => h s'' (htrans _ _ _ hr hr')
  | polled progress => exact Waits.mono_rely htrans h hr

/-- Segments that follow each other within one poll, when they compose. -/
theorem Segment.resumeAll {post : σ → α → σ → Prop} (hrefl : ∀ s, rely s s)
    (hguar : ∀ a b c, guar a b → guar b c → guar a c)
    (hpost : ∀ a b value c, guar a b → post b value c → post a value c)
    (replies : List ((request : ℓ) → Reply request)) {start : σ}
    {outcome : Progress ℓ Reply σ α × σ} (h : Segment port rely guar post start outcome) :
    Segment port rely guar post start (outcome.1.resumeAll port replies outcome.2) := by
  induction replies generalizing outcome with
  | nil => exact h
  | cons reply replies ih =>
    obtain ⟨progress, s⟩ := outcome
    refine ih ?_
    cases progress with
    | finished value => exact h
    | waiting ticket request next =>
      obtain ⟨hstart, hwaits⟩ := h
      have hnext := hwaits.resume (hrefl s) reply
      generalize (Progress.waiting ticket request next).resume port reply s = outcome at hnext
      obtain ⟨progress, s'⟩ := outcome
      cases progress with
      | finished value => exact hpost _ _ _ _ hstart hnext
      | waiting ticket request next => exact ⟨hguar _ _ _ hstart hnext.1, hnext.2⟩

/-- One poll of a safe operation leads to what is promised of a segment. -/
theorem FlightSafe.poll {post : σ → α → σ → Prop} (hrefl : ∀ s, rely s s) (hguar₀ : ∀ s, guar s s)
    (hguar : ∀ a b c, guar a b → guar b c → guar a c)
    (hpost : ∀ a b value c, guar a b → post b value c → post a value c)
    {flight : Flight ℓ Reply σ α} {s : σ} (h : FlightSafe port rely guar post flight s)
    (replies : List ((request : ℓ) → Reply request)) :
    Segment port rely guar post s (flight.poll port replies s) := by
  cases flight with
  | unpolled operation =>
    exact (h s (hrefl s)).advance.resumeAll hrefl hguar hpost replies
  | polled progress =>
    cases progress with
    | finished value => exact absurd h id
    | waiting ticket request next =>
      have hsegment : Segment port rely guar post s (.waiting ticket request next, s) :=
        ⟨hguar₀ s, h⟩
      exact hsegment.resumeAll hrefl hguar hpost replies

/-- Weaken the postcondition. -/
theorem Safe.mono {post post' : σ → α → σ → Prop} {operation : Resumption ℓ Reply σ α}
    {start s : σ} (hpost : ∀ start value s, post start value s → post' start value s)
    (h : Safe port rely guar post operation start s) :
    Safe port rely guar post' operation start s := by
  induction operation generalizing start s with
  | done value => exact hpost _ _ _ h
  | act effect next ih => exact ih s h
  | submit request next ih => exact ⟨h.1, fun s' hr reply => ih reply (h.2 s' hr reply)⟩

/-- Sequencing: the second operation goes on in the segment in which the first one ends. -/
theorem safe_bind {post : σ → β → σ → Prop} {operation : Resumption ℓ Reply σ α}
    {f : α → Resumption ℓ Reply σ β} {start s : σ} :
    Safe port rely guar post (operation.bind f) start s ↔
      Safe port rely guar (fun start value s => Safe port rely guar post (f value) start s)
        operation start s := by
  induction operation generalizing start s with
  | done value => exact Iff.rfl
  | act effect next ih => exact ih s
  | submit request next ih =>
    exact and_congr_right fun _ => forall_congr' fun s' => imp_congr_right fun _ =>
      forall_congr' fun reply => ih reply

/-- The loop rule: `inv` holds before every item, and an item either keeps it or ends the loop
with an error that `post` allows. -/
theorem safe_tryEach {post : σ → Except ε Unit → σ → Prop} (inv : List ι → σ → σ → Prop)
    {run : ι → Resumption ℓ Reply σ (Except ε Unit)}
    (hitem : ∀ item items start s, inv (item :: items) start s →
      Safe port rely guar (fun start result s => match result with
        | .ok _ => inv items start s
        | .error e => post start (.error e) s) (run item) start s)
    (hnil : ∀ start s, inv [] start s → post start (.ok ()) s)
    (items : List ι) {start s : σ} (h : inv items start s) :
    Safe port rely guar post (Resumption.tryEach run items) start s := by
  induction items generalizing start s with
  | nil => exact hnil start s h
  | cons item items ih =>
    refine safe_bind.mpr ((hitem item items start s h).mono ?_)
    intro start result s hresult
    cases result with
    | ok value => exact ih hresult
    | error e => exact hresult

/-- Without interference, an operation run with any replies ends as `post` says, or is dropped
at a wait that `guar` allows. -/
theorem Safe.script {inv : σ → Prop} {post : α → σ → Prop} {operation : Resumption ℓ Reply σ α}
    {start s : σ}
    (h : Safe port Eq (fun _ s => inv s) (fun _ value s => post value s) operation start s)
    (replies : List ((request : ℓ) → Reply request)) :
    match operation.script port replies s with
    | (some value, s') => post value s'
    | (none, s') => inv s' := by
  induction replies generalizing operation start s with
  | nil =>
    have hs := h.advance
    unfold Resumption.script
    generalize operation.advance port s = outcome at hs
    obtain ⟨progress, s'⟩ := outcome
    cases progress with
    | finished value => exact hs
    | waiting ticket request next => exact hs.1
  | cons reply replies ih =>
    have hs := h.advance
    unfold Resumption.script
    generalize operation.advance port s = outcome at hs
    obtain ⟨progress, s'⟩ := outcome
    cases progress with
    | finished value => exact hs
    | waiting ticket request next => exact ih (hs.2 s' rfl (reply request))

end HydraSdr.Computation
