import HydraSdr.Computation.Resumption

/-!
# Operations that are fed replies

`Resumption.feed` runs an operation on a supply of replies, one for each request.  It gives back
what is left of the supply, or `none` when the operation still waits for a reply at the end of it.
What is left goes to whatever comes next, so feeding a sequence is feeding its parts
(`feed_bind`); `Flight.poll_of_feed` says what it means for a poll.
-/

set_option autoImplicit false

namespace HydraSdr.Computation

variable {ℓ : Type} {Reply : ℓ → Type} {σ α β ε ι : Type}

/-- A supply of replies, in the order in which they are waited for. -/
abbrev Supply (ℓ : Type) (Reply : ℓ → Type) := List ((request : ℓ) → Reply request)

namespace Resumption

/-- Run an operation on a supply of replies. -/
def feed (port : Port ℓ Reply σ) :
    Resumption ℓ Reply σ α → Supply ℓ Reply → σ → Option (α × Supply ℓ Reply) × σ
  | .done value, replies, s => (some (value, replies), s)
  | .act effect next, replies, s => (next s).feed port replies (effect s)
  | .submit r _, [], s => (none, port.issue r s)
  | .submit r next, reply :: replies, s =>
    (next (reply r)).feed port replies (port.settle (port.ticket s) r (reply r) (port.issue r s))

/-- Go on with what an operation leads to, unless it waits. -/
def onFed (outcome : Option (α × Supply ℓ Reply) × σ)
    (f : α → Supply ℓ Reply → σ → Option (β × Supply ℓ Reply) × σ) :
    Option (β × Supply ℓ Reply) × σ :=
  match outcome with
  | (none, s) => (none, s)
  | (some (a, replies), s) => f a replies s

/-- The same for an operation that may fail: an error is what it all leads to. -/
def tryFed (outcome : Option (Except ε α × Supply ℓ Reply) × σ)
    (f : α → Supply ℓ Reply → σ → Option (Except ε β × Supply ℓ Reply) × σ) :
    Option (Except ε β × Supply ℓ Reply) × σ :=
  match outcome with
  | (none, s) => (none, s)
  | (some (.ok a, replies), s) => f a replies s
  | (some (.error e, replies), s) => (some (.error e, replies), s)

variable {port : Port ℓ Reply σ}

@[simp] theorem onFed_some (a : α) (replies : Supply ℓ Reply) (s : σ)
    (f : α → Supply ℓ Reply → σ → Option (β × Supply ℓ Reply) × σ) :
    onFed (some (a, replies), s) f = f a replies s := rfl

@[simp] theorem onFed_none (s : σ)
    (f : α → Supply ℓ Reply → σ → Option (β × Supply ℓ Reply) × σ) :
    onFed (none, s) f = (none, s) := rfl

@[simp] theorem tryFed_ok (a : α) (replies : Supply ℓ Reply) (s : σ)
    (f : α → Supply ℓ Reply → σ → Option (Except ε β × Supply ℓ Reply) × σ) :
    tryFed (some (.ok a, replies), s) f = f a replies s := rfl

@[simp] theorem tryFed_error (e : ε) (replies : Supply ℓ Reply) (s : σ)
    (f : α → Supply ℓ Reply → σ → Option (Except ε β × Supply ℓ Reply) × σ) :
    tryFed (some (.error e, replies), s) f = (some (.error e, replies), s) := rfl

@[simp] theorem tryFed_none (s : σ)
    (f : α → Supply ℓ Reply → σ → Option (Except ε β × Supply ℓ Reply) × σ) :
    tryFed (none, s) f = (none, s) := rfl

theorem tryFed_assoc {γ : Type} (outcome : Option (Except ε α × Supply ℓ Reply) × σ)
    (f : α → Supply ℓ Reply → σ → Option (Except ε β × Supply ℓ Reply) × σ)
    (g : β → Supply ℓ Reply → σ → Option (Except ε γ × Supply ℓ Reply) × σ) :
    tryFed (tryFed outcome f) g = tryFed outcome fun a replies s => tryFed (f a replies s) g := by
  obtain ⟨fed, s⟩ := outcome
  cases fed with
  | none => rfl
  | some value =>
    obtain ⟨result, replies⟩ := value
    cases result <;> rfl

@[simp] theorem feed_done (value : α) (replies : Supply ℓ Reply) (s : σ) :
    (done value).feed port replies s = (some (value, replies), s) := rfl

@[simp] theorem feed_act (effect : σ → σ) (next : σ → Resumption ℓ Reply σ α)
    (replies : Supply ℓ Reply) (s : σ) :
    (act effect next).feed port replies s = (next s).feed port replies (effect s) := rfl

@[simp] theorem feed_submit_nil (r : ℓ) (next : Reply r → Resumption ℓ Reply σ α) (s : σ) :
    (submit r next).feed port [] s = (none, port.issue r s) := rfl

@[simp] theorem feed_submit_cons (r : ℓ) (next : Reply r → Resumption ℓ Reply σ α)
    (reply : (request : ℓ) → Reply request) (replies : Supply ℓ Reply) (s : σ) :
    (submit r next).feed port (reply :: replies) s =
      (next (reply r)).feed port replies
        (port.settle (port.ticket s) r (reply r) (port.issue r s)) := rfl

/-- **Feeding a sequence is feeding its parts.** -/
theorem feed_bind (operation : Resumption ℓ Reply σ α) (f : α → Resumption ℓ Reply σ β)
    (replies : Supply ℓ Reply) (s : σ) :
    (operation.bind f).feed port replies s =
      onFed (operation.feed port replies s) fun a => (f a).feed port := by
  induction operation generalizing replies s with
  | done value => rfl
  | act effect next ih => exact ih s replies (effect s)
  | submit r next ih =>
    cases replies with
    | nil => rfl
    | cons reply replies => exact ih _ replies _

/-- A sequence in which an error skips what comes next. -/
theorem feed_bind_try (operation : Resumption ℓ Reply σ (Except ε α))
    {f : Except ε α → Resumption ℓ Reply σ (Except ε β)} (hskips : ∀ e, f (.error e) = .done (.error e))
    (replies : Supply ℓ Reply) (s : σ) :
    (operation.bind f).feed port replies s =
      tryFed (operation.feed port replies s) fun a => (f (.ok a)).feed port := by
  rw [feed_bind]
  generalize operation.feed port replies s = outcome
  obtain ⟨fed, s'⟩ := outcome
  cases fed with
  | none => rfl
  | some value =>
    obtain ⟨result, rest⟩ := value
    cases result with
    | ok a => rfl
    | error e => rw [onFed_some, tryFed_error, hskips, feed_done]

/-- A loop stops at the first error. -/
theorem feed_tryEach_cons (run : ι → Resumption ℓ Reply σ (Except ε Unit)) (item : ι)
    (items : List ι) (replies : Supply ℓ Reply) (s : σ) :
    (tryEach run (item :: items)).feed port replies s =
      tryFed ((run item).feed port replies s) fun _ => (tryEach run items).feed port := by
  rw [tryEach, feed_bind_try]
  exact fun _ => rfl

/-- What an operation leads to when it is advanced and resumed with the same replies. -/
theorem resumeAll_of_feed {operation : Resumption ℓ Reply σ α} {replies rest : Supply ℓ Reply}
    {s s' : σ} {value : α} (h : operation.feed port replies s = (some (value, rest), s')) :
    (operation.advance port s).1.resumeAll port replies (operation.advance port s).2 =
      (.finished value, s') := by
  induction operation generalizing replies s with
  | done other =>
    cases h
    exact Progress.resumeAll_finished port rest value s'
  | act effect next ih => exact ih s h
  | submit r next ih =>
    cases replies with
    | nil => exact nomatch congrArg Prod.fst h
    | cons reply replies => exact ih _ h

end Resumption

/-- **A poll of an operation for which enough replies have arrived.** -/
theorem Flight.poll_of_feed {port : Port ℓ Reply σ} {operation : Resumption ℓ Reply σ α}
    {replies rest : Supply ℓ Reply} {s s' : σ} {value : α}
    (h : operation.feed port replies s = (some (value, rest), s')) :
    (Flight.unpolled operation).poll port replies s = (.finished value, s') :=
  Resumption.resumeAll_of_feed h

end HydraSdr.Computation
