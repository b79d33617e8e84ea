import HydraSdr.Computation.Supply

/-!
# Operations inside larger ones

An operation on a part of the state, whose requests are some of those of a larger port.
`Resumption.embed` is the operation on the whole state; fed with replies it does what the operation
does on its part, fed with the replies to the requests it knows (`feed_embed`).
-/

set_option autoImplicit false

namespace HydraSdr.Computation

/-- Where the requests and the state of an operation are found in larger ones. -/
structure Inclusion (ℓ : Type) (Reply : ℓ → Type) (σ ℓ' : Type) (Reply' : ℓ' → Type) (τ : Type) where
  request : ℓ → ℓ'
  reply : (r : ℓ) → Reply' (request r) → Reply r
  get : τ → σ
  put : σ → τ → τ

variable {ℓ ℓ' : Type} {Reply : ℓ → Type} {Reply' : ℓ' → Type} {σ τ α β : Type}

namespace Inclusion

/-- The replies to the requests of the operation. -/
def restrict (inclusion : Inclusion ℓ Reply σ ℓ' Reply' τ) (reply : (request : ℓ') → Reply' request) :
    (request : ℓ) → Reply request :=
  fun r => inclusion.reply r (reply (inclusion.request r))

/-- The larger port treats the requests of the operation as the smaller one does, and they act on
its part of the state only. -/
structure Lawful (inclusion : Inclusion ℓ Reply σ ℓ' Reply' τ) (port : Port ℓ Reply σ)
    (port' : Port ℓ' Reply' τ) : Prop where
  get_put : ∀ s t, inclusion.get (inclusion.put s t) = s
  put_get : ∀ t, inclusion.put (inclusion.get t) t = t
  put_put : ∀ s s' t, inclusion.put s' (inclusion.put s t) = inclusion.put s' t
  ticket : ∀ t, port'.ticket t = port.ticket (inclusion.get t)
  issue : ∀ r t,
    port'.issue (inclusion.request r) t = inclusion.put (port.issue r (inclusion.get t)) t
  settle : ∀ ticket r reply t, port'.settle ticket (inclusion.request r) reply t =
    inclusion.put (port.settle ticket r (inclusion.reply r reply) (inclusion.get t)) t

end Inclusion

namespace Resumption

/-- The operation on the whole state. -/
def embed (inclusion : Inclusion ℓ Reply σ ℓ' Reply' τ) :
    Resumption ℓ Reply σ α → Resumption ℓ' Reply' τ α
  | .done value => .done value
  | .act effect next =>
    .act (fun t => inclusion.put (effect (inclusion.get t)) t) fun t =>
      (next (inclusion.get t)).embed inclusion
  | .submit r next =>
    .submit (inclusion.request r) fun reply => (next (inclusion.reply r reply)).embed inclusion

theorem embed_bind (inclusion : Inclusion ℓ Reply σ ℓ' Reply' τ) (operation : Resumption ℓ Reply σ α)
    (f : α → Resumption ℓ Reply σ β) :
    (operation.bind f).embed inclusion =
      (operation.embed inclusion).bind fun a => (f a).embed inclusion := by
  induction operation with
  | done value => rfl
  | act effect next ih => simp only [bind, embed, ih]
  | submit r next ih => simp only [bind, embed, ih]

/-- **An embedded operation does on its part what the operation does.** -/
theorem feed_embed {port : Port ℓ Reply σ} {port' : Port ℓ' Reply' τ}
    {inclusion : Inclusion ℓ Reply σ ℓ' Reply' τ} (h : inclusion.Lawful port port')
    (operation : Resumption ℓ Reply σ α) (replies : Supply ℓ' Reply') (t : τ) :
    ((operation.embed inclusion).feed port' replies t).1.map Prod.fst =
        (operation.feed port (replies.map inclusion.restrict) (inclusion.get t)).1.map Prod.fst ∧
      ((operation.embed inclusion).feed port' replies t).2 =
        inclusion.put
          (operation.feed port (replies.map inclusion.restrict) (inclusion.get t)).2 t := by
  induction operation generalizing replies t with
  | done value => exact ⟨rfl, (h.put_get t).symm⟩
  | act effect next ih =>
    have hnext := ih (inclusion.get t) replies (inclusion.put (effect (inclusion.get t)) t)
    rw [h.get_put, h.put_put] at hnext
    exact hnext
  | submit r next ih =>
    cases replies with
    | nil => exact ⟨rfl, h.issue r t⟩
    | cons reply replies =>
      have hstate : port'.settle (port'.ticket t) (inclusion.request r) (reply (inclusion.request r))
          (port'.issue (inclusion.request r) t) =
            inclusion.put (port.settle (port.ticket (inclusion.get t)) r (inclusion.restrict reply r)
              (port.issue r (inclusion.get t))) t := by
        rw [h.settle, h.issue, h.get_put, h.put_put, h.ticket]
        rfl
      have hnext := ih (inclusion.restrict reply r) replies
        (inclusion.put (port.settle (port.ticket (inclusion.get t)) r (inclusion.restrict reply r)
          (port.issue r (inclusion.get t))) t)
      rw [h.get_put, h.put_put] at hnext
      rw [embed, List.map_cons, feed_submit_cons, feed_submit_cons, hstate]
      exact hnext

end Resumption

end HydraSdr.Computation
