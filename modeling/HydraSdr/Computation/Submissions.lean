import HydraSdr.Computation.Resumption

/-!
# What an operation has left to submit

`Resumption.Submits log permitted operation n` says that an operation submits at most `n` more
requests, each of them permitted, whatever the replies are, and that its closures leave the log of
requests alone.  It follows the constructors of the operation; what it says about one poll is
`Flight.Submits.poll`, and an operation whose last reply has arrived is over
(`Flight.Submits.finishes`).

How many replies arrive between two polls makes no difference (`Flight.poll_append`).
-/

set_option autoImplicit false

namespace HydraSdr.Computation

variable {ℓ : Type} {Reply : ℓ → Type} {σ α β ε ι : Type}

/-- At most `n` more requests, each of them permitted. -/
def Resumption.Submits (log : σ → List ℓ) (permitted : ℓ → Prop) :
    Resumption ℓ Reply σ α → ℕ → Prop
  | .done _, _ => True
  | .act effect next, n =>
    (∀ s, log (effect s) = log s) ∧ ∀ s, (next s).Submits log permitted n
  | .submit _ _, 0 => False
  | .submit request next, n + 1 =>
    permitted request ∧ ∀ reply, (next reply).Submits log permitted n

/-- The same for an operation that may be waiting; the reply it waits for is counted. -/
def Progress.Submits (log : σ → List ℓ) (permitted : ℓ → Prop) :
    Progress ℓ Reply σ α → ℕ → Prop
  | .finished _, _ => True
  | .waiting _ _ _, 0 => False
  | .waiting _ _ next, n + 1 => ∀ reply, (next reply).Submits log permitted n

/-- The same for an operation in flight. -/
def Flight.Submits (log : σ → List ℓ) (permitted : ℓ → Prop) :
    Flight ℓ Reply σ α → ℕ → Prop
  | .unpolled operation, n => operation.Submits log permitted n
  | .polled progress, n => progress.Submits log permitted n

/-- The requests that were added to a log are permitted. -/
def Adds (log : σ → List ℓ) (permitted : ℓ → Prop) (s s' : σ) : Prop :=
  ∃ added, log s' = log s ++ added ∧ ∀ request ∈ added, permitted request

/-- A port writes every request it issues to the log. -/
structure Port.Logs (port : Port ℓ Reply σ) (log : σ → List ℓ) : Prop where
  issue : ∀ request s, log (port.issue request s) = log s ++ [request]
  settle : ∀ ticket request (reply : Reply request) s, log (port.settle ticket request reply s) = log s

variable {log : σ → List ℓ} {permitted : ℓ → Prop}

theorem Adds.of_eq {s s' : σ} (h : log s' = log s) : Adds log permitted s s' :=
  ⟨[], by simp [h], by simp⟩

theorem Adds.trans {a b c : σ} (hab : Adds log permitted a b) (hbc : Adds log permitted b c) :
    Adds log permitted a c := by
  obtain ⟨first, hfirst, hfirstOk⟩ := hab
  obtain ⟨second, hsecond, hsecondOk⟩ := hbc
  refine ⟨first ++ second, by rw [hsecond, hfirst, List.append_assoc], ?_⟩
  intro request hrequest
  rcases List.mem_append.mp hrequest with h | h
  · exact hfirstOk request h
  · exact hsecondOk request h

/-- What is permitted stays permitted. -/
theorem Adds.all {s s' : σ} (h : Adds log permitted s s') (hs : ∀ request ∈ log s, permitted request) :
    ∀ request ∈ log s', permitted request := by
  obtain ⟨added, hadded, hok⟩ := h
  intro request hrequest
  rw [hadded] at hrequest
  rcases List.mem_append.mp hrequest with h | h
  · exact hs request h
  · exact hok request h

/-! ## The rules -/

/-- A larger allowance. -/
theorem Resumption.Submits.mono {operation : Resumption ℓ Reply σ α} {n m : ℕ}
    (h : operation.Submits log permitted n) (hle : n ≤ m) :
    operation.Submits log permitted m := by
  induction operation generalizing n m with
  | done value => trivial
  | act effect next ih => exact ⟨h.1, fun s => ih s (h.2 s) hle⟩
  | submit request next ih =>
    cases n with
    | zero => exact absurd h id
    | succ n =>
      cases m with
      | zero => omega
      | succ m => exact ⟨h.1, fun reply => ih reply (h.2 reply) (by omega)⟩

/-- Sequencing adds the allowances. -/
theorem Resumption.Submits.bind {operation : Resumption ℓ Reply σ α}
    {f : α → Resumption ℓ Reply σ β} {n m : ℕ} (h : operation.Submits log permitted n)
    (hf : ∀ a, (f a).Submits log permitted m) :
    (operation.bind f).Submits log permitted (n + m) := by
  induction operation generalizing n with
  | done value => exact (hf value).mono (Nat.le_add_left m n)
  | act effect next ih => exact ⟨h.1, fun s => ih s (h.2 s)⟩
  | submit request next ih =>
    cases n with
    | zero => exact absurd h id
    | succ n =>
      rw [Nat.succ_add]
      exact ⟨h.1, fun reply => ih reply (h.2 reply)⟩

/-- A loop over items that submit one request each. -/
theorem Resumption.Submits.tryEach {run : ι → Resumption ℓ Reply σ (Except ε Unit)}
    {items : List ι} (h : ∀ item ∈ items, (run item).Submits log permitted 1) :
    (Resumption.tryEach run items).Submits log permitted items.length := by
  induction items with
  | nil => trivial
  | cons item items ih =>
    have hfirst := h item List.mem_cons_self
    have hrest := ih fun other hother => h other (List.mem_cons_of_mem _ hother)
    rw [List.length_cons, Nat.add_comm]
    refine hfirst.bind fun result => ?_
    cases result with
    | ok value => exact hrest
    | error e => trivial

/-! ## Polling -/

variable {port : Port ℓ Reply σ}

/-- One uninterrupted segment. -/
theorem Resumption.Submits.advance (hlogs : port.Logs log) {operation : Resumption ℓ Reply σ α}
    {n : ℕ} (h : operation.Submits log permitted n) (s : σ) :
    (operation.advance port s).1.Submits log permitted n ∧
      Adds log permitted s (operation.advance port s).2 := by
  induction operation generalizing s with
  | done value => exact ⟨trivial, .of_eq rfl⟩
  | act effect next ih =>
    obtain ⟨hleft, hadds⟩ := ih s (h.2 s) (effect s)
    exact ⟨hleft, (Adds.of_eq (h.1 s)).trans hadds⟩
  | submit request next ih =>
    cases n with
    | zero => exact absurd h id
    | succ n =>
      refine ⟨h.2, [request], hlogs.issue request s, ?_⟩
      intro other hother
      rw [List.mem_singleton.mp hother]
      exact h.1

/-- Several replies, of which each uses up one. -/
theorem Progress.Submits.resumeAll (hlogs : port.Logs log)
    (replies : List ((request : ℓ) → Reply request)) {progress : Progress ℓ Reply σ α} {n : ℕ}
    (h : progress.Submits log permitted n) (s : σ) :
    (progress.resumeAll port replies s).1.Submits log permitted (n - replies.length) ∧
      Adds log permitted s (progress.resumeAll port replies s).2 := by
  induction replies generalizing progress n s with
  | nil => exact ⟨h, .of_eq rfl⟩
  | cons reply replies ih =>
    cases progress with
    | finished value =>
      rw [Progress.resumeAll_finished]
      exact ⟨trivial, .of_eq rfl⟩
    | waiting ticket request next =>
      cases n with
      | zero => exact absurd h id
      | succ n =>
        obtain ⟨hleft, hadds⟩ := (h (reply request)).advance hlogs
          (port.settle ticket request (reply request) s)
        obtain ⟨hleft', hadds'⟩ := ih hleft _
        rw [List.length_cons, Nat.add_sub_add_right]
        exact ⟨hleft', ((Adds.of_eq (hlogs.settle _ _ _ _)).trans hadds).trans hadds'⟩

/-- **One poll.** -/
theorem Flight.Submits.poll (hlogs : port.Logs log)
    (replies : List ((request : ℓ) → Reply request)) {flight : Flight ℓ Reply σ α} {n : ℕ}
    (h : flight.Submits log permitted n) (s : σ) :
    (flight.poll port replies s).1.Submits log permitted (n - replies.length) ∧
      Adds log permitted s (flight.poll port replies s).2 := by
  cases flight with
  | unpolled operation =>
    obtain ⟨hleft, hadds⟩ := Resumption.Submits.advance hlogs h s
    obtain ⟨hleft', hadds'⟩ := hleft.resumeAll hlogs replies (operation.advance port s).2
    exact ⟨hleft', hadds.trans hadds'⟩
  | polled progress => exact Progress.Submits.resumeAll hlogs replies h s

/-- A larger allowance. -/
theorem Progress.Submits.mono {progress : Progress ℓ Reply σ α} {n m : ℕ}
    (h : progress.Submits log permitted n) (hle : n ≤ m) : progress.Submits log permitted m := by
  cases progress with
  | finished value => trivial
  | waiting ticket request next =>
    cases n with
    | zero => exact absurd h id
    | succ n =>
      cases m with
      | zero => omega
      | succ m => exact fun reply => (h reply).mono (by omega)

/-- With as many replies as an operation can wait for, it is over. -/
theorem Flight.Submits.finishes (hlogs : port.Logs log) {flight : Flight ℓ Reply σ α} {n : ℕ}
    (h : flight.Submits log permitted n) {replies : List ((request : ℓ) → Reply request)}
    (hlength : n ≤ replies.length) (s : σ) :
    ∃ value, (flight.poll port replies s).1 = .finished value := by
  have hleft := (h.poll hlogs replies s).1
  rw [Nat.sub_eq_zero_of_le hlength] at hleft
  generalize (flight.poll port replies s).1 = progress at hleft
  cases progress with
  | finished value => exact ⟨value, rfl⟩
  | waiting ticket request next => exact absurd hleft id

/-- An operation that is run to its end. -/
theorem Resumption.Submits.run (hlogs : port.Logs log) (reply : ℕ → (request : ℓ) → Reply request)
    {operation : Resumption ℓ Reply σ α} {n : ℕ} (h : operation.Submits log permitted n) (s : σ) :
    Adds log permitted s (operation.run port reply s).2 := by
  induction operation generalizing n s with
  | done value => exact .of_eq rfl
  | act effect next ih => exact (Adds.of_eq (h.1 s)).trans (ih s (h.2 s) (effect s))
  | submit request next ih =>
    cases n with
    | zero => exact absurd h id
    | succ n =>
      have hissue : Adds log permitted s (port.issue request s) := by
        refine ⟨[request], hlogs.issue request s, fun other hother => ?_⟩
        rw [List.mem_singleton.mp hother]
        exact h.1
      exact (hissue.trans (.of_eq (hlogs.settle _ _ _ _))).trans (ih _ (h.2 _) _)

/-! ## Batches of replies -/

theorem Progress.resumeAll_append (first second : List ((request : ℓ) → Reply request))
    (progress : Progress ℓ Reply σ α) (s : σ) :
    progress.resumeAll port (first ++ second) s =
      (progress.resumeAll port first s).1.resumeAll port second
        (progress.resumeAll port first s).2 := by
  induction first generalizing progress s with
  | nil => rfl
  | cons reply first ih => exact ih _ _

/-- **Replies may arrive one by one or together.** -/
theorem Flight.poll_append (first second : List ((request : ℓ) → Reply request))
    (flight : Flight ℓ Reply σ α) (s : σ) :
    flight.poll port (first ++ second) s =
      (Flight.polled (flight.poll port first s).1).poll port second
        (flight.poll port first s).2 := by
  cases flight with
  | unpolled operation => exact Progress.resumeAll_append first second _ _
  | polled progress => exact Progress.resumeAll_append first second _ _

end HydraSdr.Computation
