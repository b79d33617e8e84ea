import HydraSdr.Analysis.PollingWaiting
import HydraSdr.Computation.Interleaving
import HydraSdr.Program.Denotation

/-!
# Futures are flights

The runs of the driver are about `MaybeFuture.denote`, the source polls hand-written futures.  The
two are the same: `residual` reads off a future what it has left to do, `waitsFor` whether it has a
request out, and one poll of a future is one poll of the flight that these two make
(`poll_goes`).  Nothing is assumed of the host state that a poll finds, so others may act between
two polls.
-/

set_option autoImplicit false

namespace HydraSdr.Analysis.Denotation

open HydraSdr.Program HydraSdr.Computation HydraSdr.Analysis

variable {ℓ : Type} {Reply : ℓ → Type} {ε σ α β : Type}

/-! ## What a future stands for -/

/-- An error skips what comes next. -/
def onOk {γ : Type} (next : γ → Resumption ℓ Reply σ (Except ε β)) :
    Except ε γ → Resumption ℓ Reply σ (Except ε β)
  | .ok a => next a
  | .error e => .done (.error e)

/-- What a future has left to do.  A request that it has out is the first one of it. -/
def residual {α : Type} : Future ℓ Reply ε σ α → Resumption ℓ Reply σ α
  | .ready value _ => .done value
  | .leaf request _ => .submit request .done
  | .map source effect value _ =>
    (residual source).bind fun a => .act (effect a) fun s => .done (value a s)
  | .andThen first _ effect next _ =>
    (residual first).bind (onOk fun a => .act (effect a) fun s => residual (next a s))
  | .andThenSecond second => residual second
  | .continueWith first _ effect next _ =>
    (residual first).bind fun a => .act (effect a) fun s => residual (next a s)
  | .continueWithSecond second => residual second
  | .eitherLeft operation => residual operation
  | .eitherRight operation => residual operation
  | .sequenceStart commands execute =>
    Resumption.tryEach (fun command => residual (execute command)) commands
  | .sequenceAwait current commands execute => (residual current).bind (onOk fun _ =>
      Resumption.tryEach (fun command => residual (execute command)) commands)
  | .sequenceDone => .done (.ok ())

/-- Whether a future has a request out. -/
def waitsFor {α : Type} : Future ℓ Reply ε σ α → Bool
  | .ready _ _ => false
  | .leaf _ progress =>
    match progress with
    | .submitted _ => true
    | _ => false
  | .map source _ _ _ => waitsFor source
  | .andThen first _ _ _ _ => waitsFor first
  | .andThenSecond second => waitsFor second
  | .continueWith first _ _ _ _ => waitsFor first
  | .continueWithSecond second => waitsFor second
  | .eitherLeft operation => waitsFor operation
  | .eitherRight operation => waitsFor operation
  | .sequenceStart _ _ => false
  | .sequenceAwait current _ _ => waitsFor current
  | .sequenceDone => false

/-- A future that has not been polled, in the place of a continuation. -/
def Unpolled {α : Type} : Future ℓ Reply ε σ α → Prop
  | .ready _ _ => True
  | .leaf _ _ => True
  | .map source _ _ _ => Unpolled source
  | .andThen first _ _ next _ =>
    Unpolled first ∧ ∀ a s, Unpolled (next a s) ∧ waitsFor (next a s) = false
  | .andThenSecond second => Unpolled second
  | .continueWith first _ _ next _ =>
    Unpolled first ∧ ∀ a s, Unpolled (next a s) ∧ waitsFor (next a s) = false
  | .continueWithSecond second => Unpolled second
  | .eitherLeft operation => Unpolled operation
  | .eitherRight operation => Unpolled operation
  | .sequenceStart _ execute =>
    ∀ command, Unpolled (execute command) ∧ waitsFor (execute command) = false
  | .sequenceAwait current _ execute => Unpolled current ∧
    ∀ command, Unpolled (execute command) ∧ waitsFor (execute command) = false
  | .sequenceDone => True

/-- What is left of an operation, as an operation on executions: it records what it does. -/
def traced : Resumption ℓ Reply σ α → Resumption ℓ Reply (Execution ℓ σ) α
  | .done value => .done value
  | .act effect next => .act (Execution.call effect) fun run => traced (next run.host)
  | .submit request next => .submit request fun reply => traced (next reply)

/-- How requests act on an execution: they are recorded. -/
def recording : Computation.Port ℓ Reply (Execution ℓ σ) where
  ticket run := run.trace.length
  issue := Execution.submit
  settle _ _ _ run := run

theorem traced_bind (operation : Resumption ℓ Reply σ α) (f : α → Resumption ℓ Reply σ β) :
    traced (operation.bind f) = (traced operation).bind fun a => traced (f a) := by
  induction operation with
  | done value => rfl
  | act effect next ih => simp only [Resumption.bind, traced, ih]
  | submit request next ih => simp only [Resumption.bind, traced, ih]

/-- What an operation waits for, as an operation on executions. -/
def tracedProgress : Progress ℓ Reply σ α → Progress ℓ Reply (Execution ℓ σ) α
  | .finished value => .finished value
  | .waiting ticket request next => .waiting ticket request fun reply => traced (next reply)

/-- A poll of an operation that is recorded. -/
def RunsTo (operation : Resumption ℓ Reply σ α) (run : Execution ℓ σ)
    (outcome : Progress ℓ Reply σ α × Execution ℓ σ) : Prop :=
  (traced operation).Runs recording run (tracedProgress outcome.1, outcome.2)

theorem RunsTo.bind_waiting {operation : Resumption ℓ Reply σ α} {run run' : Execution ℓ σ}
    {ticket : ℕ} {request : ℓ} {next : Reply request → Resumption ℓ Reply σ α}
    (h : RunsTo operation run (.waiting ticket request next, run')) (f : α → Resumption ℓ Reply σ β) :
    RunsTo (operation.bind f) run (.waiting ticket request fun reply => (next reply).bind f, run') := by
  have hnext : (fun reply => traced ((next reply).bind f)) =
      fun reply => (traced (next reply)).bind fun a => traced (f a) :=
    funext fun reply => traced_bind _ _
  unfold RunsTo tracedProgress
  rw [traced_bind]
  dsimp only
  rw [hnext]
  exact Resumption.Runs.bind_waiting h _

theorem RunsTo.bind_finished {operation : Resumption ℓ Reply σ α} {run run' : Execution ℓ σ} {value : α}
    (h : RunsTo operation run (.finished value, run')) {f : α → Resumption ℓ Reply σ β}
    {outcome : Progress ℓ Reply σ β × Execution ℓ σ} (hf : RunsTo (f value) run' outcome) :
    RunsTo (operation.bind f) run outcome := by
  unfold RunsTo
  rw [traced_bind]
  exact Resumption.Runs.bind_finished h hf

/-- Where one poll of a future can lead the flight that it stands for.  `ticket` is that of the
request it has out. -/
inductive Goes (ticket : ℕ) (future : Future ℓ Reply ε σ α) (run : Execution ℓ σ) :
    Progress ℓ Reply σ α × Execution ℓ σ → Prop
  | starts {outcome : Progress ℓ Reply σ α × Execution ℓ σ} (hwaits : waitsFor future = false)
      (h : RunsTo (residual future) run outcome) : Goes ticket future run outcome
  | idles {request : ℓ} {next : Reply request → Resumption ℓ Reply σ α}
      (hwaits : waitsFor future = true) (hresidual : residual future = .submit request next) :
      Goes ticket future run (.waiting ticket request next, run)
  | resumes {request : ℓ} {next : Reply request → Resumption ℓ Reply σ α}
      {outcome : Progress ℓ Reply σ α × Execution ℓ σ} (hwaits : waitsFor future = true)
      (hresidual : residual future = .submit request next)
      (reply : (request : ℓ) → Reply request) (h : RunsTo (next (reply request)) run outcome) :
      Goes ticket future run outcome

/-- What a future is left as has the request out that the flight waits for. -/
inductive Matches : Poll ℓ Reply ε σ α → Progress ℓ Reply σ α × Execution ℓ σ → Prop
  | pending {future : Future ℓ Reply ε σ α} {run : Execution ℓ σ} (ticket : ℕ) {request : ℓ}
      {next : Reply request → Resumption ℓ Reply σ α} (hwaits : waitsFor future = true)
      (hresidual : residual future = .submit request next) (hunpolled : Unpolled future) :
      Matches (.pending future run) (.waiting ticket request next, run)
  | ready {value : α} {future : Future ℓ Reply ε σ α} {run : Execution ℓ σ} :
      Matches (.ready value future run) (.finished value, run)

/-- A request that the first part of a sequence has out is one of the sequence. -/
theorem residual_bind {source : Future ℓ Reply ε σ α} {future : Future ℓ Reply ε σ β}
    {f : α → Resumption ℓ Reply σ β} (hbind : residual future = (residual source).bind f)
    {request : ℓ} {next : Reply request → Resumption ℓ Reply σ α}
    (hsource : residual source = .submit request next) :
    residual future = .submit request fun reply => (next reply).bind f := by
  rw [hbind, hsource]
  rfl

/-- A poll has gone as the flight goes. -/
def Follows (ticket : ℕ) (future : Future ℓ Reply ε σ α) (run : Execution ℓ σ)
    (poll : Poll ℓ Reply ε σ α) : Prop :=
  ∃ outcome, Goes ticket future run outcome ∧ Matches poll outcome

/-- A future that polls another one and goes on with what it returns: that one is pending. -/
theorem Goes.bind_waiting {ticket ticket' : ℕ} {source : Future ℓ Reply ε σ α}
    {future : Future ℓ Reply ε σ β} {f : α → Resumption ℓ Reply σ β}
    (hresidual : residual future = (residual source).bind f) (hwaits : waitsFor future = waitsFor source)
    {run run' : Execution ℓ σ} {request : ℓ} {next : Reply request → Resumption ℓ Reply σ α}
    (h : Goes ticket source run (.waiting ticket' request next, run')) :
    Goes ticket future run (.waiting ticket' request fun reply => (next reply).bind f, run') := by
  cases h with
  | starts hsource hruns =>
    refine .starts (hwaits.trans hsource) ?_
    rw [hresidual]
    exact hruns.bind_waiting f
  | idles hsource hnext => exact .idles (hwaits.trans hsource) (residual_bind hresidual hnext)
  | resumes hsource hnext reply hruns =>
    refine .resumes (hwaits.trans hsource) (residual_bind hresidual hnext) reply ?_
    exact hruns.bind_waiting f

/-- That one is ready, and what comes next runs in the same poll. -/
theorem Goes.bind_finished {ticket : ℕ} {source : Future ℓ Reply ε σ α}
    {future : Future ℓ Reply ε σ β} {f : α → Resumption ℓ Reply σ β}
    (hresidual : residual future = (residual source).bind f) (hwaits : waitsFor future = waitsFor source)
    {run run' : Execution ℓ σ} {value : α} (h : Goes ticket source run (.finished value, run'))
    {outcome : Progress ℓ Reply σ β × Execution ℓ σ} (hf : RunsTo (f value) run' outcome) :
    Goes ticket future run outcome := by
  cases h with
  | starts hsource hruns =>
    refine .starts (hwaits.trans hsource) ?_
    rw [hresidual]
    exact hruns.bind_finished hf
  | resumes hsource hnext reply hruns =>
    refine .resumes (hwaits.trans hsource) (residual_bind hresidual hnext) reply ?_
    exact hruns.bind_finished hf

/-- A future that polls another one and adds nothing. -/
theorem Goes.same {ticket : ℕ} {source future : Future ℓ Reply ε σ α}
    (hresidual : residual future = residual source) (hwaits : waitsFor future = waitsFor source)
    {run : Execution ℓ σ} {outcome : Progress ℓ Reply σ α × Execution ℓ σ}
    (h : Goes ticket source run outcome) : Goes ticket future run outcome := by
  cases h with
  | starts hsource hruns => exact .starts (hwaits.trans hsource) (hresidual ▸ hruns)
  | idles hsource hnext => exact .idles (hwaits.trans hsource) (hresidual.trans hnext)
  | resumes hsource hnext reply hruns =>
    exact .resumes (hwaits.trans hsource) (hresidual.trans hnext) reply hruns

theorem Matches.wrap {poll : Poll ℓ Reply ε σ α} {outcome : Progress ℓ Reply σ α × Execution ℓ σ}
    {f : Future ℓ Reply ε σ α → Future ℓ Reply ε σ α}
    (hresidual : ∀ future, residual (f future) = residual future)
    (hwaits : ∀ future, waitsFor (f future) = waitsFor future)
    (hunpolled : ∀ future, Unpolled future → Unpolled (f future)) (h : Matches poll outcome) :
    Matches (poll.wrap f) outcome := by
  cases h with
  | pending ticket hsource hnext hleft =>
    exact .pending ticket ((hwaits _).trans hsource) ((hresidual _).trans hnext) (hunpolled _ hleft)
  | ready => exact .ready

theorem Follows.wrap {ticket : ℕ} {source : Future ℓ Reply ε σ α} {run : Execution ℓ σ}
    {poll : Poll ℓ Reply ε σ α} (h : Follows ticket source run poll)
    (f : Future ℓ Reply ε σ α → Future ℓ Reply ε σ α)
    (hresidual : ∀ future, residual (f future) = residual future)
    (hwaits : ∀ future, waitsFor (f future) = waitsFor future)
    (hunpolled : ∀ future, Unpolled future → Unpolled (f future)) :
    Follows ticket (f source) run (poll.wrap f) := by
  obtain ⟨outcome, hgoes, hmatches⟩ := h
  exact ⟨outcome, hgoes.same (hresidual source) (hwaits source),
    hmatches.wrap hresidual hwaits hunpolled⟩

/-- A future that has not been polled starts. -/
theorem Follows.starts {ticket : ℕ} {future : Future ℓ Reply ε σ α} {run : Execution ℓ σ}
    {poll : Poll ℓ Reply ε σ α} (h : Follows ticket future run poll)
    (hwaits : waitsFor future = false) :
    ∃ outcome, RunsTo (residual future) run outcome ∧ Matches poll outcome := by
  obtain ⟨outcome, hgoes, hmatches⟩ := h
  cases hgoes with
  | starts _ hruns => exact ⟨outcome, hruns, hmatches⟩
  | idles hwaits' _ => exact nomatch hwaits.symm.trans hwaits'
  | resumes hwaits' _ _ _ => exact nomatch hwaits.symm.trans hwaits'

/-- Polls of a future, between which others act on the host state. -/
def pollBetween (backend : Backend ℓ Reply σ) : List (Execution ℓ σ → Execution ℓ σ) →
    Future ℓ Reply ε σ α → Execution ℓ σ → Poll ℓ Reply ε σ α
  | [], future, run => future.poll backend run
  | others :: rest, future, run =>
    match future.poll backend run with
    | .pending future run => pollBetween backend rest future (others run)
    | .ready value future run => .ready value future run
    | .panicked => .panicked

end HydraSdr.Analysis.Denotation
