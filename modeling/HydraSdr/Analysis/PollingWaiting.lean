import HydraSdr.Program.MaybeFuture

/-!
# Waiting and polling are the same operation

`Future.finish` is what a future still has to do, read off its shape, and
`Future.pendingsLeft` is how many polls will report `Pending` before it is done.  One poll of a
future that has not completed either finishes it, or leaves a future with the same `finish` and
one `Pending` less (`poll_agrees`).  A fresh future has `finish` equal to `wait`
(`finish_intoFuture`), so iterating polls gives the blocking execution, and a future dropped
between two polls has performed a prefix of it.
-/

set_option autoImplicit false

namespace HydraSdr.Analysis.PollingWaiting

open HydraSdr.Program

variable {ℓ : Type} {Reply : ℓ → Type} {ε σ α : Type}

/-! ## What a future still has to do -/

/-- The result and the execution a future reaches when it is polled to its end. -/
def finish (backend : Backend ℓ Reply σ) {α : Type} :
    Future ℓ Reply ε σ α → Execution ℓ σ → α × Execution ℓ σ
  | .ready value _, run => (value, run)
  | .leaf request progress, run =>
    match progress with
    | .idle => (backend.reply request (run.submit request).trace, run.submit request)
    | _ => (backend.reply request run.trace, run)
  | .map source effect value _, run =>
    (value (finish backend source run).1 (finish backend source run).2.host,
      (finish backend source run).2.call (effect (finish backend source run).1))
  | .andThen first _ effect next _, run =>
    match finish backend first run with
    | (.ok a, run) => finish backend (next a run.host) (run.call (effect a))
    | (.error e, run) => (.error e, run)
  | .andThenSecond second, run => finish backend second run
  | .continueWith first _ effect next _, run =>
    match finish backend first run with
    | (a, run) => finish backend (next a run.host) (run.call (effect a))
  | .continueWithSecond second, run => finish backend second run
  | .eitherLeft operation, run => finish backend operation run
  | .eitherRight operation, run => finish backend operation run
  | .sequenceStart commands execute, run =>
    sequenceWait (fun command => finish backend (execute command)) commands run
  | .sequenceAwait current commands execute, run =>
    match finish backend current run with
    | (.ok _, run) => sequenceWait (fun command => finish backend (execute command)) commands run
    | (.error e, run) => (.error e, run)
  | .sequenceDone, run => (.ok (), run)

/-- The `Pending` results a command loop will report. -/
def sequencePendings {ι : Type} (wait : ι → Execution ℓ σ → Except ε Unit × Execution ℓ σ)
    (pendings : ι → Execution ℓ σ → ℕ) : List ι → Execution ℓ σ → ℕ
  | [], _ => 0
  | command :: commands, run =>
    pendings command run + match wait command run with
      | (.ok _, run) => sequencePendings wait pendings commands run
      | (.error _, _) => 0

/-- How many polls of a future report `Pending` before it is ready. -/
def pendingsLeft (backend : Backend ℓ Reply σ) {α : Type} :
    Future ℓ Reply ε σ α → Execution ℓ σ → ℕ
  | .ready _ _, _ => 0
  | .leaf request progress, run =>
    match progress with
    | .idle => backend.pendings request (run.submit request).trace
    | .submitted pendings => pendings
    | .completed => 0
  | .map source _ _ _, run => pendingsLeft backend source run
  | .andThen first _ effect next _, run =>
    pendingsLeft backend first run + match finish backend first run with
      | (.ok a, run) => pendingsLeft backend (next a run.host) (run.call (effect a))
      | (.error _, _) => 0
  | .andThenSecond second, run => pendingsLeft backend second run
  | .continueWith first _ effect next _, run =>
    pendingsLeft backend first run + match finish backend first run with
      | (a, run) => pendingsLeft backend (next a run.host) (run.call (effect a))
  | .continueWithSecond second, run => pendingsLeft backend second run
  | .eitherLeft operation, run => pendingsLeft backend operation run
  | .eitherRight operation, run => pendingsLeft backend operation run
  | .sequenceStart commands execute, run =>
    sequencePendings (fun command => finish backend (execute command))
      (fun command => pendingsLeft backend (execute command)) commands run
  | .sequenceAwait current commands execute, run =>
    pendingsLeft backend current run + match finish backend current run with
      | (.ok _, run) => sequencePendings (fun command => finish backend (execute command))
          (fun command => pendingsLeft backend (execute command)) commands run
      | (.error _, _) => 0
  | .sequenceDone, _ => 0

/-- A future that has not completed: nothing that a later poll needs has been taken. -/
def Live {α : Type} : Future ℓ Reply ε σ α → Prop
  | .ready _ taken => taken = false
  | .leaf _ progress => progress ≠ .completed
  | .map source _ _ functionTaken => Live source ∧ functionTaken = false
  | .andThen first firstTaken _ next continuationTaken =>
    Live first ∧ firstTaken = false ∧ continuationTaken = false ∧ ∀ a s, Live (next a s)
  | .andThenSecond second => Live second
  | .continueWith first firstTaken _ next continuationTaken =>
    Live first ∧ firstTaken = false ∧ continuationTaken = false ∧ ∀ a s, Live (next a s)
  | .continueWithSecond second => Live second
  | .eitherLeft operation => Live operation
  | .eitherRight operation => Live operation
  | .sequenceStart _ execute => ∀ command, Live (execute command)
  | .sequenceAwait current _ execute => Live current ∧ ∀ command, Live (execute command)
  | .sequenceDone => False

/-! ## Fresh futures -/

/-- A fresh future has not completed. -/
theorem live_intoFuture (operation : MaybeFuture ℓ Reply ε σ α) : Live operation.intoFuture := by
  induction operation with
  | ready value => rfl
  | leaf request => exact LeafProgress.noConfusion
  | mapping source effect value ih => exact ⟨ih, rfl⟩
  | chained wrapped effect next ihw ihn => exact ⟨ihw, rfl, rfl, ihn⟩
  | continued wrapped effect next ihw ihn => exact ⟨ihw, rfl, rfl, ihn⟩
  | left operation ih => exact ih
  | right operation ih => exact ih
  | sequence commands execute ih => exact ih

/-- What a fresh future has to do is the blocking execution. -/
theorem finish_intoFuture (backend : Backend ℓ Reply σ) (operation : MaybeFuture ℓ Reply ε σ α)
    (run : Execution ℓ σ) : finish backend operation.intoFuture run = operation.wait backend run := by
  induction operation generalizing run with
  | ready value => rfl
  | leaf request => rfl
  | mapping source effect value ih => simp only [MaybeFuture.intoFuture, finish, MaybeFuture.wait, ih]
  | chained wrapped effect next ihw ihn =>
    unfold MaybeFuture.intoFuture finish MaybeFuture.wait
    rw [ihw]
    rcases wrapped.wait backend run with ⟨error | value, run⟩
    · rfl
    · exact ihn value run.host (run.call (effect value))
  | continued wrapped effect next ihw ihn =>
    simp only [MaybeFuture.intoFuture, finish, MaybeFuture.wait, ihw, ihn]
  | left operation ih => exact ih run
  | right operation ih => exact ih run
  | sequence commands execute ih =>
    have h : (fun command => finish backend (execute command).intoFuture) =
        fun command => (execute command).wait backend := by
      funext command run
      exact ih command run
    simp only [MaybeFuture.intoFuture, finish, MaybeFuture.wait, h]

/-! ## The trace only grows -/

theorem prefix_submit (request : ℓ) (run : Execution ℓ σ) :
    run.trace <+: (run.submit request).trace :=
  List.prefix_append _ _

theorem prefix_call (effect : σ → σ) (run : Execution ℓ σ) :
    run.trace <+: (run.call effect).trace :=
  List.prefix_append _ _

/-- A command loop whose commands only add to the trace only adds to the trace. -/
theorem prefix_sequenceWait {ι : Type}
    {wait : ι → Execution ℓ σ → Except ε Unit × Execution ℓ σ}
    (h : ∀ command run, run.trace <+: (wait command run).2.trace) (commands : List ι)
    (run : Execution ℓ σ) : run.trace <+: (sequenceWait wait commands run).2.trace := by
  induction commands generalizing run with
  | nil => exact List.prefix_rfl
  | cons command commands ih =>
    have hc := h command run
    unfold sequenceWait
    split <;> rename_i heq <;> rw [heq] at hc
    · exact hc.trans (ih _)
    · exact hc

/-- Finishing a future only adds to the trace. -/
theorem prefix_finish (backend : Backend ℓ Reply σ) (future : Future ℓ Reply ε σ α)
    (run : Execution ℓ σ) : run.trace <+: (finish backend future run).2.trace := by
  induction future generalizing run with
  | ready value taken => exact List.prefix_rfl
  | leaf request progress =>
    cases progress with
    | idle => exact prefix_submit request run
    | submitted pendings => exact List.prefix_rfl
    | completed => exact List.prefix_rfl
  | map source effect value functionTaken ih =>
    exact (ih run).trans (prefix_call _ _)
  | andThen first firstTaken effect next continuationTaken ihf ihn =>
    have hf := ihf run
    unfold finish
    split <;> rename_i heq <;> rw [heq] at hf
    · exact hf.trans ((prefix_call _ _).trans (ihn _ _ _))
    · exact hf
  | andThenSecond second ih => exact ih run
  | continueWith first firstTaken effect next continuationTaken ihf ihn =>
    exact (ihf run).trans ((prefix_call _ _).trans (ihn _ _ _))
  | continueWithSecond second ih => exact ih run
  | eitherLeft operation ih => exact ih run
  | eitherRight operation ih => exact ih run
  | sequenceStart commands execute ih => exact prefix_sequenceWait ih commands run
  | sequenceAwait current commands execute ihc ihe =>
    have hc := ihc run
    unfold finish
    split <;> rename_i heq <;> rw [heq] at hc
    · exact hc.trans (prefix_sequenceWait ihe commands _)
    · exact hc
  | sequenceDone => exact List.prefix_rfl

/-! ## One poll -/

/-- What one poll of a future from `run` must have led to: not a failed `expect`; if ready, the
result and execution of `finish`; if pending, a live future with the same `finish`, one
`Pending` less, and everything done so far kept. -/
def Agrees (backend : Backend ℓ Reply σ) (expected : α × Execution ℓ σ) (pendings : ℕ)
    (run : Execution ℓ σ) : Poll ℓ Reply ε σ α → Prop
  | .panicked => False
  | .ready value _ after => pendings = 0 ∧ (value, after) = expected
  | .pending future after =>
    Live future ∧ finish backend future after = expected ∧
      pendings = pendingsLeft backend future after + 1 ∧ run.trace <+: after.trace

/-- A rewrapped poll agrees when the wrapper changes nothing that is observed. -/
theorem Agrees.wrap {backend : Backend ℓ Reply σ} {expected : α × Execution ℓ σ} {pendings : ℕ}
    {run : Execution ℓ σ} {poll : Poll ℓ Reply ε σ α}
    (f : Future ℓ Reply ε σ α → Future ℓ Reply ε σ α)
    (hlive : ∀ future, Live future → Live (f future))
    (hfinish : ∀ future after, finish backend (f future) after = finish backend future after)
    (hleft : ∀ future after, pendingsLeft backend (f future) after =
      pendingsLeft backend future after)
    (h : Agrees backend expected pendings run poll) :
    Agrees backend expected pendings run (poll.wrap f) := by
  cases poll with
  | panicked => exact h
  | ready value future after => exact h
  | pending future after =>
    obtain ⟨hl, hf, hp, ht⟩ := h
    exact ⟨hlive _ hl, (hfinish _ _).trans hf, by rw [hleft]; exact hp, ht⟩

/-- Agreement may be carried back over what was already done before the poll. -/
theorem Agrees.mono {backend : Backend ℓ Reply σ} {expected : α × Execution ℓ σ} {pendings : ℕ}
    {before run : Execution ℓ σ} {poll : Poll ℓ Reply ε σ α} (hle : before.trace <+: run.trace)
    (h : Agrees backend expected pendings run poll) :
    Agrees backend expected pendings before poll := by
  cases poll with
  | panicked => exact h
  | ready value future after => exact h
  | pending future after => exact ⟨h.1, h.2.1, h.2.2.1, hle.trans h.2.2.2⟩

/-- The command loop of `Sequence`, given that each command's own poll agrees.
SRCLINE: protocol.rs:249-255 -/
theorem sequencePoll_agrees {ι : Type} (backend : Backend ℓ Reply σ)
    (execute : ι → Future ℓ Reply ε σ (Except ε Unit)) (hlive : ∀ command, Live (execute command))
    (hpoll : ∀ command run, Agrees backend (finish backend (execute command) run)
      (pendingsLeft backend (execute command) run) run ((execute command).poll backend run))
    (commands : List ι) (run : Execution ℓ σ) :
    Agrees backend (sequenceWait (fun command => finish backend (execute command)) commands run)
      (sequencePendings (fun command => finish backend (execute command))
        (fun command => pendingsLeft backend (execute command)) commands run) run
      (sequencePoll execute (fun command => (execute command).poll backend) commands run) := by
  induction commands generalizing run with
  | nil => exact ⟨rfl, rfl⟩
  | cons command commands ih =>
    have hc := hpoll command run
    have hprefix := prefix_finish backend (execute command) run
    simp only [sequencePoll, sequenceWait, sequencePendings]
    cases hp : (execute command).poll backend run with
    | panicked => rw [hp] at hc; exact hc
    | pending current after =>
      rw [hp] at hc
      obtain ⟨hl, hf, hn, ht⟩ := hc
      refine ⟨⟨hl, hlive⟩, ?_, ?_, ht⟩
      · rcases hfinish : finish backend (execute command) run with ⟨error | value, run⟩
        · simp only [finish, hf, hfinish]
        · simp only [finish, hf, hfinish]
      · simp only [pendingsLeft, hf, hn]
        omega
    | ready value left after =>
      rw [hp] at hc
      obtain ⟨hn, hf⟩ := hc
      rw [← hf] at hprefix
      cases value with
      | error e =>
        simp only [← hf, hn]
        exact ⟨rfl, rfl⟩
      | ok value =>
        simp only [← hf, hn, Nat.zero_add]
        exact (ih after).mono hprefix

/-- **One poll** of a future that has not completed.
SRCLINE: maybe_future.rs:114-144, 192-224, 277-289 -/
theorem poll_agrees (backend : Backend ℓ Reply σ) (future : Future ℓ Reply ε σ α)
    (hlive : Live future) (run : Execution ℓ σ) :
    Agrees backend (finish backend future run) (pendingsLeft backend future run) run
      (future.poll backend run) := by
  induction future generalizing run with
  | ready value taken =>
    obtain rfl : taken = false := hlive
    exact ⟨rfl, rfl⟩
  | leaf request progress =>
    cases progress with
    | idle =>
      simp only [Future.poll, finish, pendingsLeft]
      cases h : backend.pendings request (run.submit request).trace with
      | zero => exact ⟨rfl, rfl⟩
      | succ pendings => exact ⟨LeafProgress.noConfusion, rfl, rfl, prefix_submit request run⟩
    | submitted pendings =>
      cases pendings with
      | zero => exact ⟨rfl, rfl⟩
      | succ pendings => exact ⟨LeafProgress.noConfusion, rfl, rfl, List.prefix_rfl⟩
    | completed => exact absurd rfl hlive
  | map source effect value functionTaken ih =>
    obtain ⟨hsource, rfl⟩ := hlive
    have hs := ih hsource run
    simp only [Future.poll, finish, pendingsLeft]
    cases hp : source.poll backend run with
    | panicked => rw [hp] at hs; exact hs
    | pending source' after =>
      rw [hp] at hs
      obtain ⟨hl, hf, hn, ht⟩ := hs
      exact ⟨⟨hl, rfl⟩, by simp only [finish, hf], by simpa only [pendingsLeft] using hn, ht⟩
    | ready a source' after =>
      rw [hp] at hs
      obtain ⟨hn, hf⟩ := hs
      exact ⟨hn, by rw [← hf]⟩
  | andThen first firstTaken effect next continuationTaken ihf ihn =>
    obtain ⟨hfirst, rfl, rfl, hnext⟩ := hlive
    have hs := ihf hfirst run
    have hprefix := prefix_finish backend first run
    simp only [Future.poll, Bool.false_eq_true, if_false, finish, pendingsLeft]
    cases hp : first.poll backend run with
    | panicked => rw [hp] at hs; exact hs
    | pending first' after =>
      rw [hp] at hs
      obtain ⟨hl, hf, hn, ht⟩ := hs
      refine ⟨⟨hl, rfl, rfl, hnext⟩, ?_, ?_, ht⟩
      · simp only [finish, hf]
      · simp only [pendingsLeft, hf, hn]
        omega
    | ready value first' after =>
      rw [hp] at hs
      obtain ⟨hn, hf⟩ := hs
      rw [← hf] at hprefix
      cases value with
      | error e =>
        simp only [← hf, hn]
        exact ⟨rfl, rfl⟩
      | ok a =>
        -- The second operation starts in the poll that completes the first one.
        simp only [← hf, hn, Nat.zero_add]
        have h2 := ihn a after.host (hnext a after.host) (after.call (effect a))
        exact ((h2.mono (prefix_call _ _)).mono hprefix).wrap .andThenSecond
          (fun _ h => h) (fun _ _ => rfl) (fun _ _ => rfl)
  | andThenSecond second ih =>
    exact (ih hlive run).wrap .andThenSecond (fun _ h => h) (fun _ _ => rfl) (fun _ _ => rfl)
  | continueWith first firstTaken effect next continuationTaken ihf ihn =>
    obtain ⟨hfirst, rfl, rfl, hnext⟩ := hlive
    have hs := ihf hfirst run
    have hprefix := prefix_finish backend first run
    simp only [Future.poll, Bool.false_eq_true, if_false, finish, pendingsLeft]
    cases hp : first.poll backend run with
    | panicked => rw [hp] at hs; exact hs
    | pending first' after =>
      rw [hp] at hs
      obtain ⟨hl, hf, hn, ht⟩ := hs
      refine ⟨⟨hl, rfl, rfl, hnext⟩, by simp only [finish, hf], ?_, ht⟩
      simp only [pendingsLeft, hf, hn]
      omega
    | ready a first' after =>
      rw [hp] at hs
      obtain ⟨hn, hf⟩ := hs
      rw [← hf] at hprefix
      simp only [← hf, hn, Nat.zero_add]
      have h2 := ihn a after.host (hnext a after.host) (after.call (effect a))
      exact ((h2.mono (prefix_call _ _)).mono hprefix).wrap .continueWithSecond
        (fun _ h => h) (fun _ _ => rfl) (fun _ _ => rfl)
  | continueWithSecond second ih =>
    exact (ih hlive run).wrap .continueWithSecond (fun _ h => h) (fun _ _ => rfl) (fun _ _ => rfl)
  | eitherLeft operation ih =>
    exact (ih hlive run).wrap .eitherLeft (fun _ h => h) (fun _ _ => rfl) (fun _ _ => rfl)
  | eitherRight operation ih =>
    exact (ih hlive run).wrap .eitherRight (fun _ h => h) (fun _ _ => rfl) (fun _ _ => rfl)
  | sequenceStart commands execute ih =>
    exact sequencePoll_agrees backend execute hlive (fun command run => ih command (hlive command) run)
      commands run
  | sequenceAwait current commands execute ihc ihe =>
    obtain ⟨hcurrent, hexecute⟩ := hlive
    have hs := ihc hcurrent run
    have hprefix := prefix_finish backend current run
    simp only [Future.poll, finish, pendingsLeft]
    cases hp : current.poll backend run with
    | panicked => rw [hp] at hs; exact hs
    | pending current' after =>
      rw [hp] at hs
      obtain ⟨hl, hf, hn, ht⟩ := hs
      refine ⟨⟨hl, hexecute⟩, ?_, ?_, ht⟩
      · simp only [finish, hf]
      · simp only [pendingsLeft, hf, hn]
        omega
    | ready value current' after =>
      rw [hp] at hs
      obtain ⟨hn, hf⟩ := hs
      rw [← hf] at hprefix
      cases value with
      | error e =>
        simp only [← hf, hn]
        exact ⟨rfl, rfl⟩
      | ok value =>
        simp only [← hf, hn, Nat.zero_add]
        exact (sequencePoll_agrees backend execute hexecute
          (fun command run => ihe command (hexecute command) run) commands after).mono hprefix
  | sequenceDone => exact hlive.elim

/-! ## All polls -/

/-- The first `polls` polls, as long as the future still has that many `Pending` results to
report: each is pending, and the finished execution stays the same. -/
theorem pollTimes_pending (backend : Backend ℓ Reply σ) (future : Future ℓ Reply ε σ α)
    (hlive : Live future) (run : Execution ℓ σ) (polls : ℕ)
    (hle : polls ≤ pendingsLeft backend future run) :
    ∃ left after, future.pollTimes backend run polls = .pending left after ∧ Live left ∧
      finish backend left after = finish backend future run ∧
      pendingsLeft backend future run = pendingsLeft backend left after + polls ∧
      run.trace <+: after.trace := by
  induction polls with
  | zero => exact ⟨future, run, rfl, hlive, rfl, rfl, List.prefix_rfl⟩
  | succ polls ih =>
    obtain ⟨left, after, hp, hl, hf, hn, ht⟩ := ih (by omega)
    have hs := poll_agrees backend left hl after
    simp only [Future.pollTimes, hp]
    cases hq : left.poll backend after with
    | panicked => rw [hq] at hs; exact hs.elim
    | ready value left' after' =>
      rw [hq] at hs
      have := hs.1
      omega
    | pending left' after' =>
      rw [hq] at hs
      obtain ⟨hl', hf', hn', ht'⟩ := hs
      exact ⟨left', after', rfl, hl', hf'.trans hf, by omega, ht.trans ht'⟩

/-- The poll after the last `Pending` is ready, with the finished result and execution. -/
theorem pollTimes_ready (backend : Backend ℓ Reply σ) (future : Future ℓ Reply ε σ α)
    (hlive : Live future) (run : Execution ℓ σ) :
    ∃ left, future.pollTimes backend run (pendingsLeft backend future run + 1) =
      .ready (finish backend future run).1 left (finish backend future run).2 := by
  obtain ⟨left, after, hp, hl, hf, hn, -⟩ :=
    pollTimes_pending backend future hlive run _ le_rfl
  have hs := poll_agrees backend left hl after
  simp only [Future.pollTimes, hp]
  cases hq : left.poll backend after with
  | panicked => rw [hq] at hs; exact hs.elim
  | pending left' after' =>
    rw [hq] at hs
    have := hs.2.2.1
    omega
  | ready value left' after' =>
    rw [hq] at hs
    rw [← hf, ← hs.2]
    exact ⟨left', rfl⟩

/-! ## Polling to the end is waiting -/

/-- Polling `into_future()` until `Ready` from `run` gives `value` and leaves the execution
`after`, every earlier poll being `Pending`. -/
def PollsTo (backend : Backend ℓ Reply σ) (operation : MaybeFuture ℓ Reply ε σ α)
    (run : Execution ℓ σ) (value : α) (after : Execution ℓ σ) : Prop :=
  ∃ polls left, operation.intoFuture.pollTimes backend run (polls + 1) = .ready value left after ∧
    ∀ k ≤ polls, ∃ left' after', operation.intoFuture.pollTimes backend run k =
      .pending left' after'

/-- Polling to the end gives exactly what the blocking execution gives. -/
theorem pollsTo_iff (backend : Backend ℓ Reply σ) (operation : MaybeFuture ℓ Reply ε σ α)
    (run : Execution ℓ σ) (value : α) (after : Execution ℓ σ) :
    PollsTo backend operation run value after ↔ operation.wait backend run = (value, after) := by
  have hlive := live_intoFuture operation
  have hfinish := finish_intoFuture backend operation run
  obtain ⟨left, hready⟩ := pollTimes_ready backend operation.intoFuture hlive run
  rw [hfinish] at hready
  constructor
  · rintro ⟨polls, left', hp, hpending⟩
    rcases Nat.lt_trichotomy polls (pendingsLeft backend operation.intoFuture run) with hlt | heq | hgt
    · obtain ⟨_, _, hq, -⟩ := pollTimes_pending backend operation.intoFuture hlive run (polls + 1) hlt
      rw [hp] at hq
      cases hq
    · subst heq
      rw [hp] at hready
      injection hready with hv _ ha
      rw [hv, ha]
    · obtain ⟨_, _, hq⟩ := hpending _ hgt
      rw [hready] at hq
      cases hq
  · intro h
    rw [h] at hready
    refine ⟨pendingsLeft backend operation.intoFuture run, left, hready, fun k hk => ?_⟩
    obtain ⟨left', after', hp, -⟩ := pollTimes_pending backend operation.intoFuture hlive run k hk
    exact ⟨left', after', hp⟩

/-- **Waiting and polling are the same operation.**  Polling to `Ready` succeeds after finitely
many polls, with the result, host state and ordered list of submissions and closure effects of
`wait`; each earlier poll is `Pending`, never a failed `expect`, and leaves a prefix of that
list, the empty one if there was no poll.  A continuation adds its one event between the
complete execution of its predecessor and that of the operation it returned; after an `Err`
the continuation of `and_then` does not run.
SRCLINE: maybe_future.rs:71-305, protocol.rs:235-265 -/
theorem polling_agrees_with_waiting (backend : Backend ℓ Reply σ)
    (operation : MaybeFuture ℓ Reply ε σ α) (run : Execution ℓ σ) :
    (∃ polls left,
      operation.intoFuture.pollTimes backend run (polls + 1) =
        .ready (operation.wait backend run).1 left (operation.wait backend run).2 ∧
      ∀ k ≤ polls, ∃ left' after',
        operation.intoFuture.pollTimes backend run k = .pending left' after' ∧
        run.trace <+: after'.trace ∧ after'.trace <+: (operation.wait backend run).2.trace ∧
        (k = 0 → after' = run)) ∧
    (∀ {β : Type} (effect : α → σ → σ) (next : α → σ → MaybeFuture ℓ Reply ε σ β) (value : β)
        (after : Execution ℓ σ),
      PollsTo backend (.continued operation effect next) run value after ↔
        ∃ a mid, PollsTo backend operation run a mid ∧
          PollsTo backend (next a mid.host)
            ⟨effect a mid.host, mid.trace ++ [.ran mid.host (effect a mid.host)]⟩
            value after) ∧
    ∀ {γ β : Type} (wrapped : MaybeFuture ℓ Reply ε σ (Except ε γ)) (effect : γ → σ → σ)
        (next : γ → σ → MaybeFuture ℓ Reply ε σ (Except ε β)) (value : Except ε β)
        (after : Execution ℓ σ),
      PollsTo backend (.chained wrapped effect next) run value after ↔
        (∃ c mid, PollsTo backend wrapped run (.ok c) mid ∧
          PollsTo backend (next c mid.host)
            ⟨effect c mid.host, mid.trace ++ [.ran mid.host (effect c mid.host)]⟩
            value after) ∨
        ∃ e, PollsTo backend wrapped run (.error e) after ∧ value = .error e := by
  have hlive := live_intoFuture operation
  have hfinish := finish_intoFuture backend operation run
  refine ⟨?_, ?_, ?_⟩
  · obtain ⟨left, hready⟩ := pollTimes_ready backend operation.intoFuture hlive run
    refine ⟨pendingsLeft backend operation.intoFuture run, left, by rw [hready, hfinish], ?_⟩
    intro k hk
    obtain ⟨left', after', hp, -, hf, -, ht⟩ :=
      pollTimes_pending backend operation.intoFuture hlive run k hk
    refine ⟨left', after', hp, ht, ?_, ?_⟩
    · rw [← hfinish, ← hf]
      exact prefix_finish backend left' after'
    · rintro rfl
      injection hp with _ hrun
      exact hrun.symm
  · intro β effect next value after
    simp only [pollsTo_iff, MaybeFuture.wait]
    constructor
    · intro h
      exact ⟨_, _, rfl, h⟩
    · rintro ⟨a, mid, ha, h⟩
      rw [ha]
      exact h
  · intro γ β wrapped effect next value after
    simp only [pollsTo_iff, MaybeFuture.wait]
    cases hw : wrapped.wait backend run with
    | mk result mid =>
      cases result with
      | ok c =>
        constructor
        · intro h
          exact .inl ⟨c, mid, rfl, h⟩
        · rintro (⟨c', mid', hc, h⟩ | ⟨e, hc, -⟩)
          · cases hc
            exact h
          · cases hc
      | error e =>
        constructor
        · intro h
          cases h
          exact .inr ⟨e, rfl, rfl⟩
        · rintro (⟨c', mid', hc, -⟩ | ⟨e', hc, rfl⟩)
          · cases hc
          · cases hc
            rfl

end HydraSdr.Analysis.PollingWaiting
