import Mathlib.Data.Nat.Notation

/-!
# Registers behind a log of commands

A device keeps registers that commands write and that cannot be read back.  The host knows the log
of the commands it has issued; of a command that was never acknowledged it does not know whether it
has been carried out.  `replay` is what the registers hold when `applied` says which of the commands,
by their numbers in the log, have been.
-/

set_option autoImplicit false

namespace HydraSdr.Computation

variable {ℓ ρ β : Type}

/-- The registers after a log whose first command has the number `first`. -/
def replay (write : ℓ → ρ → ρ) (applied : ℕ → Bool) : ℕ → List ℓ → ρ → ρ
  | _, [], registers => registers
  | first, command :: log, registers =>
    replay write applied (first + 1) log (if applied first then write command registers else registers)

variable {write : ℓ → ρ → ρ} {applied : ℕ → Bool}

/-- A log that goes on is replayed from where its first part has led to. -/
theorem replay_append (first : ℕ) (log later : List ℓ) (registers : ρ) :
    replay write applied first (log ++ later) registers =
      replay write applied (first + log.length) later (replay write applied first log registers) := by
  induction log generalizing first registers with
  | nil => rfl
  | cons command log ih =>
    show replay write applied (first + 1) (log ++ later) _ = _
    rw [ih (first + 1), List.length_cons, Nat.add_assoc, Nat.add_comm 1]
    rfl

/-- What no command of a log writes is left as it was, whichever of them are carried out. -/
theorem replay_view (view : ρ → β) (first : ℕ) {log : List ℓ}
    (h : ∀ command ∈ log, ∀ registers, view (write command registers) = view registers)
    (registers : ρ) : view (replay write applied first log registers) = view registers := by
  induction log generalizing first registers with
  | nil => rfl
  | cons command log ih =>
    have hrest := ih (first + 1) (fun other hother => h other (List.mem_cons_of_mem _ hother))
      (if applied first then write command registers else registers)
    refine hrest.trans ?_
    by_cases hcarried : applied first = true
    · rw [if_pos hcarried]
      exact h command List.mem_cons_self registers
    · rw [if_neg hcarried]

/-- A command that has been carried out, followed by others that write nothing. -/
theorem replay_command (first : ℕ) (command : ℓ) {others : List ℓ} (hcarried : applied first = true)
    (hothers : ∀ other ∈ others, ∀ registers, write other registers = registers) (registers : ρ) :
    replay write applied first (command :: others) registers = write command registers := by
  show replay write applied (first + 1) others _ = _
  rw [if_pos hcarried]
  exact replay_view id (first + 1) hothers _

end HydraSdr.Computation
