import Mathlib.Data.Nat.Notation

/-!
# Errors

The driver's error values (`errors.rs`), and the panics that the model keeps apart from them:
a failed `expect` or assertion, an index or slice out of range, a size below zero, and `nusb`'s own
panic when a completion is polled for on an endpoint with nothing pending.
-/

set_option autoImplicit false

namespace HydraSdr.Program

/-- The kinds of `nusb::Error` that the driver tells apart. -/
inductive UsbErrorKind where
  | disconnected
  | busy
  | notFound
  | unsupported
  | other
  deriving DecidableEq, Repr

/-- The failures of one `nusb` transfer. -/
inductive TransferError where
  | cancelled
  | stall
  | disconnected
  | fault
  | invalidArgument
  | unknown (code : UInt32)
  deriving DecidableEq, Repr

/-- Error returned by a HydraSDR operation.
SRCLINE: errors.rs:11-50 -/
inductive Error where
  | invalidConfig (field reason : String)
  | deviceNotFound
  | deviceClosed
  | busy
  | unsupported
  | streamClosed (reason : String)
  | usb (kind : UsbErrorKind)
  | transfer (error : TransferError)
  | operation (operation : String) (source : Error)
  | protocol (operation reason : String)
  deriving DecidableEq, Repr

/-- Attach driver-operation context (`Error::at`).
SRCLINE: errors.rs:93-98 -/
def Error.atOperation (operation : String) (error : Error) : Error :=
  .operation operation error

abbrev Result (α : Type) := Except Error α

/-- Ways in which the code can panic.  `resumedAfterCompletion` is what the language raises when an
`async` block that has returned is polled again. -/
inductive Panic where
  | expectFailed (message : String)
  | assertFailed (message : String)
  | resumedAfterCompletion
  | outOfBounds
  | overflow
  | assertionFailed
  | nothingPending
  deriving DecidableEq, Repr

/-- A computation that may panic. -/
abbrev Checked.{u} (α : Type u) : Type u := Except Panic α

/-- `Option::expect`. -/
def expect {α : Type} (message : String) : Option α → Checked α
  | some value => .ok value
  | none => .error (.expectFailed message)

/-- `assert!` with a message. -/
def assertTrue (condition : Bool) (message : String) : Checked Unit :=
  if condition then .ok () else .error (.assertFailed message)

/-- Reading an element of an array or a slice. -/
def fetch {α : Type} (xs : List α) (index : ℕ) : Checked α :=
  match xs[index]? with
  | some x => .ok x
  | none => .error .outOfBounds

/-- Writing an element of an array. -/
def store {α : Type} (xs : List α) (index : ℕ) (x : α) : Checked (List α) :=
  if index < xs.length then .ok (xs.set index x) else .error .outOfBounds

/-- Subtraction of sizes. -/
def checkedSub (a b : ℕ) : Checked ℕ :=
  if b ≤ a then .ok (a - b) else .error .overflow

/-- `debug_assert!`. -/
def debugAssert (condition : Bool) : Checked Unit :=
  if condition then .ok () else .error .assertionFailed

/-! ## Sequencing -/

theorem bind_ok {ε α β : Type} {x : Except ε α} {f : α → Except ε β} {b : β}
    (h : (x >>= f) = .ok b) : ∃ a, x = .ok a ∧ f a = .ok b := by
  cases x with
  | error e => exact nomatch h
  | ok a => exact ⟨a, rfl, h⟩

theorem map_ok {ε α β : Type} {x : Except ε α} {f : α → β} {b : β} (h : x.map f = .ok b) :
    ∃ a, x = .ok a ∧ f a = b := by
  cases x with
  | error e => exact nomatch h
  | ok a => exact ⟨a, rfl, Except.ok.inj h⟩

end HydraSdr.Program
