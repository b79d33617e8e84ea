import HydraSdr.Program.System

/-!
# Reading the history of the wire

Which receiver mode a session has asked for last, whether that is known to have reached the
device, and that neither changes while others issue only transfers that leave the receiver mode
alone.
-/

set_option autoImplicit false

namespace HydraSdr.Analysis

open HydraSdr.Program

/-- Whether a transfer is a `ReceiverMode` command. -/
def switchesReceiver : Transfer → Bool
  | .controlOut request => request.request = .receiverMode
  | _ => false

/-- No transfer of the list is a `ReceiverMode` command. -/
def Quiet (transfers : List Transfer) : Prop :=
  ∀ transfer ∈ transfers, switchesReceiver transfer = false

/-- The last `ReceiverMode` command issued is the one with this ticket, and it asked for `mode`. -/
def LastMode (mode : ReceiverMode) (ticket : ℕ) (wire : Wire) : Prop :=
  ∃ before after, wire.issued = before ++ Transfer.receiverMode mode :: after ∧ Quiet after ∧
    before.length = ticket

/-- The last `ReceiverMode` command issued was an acknowledged `mode`. -/
def AcknowledgedMode (mode : ReceiverMode) (wire : Wire) : Prop :=
  ∃ ticket ∈ wire.acknowledged, LastMode mode ticket wire

/-- The last `ReceiverMode` command issued, if any, was an acknowledged `Off`. -/
def ReceiverOff (wire : Wire) : Prop :=
  Quiet wire.issued ∨ AcknowledgedMode .off wire

/-- A later state of the wire, whatever has been issued since. -/
structure Extends (wire wire' : Wire) : Prop where
  issued : wire.issued <+: wire'.issued
  acknowledged : wire.acknowledged ⊆ wire'.acknowledged
  opened : wire.opened ≤ wire'.opened

/-- A later state of the wire, with only quiet transfers and no newly opened endpoint since. -/
structure QuietlyExtends (wire wire' : Wire) : Prop where
  issued : ∃ transfers, wire'.issued = wire.issued ++ transfers ∧ Quiet transfers
  acknowledged : wire.acknowledged ⊆ wire'.acknowledged
  opened : wire'.opened = wire.opened

/-! ## Quiet lists -/

theorem quiet_nil : Quiet [] := fun _ h => absurd h List.not_mem_nil

theorem quiet_append {first second : List Transfer} (hfirst : Quiet first)
    (hsecond : Quiet second) : Quiet (first ++ second) := by
  intro transfer h
  rcases List.mem_append.mp h with h | h
  · exact hfirst transfer h
  · exact hsecond transfer h

theorem quiet_singleton {transfer : Transfer} (h : switchesReceiver transfer = false) :
    Quiet [transfer] := by
  intro other hother
  rw [List.mem_singleton.mp hother]
  exact h

/-! ## Growth of the wire -/

theorem Extends.refl (wire : Wire) : Extends wire wire :=
  ⟨List.prefix_rfl, fun _ h => h, Nat.le_refl _⟩

theorem Extends.trans {a b c : Wire} (hab : Extends a b) (hbc : Extends b c) : Extends a c :=
  ⟨hab.issued.trans hbc.issued, fun _ h => hbc.acknowledged (hab.acknowledged h),
    hab.opened.trans hbc.opened⟩

theorem extends_issue (transfer : Transfer) (wire : Wire) : Extends wire (wire.issue transfer) :=
  ⟨List.prefix_append _ _, fun _ h => h, Nat.le_refl _⟩

theorem acknowledged_settle (ticket : ℕ) (transfer : Transfer) (reply : transfer.Reply)
    (wire : Wire) : wire.acknowledged ⊆ (wire.settle ticket transfer reply).acknowledged := by
  unfold Wire.settle
  split
  · exact fun _ h => List.mem_append_left _ h
  · exact fun _ h => h

/-- Endpoints are only ever opened. -/
theorem opened_le_settle (ticket : ℕ) (transfer : Transfer) (reply : transfer.Reply)
    (wire : Wire) : wire.opened ≤ (wire.settle ticket transfer reply).opened := by
  unfold Wire.settle
  split
  · cases transfer with
    | bulkIn endpoint => exact Nat.le_succ _
    | _ => exact Nat.le_refl _
  · exact Nat.le_refl _

theorem extends_settle (ticket : ℕ) (transfer : Transfer) (reply : transfer.Reply) (wire : Wire) :
    Extends wire (wire.settle ticket transfer reply) :=
  ⟨by rw [Wire.settle_issued], acknowledged_settle ticket transfer reply wire,
    opened_le_settle ticket transfer reply wire⟩

theorem QuietlyExtends.refl (wire : Wire) : QuietlyExtends wire wire :=
  ⟨⟨[], (List.append_nil _).symm, quiet_nil⟩, fun _ h => h, rfl⟩

theorem QuietlyExtends.trans {a b c : Wire} (hab : QuietlyExtends a b)
    (hbc : QuietlyExtends b c) : QuietlyExtends a c := by
  obtain ⟨first, hfirst, hquiet⟩ := hab.issued
  obtain ⟨second, hsecond, hquiet'⟩ := hbc.issued
  refine ⟨⟨first ++ second, ?_, quiet_append hquiet hquiet'⟩,
    fun _ h => hbc.acknowledged (hab.acknowledged h), hbc.opened.trans hab.opened⟩
  rw [hsecond, hfirst, List.append_assoc]

theorem quietlyExtends_issue {transfer : Transfer} (h : switchesReceiver transfer = false)
    (wire : Wire) : QuietlyExtends wire (wire.issue transfer) :=
  ⟨⟨[transfer], rfl, quiet_singleton h⟩, fun _ h => h, rfl⟩

/-- A reply opens an endpoint only if it is one to opening it. -/
theorem opened_settle {transfer : Transfer} (h : ∀ endpoint, transfer ≠ .bulkIn endpoint)
    (ticket : ℕ) (reply : transfer.Reply) (wire : Wire) :
    (wire.settle ticket transfer reply).opened = wire.opened := by
  unfold Wire.settle
  split
  · cases transfer with
    | bulkIn endpoint => exact absurd rfl (h endpoint)
    | controlIn request => rfl
    | controlOut request => rfl
    | clearHalt => rfl
  · rfl

theorem quietlyExtends_settle {transfer : Transfer} (h : ∀ endpoint, transfer ≠ .bulkIn endpoint)
    (ticket : ℕ) (reply : transfer.Reply) (wire : Wire) :
    QuietlyExtends wire (wire.settle ticket transfer reply) :=
  ⟨⟨[], by rw [Wire.settle_issued, List.append_nil], quiet_nil⟩,
    acknowledged_settle ticket transfer reply wire, opened_settle h ticket reply wire⟩

/-! ## The last receiver mode -/

theorem lastMode_issue (mode : ReceiverMode) (wire : Wire) :
    LastMode mode wire.issued.length (wire.issue (.receiverMode mode)) :=
  ⟨wire.issued, [], rfl, quiet_nil, rfl⟩

theorem LastMode.extend {mode : ReceiverMode} {ticket : ℕ} {wire wire' : Wire}
    (h : LastMode mode ticket wire) (hext : QuietlyExtends wire wire') :
    LastMode mode ticket wire' := by
  obtain ⟨before, after, hissued, hquiet, hticket⟩ := h
  obtain ⟨transfers, hissued', hquiet'⟩ := hext.issued
  refine ⟨before, after ++ transfers, ?_, quiet_append hquiet hquiet', hticket⟩
  rw [hissued', hissued, List.append_assoc, List.cons_append]

theorem AcknowledgedMode.extend {mode : ReceiverMode} {wire wire' : Wire}
    (h : AcknowledgedMode mode wire) (hext : QuietlyExtends wire wire') :
    AcknowledgedMode mode wire' := by
  obtain ⟨ticket, hticket, hlast⟩ := h
  exact ⟨ticket, hext.acknowledged hticket, hlast.extend hext⟩

theorem ReceiverOff.extend {wire wire' : Wire} (h : ReceiverOff wire)
    (hext : QuietlyExtends wire wire') : ReceiverOff wire' := by
  rcases h with h | h
  · obtain ⟨transfers, hissued, hquiet⟩ := hext.issued
    left
    rw [hissued]
    exact quiet_append h hquiet
  · exact Or.inr (h.extend hext)

/-- The reply that acknowledges the last `ReceiverMode` command. -/
theorem LastMode.acknowledge {mode mode' : ReceiverMode} {ticket : ℕ} {wire : Wire}
    (h : LastMode mode ticket wire) {reply : (Transfer.receiverMode mode').Reply}
    (hreply : reply = .ok ()) :
    AcknowledgedMode mode (wire.settle ticket (.receiverMode mode') reply) := by
  refine ⟨ticket, ?_, ?_⟩
  · subst hreply
    exact List.mem_append_right _ (List.mem_singleton.mpr rfl)
  · exact h.extend (quietlyExtends_settle (fun _ => Transfer.noConfusion) ticket reply wire)

end HydraSdr.Analysis
