import HydraSdr.Analysis.Configurations
import HydraSdr.Analysis.OperationRules

/-!
# What a device operation does between two waits

The rely/guarantee reading of the operations of `device.rs` and `session.rs`: what streams may do
while a device operation waits, what the operation may do to the session in one segment, and what
it has done to the snapshot and the receive settings when it ends.
-/

set_option autoImplicit false

namespace HydraSdr.Analysis

open HydraSdr.Program HydraSdr.Computation

variable {mode : SampleFormat}

/-- The last two transfers issued switched the receiver and bias power off, and both are known to
be carried out. -/
def ShutDown (wire : Wire) : Prop :=
  ∃ before, wire.issued = before ++ [Transfer.receiverMode .off, Transfer.rfBias false] ∧
    before.length ∈ wire.acknowledged ∧ before.length + 1 ∈ wire.acknowledged

/-- The snapshot and the receive settings are unchanged. -/
structure SameSettings (w w' : DeviceWorld mode) : Prop where
  config : w'.config = w.config
  receive : w'.session.receive = w.session.receive

/-- What streams may do while a device operation waits.  There are none unless the device is
open. -/
structure DeviceRely (w w' : DeviceWorld mode) : Prop where
  settings : SameSettings w w'
  info : w'.session.info = w.session.info
  lifecycle : w'.session.state.device = w.session.state.device
  wire : Extends w.wire w'.wire
  settled : w.session.state.device ≠ .opened →
    w'.session.state = w.session.state ∧ w'.wire = w.wire

/-- What one segment may do to the state that is shared with the streams. -/
structure DeviceStep (w w' : DeviceWorld mode) : Prop where
  wire : Extends w.wire w'.wire
  panic : w'.panic = w.panic
  opened : w'.session.state.device = .opened →
    w'.session.state = w.session.state ∧ QuietlyExtends w.wire w'.wire
  held : w.session.state.claim = .held → w'.session.state.device = w.session.state.device
  claim : w'.session.state.claim = .held ↔ w.session.state.claim = .held
  closed : w.session.state.device = .closed →
    w'.session.state = w.session.state ∧ w'.wire = w.wire
  shutDown : w'.session.state.device = .closed →
    w.session.state.device = .closed ∨ ShutDown w'.wire

/-- What an operation does up to a wait. -/
structure DeviceGuar (w w' : DeviceWorld mode) : Prop where
  step : DeviceStep w w'
  settings : SameSettings w w'

/-- How an operation of the device ends. -/
structure DeviceEnd (start : DeviceWorld mode) (result : Result Unit) (w : DeviceWorld mode) :
    Prop where
  step : DeviceStep start w
  failed : ∀ e, result = .error e → SameSettings start w
  succeeded : result = .ok () → InStep w.config w.session.receive

/-- A device operation under interference. -/
abbrev DeviceSafe {α : Type} (post : DeviceWorld mode → α → DeviceWorld mode → Prop)
    (operation : Operation (DeviceWorld mode) α) (start w : DeviceWorld mode) : Prop :=
  OperationSafe DeviceWorld.port DeviceRely DeviceGuar post operation start w

/-! ## Composition -/

theorem SameSettings.refl (w : DeviceWorld mode) : SameSettings w w := ⟨rfl, rfl⟩

theorem SameSettings.trans {a b c : DeviceWorld mode} (hab : SameSettings a b)
    (hbc : SameSettings b c) : SameSettings a c :=
  ⟨hbc.config.trans hab.config, hbc.receive.trans hab.receive⟩

/-- Unchanged receive settings stay valid. -/
theorem SameSettings.valid {w w' : DeviceWorld mode} (h : SameSettings w w')
    (hvalid : ValidReceive w.session.receive) : ValidReceive w'.session.receive := by
  rw [h.receive]
  exact hvalid

/-- However an operation ends, it leaves valid receive settings. -/
theorem DeviceEnd.valid {start w : DeviceWorld mode} {result : Result Unit}
    (h : DeviceEnd start result w) (hvalid : ValidReceive start.session.receive) :
    ValidReceive w.session.receive := by
  cases result with
  | ok value => exact (h.succeeded rfl).factor
  | error e => exact (h.failed e rfl).valid hvalid

theorem DeviceRely.refl (w : DeviceWorld mode) : DeviceRely w w :=
  ⟨.refl w, rfl, rfl, .refl _, fun _ => ⟨rfl, rfl⟩⟩

theorem DeviceRely.trans {a b c : DeviceWorld mode} (hab : DeviceRely a b)
    (hbc : DeviceRely b c) : DeviceRely a c where
  settings := hab.settings.trans hbc.settings
  info := hbc.info.trans hab.info
  lifecycle := hbc.lifecycle.trans hab.lifecycle
  wire := hab.wire.trans hbc.wire
  settled h := by
    obtain ⟨hstate, hwire⟩ := hab.settled h
    obtain ⟨hstate', hwire'⟩ := hbc.settled (by rw [hab.lifecycle]; exact h)
    exact ⟨hstate'.trans hstate, hwire'.trans hwire⟩

theorem DeviceStep.refl (w : DeviceWorld mode) : DeviceStep w w where
  wire := .refl _
  panic := rfl
  opened _ := ⟨rfl, .refl _⟩
  held _ := rfl
  claim := Iff.rfl
  closed _ := ⟨rfl, rfl⟩
  shutDown h := .inl h

theorem DeviceStep.trans {a b c : DeviceWorld mode} (hab : DeviceStep a b)
    (hbc : DeviceStep b c) : DeviceStep a c where
  wire := hab.wire.trans hbc.wire
  panic := hbc.panic.trans hab.panic
  opened h := by
    obtain ⟨hstate, hwire⟩ := hbc.opened h
    obtain ⟨hstate', hwire'⟩ := hab.opened (by rw [← hstate]; exact h)
    exact ⟨hstate.trans hstate', hwire'.trans hwire⟩
  held h := (hbc.held (hab.claim.mpr h)).trans (hab.held h)
  claim := hbc.claim.trans hab.claim
  closed h := by
    obtain ⟨hstate, hwire⟩ := hab.closed h
    obtain ⟨hstate', hwire'⟩ := hbc.closed (by rw [hstate]; exact h)
    exact ⟨hstate'.trans hstate, hwire'.trans hwire⟩
  shutDown h := by
    rcases hbc.shutDown h with hb | hshut
    · obtain ⟨_, hwire⟩ := hbc.closed hb
      rw [hwire]
      exact hab.shutDown hb
    · exact .inr hshut

theorem DeviceGuar.refl (w : DeviceWorld mode) : DeviceGuar w w := ⟨.refl w, .refl w⟩

theorem DeviceGuar.trans {a b c : DeviceWorld mode} (hab : DeviceGuar a b)
    (hbc : DeviceGuar b c) : DeviceGuar a c :=
  ⟨hab.step.trans hbc.step, hab.settings.trans hbc.settings⟩

theorem deviceEnd_compose (a b : DeviceWorld mode) (result : Result Unit) (c : DeviceWorld mode)
    (hab : DeviceGuar a b) (h : DeviceEnd b result c) : DeviceEnd a result c :=
  ⟨hab.step.trans h.step, fun e he => hab.settings.trans (h.failed e he), h.succeeded⟩

/-- A claim that is held still means an open device after others have acted. -/
theorem DeviceRely.held {w w' : DeviceWorld mode} (hr : DeviceRely w w')
    (h : w.session.state.claim = .held → w.session.state.device = .opened)
    (hheld : w'.session.state.claim = .held) : w'.session.state.device = .opened := by
  rw [hr.lifecycle]
  by_contra hnot
  obtain ⟨hstate, _⟩ := hr.settled hnot
  rw [hstate] at hheld
  exact hnot (h hheld)

/-! ## Commands to an open device -/

/-- The device has been open since the segment began, and nothing has been done to it that
concerns streams. -/
structure StaysOpen (start w : DeviceWorld mode) : Prop where
  device : w.session.state.device = .opened
  state : w.session.state = start.session.state
  wire : QuietlyExtends start.wire w.wire
  panic : w.panic = start.panic

theorem QuietlyExtends.extends {a b : Wire} (h : QuietlyExtends a b) : Extends a b := by
  obtain ⟨transfers, hissued, _⟩ := h.issued
  exact ⟨⟨transfers, hissued.symm⟩, h.acknowledged, h.opened.ge⟩

theorem StaysOpen.step {start w : DeviceWorld mode} (h : StaysOpen start w) :
    DeviceStep start w where
  wire := h.wire.extends
  panic := h.panic
  opened _ := ⟨h.state, h.wire⟩
  held _ := by rw [h.state]
  claim := by rw [h.state]
  closed hclosed := by
    rw [← h.state, h.device] at hclosed
    exact nomatch hclosed
  shutDown hclosed := by
    rw [h.device] at hclosed
    exact nomatch hclosed

theorem DeviceStep.staysOpen {start w : DeviceWorld mode} (h : DeviceStep start w)
    (hopen : w.session.state.device = .opened) : StaysOpen start w :=
  ⟨hopen, (h.opened hopen).1, (h.opened hopen).2, h.panic⟩

/-- What a later state has kept of an earlier one. -/
structure Kept (w w' : DeviceWorld mode) : Prop where
  settings : SameSettings w w'
  info : w'.session.info = w.session.info

theorem Kept.refl (w : DeviceWorld mode) : Kept w w := ⟨.refl w, rfl⟩

theorem Kept.trans {a b c : DeviceWorld mode} (hab : Kept a b) (hbc : Kept b c) : Kept a c :=
  ⟨hab.settings.trans hbc.settings, hbc.info.trans hab.info⟩

/-- A transfer that does not concern streams. -/
theorem safe_quiet {transfer : Transfer}
    {post : DeviceWorld mode → transfer.Reply → DeviceWorld mode → Prop}
    {start w : DeviceWorld mode} (hopen : StaysOpen start w) (hsame : SameSettings start w)
    (hquiet : switchesReceiver transfer = false)
    (hnotBulk : ∀ endpoint, transfer ≠ .bulkIn endpoint)
    (hnext : ∀ start' w' reply, StaysOpen start' w' → SameSettings start' w' → Kept w w' →
      post start' reply w') :
    DeviceSafe post (.leaf transfer) start w := by
  refine safe_leaf.mpr ⟨⟨StaysOpen.step ⟨hopen.device, hopen.state,
    hopen.wire.trans (quietlyExtends_issue hquiet w.wire), hopen.panic⟩,
    hsame.config, hsame.receive⟩, fun w' hr reply => ?_⟩
  refine hnext w' _ reply ⟨hr.lifecycle.trans hopen.device, rfl,
    quietlyExtends_settle hnotBulk _ reply _, rfl⟩ ⟨rfl, rfl⟩ ?_
  exact ⟨⟨hr.settings.config, hr.settings.receive⟩, hr.info⟩

/-- A query that does not concern streams. -/
theorem safe_query {request : InRequest}
    {post : DeviceWorld mode → Result (List UInt8) → DeviceWorld mode → Prop}
    {start w : DeviceWorld mode} (hopen : StaysOpen start w) (hsame : SameSettings start w)
    (hnext : ∀ start' w' result, StaysOpen start' w' → SameSettings start' w' → Kept w w' →
      post start' result w') :
    DeviceSafe post (query request) start w := by
  refine safe_map.mpr (@safe_quiet _ (.controlIn request) _ _ _ hopen hsame rfl
    (fun _ => Transfer.noConfusion) fun start' w' reply => ?_)
  exact hnext start' w' _

/-- A command that does not concern streams. -/
theorem safe_execute {command : Command}
    {post : DeviceWorld mode → Result Unit → DeviceWorld mode → Prop}
    {start w : DeviceWorld mode} (hopen : StaysOpen start w) (hsame : SameSettings start w)
    (hquiet : switchesReceiver (Transfer.ofCommand command) = false)
    (hnext : ∀ start' w' result, StaysOpen start' w' → SameSettings start' w' → Kept w w' →
      post start' result w') :
    DeviceSafe post (execute command) start w := by
  cases command with
  | read request =>
    exact safe_left.mpr (safe_mapOk.mpr (safe_query hopen hsame fun start' w' _ => hnext start' w' _))
  | write request =>
    exact safe_right.mpr (safe_quiet hopen hsame hquiet (fun _ => Transfer.noConfusion) hnext)

/-- A command sequence that does not concern streams. -/
theorem safe_commandSequence {commands : List Command}
    {post : DeviceWorld mode → Result Unit → DeviceWorld mode → Prop}
    {start w : DeviceWorld mode} (hopen : StaysOpen start w) (hsame : SameSettings start w)
    (hquiet : Quiet (commands.map Transfer.ofCommand))
    (hnext : ∀ start' w' result, StaysOpen start' w' → SameSettings start' w' → Kept w w' →
      post start' result w') :
    DeviceSafe post (commandSequence commands) start w := by
  refine safe_sequence (fun commands start' w' => StaysOpen start' w' ∧ SameSettings start' w' ∧
    Kept w w' ∧ Quiet (commands.map Transfer.ofCommand)) ?_ ?_ ⟨hopen, hsame, .refl w, hquiet⟩
  · rintro command commands start' w' ⟨hopen', hsame', hkept, hquiet'⟩
    have hfirst := hquiet' (Transfer.ofCommand command) List.mem_cons_self
    have hrest : Quiet (commands.map Transfer.ofCommand) :=
      fun transfer h => hquiet' transfer (List.mem_cons_of_mem _ h)
    refine safe_execute hopen' hsame' hfirst fun start'' w'' result hopen'' hsame'' hkept' => ?_
    cases result with
    | ok value => exact ⟨hopen'', hsame'', hkept.trans hkept', hrest⟩
    | error e => exact hnext start'' w'' _ hopen'' hsame'' (hkept.trans hkept')
  · rintro start' w' ⟨hopen', hsame', hkept, _⟩
    exact hnext start' w' _ hopen' hsame' hkept

end HydraSdr.Analysis
