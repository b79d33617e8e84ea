import HydraSdr.Analysis.StreamRuns

/-!
# The hardware is off on every exit

Whatever a session goes through, it ends with the commands that switch the receiver and bias power
off, and nothing is sent to a device that has been shut down.
-/

set_option autoImplicit false

namespace HydraSdr.Analysis.SafeOff

open HydraSdr.Program HydraSdr.Computation HydraSdr.Analysis

variable {F : Type} [SampleArithmetic F] {mode : SampleFormat}

/-- A shutdown that has reported success has closed the device. -/
def ClosedByShutdown (s : System F mode) : Prop :=
  .device .shutdown (.ok ()) ∈ s.history → s.session.state.device = .closed

theorem closedByShutdown_effect {s s' : System F mode} (hinv : SystemInv s)
    (heffect : Effect s s') (h : ClosedByShutdown s) : ClosedByShutdown s' := by
  intro hmem
  -- the report is an old one, or it is made by this very step
  have hold : .device .shutdown (.ok ()) ∈ s.history → s'.session.state.device = .closed := by
    intro hold
    rw [(heffect.closed hinv (h hold)).1]
    exact h hold
  cases heffect with
  | device _ _ events hhistory hevents =>
    rw [hhistory] at hmem
    rcases List.mem_append.mp hmem with hmem | hmem
    · exact hold hmem
    · exact hevents _ hmem rfl rfl
  | acquire _ _ _ _ _ hhistory =>
    rw [hhistory] at hmem
    rcases List.mem_append.mp hmem with hmem | hmem
    · exact hold hmem
    · exact nomatch List.mem_singleton.mp hmem
  | stream hphase hsteps =>
    rcases List.mem_append.mp hmem with hmem | hmem
    · exact hold hmem
    · obtain ⟨receiver, _, houtcome⟩ := hsteps
      cases houtcome with
      | kept _ _ _ _ _ hevents => exact nomatch hevents _ hmem
      | dropped _ _ _ _ _ _ hevents => exact nomatch (hevents _ hmem).choose_spec
      | released _ _ _ _ _ _ _ _ hevents =>
        rcases hevents _ hmem with h | ⟨_, h⟩
        · exact nomatch h
        · exact nomatch h

/-- The hardware has been shut down and nothing is issued any more. -/
theorem closed_later {config : ValidConfig mode} {s s' : System F mode}
    (hs : System.Reachable config s) (hclosed : s.session.state.device = .closed)
    (h : Later s s') : s'.wire = s.wire := by
  have hboth : s'.session.state.device = .closed ∧ s'.wire = s.wire := by
    refine @later_induct _ _ _ config
      (fun s' => s'.session.state.device = .closed ∧ s'.wire = s.wire) _ _ hs ?_ h ⟨hclosed, rfl⟩
    rintro a b hinv _ heffect ⟨hclosed, hwire⟩
    obtain ⟨hstate, hsame⟩ := heffect.closed hinv hclosed
    exact ⟨by rw [hstate]; exact hclosed, hsame.trans hwire⟩
  exact hboth.2

/-- **Safe-off on every exit.**  Once nothing owns the session, the last two commands ever issued
switch the receiver and bias power off.  Once a shutdown has returned `Ok`, the last two commands
issued are those two, both acknowledged, and no later step issues another. -/
theorem hardware_off_on_exit {config : ValidConfig mode} {s : System F mode}
    (h : System.Reachable config s) :
    (s.owned = false → ∃ before,
      s.wire.issued = before ++ [Transfer.receiverMode .off, Transfer.rfBias false]) ∧
    (.device .shutdown (.ok ()) ∈ s.history →
      (∃ before, s.wire.issued = before ++ [Transfer.receiverMode .off, Transfer.rfBias false] ∧
        before.length ∈ s.wire.acknowledged ∧ before.length + 1 ∈ s.wire.acknowledged) ∧
      ∀ s', Later s s' → s'.wire = s.wire) := by
  refine ⟨(reachable_inv h).endsOff, fun hreported => ?_⟩
  have hclosed : s.session.state.device = .closed := by
    refine @reachable_induct _ _ _ config ClosedByShutdown (fun hmem => ?_) ?_ _ h hreported
    · exact absurd hmem List.not_mem_nil
    · exact fun _ _ hinv _ heffect => closedByShutdown_effect hinv heffect
  exact ⟨(reachable_inv h).system.closed hclosed, fun s' => closed_later h hclosed⟩

/-- Whether an event reports a successful shutdown. -/
def reportsShutdown : CallEvent F mode → Bool
  | .device .shutdown (.ok _) => true
  | _ => false

omit [SampleArithmetic F] in
theorem reported_of_any {history : List (CallEvent F mode)}
    (h : history.any reportsShutdown = true) : .device .shutdown (.ok ()) ∈ history := by
  obtain ⟨event, hmem, hevent⟩ := List.any_eq_true.mp h
  unfold reportsShutdown at hevent
  split at hevent
  · exact hmem
  · exact nomatch hevent

/-- A session that is opened, shut down and dropped. -/
def openAndShutDown : System Rat .rawAdc :=
  System.after (ValidConfig.standard .rawAdc) (fun _ => obliging)
    [.pollDevice (List.replicate 16 obliging), .callDevice .shutdown,
      .pollDevice (List.replicate 2 obliging), .dropDevice]

theorem openAndShutDown_off :
    (∃ before, openAndShutDown.wire.issued =
      before ++ [Transfer.receiverMode .off, Transfer.rfBias false]) ∧
    ∀ s', Later openAndShutDown s' → s'.wire = openAndShutDown.wire := by
  have hreachable : System.Reachable (ValidConfig.standard .rawAdc) openAndShutDown :=
    System.reachable_after _ _ _
  have howned : openAndShutDown.owned = false := by decide +kernel
  have hreported : .device .shutdown (.ok ()) ∈ openAndShutDown.history :=
    reported_of_any (by decide +kernel)
  exact ⟨(hardware_off_on_exit hreachable).1 howned,
    ((hardware_off_on_exit hreachable).2 hreported).2⟩

end HydraSdr.Analysis.SafeOff
