import HydraSdr.Analysis.BoundedWaits

/-!
# Every transfer that is issued

The hardware is only ever sent what it is made for: each request with the parameters of its own
kind, each parameter in its range, the one endpoint of the receiver.
-/

set_option autoImplicit false

namespace HydraSdr.Analysis.IssuedTransfers

open HydraSdr.Program HydraSdr.Computation HydraSdr.Analysis HydraSdr.Analysis.BoundedWaits

variable {F : Type} [SampleArithmetic F] {mode : SampleFormat}

/-- A move of a stream issues at most one transfer of a stream. -/
theorem move_adds {w w' : StreamWorld F mode} (move : Move w w') :
    Adds streamIssued Permitted w w' := by
  cases move with
  | @issue _ _ transfer htransfer _ =>
    refine ⟨[transfer], rfl, fun other hother => ?_⟩
    rw [List.mem_singleton.mp hother]
    exact htransfer.permitted
  | settle _ ticket transfer reply _ => exact .of_eq (Wire.settle_issued ticket transfer reply w.wire)
  | openQueue _ wire _ _ _ _ _ _ hissued _ => exact .of_eq hissued
  | _ => exact .of_eq rfl

theorem moves_adds {w w' : StreamWorld F mode} (h : Moves w w') :
    Adds streamIssued Permitted w w' := by
  induction h with
  | none => exact .of_eq rfl
  | step _ move ih => exact ih.trans (move_adds move)

/-- A step of a stream. -/
theorem steps_adds {s : System F mode} {stream : ℕ} {phase : StreamPhase F mode}
    {step : StreamStep F mode} (h : Steps stream s.session s.wire s.panic phase step) :
    Adds issued Permitted s (s.putStream stream step) := by
  obtain ⟨receiver, _, houtcome⟩ := h
  have hwire : ∃ w', Moves (s.streamWorld receiver) w' ∧ step.wire = w'.wire := by
    cases houtcome with
    | kept hmoves _ hwire _ _ _ => exact ⟨_, hmoves, hwire⟩
    | dropped hmoves _ hwire _ _ _ _ => exact ⟨_, hmoves, hwire⟩
    | released hmoves _ _ hwire _ _ _ _ _ => exact ⟨_, hmoves, hwire⟩
  obtain ⟨w', hmoves, hwire⟩ := hwire
  obtain ⟨added, hadded, hpermitted⟩ := moves_adds hmoves
  refine ⟨added, ?_, hpermitted⟩
  show step.wire.issued = s.wire.issued ++ added
  rw [hwire]
  exact hadded

/-- **What an action issues.** -/
theorem act_adds {s : System F mode} (hinv : SystemInv s) (hkeeps : KeepsTo s)
    (action : Action mode) : Adds issued Permitted s (s.act action) := by
  cases action_cases s action with
  | @stream _ stream use hact huse =>
    rw [hact]
    unfold System.onStream
    split
    · exact .of_eq rfl
    · rename_i phase hphase
      split
      · exact .of_eq rfl
      · rename_i step hstep
        exact steps_adds (huse phase step (hinv.streams phase (List.mem_of_getElem? hphase)) hstep)
  | callDevice operation =>
    exact .of_eq (congrArg Wire.issued (callDevice_keeps hkeeps.device operation).2)
  | pollDevice replies => exact (pollDevice_keeps hkeeps.device replies).2.2
  | cancelDevice =>
    show Adds issued Permitted s s.cancelDevice
    unfold System.cancelDevice
    split <;> exact .of_eq rfl
  | dropDevice =>
    show Adds issued Permitted s s.dropDevice
    unfold System.dropDevice
    split <;> exact .of_eq rfl
  | rxStream =>
    show Adds issued Permitted s s.rxStream
    unfold System.rxStream
    split
    · split <;> exact .of_eq rfl
    · exact .of_eq rfl

omit [SampleArithmetic F] in
/-- What the end of a session issues. -/
theorem dropSession_adds (s : System F mode) (reply : ℕ → AnyReply) :
    Adds issued Permitted s (s.dropSession reply) := by
  unfold System.dropSession
  split
  · exact .of_eq rfl
  · have hlogs : Wire.port.Logs Wire.issued :=
      ⟨fun _ _ => rfl, fun ticket transfer reply wire => Wire.settle_issued ticket transfer reply wire⟩
    exact Resumption.Submits.run hlogs reply shutdownHardware_submits s.wire

/-- **Only valid requests are issued.**  In every run, whatever is configured, set, started,
cancelled, dropped or shut down in whatever order, each transfer issued to the device is one of the
RFOne's requests with all parameters in range: a frequency, rate index, port, gain, AGC or switch
value that the hardware is made for, the metadata queries, or the endpoint of the receiver. -/
theorem issued_permitted {config : ValidConfig mode} {s : System F mode}
    (h : System.Reachable config s) : ∀ transfer ∈ s.wire.issued, Permitted transfer := by
  induction h with
  | initial => exact fun _ h => absurd h List.not_mem_nil
  | @step s action reply hs ih =>
    have hact := act_adds (reachable_inv hs).system (reachable_keeps hs) action
    unfold System.step
    split
    · exact ih
    · dsimp only
      split
      · exact hact.all ih
      · exact (hact.trans (dropSession_adds _ reply)).all ih

/-- A session that has been configured anew and has started a stream. -/
def busySession : System Rat .f32Iq :=
  System.after (ValidConfig.standard .f32Iq) (fun _ => obliging)
    [.pollDevice (List.replicate 16 obliging), .callDevice (.setGain (.preset (.linearity 250))),
      .pollDevice [], .callDevice (.setGain (.preset (.linearity 12))),
      .pollDevice (List.replicate 16 obliging), .rxStream, .callStream 0 .start,
      .pollStream 0 (List.replicate 16 obliging) []]

theorem busySession_permitted : busySession.wire.issued.length = 22 ∧
    ∀ transfer ∈ busySession.wire.issued, Permitted transfer := by
  have hreachable : System.Reachable (ValidConfig.standard .f32Iq) busySession :=
    System.reachable_after _ _ _
  exact ⟨by decide +kernel, issued_permitted hreachable⟩

end HydraSdr.Analysis.IssuedTransfers
