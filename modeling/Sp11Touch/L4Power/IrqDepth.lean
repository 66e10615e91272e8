import Sp11Touch.L4Power.Pm
/-!
# The disable depth of the interrupt

`g6ts_suspend` disables the interrupt and enables it again if it fails;
`g6ts_resume` enables it, but not when `g6ts_power_on` fails. The PM core
suspends again after a failed resume, so each of them leaves the interrupt
disabled once more than the calls enable it.

**Results.**
* `depthAt_inductive`: at each point of the calls the depth is the number of
  failed resumes, and one more between disable and enable.
* `depth_zero_iff`: after a resume that returns zero or a suspend that returns
  an error the depth is zero exactly when no resume has failed.
  `resumed_disabled` is a run that ends with a dead touchscreen.
-/
namespace Sp11Touch.Power
open Driver

/-- The interrupt is disabled by the call in progress. -/
def disabledAt : PmPc → Nat
  | .suspendCancel => 1
  | .suspendSection => 1
  | .suspendEnable => 1
  | .suspended => 1
  | .resumeEnable => 1
  | _ => 0

def DepthAt (s : Pm) : Prop := s.threads.ts.irqDepth = s.failedResumes + disabledAt s.pc

/-- A failed resume keeps the depth of the suspend. -/
theorem depthAt_called {c : Config} {w : World} {s t : Pm} (hs : DepthAt s) (h : Called c w s t) :
    DepthAt t := by
  obtain ⟨threads, pc, failed⟩ := s
  obtain ⟨pc', u, hstep, rfl⟩ := h
  have hoff := suspendPower_frame c w threads.ts
  have hon := resumePower_frame c w threads.ts
  unfold DepthAt at *
  cases hstep with
  | suspendIrq _ => exact congrArg (· + 1) hs
  | suspendOff hr => rw [hr] at hoff; exact hoff.irqDepth.trans hs
  | suspendFails hr => rw [hr] at hoff; exact hoff.irqDepth.trans hs
  | suspendEnable => exact congrArg (· - 1) hs
  | resumeOn hr => rw [hr] at hon; exact hon.irqDepth.trans hs
  | resumeFails hr => rw [hr] at hon; exact hon.irqDepth.trans hs
  | resumeEnable => exact congrArg (· - 1) hs
  | removePower => exact (powerOff_frame c w threads.ts).irqDepth.trans hs
  | _ => exact hs

theorem depthAt_inductive (c : Config) : (pm c).Inductive DepthAt where
  init s hs := by rw [DepthAt, hs.irqDepth, hs.failedResumes, hs.pc]; rfl
  step s l t hs h := by
    rcases pmStep_cases h with ⟨l, u, rfl, hu, rfl⟩ | ⟨w, hcall⟩
    · exact (threadStep_frame hu).irqDepth.trans hs
    · exact depthAt_called hs hcall

/-- `g6ts_resume` has returned zero, or `g6ts_suspend` an error. -/
def BackRunning (pc : PmPc) : Prop := pc = .running .resumed ∨ pc = .running .suspendFailed

/-- Along every run of suspends and resumes, whatever the power methods
answer and the threads do. -/
theorem depth_zero_iff (c : Config) (s : Pm) (h : (pm c).Reachable s) (hpc : BackRunning s.pc) :
    s.threads.ts.irqDepth = 0 ↔ s.failedResumes = 0 := by
  have hd := (depthAt_inductive c).reachable s h
  unfold DepthAt at hd
  rcases hpc with hpc | hpc
  · rw [hd, hpc]; rfl
  · rw [hd, hpc]; rfl

/-- Power is switched by ACPI methods. -/
def acpiConfig : Config := ⟨{}, Params.default_accepted, false, 4⟩

/-- The steps of a suspend or resume under one behaviour of the power methods. -/
def suspendCall (w : World) : List PmLabel := List.replicate 4 (.suspend w)

def resumeCall (w : World) : List PmLabel := List.replicate 3 (.resume w)

theorem depth_zero_iff_resumed :
    ∃ s, (pm acpiConfig).Run probedPm (suspendCall silentWorld ++ resumeCall silentWorld) s ∧
      s.pc = .running .resumed ∧ (s.threads.ts.irqDepth = 0 ↔ s.failedResumes = 0) := by
  have hrun : (LTS.exec (pmStep acpiConfig) (fun _ _ => True) probedPm
      (suspendCall silentWorld ++ resumeCall silentWorld)).any
      (fun s => decide (s.pc = .running .resumed)) = true := by
    decide +kernel
  obtain ⟨s, hs, hp⟩ := (Option.any_eq_true _ _).mp hrun
  have hpc : s.pc = .running .resumed := of_decide_eq_true hp
  have hr : (pm acpiConfig).Run probedPm _ s := LTS.run_of_exec hs
  exact ⟨s, hr, hpc, depth_zero_iff acpiConfig s ⟨probedPm, _, probedPm_running, hr⟩ (Or.inl hpc)⟩

/-- The power methods fail. -/
def failingPower : World := { silentWorld with acpi := fun _ => some Errno.EIO }

/-- **Counterexample**: after one failed resume the next suspend and resume
succeed, and the interrupt stays disabled. -/
theorem resumed_disabled :
    ∃ s, (pm acpiConfig).Run probedPm (suspendCall silentWorld ++ [.resume failingPower] ++
        suspendCall silentWorld ++ resumeCall silentWorld) s ∧
      s.pc = .running .resumed ∧ s.threads.ts.irqDepth = 1 := by
  have hrun : (LTS.exec (pmStep acpiConfig) (fun _ _ => True) probedPm (suspendCall silentWorld ++
      [.resume failingPower] ++ suspendCall silentWorld ++ resumeCall silentWorld)).any
      (fun s => decide (s.pc = .running .resumed ∧ s.threads.ts.irqDepth = 1)) = true := by
    decide +kernel
  obtain ⟨s, hs, hp⟩ := (Option.any_eq_true _ _).mp hrun
  obtain ⟨hpc, hd⟩ := of_decide_eq_true hp
  exact ⟨s, LTS.run_of_exec hs, hpc, hd⟩

end Sp11Touch.Power
