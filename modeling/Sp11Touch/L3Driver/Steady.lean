import Sp11Touch.L3Driver.Initialize
/-!
# Questions to the world between two outputs

Power methods, polling and the edge counter advance the clock and write
fields of `Io`; they put nothing on the wire and touch neither the provider
flags nor the announced descriptor. `Idles s.io io` is what they may do, and a
condition that does not see it (`Steady I`) is kept by all of them.
-/
namespace Sp11Touch.Driver
open Proc

/-- Time goes on; wire, provider flags and announced descriptor stay. -/
structure Idles (a b : Io) : Prop where
  clk : a.clk ≤ b.clk
  wire : b.wire = a.wire
  parityRequired : b.parityRequired = a.parityRequired
  announced : b.expectedReportDescriptorLen = a.expectedReportDescriptorLen

theorem Idles.tick (io : Io) : Idles io { io with clk := io.clk + 1 } :=
  ⟨Nat.le_succ _, rfl, rfl, rfl⟩

/-- A condition that no idle step breaks. -/
structure Steady (I : Ts → Prop) : Prop where
  io : ∀ s io, Idles s.io io → I s → I { s with io := io }

namespace Steady
variable {c : Config} {w : World} {I : Ts → Prop}

theorem ask {α : Type} (h : Steady I) (f : Nat → α) : Keeps I (Driver.ask f) :=
  Keeps.of_state fun s hs => h.io s _ (Idles.tick s.io) hs

theorem modifyIo (h : Steady I) {f : Io → Io} (hf : ∀ io, Idles io (f io)) :
    Keeps I (Driver.modifyIo f) :=
  Keeps.modify fun s hs => h.io s _ (hf s.io) hs

theorem getsIo {α : Type} (f : Io → α) : Keeps I (Driver.getsIo f) := Keeps.gets _

theorem setStage (h : Steady I) (stage : InitializationStage) : Keeps I (Driver.setStage stage) :=
  h.modifyIo fun _ => ⟨Nat.le_refl _, rfl, rfl, rfl⟩

theorem check (ret : Option Errno) : Keeps I (Driver.check ret) := by
  cases ret with
  | none => exact Keeps.pure ()
  | some e => exact Keeps.throw e

theorem newEdges (h : Steady I) : Keeps I (newEdges w) :=
  Keeps.bind (h.ask _) fun _ => Keeps.bind (getsIo _) fun _ => Keeps.pure _

theorem pollPending (h : Steady I) : ∀ n, Keeps I (pollPending w n)
  | 0 => Keeps.throw _
  | n + 1 => by
    refine Keeps.bind (h.ask _) fun value => ?_
    cases value with
    | error e => exact Keeps.throw e
    | ok b => cases b with
      | true => exact Keeps.pure _
      | false => exact Keeps.bind h.newEdges fun _ => Keeps.ite (Keeps.pure _) (h.pollPending n)

theorem waitPending (h : Steady I) : Keeps I (waitPending w) :=
  Keeps.bind (h.ask _) fun _ => h.pollPending _

theorem nothingPending (pending : Except Errno Bool) (newEdge : Bool) :
    Keeps I (nothingPending pending newEdge) := by
  cases pending with
  | error e => exact Keeps.errorIf _ _
  | ok b => cases b with
    | true => exact Keeps.pure _
    | false => exact Keeps.errorIf _ _

theorem takeEdges (h : Steady I) : Keeps I (takeEdges w) :=
  Keeps.bind (h.ask _) fun _ => Keeps.bind (h.ask _) fun _ => Keeps.bind (getsIo _) fun _ =>
    Keeps.bind (nothingPending _ _) fun _ => h.modifyIo fun _ => ⟨Nat.le_refl _, rfl, rfl, rfl⟩

/-- An invalid header is never served. -/
theorem invalidHeader_fails (h : Steady I) : Triple I (Driver.invalidHeader c w) (fun _ _ => False)
    (fun _ => I) := by
  refine Triple.bind (Keeps.onlyIf (Keeps.bind (h.ask _) fun value => ?_)) fun _ =>
    Triple.bind (h.ask _) fun _ => Triple.throw _ fun _ hs => hs
  cases value with
  | error e => exact Keeps.throw e
  | ok b => cases b with
    | true => exact Keeps.pure _
    | false =>
      exact Keeps.bind (h.modifyIo fun _ => ⟨Nat.le_refl _, rfl, rfl, rfl⟩) fun _ => Keeps.throw _

theorem invalidHeader (h : Steady I) : Keeps I (invalidHeader c w) :=
  Triple.conseq h.invalidHeader_fails (fun _ hs => hs) (fun _ _ hs => hs.elim) fun _ _ hs => hs

theorem acpiPowerOn (h : Steady I) {p : TsProc Unit} (hp : Keeps I p) :
    Keeps I (acpiPowerOn w p) := by
  refine Keeps.bind (h.ask _) fun _ => Keeps.bind (check _) fun _ => Keeps.bind hp fun _ =>
    Keeps.bind (h.ask _) fun ret => ?_
  cases ret with
  | none => exact Keeps.pure _
  | some e => exact Keeps.bind (h.ask _) fun _ => Keeps.throw e

theorem powerOn (h : Steady I) : Keeps I (powerOn c w) :=
  Keeps.ite (Keeps.pure _) (h.acpiPowerOn (Keeps.pure _))

theorem windowsPowerOn (h : Steady I) : Keeps I (windowsPowerOn c w) :=
  Keeps.bind (h.setStage _) fun _ => Keeps.ite (h.setStage _) (h.acpiPowerOn (h.setStage _))

theorem panelPowerOn (h : Steady I) : Keeps I (panelPowerOn c w) :=
  Keeps.ite h.windowsPowerOn h.powerOn

theorem powerOff (h : Steady I) : Keeps I (powerOff c w) :=
  Keeps.ite (Keeps.pure _) (Keeps.bind (h.ask _) fun _ => check _)

end Steady
end Sp11Touch.Driver
