import Sp11Touch.L2Pipeline.HeatContacts
/-!
# Driver state, module parameters and the outside world (`mshw0485_touch.c`)

`Ts` is `struct g6ts`. `Io` holds the fields of transport and
initialization that only the code at hand reads; the fields that decide
about input and recovery stand beside it. Two ghost fields: `log`, the input
events and the points of the gate with a snapshot each, and
`transportErrors`, the number of times `fatal_transport_error` was set.

`World` answers what the driver asks: GPIO level, edge counter, transfers,
jiffies, ACPI methods. Every question advances the clock `io.clk`, so a
`World` is any behaviour of panel, bus and time.
-/
namespace Sp11Touch

/-- The read-only module parameters. -/
structure Params where
  windowsOrchestrator : Bool := false
  behaviorV2 : Bool := false
  modeConfigFix : Bool := true
  feature70OneByte : Bool := false
  resetRecoveryV2 : Bool := false
  resetStormBreaker : Bool := false
  hostFaultRecovery : Bool := false
  readyQuiesce : Bool := false
  windowsInitParity : Bool := false
  parityLinuxPower : Bool := false
  windowsReadCadence : Bool := false
  parityDisplayBitmap : Int := -1
  parityStitchingFlag : Int := -1
  parityHingeAngle : Int := -1
  parityFastHostId : Int := -1
  parityReport56Identity : Nat → UInt8 := fun _ => 0
  parityReport56IdentityCount : Nat := 0
  parityReport56Flag : Int := -1
  parityCfuInventory : Bool := false
  parityCfuOffer : Nat → UInt8 := fun _ => 0
  parityCfuOfferCount : Nat := 0
  parityHeatInput : Bool := false

def Params.profile (p : Params) : Profile := ⟨p.windowsOrchestrator, p.behaviorV2⟩

/-- mirrors phase55/modules/mshw0485_touch.c:3231-3250 (the checks of `g6ts_probe`) -/
def Params.accepted (p : Params) : Bool :=
  !(p.behaviorV2 && p.windowsOrchestrator) &&
  !(p.resetStormBreaker && !p.resetRecoveryV2) &&
  !(p.readyQuiesce && !p.hostFaultRecovery) &&
  !(p.parityHeatInput && (!p.windowsInitParity || !p.parityCfuInventory)) &&
  !(p.windowsReadCadence && !p.windowsInitParity)

/-- A configuration that `g6ts_probe` accepts, on one machine: whether the
power and reset GPIOs exist (they are paired), and the length of a jiffy. -/
structure Config where
  p : Params
  accepted : p.accepted = true
  gpioPair : Bool
  msPerJiffy : Nat

theorem Params.default_accepted : ({} : Params).accepted = true := rfl

/-- `awaiting_ready_heat` as initialization sets it when it opens input. -/
def Config.awaits (c : Config) : Bool := c.p.windowsInitParity || c.p.resetRecoveryV2

theorem Config.parity_of_heatInput (c : Config) (h : c.p.parityHeatInput = true) :
    c.p.windowsInitParity = true := by
  have ha := c.accepted
  simp only [Params.accepted, h] at ha
  revert ha
  cases c.p.windowsInitParity <;> simp

/-- mirrors phase55/modules/mshw0485_touch.c:113-144 (`enum g6ts_initialization_stage`) -/
inductive InitializationStage where
  | IDLE | WINDOWS_POWER_PS0 | WINDOWS_RESET_METHOD | RESET_RESPONSE | DEVICE_DESCRIPTOR
  | REPORT_DESCRIPTOR | WINDOWS_EARLY_FEATURE73 | WINDOWS_HEAT_CAPS06 | WINDOWS_FEEDBACK_REQUIRED
  | WINDOWS_FEEDBACK_A1 | WINDOWS_FEEDBACK_A5 | WINDOWS_SET_FEATURE05 | WINDOWS_CONFIG_OWNER_REQUIRED
  | WINDOWS_GET_FEATURE70 | WINDOWS_SET_FEATURE70 | WINDOWS_SET_FEATURE56 | WINDOWS_CFU_OWNER_REQUIRED
  | WINDOWS_CFU_GET_VERSION | WINDOWS_CFU_START_TRANSACTION | WINDOWS_CFU_START_LIST
  | WINDOWS_CFU_OFFER | WINDOWS_CFU_BRANCH_REQUIRED | WINDOWS_CFU_END_LIST | WINDOWS_FINAL_FEATURE73
  | WINDOWS_HEAT_OWNER_REQUIRED | SET_FEATURE05 | GET_FEATURE70 | SET_FEATURE70 | SET_FEATURE56
  | WAIT_HEAT
  deriving DecidableEq, Repr

/-- `enum g6ts_recovery_path` -/
inductive RecoveryPath where
  | HARDWARE | SOFTWARE
  deriving DecidableEq, Repr

/-- The five `parity_*_required` flags. -/
structure ParityRequired where
  feedback : Bool := false
  configOwner : Bool := false
  cfuOwner : Bool := false
  cfuBranch : Bool := false
  heatOwner : Bool := false
  deriving DecidableEq, Repr

/-- The buffers `behavior_stats` shows. -/
structure ParityBuffers where
  feature73Early : Bytes := []
  feature73Late : Bytes := []
  feature06Prefix : Bytes := []
  cfuVersionPrefix : Bytes := []
  cfuOfferResponse : Bytes := []
  deriving DecidableEq, Repr

/-- Transport and initialization. -/
structure Io where
  clk : Nat
  body : Nat → UInt8
  lastHeader : Nat → UInt8
  lastClass : Nat
  lastContentLen : Nat
  lastContentId : Nat
  expectedReportDescriptorLen : Nat
  modeConfig : Bytes
  modeConfigValid : Bool
  handledInterruptEdges : Nat
  initializationStage : InitializationStage
  parityRequired : ParityRequired
  parityBuffers : ParityBuffers
  quiescedEmptyReads : Nat
  hardwareRecoveryAttempts : Nat
  softwareRecoveryAttempts : Nat
  /-- The packets given to the bus, newest first. -/
  wire : List Bytes

/-- The other counters of `behavior_stats`. Each is a `u64` and counts events
that take a transfer or a recovery, so `2 ^ 64` of them are out of reach. -/
structure Stats where
  resetNotifications : Nat := 0
  recoverySuccesses : Nat := 0
  recoveryFailures : Nat := 0
  softwareRecoveryFallbacks : Nat := 0
  resetStormEscalations : Nat := 0
  hostFaultRecoveries : Nat := 0
  irqTransportErrors : Nat := 0
  irqProtocolErrors : Nat := 0
  irqDrainOverflows : Nat := 0
  cadenceSingleResponseIrqs : Nat := 0
  readyHeatFrames : Nat := 0
  readyVerificationFailures : Nat := 0
  deriving DecidableEq, Repr

/-- Input events and points of the input gate. -/
inductive Event where
  /-- report `0x40`: `BTN_TOUCH` and the position, if active -/
  | touch (active : Bool) (x y : Nat)
  /-- the contacts of an accepted Heat frame -/
  | contacts (reported : List (Slot × Nat × Nat))
  /-- the empty frame of `release_contacts` -/
  | release
  /-- a Heat frame passed the parser, with the tracks before it -/
  | accepted
  /-- a Heat frame was malformed and has been handled -/
  | malformed
  /-- initialization set `mode_enabled` -/
  | opened
  | panelReset
  | hostFault
  /-- a recovery attempt begins -/
  | attempt
  | attemptFailed

/-- An event with the gate and the tracks as they are when it happens. -/
structure Entry where
  event : Event
  modeEnabled : Bool
  awaitingReadyHeat : Bool
  tracks : Slot → Track

/-- mirrors phase55/modules/mshw0485_touch.c:456-538 (`struct g6ts`) -/
structure Ts where
  io : Io
  heat : Heat
  stats : Stats
  modeEnabled : Bool
  awaitingReadyHeat : Bool
  fatalTransportError : Bool
  recoveryPath : RecoveryPath
  recoveryFailStreak : UInt8
  rapidResetStreak : UInt8
  lastResetJiffies : Nat
  lastHostFault : Option Errno
  stopping : Bool
  /-- `recovery_work` is queued -/
  workPending : Bool
  /-- disable depth of the interrupt -/
  irqDepth : Nat
  transportErrors : Nat
  log : List Entry

structure World where
  gpio : Nat → Except Errno Bool
  edges : Nat → Nat
  /-- turns of the polling loop before its deadline, less one -/
  polls : Nat → Nat
  /-- a read transfer: the bytes it leaves in the buffer, and its status -/
  read : Nat → (Nat → UInt8) × Option Errno
  write : Nat → Option Errno
  jiffies : Nat → Nat
  acpi : Nat → Option Errno

/-- `ts->fatal_transport_error = true` -/
def Ts.latch (s : Ts) : Ts :=
  { s with fatalTransportError := true, transportErrors := s.transportErrors + 1 }

/-- Appends an event with its snapshot. -/
def Ts.note (event : Event) (s : Ts) : Ts :=
  { s with log := ⟨event, s.modeEnabled, s.awaitingReadyHeat, s.heat.tracks⟩ :: s.log }

/-- mirrors phase55/modules/mshw0485_touch.c:2180-2185 (`g6ts_release_contacts`) -/
def Ts.releaseContacts (s : Ts) : Ts :=
  Ts.note .release { s with heat := Sp11Touch.releaseContacts s.heat }

abbrev TsProc (α : Type) : Type := Proc Ts Errno α

namespace Driver
open Proc

/-- One question to the world. -/
def ask {α : Type} (f : Nat → α) : TsProc α := fun s =>
  ({ s with io.clk := s.io.clk + 1 }, .ok (f s.io.clk))

def modifyIo (f : Io → Io) : TsProc Unit := modify fun s => { s with io := f s.io }

def getsIo {α : Type} (f : Io → α) : TsProc α := gets fun s => f s.io

def setStage (stage : InitializationStage) : TsProc Unit :=
  modifyIo fun io => { io with initializationStage := stage }

/-- `if (ret) return ret;` -/
def check (ret : Option Errno) : TsProc Unit :=
  match ret with
  | some e => throw e
  | none => Pure.pure ()

/-- `if (ret) { ts->fatal_transport_error = true; return ret; }` -/
def checkTransport (ret : Option Errno) : TsProc Unit :=
  match ret with
  | some e => do
    modify Ts.latch
    throw e
  | none => Pure.pure ()

end Driver
end Sp11Touch
