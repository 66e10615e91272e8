import Sp11Touch.Core.Bytes
/-!
# The polled driver (`src/g6ts_biosref.c`): reads, readiness, one work item

The BIOS-reference driver reads one response at a time into `body` and keeps
counters of what it met. `log` is a ghost: the responses read and the input
reported, newest first. The transfer itself is a question to the world (it is
`biosrefXfer`, modelled on its own).

**Results.**
* `readRaw_responded`: a normal return has one more response in the log, whose
  bytes are the ones in `body`.
* `Accounts`: every class counter counts the responses of its class, `touches`
  the reported positions, and each input is what the response right before it says.
* `readiness_accounts`, `probeDescriptor_accounts`, `workSection_accounts`: all
  entry points keep it, whatever the panel and the bus do.
-/
namespace Sp11Touch

namespace Polled
open Proc Bytes

def maxBody : Nat := 4096
def diagBody : Nat := 64
def headerSync : UInt8 := 0x5a
def contentTouch : UInt8 := 0x40
def normalCopyLenMinusOne : Nat := 5
def classTouch : Nat := 1
def classReset : Nat := 3
def classDeviceDescriptor : Nat := 7
def classDescriptor : Nat := 8
def descriptorPrefixLen : Nat := 4

def ENODATA : Errno := .other 61

/-- A response that was read, or one report to the input device; `none` is the finger up. -/
inductive Seen where
  | response (body : Bytes)
  | input (position : Option (Nat × Nat))

/-- mirrors src/g6ts_biosref.c:67-101 (`struct g6ts`), without the handles.
The `u64` counters are exact: a transfer adds one to each at most, so a run would
need `2 ^ 64` transfers to wrap one. -/
structure Panel where
  clk : Nat := 0
  body : Nat → UInt8
  lastHeader : Nat → UInt8 := fun _ => 0
  lastBody : Bytes := []
  lastBodyTotalLen : Nat := 0
  reads : Nat := 0
  touches : Nat := 0
  transportErrors : Nat := 0
  protocolErrors : Nat := 0
  ready : Bool := false
  readyAttempts : Nat := 0
  readyGpioTimeouts : Nat := 0
  gpioErrors : Nat := 0
  class1Events : Nat := 0
  class3Events : Nat := 0
  class7Events : Nat := 0
  otherClassEvents : Nat := 0
  lastReadyBody : Bytes := []
  lastReadyTotalLen : Nat := 0
  descriptorValid : Bool := false
  descriptorLen : Nat := 0
  descriptorPrefix : Bytes := []
  log : List Seen := []

/-- What the driver meets: a transfer leaves bytes behind and has a status. -/
structure World where
  xfer : Nat → (Nat → UInt8) × Option Errno
  gpio : Nat → Except Errno Bool
  polls : Nat → Nat
  acpi : Nat → Option Errno

abbrev PanelProc (α : Type) : Type := Proc Panel Errno α

def ask {α : Type} (f : Nat → α) : PanelProc α :=
  fun s => ({ s with clk := s.clk + 1 }, .ok (f s.clk))

def check (ret : Option Errno) : PanelProc Unit :=
  match ret with
  | some e => throw e
  | none => Pure.pure ()

section
variable (gpioPair : Bool) (w : World)

/-! ## Power -/

/-- mirrors src/g6ts_biosref.c:103-112 (`g6ts_acpi_method`) -/
def acpiMethod : PanelProc Unit := do
  let ret ← ask w.acpi
  check ret

/-- mirrors src/g6ts_biosref.c:114-139 (`g6ts_power_on`) -/
def powerOn : PanelProc Unit :=
  if gpioPair then Pure.pure () else do
    acpiMethod w
    acpiMethod w

/-- mirrors src/g6ts_biosref.c:141-152 (`g6ts_power_off`); the status of `_PS3` is not looked at -/
def powerOff : PanelProc Unit :=
  if gpioPair then Pure.pure () else do
    let _ ← ask w.acpi
    return ()

/-! ## One response -/

/-- `get_unaligned_le32(header)` -/
def headerWord (header : Nat → UInt8) : Nat := u32 ((List.range 4).map header) 0

/-- The first `len` bytes of `body` are those the transfer left. -/
def fillBody (len : Nat) (bytes : Nat → UInt8) (s : Panel) : Panel :=
  { s with body := fun i => if i < len then bytes i else s.body i }

/-- The diagnostic copy of a response. -/
def noteResponse (len : Nat) (s : Panel) : Panel :=
  { s with
    lastBodyTotalLen := len
    lastBody := (List.range (min len diagBody)).map s.body
    log := .response ((List.range len).map s.body) :: s.log }

/-- The class byte and the length of the response.
mirrors src/g6ts_biosref.c:172-204 (`g6ts_read_raw`) -/
def readRaw : PanelProc (Nat × Nat) := do
  let header ← ask w.xfer
  check header.2
  modify fun s => { s with lastHeader := header.1 }
  errorIf (header.1 3 ≠ headerSync) ENODATA
  let bodyLen := (headerWord header.1 >>> 6) &&& 0xfffc
  errorIf (bodyLen < 4 || bodyLen > maxBody) .EPROTO
  let body ← ask w.xfer
  modify (fillBody bodyLen body.1)
  check body.2
  modify (noteResponse bodyLen)
  let cls ← gets fun s => (s.body 0).toNat
  return (cls, bodyLen)

/-- mirrors src/g6ts_biosref.c:161-165 and :206-211 (`g6ts_write_command`, `g6ts_send_ready_cmd`);
what is read along with a command is dropped -/
def writeCommand : PanelProc Unit := do
  let ret ← ask w.xfer
  check ret.2

/-- mirrors src/g6ts_biosref.c:233-249 (`g6ts_account_class`) -/
def accountClass (cls : Nat) (s : Panel) : Panel :=
  if cls = classTouch then { s with class1Events := s.class1Events + 1 }
  else if cls = classReset then { s with class3Events := s.class3Events + 1 }
  else if cls = classDeviceDescriptor then { s with class7Events := s.class7Events + 1 }
  else { s with otherClassEvents := s.otherClassEvents + 1 }

/-! ## Waiting -/

/-- mirrors src/g6ts_biosref.c:213-231 (`g6ts_wait_pending`), for `n` turns -/
def pollPending : Nat → PanelProc Unit
  | 0 => throw .ETIMEDOUT
  | n + 1 => do
    let value ← ask w.gpio
    match value with
    | .error e => do
      modify fun s => { s with gpioErrors := s.gpioErrors + 1 }
      throw e
    | .ok true => return ()
    | .ok false => pollPending n

def waitPending : PanelProc Unit := do
  let polls ← ask w.polls
  pollPending w (polls + 1)

/-- mirrors src/g6ts_biosref.c:256-283 (`g6ts_poll_response`), for `n` turns -/
def pollResponse (expected : Nat) : Nat → PanelProc (Nat × Nat)
  | 0 => throw .ETIMEDOUT
  | n + 1 => do
    let ret ← result (readRaw w)
    match ret with
    | .error e => if e = ENODATA then pollResponse expected n else throw e
    | .ok r => do
      modify (accountClass r.1)
      if r.1 = expected ∨ r.1 = classReset then return r
      else if r.1 ≠ classTouch then throw .EPROTO
      else pollResponse expected n

/-- The descriptor of the device is there. -/
def noteReady (len : Nat) (s : Panel) : Panel :=
  { s with
    lastReadyTotalLen := len
    lastReadyBody := (List.range (min len diagBody)).map s.body
    ready := true }

/-- mirrors src/g6ts_biosref.c:291-341 (`g6ts_readiness`), for `n` attempts; `break` leaves it with a timeout -/
def readinessLoop : Nat → PanelProc Unit
  | 0 => throw .ETIMEDOUT
  | n + 1 => do
    modify fun s => { s with readyAttempts := s.readyAttempts + 1 }
    writeCommand w
    let pending ← result (waitPending w)
    match pending with
    | .error e => do
      onlyIf (e == .ETIMEDOUT) (modify fun s =>
        { s with readyGpioTimeouts := s.readyGpioTimeouts + 1 })
      throw .ETIMEDOUT
    | .ok _ => do
      let ret ← result (readRaw w)
      match ret with
      | .error _ => throw .ETIMEDOUT
      | .ok r => do
        modify (accountClass r.1)
        if r.1 = classDeviceDescriptor then modify (noteReady r.2)
        else readinessLoop n

def readiness : PanelProc Unit := readinessLoop w 5

/-- mirrors src/g6ts_biosref.c:349-364 (`g6ts_reset_controller`) -/
def resetController : PanelProc Unit := do
  if gpioPair then Pure.pure () else acpiMethod w
  readiness w

/-! ## The report descriptor -/

/-- The class and the length of the last answer, after `n` requests at most. -/
def requestDescriptor : Nat → Nat × Nat → PanelProc (Nat × Nat)
  | 0, last => return last
  | n + 1, _ => do
    writeCommand w
    let r ← pollResponse w classDescriptor 200
    if r.1 = classDescriptor then return r
    else do
      readiness w
      requestDescriptor n r

/-- `descriptor_len`, from the last body -/
def announcedLen (s : Panel) : Nat := (s.body 1).toNat + 256 * (s.body 2).toNat

def noteDescriptor (s : Panel) : Panel :=
  { s with
    descriptorLen := announcedLen s
    descriptorPrefix := (List.range (min (announcedLen s) diagBody)).map fun i =>
      s.body (descriptorPrefixLen + i)
    descriptorValid := true }

/-- mirrors src/g6ts_biosref.c:372-428 (`g6ts_probe_descriptor`) -/
def probeDescriptor : PanelProc Unit := do
  let r ← requestDescriptor w 2 (0, 0)
  errorIf (r.1 ≠ classDescriptor || r.2 < descriptorPrefixLen) .EPROTO
  let len ← gets announcedLen
  errorIf (len ≠ r.2 - descriptorPrefixLen) .EPROTO
  modify noteDescriptor

/-! ## Input -/

/-- Finger, position and sync of a touch report. -/
def reportInput (s : Panel) : Panel :=
  if (s.body 4).toNat % 2 = 1 then
    { s with
      touches := s.touches + 1
      log := .input (some (((s.body 5).toNat + 256 * (s.body 6).toNat) / 32,
        ((s.body 7).toNat + 256 * (s.body 8).toNat) / 32)) :: s.log }
  else { s with log := .input none :: s.log }

/-- mirrors src/g6ts_biosref.c:430-471 (`g6ts_read_report`) -/
def readReport : PanelProc Unit := do
  let r ← readRaw w
  modify (accountClass r.1)
  if r.1 = classReset then do
    readiness w
    throw .EAGAIN
  else if r.1 ≠ classTouch then throw .EAGAIN
  else do
    let malformed ← gets fun s => decide (r.2 < 9) || announcedLen s != normalCopyLenMinusOne ||
      s.body 3 != contentTouch
    errorIf malformed .EPROTO
    modify reportInput

/-- The counters of a failed report. -/
def countError (e : Errno) (s : Panel) : Panel :=
  if e = ENODATA ∨ e = .EAGAIN then s
  else if e = .EPROTO then { s with protocolErrors := s.protocolErrors + 1 }
  else { s with transportErrors := s.transportErrors + 1 }

/-- mirrors src/g6ts_biosref.c:473-492 (`g6ts_work` with `running` set) -/
def workSection (s : Panel) : Panel :=
  match readReport w { s with reads := s.reads + 1 } with
  | (t, .ok _) => t
  | (t, .error e) => countError e t

end

/-! ## What the log says -/

def responses (cls : Nat → Bool) : List Seen → Nat
  | [] => 0
  | .response body :: past => responses cls past + if cls (u8 body 0) then 1 else 0
  | .input _ :: past => responses cls past

def positions : List Seen → Nat
  | [] => 0
  | .input (some _) :: past => positions past + 1
  | _ :: past => positions past

/-- The response is a touch report, with this position. -/
structure Touched (body : Bytes) (position : Option (Nat × Nat)) : Prop where
  length : 9 ≤ body.length
  cls : u8 body 0 = classTouch
  len : u16 body 1 = normalCopyLenMinusOne
  content : body.getD 3 0 = contentTouch
  position : position = if u8 body 4 % 2 = 1 then some (u16 body 5 / 32, u16 body 7 / 32) else none

/-- Each input is that of the response right before it. -/
def InputLaw : List Seen → Prop
  | [] => True
  | .response body :: past => 4 ≤ body.length ∧ body.length ≤ maxBody ∧ InputLaw past
  | .input position :: past => (∃ body rest, past = .response body :: rest ∧ Touched body position) ∧ InputLaw past

/-- The class counters, when the response of class `due` is not counted yet. -/
structure Counted (due : Option Nat) (s : Panel) : Prop where
  class1 : responses (· == classTouch) s.log = s.class1Events +
    if due = some classTouch then 1 else 0
  class3 : responses (· == classReset) s.log = s.class3Events +
    if due = some classReset then 1 else 0
  class7 : responses (· == classDeviceDescriptor) s.log =
    s.class7Events + if due = some classDeviceDescriptor then 1 else 0
  other : responses (fun c => c != classTouch && c != classReset &&
    c != classDeviceDescriptor) s.log =
    s.otherClassEvents +
      if (due.any fun c => c != classTouch && c != classReset && c != classDeviceDescriptor) then 1
        else 0

/-- The descriptor that was validated is one the panel sent. -/
def DescriptorSent (s : Panel) : Prop :=
  s.descriptorValid = true → ∃ body, .response body ∈ s.log ∧ u8 body 0 = classDescriptor ∧
    s.descriptorLen = u16 body 1 ∧ body.length = descriptorPrefixLen + s.descriptorLen ∧
    s.descriptorPrefix = (body.drop descriptorPrefixLen).take diagBody

/-- Everything `state_show` says agrees with what was read; `room` more reads than errors. -/
structure Accounts (due : Option Nat) (room : Nat) (s : Panel) : Prop extends Counted due s where
  touches : positions s.log = s.touches
  inputs : InputLaw s.log
  errors : s.transportErrors + s.protocolErrors + room ≤ s.reads
  descriptor : DescriptorSent s

/-- `body` still holds the last response, of class `r.1` and length `r.2`. -/
structure Responded (r : Nat × Nat) (s : Panel) : Prop where
  last : ∃ past, s.log = .response ((List.range r.2).map s.body) :: past
  cls : r.1 = (s.body 0).toNat
  lo : 4 ≤ r.2
  hi : r.2 ≤ maxBody

/-! ## The parts nobody accounts for -/

variable {due : Option Nat} {room : Nat} {s t : Panel} {r : Nat × Nat}

/-- The fields `Accounts` is about. -/
def book (s : Panel) :=
  (s.log, (s.class1Events, s.class3Events, s.class7Events, s.otherClassEvents),
    (s.touches, s.reads, s.transportErrors, s.protocolErrors),
    s.descriptorValid, s.descriptorLen, s.descriptorPrefix)

theorem Accounts.of_book (h : Accounts due room s) (hb : book t = book s) :
    Accounts due room t := by
  simp only [book, Prod.mk.injEq] at hb
  obtain ⟨hlog, ⟨h1, h3, h7, ho⟩, ⟨ht, hr, hx, hp⟩, hv, hl, hd⟩ := hb
  have hsent : DescriptorSent t := by
    intro hvalid
    rw [hlog, hl, hd]
    exact h.descriptor (hv ▸ hvalid)
  exact ⟨⟨by rw [hlog, h1]; exact h.class1, by rw [hlog, h3]; exact h.class3, by rw [hlog, h7]; exact h.class7,
    by rw [hlog, ho]; exact h.other⟩, by rw [hlog, ht]; exact h.touches, by rw [hlog]; exact h.inputs,
    by rw [hx, hp, hr]; exact h.errors, hsent⟩

theorem Responded.of_body (h : Responded r s) (hlog : t.log = s.log) (hbody : t.body = s.body) :
    Responded r t := by
  obtain ⟨past, hp⟩ := h.last
  refine ⟨⟨past, ?_⟩, ?_, h.lo, h.hi⟩
  · rw [hlog, hbody]
    exact hp
  · rw [hbody]
    exact h.cls

theorem ask_accounts {α : Type} (f : Nat → α) : Keeps (Accounts due room) (ask f) :=
  Keeps.of_state fun _ h => h.of_book rfl

theorem check_accounts (ret : Option Errno) : Keeps (Accounts due room) (check ret) := by
  cases ret with
  | none => exact Keeps.pure ()
  | some e => exact Keeps.throw e

theorem acpiMethod_accounts (w : World) : Keeps (Accounts due room) (acpiMethod w) :=
  Keeps.bind (ask_accounts _) fun _ => check_accounts _

theorem powerOn_accounts (gpioPair : Bool) (w : World) : Keeps (Accounts due room)
    (powerOn gpioPair w) := by
  cases gpioPair with
  | true => exact Keeps.pure ()
  | false => exact Keeps.bind (acpiMethod_accounts w) fun _ => acpiMethod_accounts w

theorem powerOff_accounts (gpioPair : Bool) (w : World) : Keeps (Accounts due room)
    (powerOff gpioPair w) := by
  cases gpioPair with
  | true => exact Keeps.pure ()
  | false => exact Keeps.bind (ask_accounts _) fun _ => Keeps.pure ()

theorem writeCommand_accounts (w : World) : Keeps (Accounts due room) (writeCommand w) :=
  Keeps.bind (ask_accounts _) fun _ => check_accounts _

theorem waitPending_accounts (w : World) : Keeps (Accounts due room) (waitPending w) := by
  have hpoll : ∀ n, Keeps (Accounts due room) (pollPending w n) := by
    intro n
    induction n with
    | zero => exact Keeps.throw _
    | succ n ih =>
      refine Keeps.bind (ask_accounts _) fun value => ?_
      cases value with
      | error e => exact Keeps.bind (Keeps.modify fun _ h => h.of_book rfl) fun _ => Keeps.throw e
      | ok b => cases b with
        | true => exact Keeps.pure ()
        | false => exact ih
  exact Keeps.bind (ask_accounts _) fun polls => hpoll (polls + 1)

/-! ## One response -/

/-- One more response, not counted yet. -/
theorem noteResponse_accounts {len : Nat} (h : Accounts none room s) (hlo : 4 ≤ len)
    (hhi : len ≤ maxBody) :
    Accounts (some (s.body 0).toNat) room (noteResponse len s) := by
  have hcls : u8 ((List.range len).map s.body) 0 = (s.body 0).toNat := by
    have hlt : 0 < len := by omega
    simp [u8, List.getD_eq_getElem?_getD, List.getElem?_range hlt]
  have hsent : DescriptorSent (noteResponse len s) := by
    intro hvalid
    obtain ⟨body, hmem, hrest⟩ := h.descriptor hvalid
    exact ⟨body, List.mem_cons_of_mem _ hmem, hrest⟩
  refine ⟨⟨?_, ?_, ?_, ?_⟩, h.touches, ⟨by simpa using hlo, by simpa using hhi, h.inputs⟩,
    h.errors, hsent⟩
  · simpa [noteResponse, responses, hcls] using h.class1
  · simpa [noteResponse, responses, hcls] using h.class3
  · simpa [noteResponse, responses, hcls] using h.class7
  · simpa [noteResponse, responses, hcls] using h.other

theorem classes : classTouch ≠ classReset ∧ classTouch ≠ classDeviceDescriptor ∧
    classReset ≠ classTouch ∧
    classReset ≠ classDeviceDescriptor ∧ classDeviceDescriptor ≠ classTouch ∧
      classDeviceDescriptor ≠ classReset := by
  decide

theorem accountClass_accounts {cls : Nat} (h : Accounts (some cls) room s) :
    Accounts none room (accountClass cls s) := by
  obtain ⟨⟨h1, h3, h7, ho⟩, ht, hi, he, hd⟩ := h
  unfold accountClass
  by_cases hc1 : cls = classTouch
  · subst hc1
    rw [if_pos rfl]
    exact ⟨⟨by simpa [classes] using h1, by simpa [classes] using h3, by simpa [classes] using h7, by simpa using ho⟩,
      ht, hi, he, hd⟩
  rw [if_neg hc1]
  by_cases hc3 : cls = classReset
  · subst hc3
    rw [if_pos rfl]
    exact ⟨⟨by simpa [classes] using h1, by simpa [classes] using h3, by simpa [classes] using h7, by simpa using ho⟩,
      ht, hi, he, hd⟩
  rw [if_neg hc3]
  by_cases hc7 : cls = classDeviceDescriptor
  · subst hc7
    rw [if_pos rfl]
    exact ⟨⟨by simpa [classes] using h1, by simpa [classes] using h3, by simpa [classes] using h7, by simpa using ho⟩,
      ht, hi, he, hd⟩
  rw [if_neg hc7]
  exact ⟨⟨by simpa [hc1] using h1, by simpa [hc3] using h3, by simpa [hc7] using h7,
    by simpa [hc1, hc3, hc7] using ho⟩, ht, hi, he, hd⟩

theorem accountClass_responded {cls : Nat} (h : Responded r s) :
    Responded r (accountClass cls s) := by
  unfold accountClass
  split
  · exact h.of_body rfl rfl
  split
  · exact h.of_body rfl rfl
  split
  · exact h.of_body rfl rfl
  · exact h.of_body rfl rfl

theorem readRaw_responded (w : World) : Triple (Accounts none room) (readRaw w)
    (fun r s => Accounts (some r.1) room s ∧ Responded r s) fun _ => Accounts none room := by
  refine Triple.bind (ask_accounts _) fun header => ?_
  refine Triple.bind (check_accounts _) fun _ => ?_
  refine Triple.bind (R := fun _ => Accounts none room)
    (Triple.modify _ fun _ h => h.of_book rfl) fun _ => ?_
  refine Triple.bind_errorIf (fun _ _ h => h) fun _ => ?_
  refine Triple.bind_errorIf (fun _ _ h => h) fun hlen => ?_
  generalize (headerWord header.1 >>> 6) &&& 0xfffc = len at hlen
  have hlo : 4 ≤ len := by simp at hlen; omega
  have hhi : len ≤ maxBody := by simp at hlen; omega
  refine Triple.bind (ask_accounts _) fun body => ?_
  refine Triple.bind (R := fun _ => Accounts none room)
    (Triple.modify _ fun _ h => h.of_book rfl) fun _ => ?_
  refine Triple.bind (check_accounts _) fun _ => ?_
  refine Triple.bind (R := fun _ s => Accounts (some (s.body 0).toNat) room s ∧
    Responded ((s.body 0).toNat, len) s)
    (Triple.modify _ fun s h => ⟨noteResponse_accounts h hlo hhi, ⟨s.log, rfl⟩, rfl, hlo, hhi⟩)
      fun _ => ?_
  exact Triple.bind (R := fun cls s => Accounts (some cls) room s ∧ Responded (cls, len) s)
    (Triple.gets _ fun _ h => h) fun cls => Triple.pure _ fun _ h => h

/-- A response, counted. -/
theorem readCounted (w : World) : Triple (Accounts none room) (readRaw w)
    (fun r s => Accounts none room (accountClass r.1 s) ∧ Responded r (accountClass r.1 s)) fun _ =>
    Accounts none room :=
  Triple.conseq (readRaw_responded w) (fun _ h => h)
    (fun _ _ h => ⟨accountClass_accounts h.1, accountClass_responded h.2⟩) fun _ _ h => h

/-! ## The entry points -/

theorem pollResponse_responded (w : World) (expected : Nat) : ∀ n, Triple (Accounts none room)
    (pollResponse w expected n)
    (fun r s => Accounts none room s ∧ Responded r s) fun _ => Accounts none room
  | 0 => Triple.throw _ fun _ h => h
  | n + 1 => by
    have ih := pollResponse_responded w expected n
    refine Triple.bind (Triple.result (readCounted w)) fun ret => ?_
    cases ret with
    | error e => exact Triple.ite (fun _ => ih) fun _ => Triple.throw e fun _ h => h
    | ok r =>
      refine Triple.bind (R := fun _ s => Accounts none room s ∧ Responded r s)
        (Triple.modify _ fun _ h => h) fun _ => ?_
      refine Triple.ite (fun _ => Triple.pure r fun _ h => h) fun _ => ?_
      -- a touch report before the response
      refine Triple.ite (fun _ => Triple.throw _ fun _ h => h.1) fun _ => ?_
      exact Triple.conseq ih (fun _ h => h.1) (fun _ _ h => h) fun _ _ h => h

theorem readiness_accounts (w : World) : Keeps (Accounts none room) (readiness w) := by
  have hloop : ∀ n, Keeps (Accounts none room) (readinessLoop w n) := by
    intro n
    induction n with
    | zero => exact Keeps.throw _
    | succ n ih =>
      refine Keeps.bind (Keeps.modify fun _ h => h.of_book rfl) fun _ => ?_
      refine Keeps.bind (writeCommand_accounts w) fun _ => ?_
      refine Triple.bind (Triple.result (waitPending_accounts w)) fun pending => ?_
      cases pending with
      | error e =>
        exact Keeps.bind (Keeps.onlyIf (Keeps.modify fun _ h => h.of_book rfl))
          fun _ => Keeps.throw _
      | ok _ =>
        refine Triple.bind (Triple.result (readCounted w)) fun ret => ?_
        cases ret with
        | error e => exact Triple.throw _ fun _ h => h
        | ok r =>
          refine Triple.bind (R := fun _ => Accounts none room)
            (Triple.modify _ fun _ h => h.1) fun _ => ?_
          exact Triple.ite (fun _ => Triple.modify _ fun _ h => h.of_book rfl) fun _ => ih
  exact hloop 5

theorem resetController_accounts (gpioPair : Bool) (w : World) : Keeps (Accounts none room)
    (resetController gpioPair w) := by
  cases gpioPair with
  | true => exact readiness_accounts w
  | false => exact Keeps.bind (acpiMethod_accounts w) fun _ => readiness_accounts w

/-- What is returned as the descriptor is in `body`. -/
theorem requestDescriptor_responded (w : World) : ∀ (n : Nat)
    (last : Nat × Nat), last.1 ≠ classDescriptor →
    Triple (Accounts none room) (requestDescriptor w n last)
      (fun r s => Accounts none room s ∧ (r.1 = classDescriptor → Responded r s)) fun _ =>
      Accounts none room
  | 0, last, hlast => Triple.pure last fun _ h => ⟨h, fun hr => absurd hr hlast⟩
  | n + 1, _, _ => by
    refine Triple.bind (writeCommand_accounts w) fun _ => ?_
    refine Triple.bind (pollResponse_responded w classDescriptor 200) fun r => ?_
    refine Triple.ite (fun _ => Triple.pure r fun _ h => ⟨h.1, fun _ => h.2⟩) fun hr => ?_
    refine Triple.bind (R := fun _ => Accounts none room) ?_ fun _ =>
      requestDescriptor_responded w n r hr
    exact Triple.conseq (readiness_accounts w) (fun _ h => h.1) (fun _ _ h => h) fun _ _ h => h

/-- The bytes a response announces are the ones `body` shows. -/
theorem Responded.announced {r : Nat × Nat} {s : Panel} (h : Responded r s) :
    announcedLen s = u16 ((List.range r.2).map s.body) 1 := by
  have h1 : 1 < r.2 := by have := h.lo; omega
  have h2 : 2 < r.2 := by have := h.lo; omega
  simp [announcedLen, u16, u8, List.getD_eq_getElem?_getD, List.getElem?_range h1,
    List.getElem?_range h2]

theorem byte_response {s : Panel} {len i : Nat} (hi : i < len) :
    ((List.range len).map s.body).getD i 0 = s.body i := by
  simp [List.getD_eq_getElem?_getD, List.getElem?_range hi]

theorem noteDescriptor_accounts (h : Accounts none room s) (hr : Responded r s)
    (hcls : r.1 = classDescriptor)
    (hlen : announcedLen s = r.2 - descriptorPrefixLen) :
      Accounts none room (noteDescriptor s) := by
  obtain ⟨past, hpast⟩ := hr.last
  refine ⟨⟨h.class1, h.class3, h.class7, h.other⟩, h.touches, h.inputs, h.errors, fun _ => ?_⟩
  refine ⟨(List.range r.2).map s.body, ?_, ?_, hr.announced, ?_, ?_⟩
  · show _ ∈ s.log
    rw [hpast]
    exact List.mem_cons_self
  · have := hr.lo
    rw [u8, byte_response (by omega), ← hr.cls, hcls]
  · have := hr.lo
    simp only [noteDescriptor, List.length_map, List.length_range, hlen, descriptorPrefixLen]
    omega
  · apply List.ext_getElem?
    intro i
    by_cases hi : i < min (announcedLen s) diagBody
    · have hlt : descriptorPrefixLen + i < r.2 := by omega
      have hd : i < diagBody := by omega
      simp [noteDescriptor, List.getElem?_take_of_lt hd, List.getElem?_range hi,
        List.getElem?_range hlt]
    · have hlen' : ((((List.range r.2).map s.body).drop descriptorPrefixLen).take diagBody).length ≤
        i := by
        simp only [List.length_take, List.length_drop, List.length_map, List.length_range]
        omega
      rw [List.getElem?_eq_none hlen', List.getElem?_eq_none (by simp [noteDescriptor]; omega)]

theorem probeDescriptor_accounts (w : World) : Keeps (Accounts none room) (probeDescriptor w) := by
  refine Triple.bind (requestDescriptor_responded w 2 (0, 0) (by decide)) fun r => ?_
  refine Triple.bind_errorIf (fun _ _ h => h.1) fun hok => ?_
  have hcls : r.1 = classDescriptor := by simp at hok; exact hok.1
  refine Triple.bind (R := fun len s => (Accounts none room s ∧ Responded r s) ∧
    len = announcedLen s)
    (Triple.gets _ fun _ h => ⟨⟨h.1, h.2 hcls⟩, rfl⟩) fun len => ?_
  refine Triple.bind_errorIf (fun _ _ h => h.1.1) fun hlen => ?_
  refine Triple.modify _ fun s h => noteDescriptor_accounts h.1.1 h.1.2 hcls ?_
  rw [← h.2]
  simpa using hlen

theorem reportInput_accounts (h : Accounts none room s) (hr : Responded r s)
    (hcls : r.1 = classTouch) (h9 : 9 ≤ r.2)
    (hlen : announcedLen s = normalCopyLenMinusOne) (hcontent : s.body 3 = contentTouch) :
    Accounts none room (reportInput s) := by
  obtain ⟨past, hpast⟩ := hr.last
  have hbyte : ∀ i, i < 9 → u8 ((List.range r.2).map s.body) i = (s.body i).toNat := fun i hi => by
    rw [u8, byte_response (by omega)]
  have htouched : ∀ position, (position = if (s.body 4).toNat % 2 = 1 then
      some (((s.body 5).toNat + 256 * (s.body 6).toNat) / 32,
        ((s.body 7).toNat + 256 * (s.body 8).toNat) / 32)
      else none) → Touched ((List.range r.2).map s.body) position := by
    intro position hp
    refine ⟨by simpa using h9, ?_, hr.announced.symm.trans hlen, ?_, ?_⟩
    · rw [hbyte 0 (by omega), ← hr.cls, hcls]
    · rw [byte_response (by omega), hcontent]
    · rw [hp, u16, u16, hbyte 4 (by omega), hbyte 5 (by omega), hbyte 6 (by omega),
        hbyte 7 (by omega), hbyte 8 (by omega)]
  have hsent : ∀ seen, DescriptorSent s → s.descriptorValid = true →
    ∃ body, .response body ∈ seen :: s.log ∧
      u8 body 0 = classDescriptor ∧ s.descriptorLen = u16 body 1 ∧
      body.length = descriptorPrefixLen + s.descriptorLen ∧
      s.descriptorPrefix = (body.drop descriptorPrefixLen).take diagBody := by
    intro seen hd hvalid
    obtain ⟨body, hmem, hrest⟩ := hd hvalid
    exact ⟨body, List.mem_cons_of_mem _ hmem, hrest⟩
  unfold reportInput
  by_cases hdown : (s.body 4).toNat % 2 = 1
  · rw [if_pos hdown]
    refine ⟨⟨h.class1, h.class3, h.class7, h.other⟩, ?_,
      ⟨⟨_, past, hpast, htouched _ (by rw [if_pos hdown])⟩, h.inputs⟩,
      h.errors, hsent _ h.descriptor⟩
    simp [positions, h.touches]
  · rw [if_neg hdown]
    exact ⟨⟨h.class1, h.class3, h.class7, h.other⟩, h.touches,
      ⟨⟨_, past, hpast, htouched _ (by rw [if_neg hdown])⟩, h.inputs⟩, h.errors,
      hsent _ h.descriptor⟩

theorem readReport_accounts (w : World) : Keeps (Accounts none room) (readReport w) := by
  refine Triple.bind (readCounted w) fun r => ?_
  refine Triple.bind (R := fun _ s => Accounts none room s ∧ Responded r s)
    (Triple.modify _ fun _ h => h) fun _ => ?_
  refine Triple.ite (fun _ => ?_) fun _ => ?_
  · refine Triple.bind (R := fun _ => Accounts none room) ?_ fun _ => Triple.throw _ fun _ h => h
    exact Triple.conseq (readiness_accounts w) (fun _ h => h.1) (fun _ _ h => h) fun _ _ h => h
  refine Triple.ite (fun _ => Triple.throw _ fun _ h => h.1) fun hcls => ?_
  refine Triple.bind (R := fun malformed s => (Accounts none room s ∧ Responded r s) ∧
      malformed = (decide (r.2 < 9) || announcedLen s != normalCopyLenMinusOne ||
      s.body 3 != contentTouch))
    (Triple.gets _ fun _ h => ⟨h, rfl⟩) fun malformed => ?_
  refine Triple.bind_errorIf (fun _ _ h => h.1.1) fun hok => ?_
  refine Triple.modify _ fun s h => ?_
  have hfit := h.2.symm.trans hok
  simp only [Bool.or_eq_false_iff, decide_eq_false_iff_not, bne_eq_false_iff_eq] at hfit
  exact reportInput_accounts h.1.1 h.1.2 (not_not.mp hcls) (by omega) hfit.1.2 hfit.2

theorem countError_accounts (e : Errno) (h : Accounts none 1 s) :
    Accounts none 0 (countError e s) := by
  have herr := h.errors
  unfold countError
  split
  · exact ⟨h.toCounted, h.touches, h.inputs, by omega, h.descriptor⟩
  split
  · exact ⟨⟨h.class1, h.class3, h.class7, h.other⟩, h.touches,
      h.inputs, by simp only; omega, h.descriptor⟩
  · exact ⟨⟨h.class1, h.class3, h.class7, h.other⟩, h.touches,
      h.inputs, by simp only; omega, h.descriptor⟩

theorem workSection_accounts (w : World) (h : Accounts none 0 s) :
    Accounts none 0 (workSection w s) := by
  have hread : Accounts none 1 { s with reads := s.reads + 1 } := by
    have herr := h.errors
    exact ⟨⟨h.class1, h.class3, h.class7, h.other⟩, h.touches,
      h.inputs, by simp only; omega, h.descriptor⟩
  have hr := readReport_accounts w _ hread
  unfold workSection
  revert hr
  cases readReport w { s with reads := s.reads + 1 } with
  | mk t r => cases r with
    | ok _ =>
      intro ht
      have herr : t.transportErrors + t.protocolErrors + 0 ≤ t.reads := by have := ht.errors; omega
      exact ⟨ht.toCounted, ht.touches, ht.inputs, herr, ht.descriptor⟩
    | error e => exact fun ht => countError_accounts e ht

end Polled
end Sp11Touch
