import Sp11Touch.Core.LTS
/-!
# QSPI completion on a GPI instance (`gpi.c`)

Both channels of a QSPI GPII: descriptors move from `desc_allocated` over
`desc_submitted` to `desc_issued`, the event tasklet retires the oldest
issued one, and a TX EOT parks it in `qspi_deferred_vd` until a QUP
notification or the grace timer. One step is one event of the event ring,
one timer or tasklet action, one client call, or one step of
`gpi_terminate_all`. Ring positions are byte offsets from the ring base.

The ghost `log` (newest first) records callbacks, `list_del` and `kfree`;
descriptors carry the number of their allocation. Debug output and the
`qspi_*` trace counters are left out.
-/
namespace Sp11Touch.Gpi

/-- mirrors phase55/modules/gpi.c:240-245 (`enum msm_gpi_tce_code`) -/
inductive TceCode where
  | SUCCESS | EOT | EOB | UNEXP_ERR
deriving DecidableEq, Repr

/-- mirrors phase55/modules/gpi.c:403-411 (`enum gpi_pm_state`) -/
inductive PmState where
  | DISABLE | CONFIG | PREPARE_HARDWARE | ACTIVE | PREPARE_TERMINATE | PAUSE
deriving DecidableEq, Repr

/-- `GPI_TX_CHAN`, `GPI_RX_CHAN` -/
inductive Chid where
  | TX | RX
deriving DecidableEq, Repr

structure Ring where
  rp : Nat
  wp : Nat
  len : Nat
  elSize : Nat
deriving DecidableEq, Repr

/-- `struct gpi_desc` with the number of its `kzalloc`; `db` is `NULL` until
`gpi_issue_pending` has queued its elements. -/
structure Desc where
  id : Nat
  len : Nat
  numTre : Nat
  db : Option Nat
deriving DecidableEq, Repr

structure Gchan where
  pmState : PmState
  chRing : Ring
  allocated : List Desc
  submitted : List Desc
  issued : List Desc
deriving DecidableEq, Repr

/-- `struct dmaengine_result` -/
structure Result where
  aborted : Bool
  residue : Nat
deriving DecidableEq, Repr

/-- `qspi_deferred_vd`, `qspi_deferred_gchan`, `qspi_deferred_result`, set
and cleared together. -/
structure Deferred where
  vd : Desc
  gchan : Chid
  result : Result
deriving DecidableEq, Repr

inductive Done where
  | callback (id : Nat) (result : Result)
  | unlink (id : Nat)
  | free (id : Nat)
deriving DecidableEq, Repr

/-- Where `gpi_terminate_all` stands under `ctrl_lock`. -/
inductive CtrlPc where
  | idle | cleared | txStopped | rxStopped | txReset | rxReset | txStarted
deriving DecidableEq, Repr

structure Gpii where
  tx : Gchan
  rx : Gchan
  ieobSet : Bool
  deferred : Option Deferred
  graceElapsed : Bool
  timerArmed : Bool
  ctrl : CtrlPc
  nextId : Nat
  log : List Done
deriving DecidableEq, Repr

def Gpii.chan (g : Gpii) : Chid → Gchan
  | .TX => g.tx
  | .RX => g.rx

def Gpii.setChan (g : Gpii) (ch : Chid) (c : Gchan) : Gpii :=
  match ch with
  | .TX => { g with tx := c }
  | .RX => { g with rx := c }

def Chid.other : Chid → Chid
  | .TX => .RX
  | .RX => .TX

/-- mirrors phase55/modules/gpi.c:594-604 (`gpii_has_active_qspi`) -/
def hasActiveQspi (g : Gpii) : Bool := g.tx.pmState = .ACTIVE || g.rx.pmState = .ACTIVE

/-! ## The ring -/

/-- mirrors phase55/modules/gpi.c:1713-1725 (`gpi_ring_num_elements_avail`);
-1 when the pointers are less than an element apart. -/
def Ring.avail (r : Ring) : Int :=
  if r.wp < r.rp then ((r.rp - r.wp) / r.elSize : Nat) - 1
  else (r.rp / r.elSize : Nat) + (((r.len - r.wp) / r.elSize : Nat) - 1)

/-- `p + el_size`, wrapped at the end of the ring. -/
def Ring.next (r : Ring) (p : Nat) : Nat := if p + r.elSize ≥ r.len then 0 else p + r.elSize

/-- mirrors phase55/modules/gpi.c:1727-1741 (`gpi_ring_add_element`); a full ring is unchanged. -/
def Ring.addElement (r : Ring) : Ring := if r.avail ≤ 0 then r else { r with wp := r.next r.wp }

/-- mirrors phase55/modules/gpi.c:1286-1291 (`last_tre`); the element before
`NULL` is in no ring. -/
def Ring.lastTre (r : Ring) : Option Nat → Option Nat
  | none => none
  | some db => some ((if db = 0 then r.len else db) - r.elSize)

/-! ## The client -/

/-- mirrors phase55/modules/virt-dma.h:56-74 (`vchan_tx_prep`), after `kzalloc` -/
def vchanTxPrep (g : Gpii) (ch : Chid) (len nrTre : Nat) : Gpii :=
  { g.setChan ch { g.chan ch with allocated := (g.chan ch).allocated ++
    [⟨g.nextId, len, nrTre, none⟩] } with
    nextId := g.nextId + 1 }

/-- The TREs of a descriptor: CONFIG0 (if set), GO and DMA on TX, DMA on RX. -/
def nrTre (ch : Chid) (setConfig : Bool) : Nat :=
  match ch with
  | .RX => 1
  | .TX => if setConfig then 3 else 2

/-- mirrors phase55/modules/gpi.c:2239-2302 (`gpi_prep_slave_sg`); `oom` is a
failed `kzalloc`, and `nr` is a `u32`. -/
def prepSlaveSg (g : Gpii) (ch : Chid) (len : Nat) (setConfig interrupt oom : Bool) : Gpii :=
  let nr := ((g.chan ch).chRing.avail % 0x100000000).toNat
  let tre := nrTre ch setConfig
  if nr < tre ∨ (interrupt = false ∧ nr - tre < 2) ∨ oom then { g with ieobSet := false }
  else vchanTxPrep { g with ieobSet := false } ch len tre

/-- `vchan_tx_submit`: from `desc_allocated` to the tail of `desc_submitted`. -/
def txSubmit (g : Gpii) (ch : Chid) (id : Nat) : Gpii :=
  let c := g.chan ch
  g.setChan ch { c with
    allocated := c.allocated.filter (·.id ≠ id)
    submitted := c.submitted ++ c.allocated.filter (·.id = id) }

/-- `db` of the last issued descriptor. -/
def setLastDb (l : List Desc) (db : Nat) : List Desc :=
  match l.getLast? with
  | none => l
  | some d => l.dropLast ++ [{ d with db := some db }]

/-- mirrors phase55/modules/gpi.c:2305-2364 (`gpi_issue_pending`) -/
def issuePending (g : Gpii) (ch : Chid) : Gpii :=
  let c := g.chan ch
  let issued := c.issued ++ c.submitted
  match issued.getLast? with
  | none => g
  | some d =>
    let ring := Nat.repeat Ring.addElement d.numTre c.chRing
    g.setChan ch { c with submitted := [], issued := setLastDb issued ring.wp, chRing := ring }

/-! ## The event tasklet -/

/-- `dma_cookie_complete`, the callback, `list_del` and `kfree`. -/
def retire (g : Gpii) (ch : Chid) (vd : Desc) (r : Result) : Gpii :=
  let c := g.chan ch
  { g.setChan ch { c with issued := c.issued.filter (·.id ≠ vd.id) } with
    log := .free vd.id :: .unlink vd.id :: .callback vd.id r :: g.log }

/-- mirrors phase55/modules/gpi.c:674-708 (`gpi_qspi_complete_deferred`) -/
def qspiCompleteDeferred (g : Gpii) : Gpii :=
  match g.deferred with
  | none => g
  | some d =>
    retire { g with deferred := none, graceElapsed := false, timerArmed := false }
      d.gchan d.vd d.result

structure XferComplEvent where
  ptr : Nat
  code : TceCode
  length : Nat
deriving DecidableEq, Repr

/-- mirrors phase55/modules/gpi.c:1334-1337 (`result`) -/
def xferResult (vd : Desc) (ev : XferComplEvent) : Result where
  aborted := ev.code = .UNEXP_ERR
  residue := if ev.length < vd.len then vd.len - ev.length else 0

/-- mirrors phase55/modules/gpi.c:1302-1311 (`ch_ring->rp = ev_rp`) -/
def setRp (g : Gpii) (ch : Chid) (ptr : Nat) : Gpii :=
  let c := g.chan ch
  g.setChan ch { c with chRing := { c.chRing with rp := c.chRing.next ptr } }

/-- mirrors phase55/modules/gpi.c:1348-1366; a second EOT finds the slot taken and is dropped. -/
def deferTx (g : Gpii) (vd : Desc) (r : Result) : Gpii :=
  if g.deferred.isSome then g
  else { g with deferred := some ⟨vd, .TX, r⟩, graceElapsed := false, timerArmed := true }

/-- mirrors phase55/modules/gpi.c:1313-1376, for the oldest issued descriptor `vd` -/
def completeXfer (g : Gpii) (ch : Chid) (vd : Desc) (ev : XferComplEvent) : Gpii :=
  if ev.code = .EOB then { g with ieobSet := true }
  else
    let g := if ev.code = .EOT then { g with ieobSet := false } else g
    if ch = .TX ∧ ev.code = .EOT then deferTx g vd (xferResult vd ev)
    else retire g ch vd (xferResult vd ev)

/-- mirrors phase55/modules/gpi.c:1224-1376 (`gpi_process_xfer_compl_event`) -/
def processXferComplEvent (g : Gpii) (ch : Chid) (ev : XferComplEvent) : Gpii :=
  if (g.chan ch).pmState ≠ .ACTIVE then g
  else match (g.chan ch).issued with
    | [] => g
    | vd :: _ =>
      if ev.code = .EOT ∧ (g.chan ch).chRing.lastTre vd.db ≠ some ev.ptr then g
      else completeXfer (setRp g ch ev.ptr) ch vd ev

/-- mirrors phase55/modules/gpi.c:1447-1466 (`QUP_NOTIF_EV_TYPE`) -/
def processQupNotif (g : Gpii) : Gpii := if hasActiveQspi g then qspiCompleteDeferred g else g

/-- mirrors phase55/modules/gpi.c:1496-1500 (the end of `gpi_ev_tasklet`) -/
def evTaskletEnd (g : Gpii) : Gpii :=
  if g.graceElapsed && g.deferred.isSome then qspiCompleteDeferred g else g

/-- mirrors phase55/modules/gpi.c:1507-1518 (`gpi_qspi_deferred_timer`) -/
def qspiDeferredTimer (g : Gpii) : Gpii :=
  if g.deferred.isSome then { g with timerArmed := false, graceElapsed := true }
  else { g with timerArmed := false }

/-! ## Terminating -/

/-- mirrors phase55/modules/gpi.c:1835-1847 (`gpi_qspi_clear_deferred`) -/
def qspiClearDeferred (g : Gpii) : Gpii :=
  if g.deferred.isNone then g
  else { g with deferred := none, graceElapsed := false, timerArmed := false }

def Gchan.descs (c : Gchan) : List Desc := c.allocated ++ c.submitted ++ c.issued

/-- mirrors phase55/modules/gpi.c:1547-1580 (`gpi_reset_chan`, its command done) -/
def resetChan (g : Gpii) (ch : Chid) : Gpii :=
  let c := g.chan ch
  { g.setChan ch { c with chRing := { c.chRing with rp := 0, wp := 0 }
                          allocated := [], submitted := [], issued := [] } with
    log := (c.descs.flatMap fun d => [.free d.id, .unlink d.id]) ++ g.log }

def setPm (g : Gpii) (ch : Chid) (p : PmState) : Gpii :=
  g.setChan ch { g.chan ch with pmState := p }

/-- mirrors phase55/modules/gpi.c:1850-1914 (`gpi_terminate_all`), one step;
`ok` is the outcome of the step's channel command. -/
def terminateStep (g : Gpii) (ok : Bool) : Gpii :=
  match g.ctrl with
  | .idle => { qspiClearDeferred g with ctrl := .cleared }
  | .cleared => { setPm g .TX .PREPARE_TERMINATE with ctrl := .txStopped }
  | .txStopped => { setPm g .RX .PREPARE_TERMINATE with ctrl := .rxStopped }
  | .rxStopped => if ok then { resetChan g .TX with ctrl := .txReset } else { g with ctrl := .idle }
  | .txReset => if ok then { resetChan g .RX with ctrl := .rxReset } else { g with ctrl := .idle }
  | .rxReset => if ok then { setPm g .TX .ACTIVE with ctrl := .txStarted } else { g with ctrl := .idle }
  | .txStarted => if ok then { setPm g .RX .ACTIVE with ctrl := .idle } else { g with ctrl := .idle }

/-! ## The system -/

inductive Act where
  | prep (ch : Chid) (len : Nat) (setConfig interrupt oom : Bool)
  | submit (ch : Chid) (id : Nat)
  | issue (ch : Chid)
  | event (ch : Chid) (ev : XferComplEvent)
  | qupNotif
  | timer
  | taskletEnd
  | terminate (ok : Bool)
deriving DecidableEq, Repr

/-- `none` where the action cannot happen: the timer fires only while armed. -/
def step (g : Gpii) : Act → Option Gpii
  | .prep ch len setConfig interrupt oom => some (prepSlaveSg g ch len setConfig interrupt oom)
  | .submit ch id => some (txSubmit g ch id)
  | .issue ch => some (issuePending g ch)
  | .event ch ev => some (processXferComplEvent g ch ev)
  | .qupNotif => some (processQupNotif g)
  | .timer => if g.timerArmed then some (qspiDeferredTimer g) else none
  | .taskletEnd => some (evTaskletEnd g)
  | .terminate ok => some (terminateStep g ok)

def freshChan (len elSize : Nat) : Gchan := ⟨.ACTIVE, ⟨0, 0, len, elSize⟩, [], [], []⟩

/-- Both channels started by `gpi_ch_init`, nothing submitted yet. -/
def fresh (len elSize : Nat) : Gpii :=
  ⟨freshChan len elSize, freshChan len elSize, false, none, false, false, .idle, 0, []⟩

def gpii : LTS Gpii Act := .ofFun (fun g => ∃ len elSize, g = fresh len elSize) step

end Sp11Touch.Gpi
