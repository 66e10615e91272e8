import Sp11Touch.Core.Bytes
/-!
# SPI messages over GPI DMA (`spi-geni-qcom.c`)

`spi_geni_sp11_qspi_transfer_one_message` runs a message of any number of
transfers: a write followed by a read as one combined exchange
(`submitReadPair`), everything else transfer by transfer (`transferLoop`).
What the clock, the DMA engine and its callbacks answer is a `Dma` record a
transfer; the status a callback writes is in the message before the wait for
it ends.

* `transferOneMessage_honest_iff`: the message is finalised once, and
  reports success only when all its data moved, iff it has the pair shape,
  or moves no data, or its first transfer with data fails, or that transfer
  is the last with data and the lengths from it on vanish in 32 bits.
* `second_write_never_sent`: two one-byte writes report success after the
  first, with `actual_length` 0.
-/
namespace Sp11Touch.Spi

structure Transfer where
  txBuf : Bool
  rxBuf : Bool
  len : Nat
deriving DecidableEq, Repr

/-- `struct dmaengine_result` -/
structure Result where
  aborted : Bool
  residue : Nat
deriving DecidableEq, Repr

/-- What one transfer meets: `none` is success for an error code, and no
callback within 500 ms for a result. -/
structure Dma where
  abortPending : Bool
  clk : Option Errno
  rxConfig : Option Errno
  rxPrep : Bool
  txConfig : Option Errno
  txPrep : Bool
  rxSubmit : Option Errno
  txSubmit : Option Errno
  rxResult : Option Result
  txResult : Option Result
deriving DecidableEq, Repr

/-- `msg->status`: `-EINPROGRESS`, `0`, or another error. -/
inductive Status where
  | inProgress
  | ok
  | error (e : Errno)
deriving DecidableEq, Repr

/-- The message, with the exchanges handed to the DMA engine (newest first;
each the transfers it carries) and the calls of `spi_finalize_current_message`. -/
structure Msg where
  status : Status
  actualLength : Nat
  exchanges : List (List Nat)
  finalized : Nat
deriving DecidableEq, Repr

/-- As the SPI core hands it over. -/
def Msg.start : Msg := ⟨.inProgress, 0, [], 0⟩

def Result.clean (r : Result) : Bool := !r.aborted && r.residue == 0

/-- `actual_length += n` on an `unsigned int` -/
def Msg.addLength (m : Msg) (n : Nat) : Msg :=
  { m with actualLength := (m.actualLength + n) % 2 ^ 32 }

def Transfer.hasData (t : Transfer) : Bool := (t.txBuf || t.rxBuf) && t.len != 0

/-! ## The write-then-read pair -/

/-- mirrors phase55/modules/spi-geni-qcom.c:772-794 (`spi_geni_sp11_qspi_is_read_pair`)
on an SP11 QSPI controller in GPI mode -/
def isReadPair : List Transfer → Bool
  | [first, second] => first.txBuf && !first.rxBuf && second.rxBuf && first.len != 0 && second.len != 0
  | _ => false

/-- The set-up errors of the pair, in the order they are checked. -/
def pairSetup (d : Dma) : Option Errno :=
  d.clk <|> d.rxConfig <|> (if d.rxPrep then none else some Errno.EIO) <|> d.txConfig <|>
    (if d.txPrep then none else some Errno.EIO) <|> d.rxSubmit <|> d.txSubmit

/-- mirrors phase55/modules/spi-geni-qcom.c:601-770 (`spi_geni_sp11_qspi_submit_read_pair`) -/
def submitReadPair (d : Dma) (tx rx : Transfer) (m : Msg) : Msg :=
  match pairSetup d with
  | some e => { m with status := .error e }
  | none =>
    let m := { m with exchanges := [0, 1] :: m.exchanges }
    match d.rxResult, d.txResult with
    | none, _ => { m with status := .error .ETIMEDOUT }
    | some _, none => { m with status := .error .ETIMEDOUT }
    | some r, some t =>
      if !t.clean || !r.clean then { m with status := .error Errno.EIO }
      else
        let m := if m.status = .inProgress then { m with status := .ok } else m
        if m.status = .ok then m.addLength (tx.len + rx.len) else m

/-! ## Transfer by transfer -/

/-- mirrors phase55/modules/spi-geni-qcom.c:503-526 (`spi_gsi_callback_result`) -/
def callbackResult (r : Result) (m : Msg) : Msg :=
  { m with status := if r.clean then .ok else .error Errno.EIO }

/-- mirrors phase55/modules/spi-geni-qcom.c:865-964 (`setup_gsi_xfer`): the
errors it returns; the outcomes of `dmaengine_slave_config` and
`dmaengine_submit` are not looked at. -/
def setupGsiXfer (d : Dma) (t : Transfer) : Option Errno :=
  if d.abortPending then some .EBUSY
  else match d.clk with
    | some e => some e
    | none => if t.rxBuf && !d.rxPrep then some Errno.EIO else if !d.txPrep then some Errno.EIO else none

/-- The TX callback that comes in time; a descriptor that was not submitted has none. -/
def callback (d : Dma) : Option Result := if d.txSubmit.isSome then none else d.txResult

/-- mirrors phase55/modules/spi-geni-qcom.c:812-850 (one transfer with data);
the message and the value of `ret`. -/
def transferOne (d : Dma) (i : Nat) (t : Transfer) (m : Msg) : Msg × Option Errno :=
  match setupGsiXfer d t with
  | some e => (m, some e)
  | none =>
    let m := { m with exchanges := [i] :: m.exchanges }
    match callback d with
    | some r => (callbackResult r m, none)
    | none => (m, some .ETIMEDOUT)

/-- mirrors phase55/modules/spi-geni-qcom.c:811-855 (the transfer list, from its
`i`-th entry on) -/
def transferLoop (w : Nat → Dma) : Nat → List Transfer → Msg → Msg × Option Errno
  | _, [], m => (m, none)
  | i, t :: ts, m =>
    if t.hasData then
      match transferOne (w i) i t m with
      | (m, some e) => (m, some e)
      | (m, none) =>
        if m.status ≠ .inProgress then (m, none) else transferLoop w (i + 1) ts (m.addLength t.len)
    else if m.status ≠ .inProgress then (m, none)
    else transferLoop w (i + 1) ts (m.addLength t.len)

/-- `msg->status = ret` -/
def Status.ofRet : Option Errno → Status
  | none => .ok
  | some e => .error e

/-- mirrors phase55/modules/spi-geni-qcom.c:796-863
(`spi_geni_sp11_qspi_transfer_one_message`) -/
def transferOneMessage (w : Nat → Dma) (transfers : List Transfer) (m : Msg) : Msg :=
  match isReadPair transfers, transfers with
  | true, [tx, rx] =>
    let m := submitReadPair (w 0) tx rx m
    { m with finalized := m.finalized + 1 }
  | _, _ =>
    let (m, ret) := transferLoop w 0 transfers m
    let m := if m.status = .inProgress then { m with status := .ofRet ret } else m
    { m with finalized := m.finalized + 1 }

/-! ## What the message should report -/

/-- The entries that carry data, from number `i` on. -/
def dataIndices : Nat → List Transfer → List Nat
  | _, [] => []
  | i, t :: ts => if t.hasData then i :: dataIndices (i + 1) ts else dataIndices (i + 1) ts

def totalLength (transfers : List Transfer) : Nat := (transfers.map (·.len)).sum

/-- Each of its descriptors was submitted and finished without error and residue. -/
def Completed (w : Nat → Dma) (transfers : List Transfer) (i : Nat) : Prop :=
  if isReadPair transfers then
    (i = 0 → (w 0).txSubmit = none ∧ ∃ r, (w 0).txResult = some r ∧ r.clean = true) ∧
    (i = 1 → (w 0).rxSubmit = none ∧ ∃ r, (w 0).rxResult = some r ∧ r.clean = true)
  else (w i).txSubmit = none ∧ (∃ r, (w i).txResult = some r ∧ r.clean = true) ∧
    ∀ t, transfers[i]? = some t → t.rxBuf = true →
      (w i).rxSubmit = none ∧ ∃ r, (w i).rxResult = some r ∧ r.clean = true

/-- Every entry with data was handed over, in list order, and completed. -/
def AllMoved (w : Nat → Dma) (transfers : List Transfer) (m : Msg) : Prop :=
  m.exchanges.reverse.flatten = dataIndices 0 transfers ∧
    ∀ i ∈ dataIndices 0 transfers, Completed w transfers i

/-- Finalised once; success means that all data moved and `actual_length` is
the total; anything else is an error. -/
structure Honest (w : Nat → Dma) (transfers : List Transfer) (m : Msg) : Prop where
  once : m.finalized = 1
  success : m.status = .ok →
    AllMoved w transfers m ∧ m.actualLength = totalLength transfers % 2 ^ 32
  failure : ¬ AllMoved w transfers m → ∃ e, m.status = .error e

/-- The callback of transfer `t` tells the message that it succeeded. -/
def ReportsSuccess (d : Dma) (t : Transfer) : Prop :=
  setupGsiXfer d t = none ∧ ∃ r, callback d = some r ∧ r.clean = true

/-- The transfers from the first one with data on, with its number. -/
def fromData : Nat → List Transfer → Option (Nat × List Transfer)
  | _, [] => none
  | i, t :: ts => if t.hasData then some (i, t :: ts) else fromData (i + 1) ts

/-- The first transfer with data, if any, does not report success; or all
there is to send is that transfer, and `actual_length` cannot tell. -/
def LoopHonest (w : Nat → Dma) (transfers : List Transfer) : Prop :=
  match fromData 0 transfers with
  | none => True
  | some (_, []) => True
  | some (i, t :: ts) => ¬ ReportsSuccess (w i) t ∨
      (dataIndices (i + 1) ts = [] ∧ Completed w transfers i ∧ totalLength (t :: ts) % 2 ^ 32 = 0)

def HonestWhen (w : Nat → Dma) (transfers : List Transfer) : Prop :=
  isReadPair transfers = true ∨ LoopHonest w transfers

/-! ## The transfers before the first one with data -/

theorem addLength_add (m : Msg) (a b : Nat) : (m.addLength a).addLength b =
    m.addLength (a + b) := by
  simp [Msg.addLength, Nat.add_assoc]

theorem addLength_zero {m : Msg} (h : m.actualLength < 2 ^ 32) : m.addLength 0 = m := by
  unfold Msg.addLength
  rw [Nat.add_zero, Nat.mod_eq_of_lt h]

theorem addLength_lt (m : Msg) (n : Nat) : (m.addLength n).actualLength < 2 ^ 32 :=
  Nat.mod_lt _ (by decide)

theorem totalLength_cons (t : Transfer) (ts : List Transfer) :
    totalLength (t :: ts) = t.len + totalLength ts := by simp [totalLength]

/-- The transfer list up to the first transfer with data. -/
theorem fromData_split : ∀ {ts l : List Transfer} {i j : Nat}, fromData i ts = some (j, l) →
    ∃ pre t rest, ts = pre ++ t :: rest ∧ l = t :: rest ∧ j = i + pre.length ∧ t.hasData = true ∧
      ∀ x ∈ pre, x.hasData = false
  | t :: ts, l, i, j, h => by
    simp only [fromData] at h
    split at h
    · next hd =>
      cases h
      exact ⟨[], t, ts, rfl, rfl, rfl, hd, nofun⟩
    · next hd =>
      obtain ⟨pre, u, rest, rfl, rfl, rfl, hu, hpre⟩ := fromData_split h
      refine ⟨t :: pre, u, rest, rfl, rfl, by simp; omega, hu, ?_⟩
      intro x hx
      rcases List.mem_cons.mp hx with rfl | hx
      · simpa using hd
      · exact hpre x hx

theorem fromData_none : ∀ {ts : List Transfer} {i : Nat}, fromData i ts = none →
    ∀ x ∈ ts, x.hasData = false
  | t :: ts, i, h, x, hx => by
    simp only [fromData] at h
    split at h
    · cases h
    · next hd =>
      rcases List.mem_cons.mp hx with rfl | hx
      · simpa using hd
      · exact fromData_none h x hx

/-- Transfers without data only add their length. -/
theorem transferLoop_skip (w : Nat → Dma) (l : List Transfer) : ∀ (pre : List Transfer) (i : Nat)
    (m : Msg),
    (∀ x ∈ pre, x.hasData = false) → m.status = .inProgress → m.actualLength < 2 ^ 32 →
    transferLoop w i (pre ++ l) m = transferLoop w (i + pre.length) l
      (m.addLength (totalLength pre))
  | [], i, m, _, _, hlt => by simp [totalLength, addLength_zero hlt]
  | x :: pre, i, m, hpre, hm, hlt => by
    have hx := hpre x List.mem_cons_self
    have ih := transferLoop_skip w l pre (i + 1) (m.addLength x.len)
      (fun y hy => hpre y (List.mem_cons_of_mem _ hy)) hm (addLength_lt _ _)
    simp only [List.cons_append, transferLoop, hx, hm]
    simp only [ne_eq, not_true_eq_false, if_false, Bool.false_eq_true, ih, addLength_add,
      totalLength_cons, List.length_cons]
    rw [show i + (pre.length + 1) = i + 1 + pre.length by omega]

theorem dataIndices_skip (l : List Transfer) : ∀ (pre : List Transfer) (i : Nat),
    (∀ x ∈ pre, x.hasData = false) → dataIndices i (pre ++ l) = dataIndices (i + pre.length) l
  | [], i, _ => rfl
  | x :: pre, i, hpre => by
    have hx := hpre x List.mem_cons_self
    have ih := dataIndices_skip l pre (i + 1) fun y hy => hpre y (List.mem_cons_of_mem _ hy)
    simp only [List.cons_append, dataIndices, hx, ih, List.length_cons]
    simp only [Bool.false_eq_true, if_false]
    rw [show i + (pre.length + 1) = i + 1 + pre.length by omega]

theorem totalLength_append (l l' : List Transfer) : totalLength (l ++ l') =
    totalLength l + totalLength l' := by
  simp [totalLength]

/-! ## The first transfer with data -/

/-- The loop ends with the first transfer with data: its callback has
written the status the loop goes on by. -/
theorem transferLoop_data (w : Nat → Dma) (i : Nat) (t : Transfer) (ts : List Transfer) (m : Msg)
    (ht : t.hasData = true) :
    transferLoop w i (t :: ts) m = transferOne (w i) i t m := by
  simp only [transferLoop, ht, if_true]
  unfold transferOne
  cases setupGsiXfer (w i) t with
  | some e => rfl
  | none =>
    cases callback (w i) with
    | none => rfl
    | some r =>
      simp only [callbackResult]
      by_cases hc : r.clean = true
      · simp only [if_pos hc]; rfl
      · simp only [if_neg hc]; rfl

theorem transferOne_success {d : Dma} {i : Nat} {t : Transfer} {m : Msg} (h : ReportsSuccess d t) :
    transferOne d i t m = ({ m with exchanges := [i] :: m.exchanges, status := .ok }, none) := by
  obtain ⟨hs, r, hr, hc⟩ := h
  simp [transferOne, hs, hr, callbackResult, hc]

/-- A transfer that does not report success leaves an error behind. -/
theorem transferOne_failure {d : Dma} {i : Nat} {t : Transfer} {m : Msg}
    (hm : m.status = .inProgress)
    (h : ¬ ReportsSuccess d t) : ∃ e, (transferOne d i t m).1.status = .error e ∨
      ((transferOne d i t m).1.status = .inProgress ∧ (transferOne d i t m).2 = some e) := by
  unfold transferOne
  cases hs : setupGsiXfer d t with
  | some e => exact ⟨e, Or.inr ⟨hm, rfl⟩⟩
  | none =>
    cases hcb : callback d with
    | none => exact ⟨.ETIMEDOUT, Or.inr ⟨hm, rfl⟩⟩
    | some r =>
      have hc : r.clean = false := by
        cases hc : r.clean with
        | false => rfl
        | true => exact absurd ⟨hs, r, hcb, hc⟩ h
      exact ⟨ Errno.EIO, Or.inl (by simp [callbackResult, hc])⟩

/-! ## The whole message -/

/-- The message after the transfer list, on a controller that found no pair. -/
def finishLoop (r : Msg × Option Errno) : Msg :=
  let m := if r.1.status = .inProgress then { r.1 with status := .ofRet r.2 } else r.1
  { m with finalized := m.finalized + 1 }

theorem transferOneMessage_loop {w : Nat → Dma} {transfers : List Transfer}
    (h : isReadPair transfers = false) (m : Msg) :
    transferOneMessage w transfers m = finishLoop (transferLoop w 0 transfers m) := by
  unfold transferOneMessage
  rw [h]
  rfl

theorem transferOne_finalized (d : Dma) (i : Nat) (t : Transfer) (m : Msg) :
    (transferOne d i t m).1.finalized = m.finalized := by
  unfold transferOne
  cases setupGsiXfer d t with
  | some e => rfl
  | none => cases callback d <;> rfl

theorem finishLoop_finalized (r : Msg × Option Errno) :
    (finishLoop r).finalized = r.1.finalized + 1 := by
  unfold finishLoop
  simp only
  split <;> rfl

theorem finishLoop_failure {r : Msg × Option Errno} {e : Errno}
    (h : r.1.status = .error e ∨ (r.1.status = .inProgress ∧ r.2 = some e)) :
    (finishLoop r).status = .error e := by
  unfold finishLoop
  rcases h with h | ⟨h, hret⟩
  · simp [h]
  · simp [h, hret, Status.ofRet]

theorem pair_shape {transfers : List Transfer} (h : isReadPair transfers = true) :
    ∃ tx rx, transfers = [tx, rx] ∧ tx.hasData = true ∧ rx.hasData = true := by
  unfold isReadPair at h
  split at h
  · next tx rx =>
    simp only [Bool.and_eq_true, bne_iff_ne, ne_eq] at h
    obtain ⟨⟨⟨⟨h1, _⟩, h3⟩, h4⟩, h5⟩ := h
    exact ⟨tx, rx, rfl, by simp [Transfer.hasData, h1, h4], by simp [Transfer.hasData, h3, h5]⟩
  · cases h

theorem pairSetup_none {d : Dma} (h : pairSetup d = none) : d.rxSubmit = none ∧
    d.txSubmit = none := by
  unfold pairSetup at h
  simp only [Option.orElse_eq_orElse, Option.orElse_eq_or, Option.or_eq_none_iff] at h
  exact ⟨h.2.2.2.2.2.1, h.2.2.2.2.2.2⟩

/-- The pair path is honest on every outcome. -/
theorem pair_honest {w : Nat → Dma} {transfers : List Transfer} (h : isReadPair transfers = true) :
    Honest w transfers (transferOneMessage w transfers .start) := by
  obtain ⟨tx, rx, rfl, htx, hrx⟩ := pair_shape h
  have hidx : dataIndices 0 [tx, rx] = [0, 1] := by simp [dataIndices, htx, hrx]
  have hrun : transferOneMessage w [tx, rx] .start =
      { submitReadPair (w 0) tx rx .start with
      finalized := (submitReadPair (w 0) tx rx .start).finalized + 1 } := by
    simp only [transferOneMessage, h]
  rw [hrun]
  have herr : ∀ {m : Msg} {e : Errno}, m.status = .error e → m.finalized = 1 →
    Honest w [tx, rx] m :=
    fun he hf => ⟨hf, fun hok => (by rw [he] at hok; exact nomatch hok), fun _ => ⟨_, he⟩⟩
  unfold submitReadPair
  cases hs : pairSetup (w 0) with
  | some e => exact herr rfl rfl
  | none =>
    obtain ⟨hrs, hts⟩ := pairSetup_none hs
    cases hr : (w 0).rxResult with
    | none => exact herr rfl rfl
    | some r =>
      cases ht : (w 0).txResult with
      | none => exact herr rfl rfl
      | some t =>
        by_cases hc : (!t.clean || !r.clean) = true
        · simp only [hc, if_true]; exact herr rfl rfl
        · simp only [hc]
          simp only [Bool.or_eq_true, not_or, Bool.not_eq_true', Bool.not_eq_false] at hc
          have hmoved : ∀ n, AllMoved w [tx, rx] ⟨.ok, n, [[0, 1]], 1⟩ := by
            refine fun n => ⟨hidx.symm, fun i _ => ?_⟩
            unfold Completed
            rw [if_pos h]
            exact ⟨fun _ => ⟨hts, t, ht, hc.1⟩, fun _ => ⟨hrs, r, hr, hc.2⟩⟩
          refine ⟨rfl, fun _ => ⟨hmoved _, ?_⟩, fun hn => absurd (hmoved _) hn⟩
          show (0 + (tx.len + rx.len)) % 2 ^ 32 = _
          simp [totalLength]

/-- A list without data is a success, and everything there was moved. -/
theorem loop_nothing_honest {w : Nat → Dma} {transfers : List Transfer}
    (hpre : ∀ x ∈ transfers, x.hasData = false) :
    Honest w transfers (finishLoop (transferLoop w 0 transfers .start)) := by
  have hskip := transferLoop_skip w [] transfers 0 .start hpre rfl (by decide)
  have hidx := dataIndices_skip [] transfers 0 hpre
  rw [List.append_nil] at hskip hidx
  rw [hskip]
  have hmoved : ∀ n, AllMoved w transfers ⟨.ok, n, [], 1⟩ := fun n =>
    ⟨hidx.symm, fun i hi => by rw [hidx] at hi; cases hi⟩
  refine ⟨rfl, fun _ => ⟨hmoved _, ?_⟩, fun hn => absurd (hmoved _) hn⟩
  show (0 + totalLength transfers) % 2 ^ 32 = _
  rw [Nat.zero_add]

/-- The first transfer with data reports a failure: the message has it. -/
theorem first_failure_honest {w : Nat → Dma} {transfers : List Transfer} {j n : Nat} {t : Transfer}
    (h : ¬ ReportsSuccess (w j) t) :
    Honest w transfers (finishLoop (transferOne (w j) j t (Msg.start.addLength n))) := by
  obtain ⟨e, he⟩ := transferOne_failure (i := j) (m := Msg.start.addLength n) rfl h
  have hst := finishLoop_failure he
  refine ⟨?_, fun hok => ?_, fun _ => ⟨e, hst⟩⟩
  · rw [finishLoop_finalized, transferOne_finalized]; rfl
  · rw [hst] at hok; cases hok

/-- The first transfer with data reports success: the loop ends there, with
the length of the transfers before it. -/
theorem first_success_honest_iff {w : Nat → Dma} {pre rest : List Transfer} {j : Nat} {t : Transfer}
    (h : ReportsSuccess (w j) t)
    (hidx : dataIndices 0 (pre ++ t :: rest) = j :: dataIndices (j + 1) rest) :
    Honest w (pre ++ t :: rest) (finishLoop (transferOne (w j) j t
      (Msg.start.addLength (totalLength pre)))) ↔
      dataIndices (j + 1) rest = [] ∧ Completed w (pre ++ t :: rest) j ∧
        totalLength (t :: rest) % 2 ^ 32 = 0 := by
  have hfin : finishLoop (transferOne (w j) j t (Msg.start.addLength (totalLength pre))) =
      ⟨.ok, totalLength pre % 2 ^ 32, [[j]], 1⟩ := by
    rw [transferOne_success h]
    simp [finishLoop, Msg.addLength, Msg.start]
  have hsum : totalLength pre % 2 ^ 32 = totalLength (pre ++ t :: rest) % 2 ^ 32 ↔
      totalLength (t :: rest) % 2 ^ 32 = 0 := by
    rw [totalLength_append]; omega
  have hmoved : ∀ n, AllMoved w (pre ++ t :: rest) ⟨.ok, n, [[j]], 1⟩ ↔
      dataIndices (j + 1) rest = [] ∧ Completed w (pre ++ t :: rest) j := by
    intro n
    unfold AllMoved
    rw [hidx]
    refine ⟨fun ⟨he, hall⟩ => ?_, fun ⟨he, hj⟩ => ?_⟩
    · simp only [List.reverse_singleton, List.flatten_singleton, List.cons.injEq, true_and] at he
      exact ⟨he.symm, hall j List.mem_cons_self⟩
    · rw [he]
      exact ⟨rfl, fun i hi => by rw [List.mem_singleton.mp hi]; exact hj⟩
  rw [hfin]
  refine ⟨fun hh => ?_, fun ⟨h1, h2, h3⟩ => ?_⟩
  · obtain ⟨h1, h2⟩ := hh.success rfl
    exact ⟨((hmoved _).mp h1).1, ((hmoved _).mp h1).2, hsum.mp h2⟩
  · have hm := (hmoved (totalLength pre % 2 ^ 32)).mpr ⟨h1, h2⟩
    exact ⟨rfl, fun _ => ⟨hm, hsum.mpr h3⟩, fun hn => absurd hm hn⟩

theorem loop_honest_iff {w : Nat → Dma} {transfers : List Transfer}
    (h : isReadPair transfers = false) :
    Honest w transfers (transferOneMessage w transfers .start) ↔ LoopHonest w transfers := by
  rw [transferOneMessage_loop h]
  unfold LoopHonest
  cases hf : fromData 0 transfers with
  | none => exact iff_of_true (loop_nothing_honest (fromData_none hf)) trivial
  | some jl =>
    obtain ⟨j, l⟩ := jl
    obtain ⟨pre, t, rest, rfl, rfl, rfl, ht, hpre⟩ := fromData_split hf
    rw [transferLoop_skip w (t :: rest) pre 0 .start hpre rfl (by decide),
      transferLoop_data _ _ _ _ _ ht]
    have hidx : dataIndices 0 (pre ++ t :: rest) = (0 + pre.length) :: dataIndices
      (0 + pre.length + 1) rest := by
      rw [dataIndices_skip _ _ _ hpre]; simp [dataIndices, ht]
    simp only
    by_cases hrep : ReportsSuccess (w (0 + pre.length)) t
    · rw [first_success_honest_iff hrep hidx]
      exact ⟨Or.inr, fun hor => hor.resolve_left (not_not_intro hrep)⟩
    · exact iff_of_true (first_failure_honest hrep) (Or.inl hrep)

/-- For every message and every outcome of its transfers. -/
theorem transferOneMessage_honest_iff (w : Nat → Dma) (transfers : List Transfer) :
    Honest w transfers (transferOneMessage w transfers .start) ↔ HonestWhen w transfers := by
  unfold HonestWhen
  cases h : isReadPair transfers with
  | true => exact ⟨fun _ => Or.inl rfl, fun _ => pair_honest h⟩
  | false => rw [loop_honest_iff h]; simp

/-- A transfer that meets no error. -/
def smooth : Dma :=
  ⟨false, none, none, true, none, true, none, none, some ⟨false, 0⟩, some ⟨false, 0⟩⟩

/-- Two one-byte writes, nothing fails: the second is never sent, the status
is 0 and the length 0. -/
theorem second_write_never_sent :
    transferOneMessage (fun _ => smooth) [⟨true, false, 1⟩, ⟨true, false, 1⟩] .start =
    ⟨.ok, 0, [[0]], 1⟩ ∧
    ¬ Honest (fun _ => smooth) [⟨true, false, 1⟩, ⟨true, false, 1⟩]
      (transferOneMessage (fun _ => smooth) [⟨true, false, 1⟩, ⟨true, false, 1⟩] .start) := by
  have hrun : transferOneMessage (fun _ => smooth) [⟨true, false, 1⟩, ⟨true, false, 1⟩] .start =
      ⟨.ok, 0, [[0]], 1⟩ := by decide
  refine ⟨hrun, fun h => ?_⟩
  rw [hrun] at h
  exact absurd (h.success rfl).1.1 (by decide)

end Sp11Touch.Spi
