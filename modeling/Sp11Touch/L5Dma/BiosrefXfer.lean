import Sp11Touch.Core.Bytes
/-!
# The polled FIFO transfer (`qcom_geni_spi_biosref_xfer`)

The transfer polls the interrupt status, fills the TX FIFO, empties the RX FIFO
by its status word and ends at DONE, at an error or at the deadline. The RX
status gives a word count and, for the last word, how many of its bytes are
valid; `biosref_read_rx_fifo` takes the invalid ones off without looking
whether there is a word at all.

* `biosrefXfer_sound_iff`: no call stores more than reported, and `0` means a
  complete transfer, iff no status read while bytes are missing announces a
  partial last word and no word.
* `biosrefXfer_stale`: there it returns `0` with bytes of a stale word.
-/
namespace Sp11Touch
namespace Biosref
open Bytes

/-- What the FIFOs of the engine look like; a word of them is moved as a `u32`. -/
structure Fifo where
  txDepth : Nat
  widthBits : Nat
  wordFits : widthBits ≤ 32

/-- mirrors src/spi-geni-qcom.c:703-715 (`geni_byte_per_fifo_word`) at 8 bits a transfer word -/
def Fifo.bytesPerWord (fifo : Fifo) : Nat := if fifo.widthBits % 8 ≠ 0 then 1
    else fifo.widthBits / 8

/-- One call of `biosref_read_rx_fifo`: the bytes stored before it, the status word it read, the bytes it stored and
the words it took from the FIFO. -/
structure Read where
  done : Nat
  status : Nat
  stored : Nat
  words : Nat
deriving DecidableEq, Repr

/-- The locals of the loop, with what went through the FIFOs: the bytes of every word written, the bytes stored, the
words read and the read calls. -/
structure State where
  txDone : Nat
  rxDone : Nat
  txWords : List Bytes
  rxBuf : Bytes
  popped : Nat
  reads : List Read
deriving DecidableEq, Repr

/-! ## The FIFOs -/

/-- The `while (max_bytes)` loop of the write; the fuel is `max_bytes`. -/
def writeWords (bytesPerWord : Nat) (buf : Bytes) : Nat → Nat → State → State
  | 0, _, s => s
  | fuel + 1, maxBytes, s =>
    if maxBytes = 0 then s
    else
      let n := min bytesPerWord maxBytes
      writeWords bytesPerWord buf fuel (maxBytes - n)
        { s with txDone := s.txDone + n, txWords := s.txWords ++
        [slice buf s.txDone (s.txDone + n)] }

/-- mirrors src/spi-geni-qcom.c:1171-1194 (`biosref_write_tx_fifo`) -/
def writeTxFifo (fifo : Fifo) (buf : Bytes) (s : State) : State :=
  let maxBytes := (fifo.txDepth + (2 ^ 32 - 1)) * fifo.bytesPerWord % 2 ^ 32
  let maxBytes := min maxBytes (buf.length - s.txDone)
  writeWords fifo.bytesPerWord buf maxBytes maxBytes s

/-- `status & RX_FIFO_WC_MSK` -/
def wordCount (status : Nat) : Nat := status % 2 ^ 25

/-- `status & RX_LAST` -/
def isLast (status : Nat) : Bool := status.testBit 31

/-- `(status & RX_LAST_BYTE_VALID_MSK) >> RX_LAST_BYTE_VALID_SHFT` -/
def lastValid (status : Nat) : Nat := status / 2 ^ 28 % 8

/-- The `size_t available` of the read. -/
def available (bytesPerWord status : Nat) : Nat :=
  let available := wordCount status * bytesPerWord
  if isLast status then
    let valid := lastValid status
    if valid ≠ 0 ∧ valid < bytesPerWord then (available + 2 ^ 64 - (bytesPerWord - valid)) % 2 ^ 64
      else available
  else available

/-- The bytes of a FIFO word in memory. -/
def wordBytes (word : UInt32) : Bytes := pack32 word.toNat

/-- The `while (available)` loop of the read; `fifoWord k` is the `k`-th word that comes out of the FIFO. -/
def readWords (bytesPerWord : Nat) (fifoWord : Nat → UInt32) : Nat → Nat → State → State
  | 0, _, s => s
  | fuel + 1, available, s =>
    if available = 0 then s
    else
      let n := min bytesPerWord available
      readWords bytesPerWord fifoWord fuel (available - n)
        { s with
          rxDone := s.rxDone + n
          rxBuf := s.rxBuf ++ (wordBytes (fifoWord s.popped)).take n
          popped := s.popped + 1 }

/-- mirrors src/spi-geni-qcom.c:1196-1223 and phase55/modules/spi-geni-qcom.c:1720-1747 (`biosref_read_rx_fifo`) -/
def readRxFifo (fifo : Fifo) (fifoWord : Nat → UInt32) (len status : Nat) (s : State) : State :=
  let available := min (available fifo.bytesPerWord status) (len - s.rxDone)
  let s' := readWords fifo.bytesPerWord fifoWord available available s
  { s' with reads := s.reads ++ [⟨s.rxDone, status, s'.rxDone - s.rxDone, s'.popped - s.popped⟩] }

/-! ## The transfer -/

/-- What the caller passes; `none` is `NULL`. -/
structure Request where
  spiSlv : Bool
  txBuf : Option Bytes
  rxBuf : Bool
  rxLen : Nat

/-- One turn of the loop before the deadline: the interrupt status and the RX status words its reads get. -/
structure Turn where
  irqStatus : Nat
  rxStatus : Nat
  drainStatus : Nat

/-- What the transfer meets; `none` is success. -/
structure Engine where
  geniSpi : Bool
  busLock : Option Errno
  resume : Option Errno
  fifoDisabled : Bool
  qspi : Bool
  cmdActive : Nat → Bool
  leftover : Nat → Nat
  fifoParams : Option Errno
  clock : Option Errno
  fifo : Fifo
  fifoWord : Nat → UInt32
  turns : List Turn

/-- A poll finds the command inactive. -/
def idleWithin (cmdActive : Nat → Bool) : Nat → Nat → Bool
  | 0, _ => false
  | n + 1, i => !cmdActive i || idleWithin cmdActive n (i + 1)

/-- The words discarded until the FIFO says it is empty. -/
def discardWithin (leftover : Nat → Nat) : Nat → Nat → Option Nat
  | 0, _ => none
  | n + 1, i => if wordCount (leftover i) = 0 then some i else discardWithin leftover n (i + 1)

/-- mirrors src/spi-geni-qcom.c:1225-1252 (`biosref_prepare_engine`): the words discarded -/
def prepareEngine (e : Engine) : Except Errno Nat :=
  if !e.qspi then .error .EOPNOTSUPP
  else if !idleWithin e.cmdActive 10000 0 then .error .EBUSY
  else match discardWithin e.leftover 256 0 with
    | some discarded => .ok discarded
    | none => .error Errno.EIO

/-- `irq_status & BIOSREF_ERR_IRQS` -/
def errorIrq (irqStatus : Nat) : Bool := [1, 2, 3, 24, 25, 28, 29].any irqStatus.testBit

/-- One turn of the loop; a return code ends it, and `none` in it is `0`. -/
def turn (e : Engine) (txBuf : Bytes) (rxLen : Nat) (t : Turn) (s : State) :
    State × Option (Option Errno) :=
  if t.irqStatus = 0 then (s, none)
  else if errorIrq t.irqStatus then (s, some (some Errno.EIO))
  else
    let s := if t.irqStatus.testBit 30 && decide (s.txDone < txBuf.length) then
      writeTxFifo e.fifo txBuf s else s
    let s := if rxLen != 0 && (t.irqStatus.testBit 26 || t.irqStatus.testBit 27) then
      readRxFifo e.fifo e.fifoWord rxLen t.rxStatus s else s
    if t.irqStatus.testBit 0 then
      let s := if rxLen != 0 && decide (s.rxDone < rxLen) then readRxFifo e.fifo e.fifoWord
        rxLen t.drainStatus s else s
      (s, some (if s.txDone = txBuf.length ∧ (rxLen = 0 ∨ s.rxDone = rxLen) then none
        else some .EPROTO))
    else (s, none)

/-- The loop, up to the deadline. -/
def pollLoop (e : Engine) (txBuf : Bytes) (rxLen : Nat) : List Turn → State → State × Option Errno
  | [], s => (s, some .ETIMEDOUT)
  | t :: ts, s =>
    match turn e txBuf rxLen t s with
    | (s, some ret) => (s, ret)
    | (s, none) => pollLoop e txBuf rxLen ts s

def State.start (popped : Nat) : State := ⟨0, 0, [], [], popped, []⟩

/-- mirrors src/spi-geni-qcom.c:1254-1403 and phase55/modules/spi-geni-qcom.c:1781-1928 (`qcom_geni_spi_biosref_xfer`);
the second has no transfers without a read (`writeOnly = false`) -/
def biosrefXfer (writeOnly : Bool) (r : Request) (e : Engine) : State × Option Errno :=
  match r.txBuf with
  | none => (.start 0, some .EINVAL)
  | some txBuf =>
    if !r.spiSlv || txBuf.length = 0 || r.rxBuf != (r.rxLen != 0) ||
      (!writeOnly && r.rxLen = 0) then
      (.start 0, some .EINVAL)
    else if txBuf.length > 2 ^ 24 - 1 || r.rxLen > 2 ^ 24 - 1 then (.start 0, some .EMSGSIZE)
    else if !e.geniSpi then (.start 0, some .EOPNOTSUPP)
    else match e.busLock with
    | some code => (.start 0, some code)
    | none => match e.resume with
    | some code => (.start 0, some code)
    | none =>
      if e.fifoDisabled then (.start 0, some .EOPNOTSUPP)
      else match prepareEngine e with
      | .error code => (.start 0, some code)
      | .ok discarded => match e.fifoParams with
      | some code => (.start discarded, some code)
      | none => match e.clock with
      | some code => (.start discarded, some code)
      | none => pollLoop e txBuf r.rxLen e.turns (.start discarded)

/-! ## What a status word reports -/

/-- The bytes that the status word reports: its words, less the invalid bytes of a partial last one. -/
def reported (bytesPerWord status : Nat) : Nat :=
  wordCount status * bytesPerWord -
    (if isLast status ∧ lastValid status ≠ 0 ∧ lastValid status < bytesPerWord then bytesPerWord -
    lastValid status else 0)

/-- A partial last word and no word. -/
structure EmptyLast (bytesPerWord status : Nat) : Prop where
  last : isLast status = true
  partly : lastValid status ≠ 0 ∧ lastValid status < bytesPerWord
  empty : wordCount status = 0

theorem Fifo.bytesPerWord_le (fifo : Fifo) : fifo.bytesPerWord ≤ 4 := by
  have := fifo.wordFits
  unfold Fifo.bytesPerWord
  split
  · omega
  · omega

/-- The words a number of bytes takes. -/
def wordsFor (bytesPerWord n : Nat) : Nat := (n + bytesPerWord - 1) / bytesPerWord

section Words

variable {bytesPerWord status n k : Nat}

theorem available_zero : available 0 status = 0 := by simp [available]

theorem available_eq (hb : bytesPerWord ≤ 4) (h : ¬ EmptyLast bytesPerWord status) :
    available bytesPerWord status = reported bytesPerWord status := by
  have hcount : wordCount status < 2 ^ 25 := Nat.mod_lt _ (by decide)
  have hprod : wordCount status * bytesPerWord ≤ wordCount status * 4 := Nat.mul_le_mul_left _ hb
  unfold available reported
  by_cases hl : isLast status = true
  · by_cases hv : lastValid status ≠ 0 ∧ lastValid status < bytesPerWord
    · have hsome : 0 < wordCount status := Nat.pos_of_ne_zero fun h0 => h ⟨hl, hv, h0⟩
      have hword : bytesPerWord ≤ wordCount status * bytesPerWord := Nat.le_mul_of_pos_left _ hsome
      simp only [hl, hv, if_true, ne_eq, not_false_eq_true, and_self]
      omega
    · simp only [hl, hv, if_true, if_false, and_false, Nat.sub_zero]
  · simp only [hl, if_false, false_and, Nat.sub_zero, Bool.false_eq_true]

theorem available_empty (hb : bytesPerWord ≤ 4) (h : EmptyLast bytesPerWord status) :
    2 ^ 64 - 4 ≤ available bytesPerWord status ∧ reported bytesPerWord status = 0 := by
  have hpartly := h.partly
  unfold available reported
  simp only [h.last, h.partly, h.empty, if_true, ne_eq, not_false_eq_true, and_self, Nat.zero_mul,
    Nat.zero_sub, and_true]
  rw [Nat.mod_eq_of_lt (by omega)]
  omega

theorem wordsFor_zero : wordsFor bytesPerWord 0 = 0 := by
  unfold wordsFor
  rcases Nat.eq_zero_or_pos bytesPerWord with rfl | hb
  · rfl
  · exact Nat.div_eq_of_lt (by omega)

theorem wordsFor_step (hb : 0 < bytesPerWord) (hn : n ≠ 0) :
    wordsFor bytesPerWord n = wordsFor bytesPerWord (n - min bytesPerWord n) + 1 := by
  unfold wordsFor
  rcases Nat.le_total n bytesPerWord with hle | hle
  · rw [Nat.min_eq_right hle, Nat.sub_self, Nat.div_eq_of_lt
      (by omega : 0 + bytesPerWord - 1 < bytesPerWord)]
    exact Nat.div_eq_of_lt_le (by omega) (by omega)
  · rw [Nat.min_eq_left hle, ← Nat.add_div_right _ hb]
    congr 1
    omega

theorem wordsFor_le (h : n ≤ k * bytesPerWord) : wordsFor bytesPerWord n ≤ k := by
  rcases Nat.eq_zero_or_pos bytesPerWord with rfl | hb
  · simp [wordsFor]
  · unfold wordsFor
    rw [← Nat.lt_succ_iff, Nat.div_lt_iff_lt_mul hb, Nat.succ_mul]
    omega

end Words

/-! ## One call -/

theorem slice_take {buf : Bytes} {d n : Nat} :
    buf.take d ++ slice buf d (d + n) = buf.take (d + n) := by
  unfold slice
  rw [Nat.add_sub_cancel_left, List.take_add]

theorem writeWords_spec {bytesPerWord : Nat} {buf : Bytes} {fuel maxBytes : Nat} (s : State)
    (hfuel : maxBytes ≤ fuel)
    (hb : 0 < bytesPerWord ∨ maxBytes = 0) :
    ∃ words, writeWords bytesPerWord buf fuel maxBytes s =
      { s with txDone := s.txDone + maxBytes, txWords := words } ∧
      (s.txWords.flatten = buf.take s.txDone → words.flatten = buf.take (s.txDone + maxBytes)) := by
  induction fuel generalizing maxBytes s with
  | zero =>
    obtain rfl : maxBytes = 0 := Nat.le_zero.mp hfuel
    exact ⟨s.txWords, rfl, id⟩
  | succ fuel ih =>
    by_cases h0 : maxBytes = 0
    · subst h0
      exact ⟨s.txWords, rfl, id⟩
    · have hpos := hb.resolve_right h0
      have hmin : min bytesPerWord maxBytes ≤ maxBytes := Nat.min_le_right _ _
      have hone : 1 ≤ min bytesPerWord maxBytes := by omega
      generalize hn : min bytesPerWord maxBytes = n at hmin hone
      obtain ⟨words, hrun, hbytes⟩ := ih { s with txDone := s.txDone + n, txWords := s.txWords ++ [slice buf s.txDone (s.txDone + n)] }
        (show maxBytes - n ≤ fuel by omega) (Or.inl hpos)
      have hsum : s.txDone + n + (maxBytes - n) = s.txDone + maxBytes := by omega
      refine ⟨words, ?_, fun h => ?_⟩
      · rw [writeWords, if_neg h0]
        simp only [hn, hrun, hsum]
      · rw [← hsum]
        refine hbytes ?_
        simp only [List.flatten_append, List.flatten_cons, List.flatten_nil, List.append_nil,
          h, slice_take]

theorem readWords_spec {bytesPerWord : Nat} (fifoWord : Nat → UInt32) {fuel count : Nat} (s : State)
    (hfuel : count ≤ fuel)
    (hb : 0 < bytesPerWord ∨ count = 0) (hle : bytesPerWord ≤ 4) :
    ∃ bytes, readWords bytesPerWord fifoWord fuel count s =
        { s with rxDone := s.rxDone + count, rxBuf := s.rxBuf ++ bytes, popped := s.popped + wordsFor bytesPerWord count } ∧
      bytes.length = count := by
  induction fuel generalizing count s with
  | zero =>
    obtain rfl : count = 0 := Nat.le_zero.mp hfuel
    exact ⟨[], by simp [readWords, wordsFor_zero], rfl⟩
  | succ fuel ih =>
    by_cases h0 : count = 0
    · subst h0
      exact ⟨[], by simp [readWords, wordsFor_zero], rfl⟩
    · have hpos := hb.resolve_right h0
      have hwords := wordsFor_step hpos h0
      have hmin : min bytesPerWord count ≤ count := Nat.min_le_right _ _
      have hfour : min bytesPerWord count ≤ 4 := Nat.le_trans (Nat.min_le_left _ _) hle
      have hone : 1 ≤ min bytesPerWord count := by omega
      generalize hn : min bytesPerWord count = n at hmin hone hwords hfour
      obtain ⟨bytes, hrun, hlen⟩ := ih
        { s with
          rxDone := s.rxDone + n
          rxBuf := s.rxBuf ++ (wordBytes (fifoWord s.popped)).take n
          popped := s.popped + 1 } (show count - n ≤ fuel by omega) (Or.inl hpos)
      refine ⟨(wordBytes (fifoWord s.popped)).take n ++ bytes, ?_, ?_⟩
      · rw [readWords, if_neg h0]
        simp only [hn, hrun, hwords, List.append_assoc, State.mk.injEq, and_true, true_and]
        omega
      · rw [List.length_append, List.length_take, hlen]
        simp only [wordBytes, pack32_length]
        omega

/-- The words a write call has room for, the bytes a read call takes. -/
theorem bytesPerWord_pos (fifo : Fifo) (k : Nat) : 0 < fifo.bytesPerWord ∨
    k * fifo.bytesPerWord = 0 := by
  rcases Nat.eq_zero_or_pos fifo.bytesPerWord with h | h
  · exact Or.inr (by rw [h, Nat.mul_zero])
  · exact Or.inl h

/-- The state of the loop: the bytes sent are the first of the buffer, and every read call stored what it took for
available. -/
structure Inv (fifo : Fifo) (txBuf : Bytes) (rxLen : Nat) (s : State) : Prop where
  sent : s.txWords.flatten = txBuf.take s.txDone
  txDone : s.txDone ≤ txBuf.length
  rxDone : s.rxDone ≤ rxLen
  rxBuf : s.rxBuf.length = s.rxDone
  total : s.rxDone = (s.reads.map Read.stored).sum
  reads : ∀ read ∈ s.reads, read.stored = min (available fifo.bytesPerWord read.status)
    (rxLen - read.done) ∧
    read.words = wordsFor fifo.bytesPerWord read.stored

section Calls

variable {fifo : Fifo} {txBuf : Bytes} {rxLen : Nat} {s : State}

theorem Inv.start (fifo : Fifo) (txBuf : Bytes) (rxLen popped : Nat) :
    Inv fifo txBuf rxLen (.start popped) :=
  ⟨rfl, Nat.zero_le _, Nat.zero_le _, rfl, rfl, fun _ h => by cases h⟩

theorem Inv.write (h : Inv fifo txBuf rxLen s) :
    Inv fifo txBuf rxLen (writeTxFifo fifo txBuf s) := by
  have hb : 0 < fifo.bytesPerWord ∨
      min ((fifo.txDepth + (2 ^ 32 - 1)) * fifo.bytesPerWord % 2 ^ 32)
      (txBuf.length - s.txDone) = 0 := by
    rcases bytesPerWord_pos fifo (fifo.txDepth + (2 ^ 32 - 1)) with hb | hb
    · exact Or.inl hb
    · exact Or.inr (by rw [hb, Nat.zero_mod, Nat.zero_min])
  have hle : min ((fifo.txDepth + (2 ^ 32 - 1)) * fifo.bytesPerWord % 2 ^ 32)
    (txBuf.length - s.txDone) ≤
    txBuf.length - s.txDone := Nat.min_le_right _ _
  unfold writeTxFifo
  simp only
  generalize min ((fifo.txDepth + (2 ^ 32 - 1)) * fifo.bytesPerWord % 2 ^ 32)
    (txBuf.length - s.txDone) = maxBytes at hb hle
  obtain ⟨words, hrun, hbytes⟩ := writeWords_spec s (Nat.le_refl maxBytes) hb
  have hdone := h.txDone
  rw [hrun]
  exact ⟨hbytes h.sent, show s.txDone + maxBytes ≤ txBuf.length by omega, h.rxDone, h.rxBuf,
    h.total, h.reads⟩

theorem Inv.read (h : Inv fifo txBuf rxLen s) (fifoWord : Nat → UInt32) (status : Nat) :
    Inv fifo txBuf rxLen (readRxFifo fifo fifoWord rxLen status s) := by
  have hb : 0 < fifo.bytesPerWord ∨ min (available fifo.bytesPerWord status)
    (rxLen - s.rxDone) = 0 := by
    rcases Nat.eq_zero_or_pos fifo.bytesPerWord with hb | hb
    · exact Or.inr (by rw [hb, available_zero, Nat.zero_min])
    · exact Or.inl hb
  have hle : min (available fifo.bytesPerWord status) (rxLen - s.rxDone) ≤ rxLen - s.rxDone :=
    Nat.min_le_right _ _
  unfold readRxFifo
  simp only
  generalize hcount : min (available fifo.bytesPerWord status) (rxLen - s.rxDone) = count at hb hle
  obtain ⟨bytes, hrun, hlen⟩ := readWords_spec fifoWord s (Nat.le_refl count) hb fifo.bytesPerWord_le
  have hdone := h.rxDone
  rw [hrun]
  simp only [Nat.add_sub_cancel_left]
  refine ⟨h.sent, h.txDone, show s.rxDone + count ≤ rxLen by omega, ?_, ?_, fun read hmem => ?_⟩
  · rw [List.length_append, h.rxBuf, hlen]
  · simp only [List.map_append, List.sum_append, List.map_cons, List.map_nil, List.sum_cons,
      List.sum_nil, Nat.add_zero,
      ← h.total]
  · rcases List.mem_append.mp hmem with hold | hnew
    · exact h.reads read hold
    · obtain rfl := List.mem_singleton.mp hnew
      exact ⟨hcount.symm, rfl⟩

end Calls

/-! ## The loop -/

/-- What `0` stands for. -/
def Complete (txBuf : Bytes) (rxLen : Nat) (out : State × Option Errno) : Prop :=
  out.2 = none → out.1.txDone = txBuf.length ∧ out.1.rxDone = rxLen

theorem Inv.turn {e : Engine} {txBuf : Bytes} {rxLen : Nat} {s : State}
    (h : Inv e.fifo txBuf rxLen s) (t : Turn) :
    Inv e.fifo txBuf rxLen (turn e txBuf rxLen t s).1 ∧
      ∀ ret, (Biosref.turn e txBuf rxLen t s).2 = some ret →
      Complete txBuf rxLen ((Biosref.turn e txBuf rxLen t s).1, ret) := by
  unfold Biosref.turn
  split
  · exact ⟨h, fun _ hret => by cases hret⟩
  split
  · refine ⟨h, fun ret hret => ?_⟩
    obtain rfl := Option.some.inj hret
    intro hnone
    cases hnone
  · simp only
    -- the state after the write and after the first read
    generalize hs1 : (if (t.irqStatus.testBit 30 && decide (s.txDone < txBuf.length)) = true then
      writeTxFifo e.fifo txBuf s else s) = s1
    have h1 : Inv e.fifo txBuf rxLen s1 := by
      rw [← hs1]
      split
      · exact h.write
      · exact h
    generalize hs2 : (if (rxLen != 0 && (t.irqStatus.testBit 26 || t.irqStatus.testBit 27)) =
      true then
      readRxFifo e.fifo e.fifoWord rxLen t.rxStatus s1 else s1) = s2
    have h2 : Inv e.fifo txBuf rxLen s2 := by
      rw [← hs2]
      split
      · exact h1.read _ _
      · exact h1
    split
    · generalize hs3 : (if (rxLen != 0 && decide (s2.rxDone < rxLen)) = true then
        readRxFifo e.fifo e.fifoWord rxLen t.drainStatus s2 else s2) = s3
      have h3 : Inv e.fifo txBuf rxLen s3 := by
        rw [← hs3]
        split
        · exact h2.read _ _
        · exact h2
      refine ⟨h3, fun ret hret => ?_⟩
      obtain rfl := Option.some.inj hret
      intro hnone
      split at hnone
      · next hall =>
        have := h3.rxDone
        exact ⟨hall.1, hall.2.elim (fun h0 => show s3.rxDone = rxLen by omega) id⟩
      · cases hnone
    · exact ⟨h2, fun _ hret => by cases hret⟩

theorem pollLoop_inv {e : Engine} {txBuf : Bytes} {rxLen : Nat} (turns : List Turn) {s : State}
    (h : Inv e.fifo txBuf rxLen s) :
    Inv e.fifo txBuf rxLen (pollLoop e txBuf rxLen turns s).1 ∧
      Complete txBuf rxLen (pollLoop e txBuf rxLen turns s) := by
  induction turns generalizing s with
  | nil => exact ⟨h, fun hnone => by cases hnone⟩
  | cons t turns ih =>
    obtain ⟨hinv, hret⟩ := h.turn t
    unfold pollLoop
    generalize turn e txBuf rxLen t s = out at hinv hret
    obtain ⟨s', ret⟩ := out
    cases ret with
    | none => exact ih hinv
    | some ret => exact ⟨hinv, hret ret rfl⟩

/-- What holds at every way out of the function. -/
structure Outcome (r : Request) (e : Engine) (out : State × Option Errno) : Prop where
  inv : Inv e.fifo (r.txBuf.getD []) r.rxLen out.1
  complete : Complete (r.txBuf.getD []) r.rxLen out

theorem biosrefXfer_outcome (writeOnly : Bool) (r : Request) (e : Engine) :
    Outcome r e (biosrefXfer writeOnly r e) := by
  have hearly : ∀ (popped : Nat) (code : Errno), Outcome r e (.start popped, some code) :=
    fun popped code =>
    ⟨Inv.start _ _ _ popped, fun hnone => by cases hnone⟩
  unfold biosrefXfer
  cases hbuf : r.txBuf with
  | none => exact hearly 0 .EINVAL
  | some txBuf =>
    simp only
    split
    · exact hearly 0 .EINVAL
    split
    · exact hearly 0 .EMSGSIZE
    split
    · exact hearly 0 .EOPNOTSUPP
    split
    · exact hearly 0 _
    split
    · exact hearly 0 _
    split
    · exact hearly 0 .EOPNOTSUPP
    split
    · exact hearly 0 _
    split
    · exact hearly _ _
    split
    · exact hearly _ _
    · refine ⟨?_, ?_⟩ <;> rw [hbuf]
      · exact (pollLoop_inv e.turns (Inv.start e.fifo txBuf r.rxLen _)).1
      · exact (pollLoop_inv e.turns (Inv.start e.fifo txBuf r.rxLen _)).2

/-! ## Stale words -/

/-- No call stores more than its status reports, the bytes go out once and in order, and `0` means that all bytes were
sent and all bytes were stored, from words that were reported. -/
structure Sound (r : Request) (e : Engine) (out : State × Option Errno) : Prop where
  reported : ∀ read ∈ out.1.reads,
    read.stored ≤ reported e.fifo.bytesPerWord read.status ∧ read.words ≤ wordCount read.status
  bounded : out.1.rxDone ≤ r.rxLen
  sent : out.1.txWords.flatten = (r.txBuf.getD []).take out.1.txDone
  complete : out.2 = none → out.1.txDone = (r.txBuf.getD []).length ∧ out.1.rxDone = r.rxLen ∧
    out.1.rxBuf.length = r.rxLen ∧ r.rxLen = (out.1.reads.map Read.stored).sum

/-- One read call stays within its status unless bytes are missing and the status has a partial last word and no word. -/
theorem stored_le_iff {fifo : Fifo} {rxLen : Nat} {read : Read}
    (hstored : read.stored = min (available fifo.bytesPerWord read.status) (rxLen - read.done))
    (hwords : read.words = wordsFor fifo.bytesPerWord read.stored) :
    (read.stored ≤ reported fifo.bytesPerWord read.status ∧ read.words ≤ wordCount read.status) ↔
      (read.done < rxLen → ¬ EmptyLast fifo.bytesPerWord read.status) := by
  apply Iff.intro
  · intro hle hmissing hempty
    obtain ⟨hmany, hnone⟩ := available_empty fifo.bytesPerWord_le hempty
    have := hle.1
    omega
  · intro hclean
    by_cases hmissing : read.done < rxLen
    · have hle : read.stored ≤ reported fifo.bytesPerWord read.status := by
        rw [hstored, available_eq fifo.bytesPerWord_le (hclean hmissing)]
        exact Nat.min_le_left _ _
      refine ⟨hle, hwords ▸ wordsFor_le (Nat.le_trans hle ?_)⟩
      exact Nat.sub_le _ _
    · have hzero : read.stored = 0 := by omega
      rw [hwords, hzero, wordsFor_zero]
      exact ⟨Nat.zero_le _, Nat.zero_le _⟩

/-- The transfer is sound if and only if no RX status that is read while bytes are missing announces a partial last word
and no word: there the correction wraps, and the call stores all missing bytes. -/
theorem biosrefXfer_sound_iff (writeOnly : Bool) (r : Request) (e : Engine) :
    Sound r e (biosrefXfer writeOnly r e) ↔ ∀ read ∈ (biosrefXfer writeOnly r e).1.reads,
      read.done < r.rxLen → ¬ EmptyLast e.fifo.bytesPerWord read.status := by
  obtain ⟨hinv, hcomplete⟩ := biosrefXfer_outcome writeOnly r e
  generalize biosrefXfer writeOnly r e = out at hinv hcomplete ⊢
  apply Iff.intro
  · exact fun h read hmem => (stored_le_iff (hinv.reads read hmem).1 (hinv.reads read hmem).2).mp
      (h.reported read hmem)
  · intro hclean
    refine ⟨fun read hmem => ?_, hinv.rxDone, hinv.sent, fun hnone => ?_⟩
    · exact (stored_le_iff (hinv.reads read hmem).1 (hinv.reads read hmem).2).mpr (hclean read hmem)
    · obtain ⟨htx, hrx⟩ := hcomplete hnone
      exact ⟨htx, hrx, hinv.rxBuf.trans hrx, hrx ▸ hinv.total⟩

/-- One byte out, two bytes in: DONE comes with an RX status of the last word, one byte of it valid, and no word. -/
def emptyLastRequest : Request := ⟨true, some [0x5a], true, 2⟩

def emptyLastEngine : Engine where
  geniSpi := true
  busLock := none
  resume := none
  fifoDisabled := false
  qspi := true
  cmdActive _ := false
  leftover _ := 0
  fifoParams := none
  clock := none
  fifo := ⟨16, 32, by decide⟩
  fifoWord _ := 0xdeadbeef
  turns := [⟨2 ^ 30 + 1, 0, 2 ^ 31 + 2 ^ 28⟩]

/-- The call reports success with two bytes of a word that the FIFO did not report. -/
theorem biosrefXfer_stale :
    (biosrefXfer true emptyLastRequest emptyLastEngine).2 = none ∧
    (biosrefXfer true emptyLastRequest emptyLastEngine).1.reads = [⟨0, 2 ^ 31 + 2 ^ 28, 2, 1⟩] ∧
    reported emptyLastEngine.fifo.bytesPerWord (2 ^ 31 + 2 ^ 28) = 0 ∧
    ¬ Sound emptyLastRequest emptyLastEngine (biosrefXfer true
      emptyLastRequest emptyLastEngine) := by
  have hreads : (biosrefXfer true emptyLastRequest emptyLastEngine).1.reads =
    [⟨0, 2 ^ 31 + 2 ^ 28, 2, 1⟩] := by
    decide +kernel
  have hreported : reported emptyLastEngine.fifo.bytesPerWord (2 ^ 31 + 2 ^ 28) = 0 := by
    decide +kernel
  refine ⟨by decide +kernel, hreads, hreported, fun h => ?_⟩
  have hle := (h.reported ⟨0, 2 ^ 31 + 2 ^ 28, 2, 1⟩ (hreads ▸ List.mem_singleton_self _)).1
  rw [hreported] at hle
  exact absurd hle (by decide)

end Biosref
end Sp11Touch
