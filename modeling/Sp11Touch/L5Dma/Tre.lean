import Sp11Touch.L5Dma.GpiChannel
import Sp11Touch.Core.Bytes
/-!
# Transfer ring elements (`gpi.c`)

`gpi_create_spi_tre` turns one request into CONFIG0, GO and DMA elements. The
controller reads elements, not descriptors: an element with CHAIN belongs
together with the next one, one without ends a transfer descriptor.

**Results.**
* `splitTds_flatten`: elements of whole descriptors come apart into them.
* `create_td`, `decode_create`: what QSPI sends for a request is one descriptor,
  and it says what was asked for, as long as the lengths fit their 24 bits.
-/
namespace Sp11Touch.Gpi
open Bytes

/-- mirrors phase55/modules/gpi.c:236-238 (`gpi_tre`) -/
structure Tre where
  dword0 : Nat
  dword1 : Nat
  dword2 : Nat
  dword3 : Nat
deriving DecidableEq, Repr

def TRE_TYPE_DMA : Nat := 0x10
def TRE_TYPE_IMMEDIATE_DMA : Nat := 0x11
def TRE_TYPE_GO : Nat := 0x20
def TRE_TYPE_CONFIG0 : Nat := 0x22
def TRE_QSPI_CONFIG0_DW0 : Nat := 0x03000004
def TRE_QSPI_CONFIG0_DW2 : Nat := 0x00010001
def TRE_QSPI_GO_TX_DW0 : Nat := 0x20000001
def TRE_QSPI_GO_BIDI_DW0 : Nat := 0x20000007
def TRE_FLAGS_CHAIN : Nat := 2 ^ 0
def TRE_FLAGS_IEOB : Nat := 2 ^ 8
def TRE_FLAGS_IEOT : Nat := 2 ^ 9
def TRE_FLAGS_LINK : Nat := 2 ^ 11

/-- `u32_encode_bits(v, GENMASK(lo + width - 1, lo))` -/
def encodeBits (v lo width : Nat) : Nat := v % 2 ^ width * 2 ^ lo

def flagsType (type : Nat) : Nat := encodeBits type 16 8

def onFlag (c : Bool) (flag : Nat) : Nat := if c then flag else 0

inductive SpiCmd where
  | TX | RX | DUPLEX
deriving DecidableEq, Repr

def SpiCmd.num : SpiCmd → Nat
  | .TX => 1
  | .RX => 2
  | .DUPLEX => 3

/-- mirrors phase55/modules/include/linux/dma/qcom-gpi-dma.h:39-53 (`gpi_spi_config`) -/
structure SpiConfig where
  setConfig : Bool
  qspi : Bool
  loopbackEn : Bool
  clockPolHigh : Bool
  dataPolHigh : Bool
  packEn : Bool
  wordLen : Nat
  fragmentation : Nat
  cs : Nat
  clkDiv : Nat
  clkSrc : Nat
  cmd : SpiCmd
  rxLen : Nat
deriving DecidableEq, Repr

/-- The module parameters `sp11_windows_ring_layout` and `sp11_qspi_linux_link`. -/
structure RingLayout where
  windowsRing : Bool
  linuxLink : Bool
deriving DecidableEq, Repr

def configTre (spi : SpiConfig) : Tre where
  dword0 :=
    if spi.qspi then TRE_QSPI_CONFIG0_DW0
    else encodeBits spi.wordLen 0 5 ||| encodeBits spi.loopbackEn.toNat 8 1 ||| encodeBits
      spi.clockPolHigh.toNat 13 1 |||
      encodeBits spi.dataPolHigh.toNat 12 1 ||| encodeBits spi.packEn.toNat 24 1 |||
        encodeBits spi.packEn.toNat 25 1
  dword1 := 0
  dword2 := if spi.qspi then TRE_QSPI_CONFIG0_DW2
    else encodeBits spi.clkDiv 0 12 ||| encodeBits spi.clkSrc 16 4
  dword3 := flagsType TRE_TYPE_CONFIG0 ||| TRE_FLAGS_CHAIN ||| onFlag spi.qspi TRE_FLAGS_IEOB

def goFlags (layout : RingLayout) (spi : SpiConfig) : Nat :=
  if spi.qspi then
    TRE_FLAGS_CHAIN ||| TRE_FLAGS_IEOB |||
      onFlag (spi.rxLen != 0 && (!layout.windowsRing || layout.linuxLink)) TRE_FLAGS_LINK
  else match spi.cmd with
    | .RX => TRE_FLAGS_IEOB ||| TRE_FLAGS_LINK
    | .TX => TRE_FLAGS_CHAIN
    | .DUPLEX => TRE_FLAGS_CHAIN ||| if spi.rxLen = 0 then TRE_FLAGS_LINK else TRE_FLAGS_IEOB

def goTre (layout : RingLayout) (spi : SpiConfig) : Tre where
  dword0 :=
    if spi.qspi then if spi.rxLen ≠ 0 then TRE_QSPI_GO_BIDI_DW0 else TRE_QSPI_GO_TX_DW0
    else encodeBits spi.fragmentation 26 1 ||| encodeBits spi.cs 8 3 ||| encodeBits spi.cmd.num 0 5
  dword1 := 0
  dword2 := encodeBits spi.rxLen 0 24
  dword3 := flagsType TRE_TYPE_GO ||| goFlags layout spi

/-- `data` are the bytes at `sg_virt`. -/
def dmaTre (spi : SpiConfig) (dir : Chid) (address len : Nat) (data : Bytes) : Tre :=
  let ieot := onFlag (spi.qspi || dir == .TX) TRE_FLAGS_IEOT
  if !spi.qspi && dir == .TX && len ≤ 8 then
    ⟨u32 (data.take len) 0, u32 (data.take len) 4, encodeBits len 0 4,
      flagsType TRE_TYPE_IMMEDIATE_DMA ||| ieot⟩
  else ⟨address % 2 ^ 32, address / 2 ^ 32 % 2 ^ 32, encodeBits len 0 24,
    flagsType TRE_TYPE_DMA ||| ieot⟩

/-- mirrors phase55/modules/gpi.c:2097-2236 (`gpi_create_spi_tre`); `DMA_MEM_TO_DEV` is the TX channel -/
def createSpiTre (layout : RingLayout) (spi : SpiConfig) (dir : Chid) (address len : Nat)
    (data : Bytes) : List Tre :=
  match dir with
  | .TX => (if spi.setConfig then [configTre spi] else []) ++ [goTre layout spi, dmaTre spi .TX address len data]
  | .RX => [dmaTre spi .RX address len data]

theorem create_length (layout : RingLayout) (spi : SpiConfig) (dir : Chid) (address len : Nat)
    (data : Bytes) :
    (createSpiTre layout spi dir address len data).length = nrTre dir spi.setConfig := by
  cases dir with
  | TX => cases hs : spi.setConfig <;> simp [createSpiTre, nrTre, hs]
  | RX => rfl

/-! ## Descriptors -/

def Tre.chained (t : Tre) : Bool := t.dword3 % 2 = 1

def Tre.type (t : Tre) : Nat := t.dword3 / 2 ^ 16 % 2 ^ 8

/-- All elements but the last one are chained. -/
structure Td (l : List Tre) : Prop where
  last : ∃ pre t, l = pre ++ [t] ∧ t.chained = false ∧ ∀ c ∈ pre, c.chained = true

/-- The complete descriptors in a stream of elements, when `acc` was read before. -/
def splitTds (acc : List Tre) : List Tre → List (List Tre)
  | [] => []
  | t :: ts => if t.chained then splitTds (acc ++ [t]) ts else (acc ++ [t]) :: splitTds [] ts

theorem splitTds_chain (rest : List Tre) : ∀ (pre acc : List Tre), (∀ c ∈ pre, c.chained = true) →
    splitTds acc (pre ++ rest) = splitTds (acc ++ pre) rest
  | [], acc, _ => by simp
  | c :: pre, acc, h => by
    rw [List.cons_append, splitTds, if_pos (h c List.mem_cons_self),
      splitTds_chain rest pre (acc ++ [c]) fun d hd => h d (List.mem_cons_of_mem _ hd)]
    simp

theorem Td.splitTds {l : List Tre} (h : Td l) (rest : List Tre) :
    Gpi.splitTds [] (l ++ rest) = l :: Gpi.splitTds [] rest := by
  obtain ⟨pre, t, rfl, ht, hpre⟩ := h.last
  rw [List.append_assoc, splitTds_chain _ _ _ hpre, List.nil_append, List.cons_append,
    List.nil_append, Gpi.splitTds,
    if_neg (by simp [ht])]

theorem splitTds_flatten : ∀ {tds : List (List Tre)}, (∀ l ∈ tds, Td l) →
    splitTds [] tds.flatten = tds
  | [], _ => rfl
  | l :: tds, h => by
    rw [List.flatten_cons, (h l List.mem_cons_self).splitTds,
      splitTds_flatten fun m hm => h m (List.mem_cons_of_mem _ hm)]

/-- Reading on only adds descriptors. -/
theorem splitTds_mono : ∀ {l l' : List Tre} (acc : List Tre), l <+: l' →
    splitTds acc l <+: splitTds acc l'
  | [], _, _, _ => List.nil_prefix
  | t :: l, l', acc, h => by
    obtain ⟨rest, rfl⟩ := h
    rw [List.cons_append, splitTds, splitTds]
    split
    · exact splitTds_mono _ (List.prefix_append l rest)
    · exact (List.prefix_cons_inj _).mpr (splitTds_mono [] (List.prefix_append l rest))

/-! ## What a descriptor asks for -/

structure Request where
  dir : Chid
  config : Bool
  bidirectional : Bool
  address : Nat
  len : Nat
  rxLen : Nat
deriving DecidableEq, Repr

def request (spi : SpiConfig) (dir : Chid) (address len : Nat) : Request :=
  match dir with
  | .TX => ⟨.TX, spi.setConfig, spi.rxLen ≠ 0, address, len, spi.rxLen⟩
  | .RX => ⟨.RX, false, false, address, len, 0⟩

def Tre.address (t : Tre) : Nat := t.dword0 + 2 ^ 32 * t.dword1

def Tre.len (t : Tre) : Nat := t.dword2 % 2 ^ 24

/-- The controller's reading of a QSPI descriptor. -/
def decodeTd : List Tre → Option Request
  | [dma] => if dma.type = TRE_TYPE_DMA then some ⟨.RX, false, false, dma.address, dma.len, 0⟩ else none
  | [go, dma] =>
    if go.type = TRE_TYPE_GO ∧ dma.type = TRE_TYPE_DMA then
      some ⟨.TX, false, go.dword0 = TRE_QSPI_GO_BIDI_DW0, dma.address, dma.len, go.len⟩
    else none
  | [config, go, dma] =>
    if config.type = TRE_TYPE_CONFIG0 ∧ go.type = TRE_TYPE_GO ∧ dma.type = TRE_TYPE_DMA then
      some ⟨.TX, true, go.dword0 = TRE_QSPI_GO_BIDI_DW0, dma.address, dma.len, go.len⟩
    else none
  | _ => none

/-- A request whose numbers fit the elements. -/
structure SpiConfig.Encodable (spi : SpiConfig) (address len : Nat) : Prop where
  qspi : spi.qspi = true
  rxLen : spi.rxLen < 2 ^ 24
  len : len < 2 ^ 24
  address : address < 2 ^ 64

instance (spi : SpiConfig) (address len : Nat) : Decidable (spi.Encodable address len) :=
  decidable_of_iff (spi.qspi = true ∧ spi.rxLen < 2 ^ 24 ∧ len < 2 ^ 24 ∧ address < 2 ^ 64)
    ⟨fun h => ⟨h.1, h.2.1, h.2.2.1, h.2.2.2⟩, fun h => ⟨h.qspi, h.rxLen, h.len, h.address⟩⟩

section
variable {layout : RingLayout} {spi : SpiConfig} {dir : Chid} {address len : Nat} {data : Bytes}

theorem configTre_flags (h : spi.qspi = true) : (configTre spi).type = TRE_TYPE_CONFIG0 ∧
    (configTre spi).chained = true := by
  have h3 : (configTre spi).dword3 = flagsType TRE_TYPE_CONFIG0 ||| TRE_FLAGS_CHAIN
    ||| TRE_FLAGS_IEOB := by
    simp [configTre, h, onFlag]
  unfold Tre.type Tre.chained
  rw [h3]
  decide

theorem goTre_flags (h : spi.qspi = true) : (goTre layout spi).type = TRE_TYPE_GO ∧
    (goTre layout spi).chained = true := by
  have h3 : (goTre layout spi).dword3 = flagsType TRE_TYPE_GO |||
    (TRE_FLAGS_CHAIN ||| TRE_FLAGS_IEOB |||
      onFlag (spi.rxLen != 0 && (!layout.windowsRing || layout.linuxLink)) TRE_FLAGS_LINK) := by
    simp [goTre, goFlags, h]
  unfold Tre.type Tre.chained
  rw [h3]
  cases spi.rxLen != 0 && (!layout.windowsRing || layout.linuxLink) <;> decide

theorem dmaTre_qspi (h : spi.qspi = true) : dmaTre spi dir address len data =
    ⟨address % 2 ^ 32, address / 2 ^ 32 % 2 ^ 32, encodeBits len 0 24,
    flagsType TRE_TYPE_DMA ||| TRE_FLAGS_IEOT⟩ := by
  simp [dmaTre, h, onFlag]

theorem dmaTre_flags (h : spi.qspi = true) : (dmaTre spi dir address len data).type = TRE_TYPE_DMA ∧
    (dmaTre spi dir address len data).chained = false := by
  have h3 : (dmaTre spi dir address len data).dword3 =
    flagsType TRE_TYPE_DMA ||| TRE_FLAGS_IEOT := by rw [dmaTre_qspi h]
  unfold Tre.type Tre.chained
  rw [h3]
  decide

/-- The elements of a QSPI request are one descriptor. -/
theorem create_td (h : spi.qspi = true) : Td (createSpiTre layout spi dir address len data) := by
  cases dir with
  | RX => exact ⟨[], _, rfl, (dmaTre_flags h).2, by simp⟩
  | TX =>
    refine ⟨(if spi.setConfig then [configTre spi] else []) ++ [goTre layout spi],
      dmaTre spi .TX address len data,
      by simp [createSpiTre], (dmaTre_flags h).2, fun c hc => ?_⟩
    rcases List.mem_append.mp hc with hc | hc
    · cases hs : spi.setConfig with
      | true =>
        have : c = configTre spi := by simpa [hs] using hc
        rw [this, (configTre_flags h).2]
      | false => simp [hs] at hc
    · have : c = goTre layout spi := by simpa using hc
      rw [this, (goTre_flags h).2]

theorem dmaTre_data (h : spi.Encodable address len) :
    (dmaTre spi dir address len data).address = address ∧
    (dmaTre spi dir address len data).len = len := by
  have hl := h.len
  have ha := h.address
  rw [dmaTre_qspi h.qspi]
  simp only [Tre.address, Tre.len, encodeBits]
  omega

theorem goTre_data (h : spi.Encodable address len) : (goTre layout spi).len = spi.rxLen ∧
    decide ((goTre layout spi).dword0 = TRE_QSPI_GO_BIDI_DW0) = decide (spi.rxLen ≠ 0) := by
  have hr := h.rxLen
  constructor
  · simp only [goTre, Tre.len, encodeBits]
    omega
  · simp only [goTre, h.qspi, if_true]
    by_cases h0 : spi.rxLen = 0
    · simp [h0, TRE_QSPI_GO_TX_DW0, TRE_QSPI_GO_BIDI_DW0]
    · simp [h0]

/-- The descriptor says what was asked for. -/
theorem decode_create (h : spi.Encodable address len) :
    decodeTd (createSpiTre layout spi dir address len data) =
    some (request spi dir address len) := by
  have haddr : (dmaTre spi dir address len data).address = address := (dmaTre_data h).1
  have hlen : (dmaTre spi dir address len data).len = len := (dmaTre_data h).2
  have hd : (dmaTre spi dir address len data).type = TRE_TYPE_DMA := (dmaTre_flags h.qspi).1
  cases dir with
  | RX => simp [createSpiTre, decodeTd, request, hd, haddr, hlen]
  | TX =>
    have hrx : (goTre layout spi).len = spi.rxLen := (goTre_data h).1
    have hbidi : decide ((goTre layout spi).dword0 = TRE_QSPI_GO_BIDI_DW0) =
      decide (spi.rxLen ≠ 0) := (goTre_data h).2
    have hg : (goTre layout spi).type = TRE_TYPE_GO := (goTre_flags h.qspi).1
    cases hs : spi.setConfig with
    | true =>
      have hc := (configTre_flags h.qspi).1
      simp only [createSpiTre, hs, if_true, List.cons_append, List.nil_append, decodeTd, hc, hg, hd,
        haddr, hlen, hrx, hbidi,
        request, and_self]
    | false =>
      simp only [createSpiTre, hs, Bool.false_eq_true, if_false, List.nil_append, decodeTd, hg, hd,
        haddr, hlen, hrx, hbidi,
        request, and_self, if_true]

end
end Sp11Touch.Gpi
