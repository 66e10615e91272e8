import Sp11Touch.Core.Bytes
/-!
# The records of a firmware payload (`extract_cfu_payload.py`)

A payload is a stream of records: a little-endian `u32` address, a `u8` length
and the data. `parse_records` walks it by the file offset and checks every
address against the bytes seen so far. It accepts exactly the streams of records
that are not empty and lie one behind the other from address 0
(`parseRecords_iff`), and packing what it returns gives the payload back.
-/
namespace Sp11Touch
namespace CfuPayload
open Bytes

/-- mirrors tools/extract_cfu_payload.py:25-29 (`CfuRecord`) -/
structure CfuRecord where
  fileOffset : Nat
  address : Nat
  data : Bytes
deriving DecidableEq, Repr

/-- `f"0x{n:x}"` -/
def hex (n : Nat) : String := "0x" ++ String.ofList (Nat.toDigits 16 n)

/-- The `while` loop of `parse_records` from `offset` on; the values are the texts of the `ValueError`s. -/
def parseFrom (payload : Bytes) (offset expectedAddress : Nat) : Except String (List CfuRecord) :=
  if offset < payload.length then
    if payload.length - offset < 5 then .error
      ("truncated record header at file offset " ++ hex offset)
    else
      let address := u32 payload offset
      let length := u8 payload (offset + 4)
      if length = 0 then .error ("zero-length record at file offset " ++ hex offset)
      else if address ≠ expectedAddress then
        .error ("non-contiguous address " ++ hex address ++ " at file offset " ++ hex
          offset ++ "; expected " ++
          hex expectedAddress)
      else if payload.length < offset + 5 + length then
        .error ("record at file offset " ++ hex offset ++ " declares " ++ toString
          length ++ " bytes but only " ++
          toString (payload.length - offset - 5) ++ " remain")
      else
        let data := slice payload (offset + 5) (offset + 5 + length)
        (parseFrom payload (offset + 5 + length) (expectedAddress + length)).map
          (⟨offset, address, data⟩ :: ·)
  else .ok []
termination_by payload.length - offset

/-- mirrors tools/extract_cfu_payload.py:32-63 (`parse_records`) -/
def parseRecords (payload : Bytes) : Except String (List CfuRecord) := parseFrom payload 0 0

/-- mirrors tools/extract_cfu_payload.py:66-68 (`unwrap`) -/
def unwrap (payload : Bytes) : Except String Bytes := (parseRecords payload).map fun records =>
    records.flatMap CfuRecord.data

/-- mirrors tests/test_cfu_payload.py:10-11 (`record`) -/
def packRecord (address : Nat) (data : Bytes) : Bytes :=
  pack32 address ++ [UInt8.ofNat data.length] ++ data

/-- The records one behind the other. -/
def packRecords (records : List CfuRecord) : Bytes := records.flatMap fun record =>
    packRecord record.address record.data

/-! ## One record -/

/-- A record that the format can hold. -/
structure Fits (record : CfuRecord) : Prop where
  address : record.address < 2 ^ 32
  some : 0 < record.data.length
  short : record.data.length ≤ 255

/-- The records start at the offset and the address, and each one where the one before ends. -/
inductive Contiguous : Nat → Nat → List CfuRecord → Prop where
  | nil (offset address : Nat) : Contiguous offset address []
  | cons {record : CfuRecord} {records : List CfuRecord} (fits : Fits record)
      (rest : Contiguous (record.fileOffset + 5 + record.data.length)
      (record.address + record.data.length) records) :
      Contiguous record.fileOffset record.address (record :: records)

theorem packRecord_length (address : Nat) (data : Bytes) :
    (packRecord address data).length = 5 + data.length := by
  simp only [packRecord, List.length_append, pack32_length, List.length_singleton]

/-- A record's bytes stand in the payload from `offset` on, before `rest`. -/
def At (payload : Bytes) (offset address : Nat) (data rest : Bytes) : Prop :=
  payload.drop offset = packRecord address data ++ rest

namespace At
variable {payload data rest : Bytes} {offset address : Nat}

theorem length_eq (h : At payload offset address data rest) :
    payload.length = offset + 5 + data.length + rest.length := by
  have hlen := congrArg List.length h
  rw [List.length_drop, List.length_append, packRecord_length] at hlen
  omega

theorem drop_five (h : At payload offset address data rest) :
    payload.drop (offset + 5) = data ++ rest := by
  rw [← List.drop_drop, h]
  rfl

theorem drop_record (h : At payload offset address data rest) :
    payload.drop (offset + 5 + data.length) = rest := by
  rw [← List.drop_drop, h.drop_five, List.drop_left]

theorem slice_eq (h : At payload offset address data rest) :
    slice payload (offset + 5) (offset + 5 + data.length) = data := by
  unfold slice
  rw [h.drop_five, Nat.add_sub_cancel_left, List.take_left]

theorem u32_eq (h : At payload offset address data rest) (ha : address < 2 ^ 32) :
    u32 payload offset = address := by
  have hdrop : u32 payload offset = u32 (payload.drop offset) 0 := (u32_drop payload offset 0).symm
  rw [hdrop, h]
  unfold packRecord
  rw [List.append_assoc, List.append_assoc, u32_append (Nat.le_of_eq (pack32_length address).symm),
    u32_pack32 ha]

theorem u8_eq (h : At payload offset address data rest) (hd : data.length ≤ 255) :
    u8 payload (offset + 4) = data.length := by
  rw [← u8_drop, h]
  have hbyte : (UInt8.ofNat data.length).toNat = data.length := by
    rw [UInt8.toNat_ofNat']
    omega
  exact hbyte

end At

/-- What the loop reads at an offset is a record, when all of it is there. -/
theorem at_read {payload : Bytes} {offset : Nat}
    (h : offset + 5 + u8 payload (offset + 4) ≤ payload.length) :
    At payload offset (u32 payload offset) (slice payload (offset + 5)
      (offset + 5 + u8 payload (offset + 4)))
      (payload.drop (offset + 5 + u8 payload (offset + 4))) := by
  generalize hlen : u8 payload (offset + 4) = length at h ⊢
  have hbyte : payload.drop (offset + 4) = UInt8.ofNat length :: payload.drop (offset + 5) := by
    have hlt : offset + 4 < payload.length := by omega
    rw [List.drop_eq_getElem_cons hlt, ← hlen]
    unfold u8
    rw [List.getD_eq_getElem _ _ hlt, UInt8.ofNat_toNat]
  have hdata : payload.drop (offset + 5) =
      slice payload (offset + 5) (offset + 5 + length) ++ payload.drop (offset + 5 + length) := by
    unfold slice
    rw [Nat.add_sub_cancel_left, ← List.drop_drop (i := length), List.take_append_drop]
  calc payload.drop offset
      = (payload.drop offset).take 4 ++ payload.drop (offset + 4) := by rw [← List.drop_drop, List.take_append_drop]
    _ = pack32 (u32 payload offset) ++ payload.drop (offset + 4) := by
        rw [← pack32_u32 (by rw [List.length_drop]; omega), u32_drop, Nat.add_zero]
    _ = _ := by
        unfold packRecord
        rw [slice_length h, Nat.add_sub_cancel_left, hbyte, hdata]
        simp

/-! ## The loop -/

/-- One turn on a record. -/
theorem parseFrom_record {payload data rest : Bytes} {offset address : Nat}
    (h : At payload offset address data rest)
    (hf : Fits ⟨offset, address, data⟩) : parseFrom payload offset address =
      (parseFrom payload (offset + 5 + data.length) (address + data.length)).map
      (⟨offset, address, data⟩ :: ·) := by
  have hlen := h.length_eq
  have hsome : 0 < data.length := hf.some
  rw [parseFrom, if_pos (by omega), if_neg (by omega)]
  simp only [h.u8_eq hf.short, h.u32_eq hf.address, h.slice_eq]
  rw [if_neg (by omega), if_neg (by simp), if_neg (by omega)]

/-- What the loop accepts from an offset on. -/
theorem parseFrom_sound (payload : Bytes) (offset address : Nat) :
    ∀ records, offset ≤ payload.length →
    parseFrom payload offset address = .ok records →
    Contiguous offset address records ∧ payload.drop offset = packRecords records := by
  fun_induction parseFrom payload offset address with
  | case1 => intro records _ h; cases h
  | case2 => intro records _ h; cases h
  | case3 => intro records _ h; cases h
  | case4 => intro records _ h; cases h
  | case5 offset expected hlt hfive address length hzero heq hfits data ih =>
    intro records hle h
    cases hrest : parseFrom payload (offset + 5 + length) (expected + length) with
    | error text =>
      rw [hrest] at h
      cases h
    | ok rest =>
      rw [hrest] at h
      obtain rfl : (⟨offset, address, data⟩ : CfuRecord) :: rest = records := Except.ok.inj h
      obtain ⟨hcontig, hbytes⟩ := ih rest (by omega) hrest
      have hat : At payload offset address data (payload.drop (offset + 5 + length)) :=
        at_read (by omega)
      have hdata : data.length = length := by
        have := hat.length_eq
        rw [List.length_drop] at this
        omega
      have hbyte : length < 256 := u8_lt payload (offset + 4)
      have hword : address < 2 ^ 32 := u32_lt payload offset
      obtain rfl : address = expected := by simpa using heq
      have hfit : Fits ⟨offset, address, data⟩ := ⟨hword, Nat.pos_of_ne_zero (hdata ▸ hzero), by
        have : data.length < 256 := hdata ▸ hbyte
        exact Nat.le_of_lt_succ this⟩
      refine ⟨?_, ?_⟩
      · exact .cons hfit (hdata ▸ hcontig)
      · rw [hat, hbytes]
        rfl
  | case6 offset expected hge =>
    intro records _ h
    obtain rfl : [] = records := Except.ok.inj h
    exact ⟨.nil offset expected, List.drop_of_length_le (by omega)⟩

/-- Every contiguous stream of records is accepted. -/
theorem parseFrom_complete {payload : Bytes} {offset address : Nat} {records : List CfuRecord}
    (h : Contiguous offset address records) (hbytes : payload.drop offset = packRecords records) :
    parseFrom payload offset address = .ok records := by
  induction h with
  | nil offset address =>
    have hlen := congrArg List.length hbytes
    rw [List.length_drop] at hlen
    rw [parseFrom, if_neg]
    simp only [packRecords, List.flatMap_nil, List.length_nil] at hlen
    omega
  | @cons record records hf rest ih =>
    have hat : At payload record.fileOffset record.address record.data
      (packRecords records) := hbytes
    rw [parseFrom_record hat hf, ih hat.drop_record]
    rfl

theorem parseRecords_eq_ok {payload : Bytes} {records : List CfuRecord} :
    parseRecords payload = .ok records ↔ Contiguous 0 0 records ∧
    payload = packRecords records := by
  have hdrop : payload.drop 0 = payload := rfl
  apply Iff.intro
  · intro h
    have hsound := parseFrom_sound payload 0 0 records (Nat.zero_le _) h
    rwa [hdrop] at hsound
  · intro h
    exact parseFrom_complete h.1 (hdrop.trans h.2)

/-! ## Chunks of an image -/

/-- The records of an image cut into chunks. -/
def chunkRecords : Nat → Nat → List Bytes → List CfuRecord
  | _, _, [] => []
  | offset, address, chunk :: chunks =>
    ⟨offset, address, chunk⟩ :: chunkRecords (offset + 5 + chunk.length)
      (address + chunk.length) chunks

/-- The payload of an image cut into chunks. -/
def packChunks (chunks : List Bytes) : Bytes := packRecords (chunkRecords 0 0 chunks)

theorem chunkRecords_data (offset address : Nat) (chunks : List Bytes) :
    (chunkRecords offset address chunks).map CfuRecord.data = chunks := by
  induction chunks generalizing offset address with
  | nil => rfl
  | cons chunk chunks ih => rw [chunkRecords, List.map_cons, ih]

/-- Every record ends inside the image. -/
theorem chunkRecords_end {offset address : Nat} {chunks : List Bytes} {record : CfuRecord}
    (h : record ∈ chunkRecords offset address chunks) :
    record.data ∈ chunks ∧ record.address + record.data.length ≤
      address + chunks.flatten.length := by
  induction chunks generalizing offset address with
  | nil => cases h
  | cons chunk chunks ih =>
    rw [List.flatten_cons, List.length_append]
    rcases List.mem_cons.mp h with rfl | h
    · exact ⟨List.mem_cons_self, by simp⟩
    · obtain ⟨hmem, hend⟩ := ih h
      exact ⟨List.mem_cons_of_mem chunk hmem, by omega⟩

theorem chunkRecords_contiguous (offset address : Nat) (chunks : List Bytes)
    (h : ∀ record ∈ chunkRecords offset address chunks, Fits record) :
    Contiguous offset address (chunkRecords offset address chunks) := by
  induction chunks generalizing offset address with
  | nil => exact .nil offset address
  | cons chunk chunks ih =>
    exact @Contiguous.cons ⟨offset, address, chunk⟩ _ (h _ List.mem_cons_self)
      (ih _ _ fun record hmem => h record (List.mem_cons_of_mem _ hmem))

/-- Contiguous records are those of the chunks they hold. -/
theorem Contiguous.eq_chunks {offset address : Nat} {records : List CfuRecord}
    (h : Contiguous offset address records) :
    records = chunkRecords offset address (records.map CfuRecord.data) ∧
      ∀ record ∈ records, Fits record := by
  induction h with
  | nil => exact ⟨rfl, fun _ hmem => by cases hmem⟩
  | cons hf rest ih =>
    refine ⟨?_, List.forall_mem_cons.mpr ⟨hf, ih.2⟩⟩
    rw [List.map_cons, chunkRecords, ← ih.1]

theorem chunkRecords_address (offset address : Nat) {chunks : List Bytes} {i : Nat}
    (h : i < (chunkRecords offset address chunks).length) :
    (chunkRecords offset address chunks)[i].address =
      address + ((chunks.take i).map List.length).sum := by
  induction chunks generalizing offset address i with
  | nil => exact absurd h (Nat.not_lt_zero i)
  | cons chunk chunks ih =>
    cases i with
    | zero => rfl
    | succ i =>
      have hrest := ih (offset + 5 + chunk.length) (address + chunk.length)
        (Nat.lt_of_succ_lt_succ h)
      simp only [chunkRecords, List.getElem_cons_succ, hrest, List.take_succ_cons, List.map_cons,
        List.sum_cons]
      omega

/-! ## The format -/

/-- A concatenation of records, not empty and complete, with the addresses running on from 0. -/
structure Records (payload : Bytes) (records : List (Nat × Bytes)) : Prop where
  bytes : payload = records.flatMap fun record => packRecord record.1 record.2
  u32 : ∀ record ∈ records, record.1 < 2 ^ 32
  length : ∀ record ∈ records, 0 < record.2.length ∧ record.2.length ≤ 255
  address : ∀ i, (h : i < records.length) → records[i].1 =
    ((records.take i).map fun record => record.2.length).sum

/-- Records with running addresses are those of their data. -/
theorem chunkRecords_running (offset address : Nat) {records : List (Nat × Bytes)}
    (h : ∀ i, (h : i < records.length) → records[i].1 =
    address + ((records.take i).map fun record => record.2.length).sum) :
    (chunkRecords offset address (records.map Prod.snd)).map
      (fun record => (record.address, record.data)) = records := by
  induction records generalizing offset address with
  | nil => rfl
  | cons record records ih =>
    have hhead : record.1 = address := h 0 (Nat.succ_pos _)
    have hrest := ih (offset + 5 + record.2.length) (address + record.2.length) fun i hi => by
      have := h (i + 1) (by simpa using hi)
      simp only [List.getElem_cons_succ, List.take_succ_cons, List.map_cons, List.sum_cons] at this
      omega
    rw [List.map_cons, chunkRecords, List.map_cons, hrest, ← hhead]

theorem records_of_contiguous {records : List CfuRecord} (h : Contiguous 0 0 records) :
    Records (packRecords records) (records.map fun record => (record.address, record.data)) := by
  obtain ⟨heq, hfits⟩ := h.eq_chunks
  refine ⟨?_, ?_, ?_, fun i hi => ?_⟩
  · rw [List.flatMap_map]
    rfl
  · exact List.forall_mem_map.mpr fun record hmem => (hfits record hmem).address
  · exact List.forall_mem_map.mpr fun record hmem =>
      ⟨(hfits record hmem).some, (hfits record hmem).short⟩
  · have hi : i < records.length := by simpa using hi
    have hrun := chunkRecords_address 0 0 (heq ▸ hi)
    rw [← List.getElem_of_eq heq hi] at hrun
    simpa [List.map_take, Function.comp_def] using hrun

theorem contiguous_of_records {payload : Bytes} {records : List (Nat × Bytes)}
    (h : Records payload records) :
    ∃ parsed, Contiguous 0 0 parsed ∧ payload = packRecords parsed := by
  have hrun := @chunkRecords_running 0 0 records fun i hi => by
    rw [h.address i hi, Nat.zero_add]
  refine ⟨chunkRecords 0 0 (records.map Prod.snd),
    chunkRecords_contiguous 0 0 _ fun record hmem => ?_, ?_⟩
  · have hpair : (record.address, record.data) ∈ records := hrun ▸ List.mem_map_of_mem hmem
    exact ⟨h.u32 _ hpair, (h.length _ hpair).1, (h.length _ hpair).2⟩
  · calc payload = records.flatMap fun record => packRecord record.1 record.2 := h.bytes
      _ = ((chunkRecords 0 0 (records.map Prod.snd)).map fun record =>
        (record.address, record.data)).flatMap
            fun record => packRecord record.1 record.2 := by rw [hrun]
      _ = packRecords (chunkRecords 0 0 (records.map Prod.snd)) := by
          rw [List.flatMap_map]
          rfl

/-- An image cut into chunks of 1 to 255 bytes comes back. -/
theorem unwrap_packChunks {chunks : List Bytes}
    (hlen : ∀ chunk ∈ chunks, 0 < chunk.length ∧ chunk.length ≤ 255)
    (himage : chunks.flatten.length < 2 ^ 32) : unwrap (packChunks chunks) =
      .ok chunks.flatten := by
  have hparse : parseRecords (packChunks chunks) = .ok (chunkRecords 0 0 chunks) := by
    refine parseRecords_eq_ok.mpr ⟨chunkRecords_contiguous 0 0 chunks fun record hmem => ?_, rfl⟩
    obtain ⟨hdata, hend⟩ := chunkRecords_end hmem
    have hsome := hlen _ hdata
    exact ⟨by omega, hsome.1, hsome.2⟩
  unfold unwrap
  rw [hparse]
  simp only [Except.map, List.flatMap_def, chunkRecords_data]

/-- The format, the round trip of every accepted payload, and that of every image. -/
theorem parseRecords_format :
    (∀ payload : Bytes, (∃ records, parseRecords payload = .ok records) ↔
    ∃ records, Records payload records) ∧
    (∀ (payload : Bytes) (records : List CfuRecord), parseRecords payload = .ok records →
      packRecords records = payload) ∧
    ∀ chunks : List Bytes, (∀ chunk ∈ chunks, 0 < chunk.length ∧ chunk.length ≤ 255) →
      chunks.flatten.length < 2 ^ 32 → unwrap (packChunks chunks) = .ok chunks.flatten := by
  refine ⟨fun payload => ?_, fun payload records h => (parseRecords_eq_ok.mp h).2.symm,
    fun chunks => unwrap_packChunks⟩
  apply Iff.intro
  · intro h
    obtain ⟨records, h⟩ := h
    obtain ⟨hcontig, rfl⟩ := parseRecords_eq_ok.mp h
    exact ⟨_, records_of_contiguous hcontig⟩
  · intro h
    obtain ⟨records, h⟩ := h
    obtain ⟨parsed, hparsed⟩ := contiguous_of_records h
    exact ⟨parsed, parseRecords_eq_ok.mpr hparsed⟩

end CfuPayload
end Sp11Touch
