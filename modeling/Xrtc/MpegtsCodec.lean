import Xrtc.MpegtsFraming
import Xrtc.MpegtsDemuxer

/-!
# Headers written and read back

What `decode` makes of the bytes of `encode`.  A field comes back cut to the bits
it has on the wire; `mTransportPriority` and the first reserved bits of a PAT do not
come back at all, and of the 33 bits of a timestamp the demuxer reads 32.
-/

namespace Mpegts

/-! ### Bits -/

theorem eq_of_bits8 {a b : UInt8}
    (h : ∀ i, i < 8 → a.toBitVec.getLsbD i = b.toBitVec.getLsbD i) : a = b :=
  UInt8.eq_of_toBitVec_eq (BitVec.eq_of_getLsbD_eq h)

theorem eq_of_bits16 {a b : UInt16}
    (h : ∀ i, i < 16 → a.toBitVec.getLsbD i = b.toBitVec.getLsbD i) : a = b :=
  UInt16.eq_of_toBitVec_eq (BitVec.eq_of_getLsbD_eq h)

theorem eq_of_bits32 {a b : UInt32}
    (h : ∀ i, i < 32 → a.toBitVec.getLsbD i = b.toBitVec.getLsbD i) : a = b :=
  UInt32.eq_of_toBitVec_eq (BitVec.eq_of_getLsbD_eq h)

theorem eq_of_bits64 {a b : UInt64}
    (h : ∀ i, i < 64 → a.toBitVec.getLsbD i = b.toBitVec.getLsbD i) : a = b :=
  UInt64.eq_of_toBitVec_eq (BitVec.eq_of_getLsbD_eq h)

/-- A mask of the lowest bits. -/
theorem getLsbD_low (w n i : ℕ) :
    (BitVec.ofNat w (2 ^ n - 1)).getLsbD i = decide (i < w ∧ i < n) := by
  rw [BitVec.getLsbD_ofNat, Nat.testBit_two_pow_sub_one, Bool.decide_and]

/-- The four bytes of `write4Bytes` put together again. -/
theorem read4_write4 (v : UInt32) :
    ((v >>> 24).toUInt8.toUInt32 <<< 24) ||| ((v >>> 16).toUInt8.toUInt32 <<< 16) |||
      ((v >>> 8).toUInt8.toUInt32 <<< 8) ||| v.toUInt8.toUInt32 = v := by
  apply eq_of_bits32
  intro i hi
  simp only [UInt32.toBitVec_or, UInt32.toBitVec_shiftLeft, UInt32.toBitVec_shiftRight,
    UInt8.toBitVec_toUInt32, UInt32.toBitVec_toUInt8]
  simp [BitVec.getLsbD_shiftLeft]
  grind

/-! ### Timestamps -/

theorem readPts_writePts (lFb : UInt32) (lPts : UInt64) (rest : List UInt8) :
    readPts (writePts lFb lPts ++ rest) = some (lPts &&& 0xFFFFFFFF, rest) := by
  simp only [writePts, write2Bytes, List.cons_append, List.nil_append, readPts,
    read2Bytes_write2Bytes, Option.some.injEq, Prod.mk.injEq, and_true]
  apply eq_of_bits64
  intro i hi
  have hthree8 : ∀ j, (0x07#8).getLsbD j = decide (j < 8 ∧ j < 3) := getLsbD_low 8 3
  have hthree32 : ∀ j, (0x07#32).getLsbD j = decide (j < 32 ∧ j < 3) := getLsbD_low 32 3
  have hgroup16 : ∀ j, (0x7fff#16).getLsbD j = decide (j < 16 ∧ j < 15) := getLsbD_low 16 15
  have hgroup32 : ∀ j, (0x7fff#32).getLsbD j = decide (j < 32 ∧ j < 15) := getLsbD_low 32 15
  have hgroup64 : ∀ j, (0x7fff#64).getLsbD j = decide (j < 64 ∧ j < 15) := getLsbD_low 64 15
  have hword : ∀ j, (0xFFFFFFFF#64).getLsbD j = decide (j < 64 ∧ j < 32) := getLsbD_low 64 32
  simp only [UInt64.toBitVec_or, UInt64.toBitVec_and, UInt64.toBitVec_shiftLeft,
    UInt64.toBitVec_shiftRight, UInt8.toBitVec_toUInt32, UInt64.toBitVec_toUInt8,
    UInt32.toBitVec_toUInt64, UInt32.toBitVec_and, UInt32.toBitVec_shiftLeft,
    UInt32.toBitVec_shiftRight, UInt16.toBitVec_toUInt32, UInt64.toBitVec_toUInt16]
  -- each bit is in one group of the three, and comes from its own place
  simp [BitVec.getLsbD_shiftLeft, hthree8, hthree32, hgroup16, hgroup32, hgroup64, hword]
  grind

/-- The bits that `readPcr` keeps of each byte. -/
theorem pcrMasks {i : ℕ} (hi : i < 64) :
    (0x1FE000000#64).getLsbD i = decide (25 ≤ i ∧ i < 33) ∧
      (0x1FE0000#64).getLsbD i = decide (17 ≤ i ∧ i < 25) ∧
      (0x1FE00#64).getLsbD i = decide (9 ≤ i ∧ i < 17) ∧
      (0x1FE#64).getLsbD i = decide (1 ≤ i ∧ i < 9) ∧
      (0x7e#64).getLsbD (7 + i) = false ∧
      (0x1FFFFFFFF#64).getLsbD i = decide (i < 33) := by
  revert i
  decide

theorem readPcr_writePcr (lPcr : UInt64) (rest : List UInt8) :
    readPcr (writePcr lPcr ++ rest) = some (lPcr &&& 0x1FFFFFFFF, rest) := by
  simp only [writePcr, List.cons_append, List.nil_append, readPcr, Option.some.injEq,
    Prod.mk.injEq, and_true]
  apply eq_of_bits64
  intro i hi
  have hmasks := pcrMasks hi
  simp only [UInt64.toBitVec_or, UInt64.toBitVec_and, UInt64.toBitVec_shiftLeft,
    UInt64.toBitVec_shiftRight, UInt8.toBitVec_toUInt64, UInt64.toBitVec_toUInt8]
  simp [BitVec.getLsbD_shiftLeft, hmasks]
  grind

/-! ### `TsHeader` -/

/-- The header as it comes back. -/
def TsHeader.received (h : TsHeader) : TsHeader where
  mSyncByte := h.mSyncByte
  mPid := h.mPid &&& 0x1FFF
  mPayloadUnitStartIndicator := h.mPayloadUnitStartIndicator &&& 0x01
  mTransportErrorIndicator := h.mTransportErrorIndicator &&& 0x01
  mContinuityCounter := h.mContinuityCounter &&& 0x0F
  mAdaptationFieldControl := h.mAdaptationFieldControl &&& 0x03
  mTransportScramblingControl := h.mTransportScramblingControl &&& 0x03

theorem TsHeader.decode_encode (h : TsHeader) (rest : List UInt8) :
    TsHeader.decode (h.encode ++ rest) = some (h.received, rest) := by
  simp only [TsHeader.encode, write2Bytes, List.cons_append, List.nil_append, TsHeader.decode,
    read2Bytes_write2Bytes, TsHeader.received, field16, field8, Option.some.injEq, Prod.mk.injEq,
    TsHeader.mk.injEq, and_true, true_and]
  refine ⟨?_, ?_, ?_, ?_, ?_, ?_⟩
  case refine_3 =>
    apply eq_of_bits16
    intro i hi
    interval_cases i <;> simp
  all_goals
    apply eq_of_bits8
    intro i hi
    interval_cases i <;> simp

/-! ### `AdaptationFieldHeader` -/

/-- The header of a field that is not empty, as it comes back. -/
def AdaptationFieldHeader.received (h : AdaptationFieldHeader) : AdaptationFieldHeader where
  mAdaptationFieldLength := h.mAdaptationFieldLength
  mAdaptationFieldExtensionFlag := h.mAdaptationFieldExtensionFlag &&& 0x01
  mTransportPrivateDataFlag := h.mTransportPrivateDataFlag &&& 0x01
  mSplicingPointFlag := h.mSplicingPointFlag &&& 0x01
  mOpcrFlag := h.mOpcrFlag &&& 0x01
  mPcrFlag := h.mPcrFlag &&& 0x01
  mElementaryStreamPriorityIndicator := h.mElementaryStreamPriorityIndicator &&& 0x01
  mRandomAccessIndicator := h.mRandomAccessIndicator &&& 0x01
  mDiscontinuityIndicator := h.mDiscontinuityIndicator &&& 0x01

theorem AdaptationFieldHeader.decode_encode {h : AdaptationFieldHeader}
    (hlength : h.mAdaptationFieldLength ≠ 0) (rest : List UInt8) :
    AdaptationFieldHeader.decode (h.encode ++ rest) = some (h.received, rest) := by
  unfold AdaptationFieldHeader.encode
  rw [if_pos hlength]
  simp only [List.cons_append, List.nil_append, AdaptationFieldHeader.decode, if_pos hlength,
    AdaptationFieldHeader.received, field8, Option.some.injEq, Prod.mk.injEq,
    AdaptationFieldHeader.mk.injEq, and_true, true_and]
  refine ⟨?_, ?_, ?_, ?_, ?_, ?_, ?_, ?_⟩ <;>
  · apply eq_of_bits8
    intro i hi
    interval_cases i <;> simp

/-! ### `PATHeader` -/

/-- The header as it comes back. -/
def PATHeader.received (h : PATHeader) : PATHeader where
  mTableId := h.mTableId
  mSectionSyntaxIndicator := h.mSectionSyntaxIndicator &&& 0x01
  mB0 := h.mB0 &&& 0x01
  mSectionLength := h.mSectionLength &&& 0x0FFF
  mTransportStreamId := h.mTransportStreamId
  mReserved1 := h.mReserved1 &&& 0x03
  mVersionNumber := h.mVersionNumber &&& 0x1F
  mCurrentNextIndicator := h.mCurrentNextIndicator &&& 0x01
  mSectionNumber := h.mSectionNumber
  mLastSectionNumber := h.mLastSectionNumber

theorem PATHeader.decode_encode (h : PATHeader) (rest : List UInt8) :
    PATHeader.decode (h.encode ++ rest) = some (h.received, rest) := by
  simp only [PATHeader.encode, write2Bytes, List.cons_append, List.nil_append, PATHeader.decode,
    read2Bytes_write2Bytes, PATHeader.received, field16, field8, Option.some.injEq,
    Prod.mk.injEq, PATHeader.mk.injEq, and_true, true_and]
  refine ⟨?_, ?_, ?_, ?_, ?_, ?_⟩
  case refine_3 =>
    apply eq_of_bits16
    intro i hi
    interval_cases i <;> simp
  all_goals
    apply eq_of_bits8
    intro i hi
    interval_cases i <;> simp

/-! ### `PESHeader` -/

/-- The header as it comes back. -/
def PESHeader.received (h : PESHeader) : PESHeader where
  mPacketStartCode := h.mPacketStartCode &&& 0x00FFFFFF
  mStreamId := h.mStreamId
  mPesPacketLength := h.mPesPacketLength
  mOriginalOrCopy := h.mOriginalOrCopy &&& 0x01
  mCopyright := h.mCopyright &&& 0x01
  mDataAlignmentIndicator := h.mDataAlignmentIndicator &&& 0x01
  mPesPriority := h.mPesPriority &&& 0x01
  mPesScramblingControl := h.mPesScramblingControl &&& 0x03
  mMarkerBits := h.mMarkerBits &&& 0x03
  mPesExtFlag := h.mPesExtFlag &&& 0x01
  mPesCrcFlag := h.mPesCrcFlag &&& 0x01
  mAddCopyInfoFlag := h.mAddCopyInfoFlag &&& 0x01
  mDsmTrickModeFlag := h.mDsmTrickModeFlag &&& 0x01
  mEsRateFlag := h.mEsRateFlag &&& 0x01
  mEscrFlag := h.mEscrFlag &&& 0x01
  mPtsDtsFlags := h.mPtsDtsFlags &&& 0x03
  mHeaderDataLength := h.mHeaderDataLength

theorem startCode_written (code : UInt32) (id : UInt8) :
    (((code <<< 8) &&& 0xFFFFFF00 ||| id.toUInt32) >>> 8) &&& 0x00FFFFFF = code &&& 0x00FFFFFF := by
  apply eq_of_bits32
  intro i hi
  have hhigh : (0xFFFFFF00#32).getLsbD (8 + i) = decide (i < 24) := by
    revert i
    decide
  have hlow : ∀ j, (0x00FFFFFF#32).getLsbD j = decide (j < 32 ∧ j < 24) := getLsbD_low 32 24
  simp only [UInt32.toBitVec_or, UInt32.toBitVec_and, UInt32.toBitVec_shiftLeft,
    UInt32.toBitVec_shiftRight, UInt8.toBitVec_toUInt32]
  simp [BitVec.getLsbD_shiftLeft, hlow, hhigh]
  grind

theorem streamId_written (code : UInt32) (id : UInt8) :
    ((((code <<< 8) &&& 0xFFFFFF00) ||| id.toUInt32) &&& 0xFF).toUInt8 = id := by
  apply eq_of_bits8
  intro i hi
  simp only [UInt32.toBitVec_or, UInt32.toBitVec_and, UInt32.toBitVec_shiftLeft,
    UInt8.toBitVec_toUInt32, UInt32.toBitVec_toUInt8]
  interval_cases i <;> simp

/-- The byte of the flags before the length of the optional fields. -/
theorem pesFlags_written (h : PESHeader) :
    let lB6 := field8 h.mOriginalOrCopy 0 0x01 ||| field8 h.mCopyright 1 0x02 |||
      field8 h.mDataAlignmentIndicator 2 0x04 ||| field8 h.mPesPriority 3 0x08 |||
      field8 h.mPesScramblingControl 4 0x30 ||| field8 h.mMarkerBits 6 0xC0
    lB6 &&& 0x01 = h.mOriginalOrCopy &&& 0x01 ∧ (lB6 >>> 1) &&& 0x01 = h.mCopyright &&& 0x01 ∧
      (lB6 >>> 2) &&& 0x01 = h.mDataAlignmentIndicator &&& 0x01 ∧
      (lB6 >>> 3) &&& 0x01 = h.mPesPriority &&& 0x01 ∧
      (lB6 >>> 4) &&& 0x03 = h.mPesScramblingControl &&& 0x03 ∧
      (lB6 >>> 6) &&& 0x03 = h.mMarkerBits &&& 0x03 := by
  unfold field8
  refine ⟨?_, ?_, ?_, ?_, ?_, ?_⟩ <;>
  · apply eq_of_bits8
    intro i hi
    interval_cases i <;> simp

/-- The byte that says which optional fields there are. -/
theorem pesExtensions_written (h : PESHeader) :
    let lB7 := field8 h.mPesExtFlag 0 0x01 ||| field8 h.mPesCrcFlag 1 0x02 |||
      field8 h.mAddCopyInfoFlag 2 0x04 ||| field8 h.mDsmTrickModeFlag 3 0x08 |||
      field8 h.mEsRateFlag 4 0x10 ||| field8 h.mEscrFlag 5 0x20 ||| field8 h.mPtsDtsFlags 6 0xC0
    lB7 &&& 0x01 = h.mPesExtFlag &&& 0x01 ∧ (lB7 >>> 1) &&& 0x01 = h.mPesCrcFlag &&& 0x01 ∧
      (lB7 >>> 2) &&& 0x01 = h.mAddCopyInfoFlag &&& 0x01 ∧
      (lB7 >>> 3) &&& 0x01 = h.mDsmTrickModeFlag &&& 0x01 ∧
      (lB7 >>> 4) &&& 0x01 = h.mEsRateFlag &&& 0x01 ∧
      (lB7 >>> 5) &&& 0x01 = h.mEscrFlag &&& 0x01 ∧
      (lB7 >>> 6) &&& 0x03 = h.mPtsDtsFlags &&& 0x03 := by
  unfold field8
  refine ⟨?_, ?_, ?_, ?_, ?_, ?_, ?_⟩ <;>
  · apply eq_of_bits8
    intro i hi
    interval_cases i <;> simp

theorem PESHeader.decode_encode (h : PESHeader) (rest : List UInt8) :
    PESHeader.decode (h.encode ++ rest) = some (h.received, rest) := by
  simp only [PESHeader.encode, write2Bytes, write4Bytes, List.cons_append, List.nil_append,
    PESHeader.decode, read2Bytes_write2Bytes, read4_write4, PESHeader.received,
    Option.some.injEq, Prod.mk.injEq, PESHeader.mk.injEq, and_true, true_and]
  obtain ⟨hcopy, hcopyright, halign, hpriority, hscramble, hmarker⟩ := pesFlags_written h
  exact ⟨startCode_written h.mPacketStartCode h.mStreamId,
    streamId_written h.mPacketStartCode h.mStreamId, hcopy, hcopyright, halign, hpriority,
    hscramble, hmarker, pesExtensions_written h⟩

/-! ### The PMT -/

/-- A PID that the 13 bits of the field hold. -/
def IsPid (pid : UInt16) : Prop :=
  pid &&& 0x1FFF = pid

instance (pid : UInt16) : Decidable (IsPid pid) :=
  inferInstanceAs (Decidable (_ = _))

theorem pid_reserved (pid : UInt16) :
    (field16 pid 0 0x1FFF ||| field16 (0x7 : UInt8).toUInt16 13 0xE000) &&& 0x1FFF =
        pid &&& 0x1FFF ∧
      (((field16 pid 0 0x1FFF ||| field16 (0x7 : UInt8).toUInt16 13 0xE000) >>> 13) &&&
        0x07).toUInt8 = 0x7 := by
  unfold field16
  constructor
  · apply eq_of_bits16
    intro i hi
    interval_cases i <;> simp
  · apply eq_of_bits8
    intro i hi
    interval_cases i <;> simp

theorem decode_element {entry : UInt8 × UInt16} (hpid : IsPid entry.2) (rest : List UInt8) :
    PMTElementInfo.decode ((info entry).encode ++ rest) = some (info entry, rest) := by
  have hempty : field16 0 0 0x0FFF ||| field16 (0xf : UInt8).toUInt16 12 0xF000 = 0xf000 := by
    decide
  have hlength : (0xf000 : UInt16) &&& 0xFFF = 0 := by decide
  have hreserved : (((0xf000 : UInt16) >>> 12) &&& 0xF).toUInt8 = 0xf := by decide
  obtain ⟨hlow, hhigh⟩ := pid_reserved entry.2
  unfold PMTElementInfo.encode info
  simp only [write2Bytes, List.cons_append, List.nil_append, PMTElementInfo.decode,
    read2Bytes_write2Bytes, hlow, hhigh, hempty, hlength, hreserved]
  rw [UInt16.toNat_zero, if_pos (Nat.zero_le _), hpid]
  rfl

theorem decodeInfos_elements {entries : List (UInt8 × UInt16)}
    (hpids : ∀ entry ∈ entries, IsPid entry.2) (rounds : ℕ)
    (hrounds : entries.length ≤ rounds) (rest : List UInt8) :
    PMTHeader.decodeInfos rounds (5 * entries.length)
        ((entries.map info).flatMap PMTElementInfo.encode ++ rest) =
      some (entries.map info) := by
  induction entries generalizing rounds with
  | nil =>
      unfold PMTHeader.decodeInfos
      simp
  | cons entry entries ih =>
      obtain ⟨rounds, rfl⟩ : ∃ n, rounds = n + 1 := by
        cases rounds with
        | zero => simp at hrounds
        | succ n => exact ⟨n, rfl⟩
      have hpos : ¬ (5 * (((entry :: entries).length : ℕ) : Int) ≤ 0) := by
        rw [List.length_cons]
        omega
      have hremain : 5 * (((entry :: entries).length : ℕ) : Int) - (info entry).size =
          5 * entries.length := by
        have hsize : (info entry).size = 5 := rfl
        rw [hsize, List.length_cons]
        omega
      unfold PMTHeader.decodeInfos
      rw [if_neg hpos, List.map_cons, List.flatMap_cons, List.append_assoc,
        decode_element (hpids entry List.mem_cons_self)]
      simp only [Option.bind_eq_bind, Option.bind_some, hremain]
      rw [ih (fun other hother => hpids other (List.mem_cons_of_mem _ hother)) rounds
        (Nat.le_of_succ_le_succ hrounds)]
      rfl

/-- The PMT that lists `entries`, for a program with the PCR on `mPcrPid`. -/
def programHeader (mPcrPid : UInt16) (entries : List (UInt8 × UInt16)) : PMTHeader :=
  { pmtHeader entries with mPcrPid := mPcrPid }

/-- The PMT has room for 33 streams in one packet. -/
theorem encode_programHeader (mPcrPid : UInt16) {entries : List (UInt8 × UInt16)}
    (hlen : entries.length ≤ 33) :
    (programHeader mPcrPid entries).encode =
      [0x02, 0xb0, UInt8.ofNat (13 + 5 * entries.length), 0, 1, 0xc1, 0, 0] ++
        write2Bytes (field16 mPcrPid 0 0x1FFF ||| field16 (0x7 : UInt8).toUInt16 13 0xE000) ++
        [0xf0, 0] ++ (entries.map info).flatMap PMTElementInfo.encode := by
  unfold programHeader pmtHeader
  generalize entries.map info = infos
  generalize entries.length = count at hlen ⊢
  have hlength : ∀ count : Fin 34,
      write2Bytes (field16 (UInt16.ofNat (13 + 5 * count)) 0 0xFFFF |||
        field16 (0x3 : UInt8).toUInt16 12 0x3000 ||| field16 (0 : UInt8).toUInt16 14 0x4000 |||
        field16 (1 : UInt8).toUInt16 15 0x8000) = [0xb0, UInt8.ofNat (13 + 5 * count)] := by
    decide
  unfold PMTHeader.encode
  simp only [hlength ⟨count, by omega⟩]
  rfl

/-- A receiver finds the entries and the PID of the PCR again. -/
theorem decode_programHeader {mPcrPid : UInt16} (hpcr : IsPid mPcrPid)
    {entries : List (UInt8 × UInt16)} (hlen : entries.length ≤ 33)
    (hpids : ∀ entry ∈ entries, IsPid entry.2) (rest : List UInt8) :
    PMTHeader.decode ((programHeader mPcrPid entries).encode ++ rest) =
      some (programHeader mPcrPid entries) := by
  have hinfos := decodeInfos_elements hpids (5 * entries.length) (by omega) rest
  obtain ⟨hlow, hhigh⟩ := pid_reserved mPcrPid
  rw [encode_programHeader mPcrPid hlen]
  unfold programHeader pmtHeader
  generalize entries.map info = infos at hinfos ⊢
  generalize entries.length = count at hlen hinfos ⊢
  have hlength : ∀ count : Fin 34,
      read2Bytes 0xb0 (UInt8.ofNat (13 + 5 * count)) &&& 0xFFF =
        UInt16.ofNat (13 + 5 * count) := by
    decide
  have hflags : ∀ count : Fin 34,
      ((read2Bytes 0xb0 (UInt8.ofNat (13 + 5 * count)) >>> 15) &&& 0x01).toUInt8 = 1 ∧
      ((read2Bytes 0xb0 (UInt8.ofNat (13 + 5 * count)) >>> 14) &&& 0x01).toUInt8 = 0 ∧
      ((read2Bytes 0xb0 (UInt8.ofNat (13 + 5 * count)) >>> 12) &&& 0x03).toUInt8 = 3 := by
    decide
  have hnone : read2Bytes 0xf0 0 &&& 0xFFF = 0 := by decide
  have hremain : (((UInt16.ofNat (13 + 5 * count)).toNat : Int) - 4 - 9 -
      ((0 : UInt16).toNat : Int)) = 5 * count := by
    rw [UInt16.toNat_ofNat', UInt16.toNat_zero]
    omega
  have hrounds : (5 * (count : Int)).toNat = 5 * count := by omega
  simp only [PMTHeader.decode, write2Bytes, List.cons_append, List.nil_append,
    read2Bytes_write2Bytes, hlength ⟨count, by omega⟩, hflags ⟨count, by omega⟩, hnone, hremain,
    hrounds, hlow, hhigh]
  rw [UInt16.toNat_zero, if_pos (Nat.zero_le _), hpcr]
  show (PMTHeader.decodeInfos (5 * count) (5 * count) (infos.flatMap _ ++ rest)).bind _ = _
  rw [hinfos]
  simp only [Option.bind_some, Option.pure_def, Option.some.injEq, PMTHeader.mk.injEq, and_true,
    true_and]
  decide

end Mpegts
