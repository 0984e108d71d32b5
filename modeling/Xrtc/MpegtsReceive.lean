import Xrtc.MpegtsDemuxerChunks
import Xrtc.MpegtsStream

/-!
# The demuxer on the packets of the muxer

What one packet of the muxer does to a demuxer, whatever it did before: a packet of
an elementary stream adds its part of the frame to the unit of its PID, and gives
the unit out once the frame is whole.  The whole frame is recognised by its length,
so a frame that is too long for the PES length field stays in the demuxer.
-/

namespace Mpegts

/-! ### Reading on -/

/-- The buffer stands `offset` bytes into the packet at `lPos`, before `rest`. -/
structure At (lPos : ℕ) (rIn : SimpleBuffer) (offset : ℕ) (rest : List UInt8) : Prop where
  pos : rIn.mPos = lPos + offset
  unread : rIn.unread = rest

section Reading

variable {lPos offset : ℕ} {rIn : SimpleBuffer} {front rest : List UInt8}

theorem At.skip (h : At lPos rIn offset (front ++ rest)) :
    At lPos (rIn.skip front.length) (offset + front.length) rest where
  pos := by
    show rIn.mPos + front.length = _
    rw [h.pos, Nat.add_assoc]
  unread := by rw [unread_skip, h.unread, List.drop_left]

/-- A header that is read back moves the position behind its bytes. -/
theorem At.decode {α : Type} {header : List UInt8 → Option (α × List UInt8)} {value : α}
    (h : At lPos rIn offset (front ++ rest)) (hread : header (front ++ rest) = some (value, rest)) :
    rIn.decode header = some (value, rIn.skip front.length) := by
  unfold SimpleBuffer.decode
  rw [h.unread, hread]
  show some (value, rIn.skip ((front ++ rest).length - rest.length)) = _
  rw [List.length_append, Nat.add_sub_cancel]

theorem At.readByte {byte : UInt8} (h : At lPos rIn offset ([byte] ++ rest)) :
    rIn.decode readByte = some (byte, rIn.skip [byte].length) :=
  h.decode rfl

end Reading

/-- A packet that is decoded alike at the front of a buffer and behind others. -/
theorem Decodes.of_at {demuxer demuxer' : MpegTsDemuxer} {packet : List UInt8}
    {events : List Event} (hlength : packet.length = 188)
    (h : ∀ lPos rIn, At lPos rIn 0 packet →
      demuxer.decodePacket rIn = some (demuxer', events)) :
    Decodes demuxer packet demuxer' events where
  length := hlength
  first := h 0 _ ⟨rfl, rfl⟩
  later := h 188 _ ⟨rfl, List.drop_left' List.length_replicate⟩

/-! ### Headers -/

section Headers

variable {pid : UInt16} (hpid : IsPid pid) (start adaptation : Bool) (cc : UInt8)

include hpid in
theorem received_streamHeader :
    (streamHeader pid start adaptation cc).received.mPid = pid ∧
      (streamHeader pid start adaptation cc).received.mPayloadUnitStartIndicator =
        (if start then 1 else 0) ∧
      ((streamHeader pid start adaptation cc).received.hasField ↔ adaptation = true) ∧
      (streamHeader pid start adaptation cc).received.hasBody := by
  refine ⟨hpid, ?_, ?_, ?_⟩
  · cases start with
    | true => exact (by decide : (1 : UInt8) &&& 0x01 = 1)
    | false => exact (by decide : (0 : UInt8) &&& 0x01 = 0)
  · cases adaptation with
    | true => exact iff_of_true (.inr (by decide : mPayloadAdaptionBoth &&& 0x03 = _)) rfl
    | false =>
        refine iff_of_false ?_ Bool.false_ne_true
        exact (by decide : ¬ (mPayloadOnly &&& 0x03 = mAdaptionOnly ∨
          mPayloadOnly &&& 0x03 = mPayloadAdaptionBoth))
  · cases adaptation with
    | true => exact .inr (by decide : mPayloadAdaptionBoth &&& 0x03 = _)
    | false => exact .inl (by decide : mPayloadOnly &&& 0x03 = _)

end Headers

/-! ### Adaptation fields -/

namespace MpegTsDemuxer

section Field

variable (demuxer : MpegTsDemuxer) {lTsHeader : TsHeader} {lPos : ℕ} {rIn : SimpleBuffer}
  {rest : List UInt8}

theorem esField_none (hfield : ¬ lTsHeader.hasField) :
    demuxer.esField lTsHeader rIn = some (0, [], rIn) :=
  if_neg hfield

/-- A field of length zero. -/
theorem esField_zero (hfield : lTsHeader.hasField) (h : At lPos rIn 4 ([0] ++ rest)) :
    demuxer.esField lTsHeader rIn = some (0, [], rIn.skip 1) := by
  have hempty : AdaptationFieldHeader.decode ([0] ++ rest) = some ({}, rest) := rfl
  have hread := h.decode hempty
  unfold esField
  rw [if_pos hfield, hread]
  rfl

/-- A field without a PCR. -/
theorem esField_plain (hfield : lTsHeader.hasField) (header : AdaptationFieldHeader)
    (filling : List UInt8) (hlength : header.mAdaptationFieldLength.toNat = 1 + filling.length)
    (hflag : header.mPcrFlag = 0) {random : UInt8}
    (hrandom : header.mRandomAccessIndicator &&& 0x01 = random)
    (h : At lPos rIn 4 (header.encode ++ filling ++ rest)) :
    demuxer.esField lTsHeader rIn =
      some (random, [], rIn.skip (header.encode ++ filling).length) := by
  have hne : header.mAdaptationFieldLength ≠ 0 := by
    intro hzero
    rw [hzero, UInt8.toNat_zero] at hlength
    omega
  have hsize : header.encode.length = 2 := by
    unfold AdaptationFieldHeader.encode
    rw [if_pos hne]
    rfl
  rw [List.append_assoc] at h
  have hread := h.decode (AdaptationFieldHeader.decode_encode hne _)
  have hnot : ¬ header.received.mPcrFlag = 1 := by
    show ¬ header.mPcrFlag &&& 0x01 = 1
    rw [hflag]
    decide
  have hskip : ((header.received.mAdaptationFieldLength.toNat : Int) - 1).toNat =
      filling.length := by
    show ((header.mAdaptationFieldLength.toNat : Int) - 1).toNat = _
    omega
  unfold esField
  rw [if_pos hfield, hread]
  simp only [Option.bind_eq_bind, Option.bind_some, if_neg hnot, Option.pure_def, hskip]
  rw [List.length_append, ← hrandom]
  simp only [SimpleBuffer.skip, Nat.add_assoc]
  rfl

/-- A field with a PCR. -/
theorem esField_pcr (hfield : lTsHeader.hasField) (header : AdaptationFieldHeader)
    (filling : List UInt8) (hlength : header.mAdaptationFieldLength.toNat = 7 + filling.length)
    (hflag : header.mPcrFlag = 1) (lPcr : UInt64)
    (h : At lPos rIn 4 (header.encode ++ writePcr lPcr ++ filling ++ rest)) :
    demuxer.esField lTsHeader rIn = some (header.mRandomAccessIndicator &&& 0x01,
      demuxer.pcrOut (lPcr &&& 0x1FFFFFFFF),
      rIn.skip (header.encode ++ writePcr lPcr ++ filling).length) := by
  have hne : header.mAdaptationFieldLength ≠ 0 := by
    intro hzero
    rw [hzero, UInt8.toNat_zero] at hlength
    omega
  rw [List.append_assoc, List.append_assoc] at h
  have hread := h.decode (AdaptationFieldHeader.decode_encode hne _)
  have hread' := h.skip.decode (readPcr_writePcr lPcr _)
  have hyes : header.received.mPcrFlag = 1 := by
    show header.mPcrFlag &&& 0x01 = 1
    rw [hflag]
    decide
  have hskip : ((header.received.mAdaptationFieldLength.toNat : Int) - 6 - 1).toNat =
      filling.length := by
    show ((header.mAdaptationFieldLength.toNat : Int) - 6 - 1).toNat = _
    omega
  unfold esField
  rw [if_pos hfield, hread]
  simp only [Option.bind_eq_bind, Option.bind_some, if_pos hyes, hread', Option.pure_def, hskip]
  rw [List.length_append, List.length_append]
  simp only [SimpleBuffer.skip, Nat.add_assoc]
  rfl

/-- A field that is there for stuffing only, or not at all. -/
theorem esField_stuffing {size : ℕ} (hsize : size ≤ 184)
    (hfield : lTsHeader.hasField ↔ widen [] size ≠ [])
    (h : At lPos rIn 4 (widen [] size ++ rest)) :
    demuxer.esField lTsHeader rIn = some (0, [], rIn.skip (widen [] size).length) := by
  unfold widen at hfield h ⊢
  dsimp only at hfield h ⊢
  split_ifs at hfield h ⊢ with hzero
  · exact demuxer.esField_none (by rw [hfield]; simp)
  · have hhas : lTsHeader.hasField := by
      rw [hfield]
      exact List.cons_ne_nil _ _
    unfold stuffing at h ⊢
    split_ifs at h ⊢ with htwo
    · have hfits : (UInt8.ofNat (size - 1)).toNat = size - 1 := by
        rw [UInt8.toNat_ofNat']
        exact Nat.mod_eq_of_lt (by omega)
      have hne : UInt8.ofNat (size - 1) ≠ 0 := by
        intro heq
        rw [heq, UInt8.toNat_zero] at hfits
        omega
      have hencode : AdaptationFieldHeader.encode
          { mAdaptationFieldLength := UInt8.ofNat (size - 1) } = [UInt8.ofNat (size - 1), 0] := by
        simp [AdaptationFieldHeader.encode, field8, hne]
      have hplain := demuxer.esField_plain hhas
        { mAdaptationFieldLength := UInt8.ofNat (size - 1) } (List.replicate (size - 2) 0xff)
        (by rw [hfits, List.length_replicate]; omega) rfl
        (show (0 : UInt8) &&& 0x01 = 0 by decide) (by rw [hencode]; exact h)
      rw [hencode] at hplain
      exact hplain
    · obtain rfl : size = 1 := by omega
      exact demuxer.esField_zero hhas h

/-- The adaptation field of the first packet of a frame. -/
theorem esField_start (mPcrPid : UInt16) (rFrame : EsFrame) {size : ℕ} (hsize : size ≤ 184)
    (hfield : lTsHeader.hasField ↔ widen (startField mPcrPid rFrame) size ≠ [])
    (h : At lPos rIn 4 (widen (startField mPcrPid rFrame) size ++ rest)) :
    demuxer.esField lTsHeader rIn = some (rFrame.mRandomAccess &&& 0x01,
      if rFrame.mPid = mPcrPid then demuxer.pcrOut (rFrame.mPcr &&& 0x1FFFFFFFF) else [],
      rIn.skip (widen (startField mPcrPid rFrame) size).length) := by
  have hhas : startField mPcrPid rFrame ≠ [] → lTsHeader.hasField := by
    intro hne
    have hpos := List.length_pos_of_ne_nil hne
    rw [hfield, ← List.length_pos_iff_ne_nil, length_widen]
    omega
  unfold startField at hfield hhas h ⊢
  by_cases hpcr : rFrame.mPid = mPcrPid
  · simp only [if_pos hpcr] at hhas h ⊢
    have hwide : widen (AdaptationFieldHeader.encode
        { mAdaptationFieldLength := 0x07
          mRandomAccessIndicator := rFrame.mRandomAccess
          mPcrFlag := 0x01 } ++ writePcr rFrame.mPcr) size =
        AdaptationFieldHeader.encode
          { mAdaptationFieldLength := UInt8.ofNat (7 + size)
            mRandomAccessIndicator := rFrame.mRandomAccess
            mPcrFlag := 0x01 } ++ writePcr rFrame.mPcr ++ List.replicate size 0xff := by
      have hne : UInt8.ofNat (7 + size) ≠ 0 := by
        intro heq
        have := congrArg UInt8.toNat heq
        rw [UInt8.toNat_ofNat', UInt8.toNat_zero] at this
        omega
      unfold AdaptationFieldHeader.encode
      rw [if_pos (by decide : (0x07 : UInt8) ≠ 0), if_pos hne, UInt8.ofNat_add]
      rfl
    rw [hwide] at h ⊢
    exact demuxer.esField_pcr (hhas (List.cons_ne_nil _ _)) _ _
      (by
        rw [List.length_replicate]
        show (UInt8.ofNat (7 + size)).toNat = _
        rw [UInt8.toNat_ofNat']
        omega) rfl rFrame.mPcr h
  · simp only [if_neg hpcr] at hfield hhas h ⊢
    by_cases hrandom : rFrame.mRandomAccess ≠ 0
    · simp only [if_pos hrandom] at hhas h ⊢
      have hwide : widen (AdaptationFieldHeader.encode
          { mAdaptationFieldLength := 0x01
            mRandomAccessIndicator := rFrame.mRandomAccess }) size =
          AdaptationFieldHeader.encode
            { mAdaptationFieldLength := UInt8.ofNat (1 + size)
              mRandomAccessIndicator := rFrame.mRandomAccess } ++
            List.replicate size 0xff := by
        have hne : UInt8.ofNat (1 + size) ≠ 0 := by
          intro heq
          have := congrArg UInt8.toNat heq
          rw [UInt8.toNat_ofNat', UInt8.toNat_zero] at this
          omega
        unfold AdaptationFieldHeader.encode
        rw [if_pos (by decide : (0x01 : UInt8) ≠ 0), if_pos hne, UInt8.ofNat_add]
        rfl
      rw [hwide] at h ⊢
      exact demuxer.esField_plain (hhas (List.cons_ne_nil _ _)) _ _
        (by
          rw [List.length_replicate]
          show (UInt8.ofNat (1 + size)).toNat = _
          rw [UInt8.toNat_ofNat']
          omega) rfl rfl h
    · simp only [if_neg hrandom] at hfield h ⊢
      have hzero : rFrame.mRandomAccess &&& 0x01 = 0 := by
        rw [not_not.mp hrandom]
        decide
      rw [hzero]
      exact demuxer.esField_stuffing hsize hfield h

end Field

end MpegTsDemuxer

/-! ### Frames and units -/

namespace EsFrame

variable (rFrame : EsFrame)

/-- The number of bytes of timestamps. -/
def headerDataLength : UInt8 :=
  if decide (rFrame.mPts ≠ rFrame.mDts) then 0x0A else 0x05

/-- What the PES length field counts: three bytes of the header, the timestamps and
the data. -/
def pesSize : ℕ :=
  rFrame.headerDataLength.toNat + rFrame.mData.size + 3

/-- The PES length field can hold the length of the frame. -/
def Fits : Prop :=
  rFrame.pesSize ≤ 0xffff

instance : Decidable rFrame.Fits :=
  inferInstanceAs (Decidable (_ ≤ _))

/-- What the PES length field holds; a length of zero says nothing. -/
def pesLength : UInt16 :=
  if 0xffff < rFrame.pesSize then 0 else UInt16.ofNat rFrame.pesSize

def pesHeader : PESHeader where
  mPacketStartCode := 0x000001
  mStreamId := rFrame.mStreamId
  mMarkerBits := 0x02
  mOriginalOrCopy := 0x01
  mPtsDtsFlags := if decide (rFrame.mPts ≠ rFrame.mDts) then 0x03 else 0x02
  mHeaderDataLength := rFrame.headerDataLength
  mPesPacketLength := rFrame.pesLength

/-- The timestamps behind the PES header. -/
def stamps : List UInt8 :=
  if decide (rFrame.mPts ≠ rFrame.mDts) then writePts 3 rFrame.mPts ++ writePts 1 rFrame.mDts
  else writePts 2 rFrame.mPts

theorem pesHeader_eq : MpegTsMuxer.pesHeader rFrame = rFrame.pesHeader.encode ++ rFrame.stamps :=
  rfl

theorem headerDataLength_le : rFrame.headerDataLength.toNat ≤ 10 := by
  unfold headerDataLength
  split_ifs <;> decide

/-- The unit of a frame of which `data` has arrived. -/
def unit (lSt : UInt8) (data : List UInt8) : EsUnit where
  mData := { mData := data }
  mPts := rFrame.mPts &&& 0xFFFFFFFF
  mDts := rFrame.mDts &&& 0xFFFFFFFF
  mPcr := 0
  mRandomAccess := rFrame.mRandomAccess &&& 0x01
  mStreamType := lSt
  mStreamId := rFrame.mStreamId
  mPid := 0
  mExpectedPesPacketLength := rFrame.pesLength
  mExpectedPayloadLength := if rFrame.Fits then UInt16.ofNat rFrame.mData.size else 0

end EsFrame

/-- A unit in which nothing has arrived.  The fields that the next frame sets have
the values of the last one. -/
def Idle (lSt : UInt8) (unit : EsUnit) : Prop :=
  unit = { EsUnit.new lSt with
    mPts := unit.mPts
    mDts := unit.mDts
    mRandomAccess := unit.mRandomAccess
    mStreamId := unit.mStreamId }

/-- A unit with a frame whose end is not known. -/
structure Waiting (lSt : UInt8) (unit : EsUnit) : Prop where
  data : unit.mData.size ≠ 0
  completed : unit.mCompleted = false
  streamType : unit.mStreamType = lSt
  pcr : unit.mPcr = 0

/-- The unit of a PID between two frames, given the frame that waits there. -/
def Between (lSt : UInt8) (waiting : Option EsUnit) (unit : EsUnit) : Prop :=
  match waiting with
  | none => Idle lSt unit
  | some pending => unit = pending ∧ Waiting lSt unit

namespace MpegTsDemuxer

variable {demuxer : MpegTsDemuxer} {lSt : UInt8} {rFrame : EsFrame} {pid : UInt16}

/-- What is given out of a waiting frame as the next one starts. -/
def brokenOut (demuxer : MpegTsDemuxer) (pid : UInt16) (random : UInt8) (waiting : Option EsUnit) :
    List Event :=
  match waiting with
  | none => []
  | some pending =>
      demuxer.esOut { pending with mRandomAccess := random, mBroken := true, mPid := pid }

theorem openUnit_between (demuxer : MpegTsDemuxer) (pid : UInt16) {waiting : Option EsUnit} {unit : EsUnit}
    (h : Between lSt waiting unit) (random : UInt8) :
    ∃ opened : EsUnit, demuxer.openUnit pid random unit =
      (opened, demuxer.brokenOut pid random waiting) ∧ Idle lSt opened ∧
        opened.mRandomAccess = random := by
  unfold openUnit brokenOut
  cases waiting with
  | none =>
      have hidle : Idle lSt unit := h
      refine ⟨{ unit with mRandomAccess := random }, ?_, ?_, rfl⟩
      · rw [hidle]
        rfl
      · unfold Idle at hidle ⊢
        rw [hidle]
  | some pending =>
      obtain ⟨rfl, hwaiting⟩ := h
      have hnot : ¬ unit.mCompleted = true := by
        rw [hwaiting.completed]
        exact Bool.false_ne_true
      refine ⟨_, by dsimp only; rw [if_neg hnot, if_pos hwaiting.data], ?_, rfl⟩
      unfold Idle EsUnit.reset EsUnit.new
      simp only [hwaiting.streamType, hwaiting.pcr]

/-- A part of a frame has arrived: the frame is given out if that was the rest. -/
def arrive (demuxer : MpegTsDemuxer) (pid : UInt16) (lSt : UInt8) (rFrame : EsFrame)
    (data : List UInt8) : EsUnit × List Event :=
  if rFrame.Fits ∧ data.length = rFrame.mData.size then
    demuxer.complete pid (rFrame.unit lSt data)
  else (rFrame.unit lSt data, [])

theorem readTimestamps_stamps (rFrame : EsFrame) {lPos offset : ℕ} {rIn : SimpleBuffer} {rest : List UInt8}
    (unit : EsUnit) (h : At lPos rIn offset (rFrame.stamps ++ rest)) :
    readTimestamps rFrame.pesHeader.received unit rIn =
      some ({ unit with
        mPts := rFrame.mPts &&& 0xFFFFFFFF
        mDts := rFrame.mDts &&& 0xFFFFFFFF }, rIn.skip rFrame.stamps.length) := by
  unfold EsFrame.stamps at h ⊢
  unfold readTimestamps PESHeader.received EsFrame.pesHeader
  by_cases hboth : rFrame.mPts ≠ rFrame.mDts
  · simp only [decide_eq_true hboth, if_true] at h ⊢
    rw [List.append_assoc] at h
    rw [if_neg (by decide), if_pos (by decide), h.decode (readPts_writePts 3 _ _)]
    simp only [Option.bind_eq_bind, Option.bind_some, h.skip.decode (readPts_writePts 1 _ _)]
    rfl
  · simp only [decide_eq_false hboth, Bool.false_eq_true, if_false] at h ⊢
    rw [if_pos (by decide), h.decode (readPts_writePts 2 _ _), not_not.mp hboth]
    rfl

/-- What a packet appends, if it ends with `body`. -/
theorem append_body {lPos offset : ℕ} {rIn : SimpleBuffer} {body : List UInt8} (unit : EsUnit)
    (h : At lPos rIn offset body) {size : Int} (hsize : body.length = size) :
    unit.append rIn size = { unit with mData := unit.mData.append body } := by
  unfold EsUnit.append
  rw [h.unread, ← hsize, Int.toNat_natCast, List.take_length]

theorem leftInPacket_eq {lPos offset : ℕ} {rIn : SimpleBuffer} {body : List UInt8}
    (h : At lPos rIn offset body) (hend : offset + body.length = 188) :
    (body.length : Int) = leftInPacket lPos rIn := by
  unfold leftInPacket
  rw [h.pos]
  omega

/-- The rest of a frame arrives packet by packet. -/
theorem nextPayload_arrive {lPos offset : ℕ} {rIn : SimpleBuffer} {data body : List UInt8}
    (h : At lPos rIn offset body) (hend : offset + body.length = 188)
    (hdata : data ++ body ≠ []) (hlength : (data ++ body).length ≤ rFrame.mData.size) :
    demuxer.nextPayload pid lPos (rFrame.unit lSt data) rIn =
      demuxer.arrive pid lSt rFrame (data ++ body) := by
  have hleft := leftInPacket_eq h hend
  have happend := append_body (rFrame.unit lSt data) h hleft
  rw [List.length_append] at hlength
  have hpes := rFrame.headerDataLength_le
  -- the PES length is never reached before the frame is whole
  have hnot : ¬ ((rFrame.unit lSt data).mExpectedPesPacketLength ≠ 0 ∧
      ((rFrame.unit lSt data).mExpectedPesPacketLength.toNat : Int) <
        (rFrame.unit lSt data).mData.size + leftInPacket lPos rIn) := by
    rintro ⟨hne, hlt⟩
    have hsize : (rFrame.unit lSt data).mData.size = data.length := rfl
    have hfield : (rFrame.unit lSt data).mExpectedPesPacketLength = rFrame.pesLength := rfl
    rw [← hleft, hsize, hfield] at hlt
    rw [hfield] at hne
    unfold EsFrame.pesLength at hne hlt
    split_ifs at hne hlt with hlong
    · exact hne rfl
    · rw [UInt16.toNat_ofNat', Nat.mod_eq_of_lt (by omega)] at hlt
      unfold EsFrame.pesSize at hlt
      omega
  unfold nextPayload arrive
  dsimp only
  rw [if_neg hnot, happend]
  have hunit : { rFrame.unit lSt data with
      mData := (rFrame.unit lSt data).mData.append body } = rFrame.unit lSt (data ++ body) := rfl
  rw [hunit]
  have hexpected : (rFrame.unit lSt (data ++ body)).mExpectedPayloadLength.toNat =
      (rFrame.unit lSt (data ++ body)).mData.size ↔
        rFrame.Fits ∧ (data ++ body).length = rFrame.mData.size := by
    show (if rFrame.Fits then UInt16.ofNat rFrame.mData.size else 0).toNat =
      (data ++ body).length ↔ _
    by_cases hfits : rFrame.Fits
    · have hsmall : rFrame.mData.size < 65536 := by
        have hle : rFrame.pesSize ≤ 0xffff := hfits
        unfold EsFrame.pesSize at hle
        omega
      rw [if_pos hfits, UInt16.toNat_ofNat', Nat.mod_eq_of_lt hsmall]
      exact ⟨fun heq => ⟨hfits, heq.symm⟩, fun heq => heq.2.symm⟩
    · have hpos := List.length_pos_of_ne_nil hdata
      rw [if_neg hfits, UInt16.toNat_zero]
      exact iff_of_false (by omega) (fun heq => hfits heq.1)
  simp only [hexpected]

/-- The first part of a frame.  Its length is compared with a position in the
buffer, which makes no difference to a packet of the muxer. -/
theorem startPayload_arrive {lPos offset : ℕ} {rIn : SimpleBuffer} {body : List UInt8}
    (h : At lPos rIn offset body) (hend : offset + body.length = 188)
    (hbody : body ≠ []) (hlength : body.length ≤ rFrame.mData.size)
    (hfits : rFrame.Fits) :
    demuxer.startPayload pid rFrame.pesHeader.received lPos
        { rFrame.unit lSt [] with mExpectedPayloadLength := 0 } rIn =
      demuxer.arrive pid lSt rFrame body := by
  have hle : rFrame.pesSize ≤ 0xffff := hfits
  have hpes : rFrame.pesLength.toNat = rFrame.pesSize := by
    unfold EsFrame.pesLength
    rw [if_neg (by omega), UInt16.toNat_ofNat', Nat.mod_eq_of_lt (by omega)]
  have hpayload : ((rFrame.pesHeader.received.mPesPacketLength.toNat : Int) - 3 -
      rFrame.pesHeader.received.mHeaderDataLength.toNat) = rFrame.mData.size := by
    show (rFrame.pesLength.toNat : Int) - 3 - rFrame.headerDataLength.toNat = _
    rw [hpes]
    unfold EsFrame.pesSize
    omega
  have hleft := leftInPacket_eq h hend
  have hword : UInt16.ofInt (rFrame.mData.size : Int) = UInt16.ofNat rFrame.mData.size := by
    apply UInt16.toNat_inj.mp
    have hword' : (UInt16.ofInt (rFrame.mData.size : Int)).toNat =
        ((rFrame.mData.size : Int) % 65536).toNat % 65536 := UInt16.toNat_ofNat'
    rw [hword', UInt16.toNat_ofNat']
    omega
  have hunit : ({ rFrame.unit lSt [] with
      mExpectedPayloadLength := UInt16.ofInt (rFrame.mData.size : Int) } : EsUnit) =
      rFrame.unit lSt [] := by
    rw [hword]
    unfold EsFrame.unit
    rw [if_pos hfits]
  -- whichever branch is taken, the body is appended
  have happend : (if 188 < (rFrame.mData.size : Int) + rIn.mPos ∨ (rFrame.mData.size : Int) < 0 then
      (rFrame.unit lSt []).append rIn (leftInPacket lPos rIn)
      else (rFrame.unit lSt []).append rIn rFrame.mData.size) = rFrame.unit lSt body := by
    have hposition := h.pos
    have hone := List.length_pos_of_ne_nil hbody
    split_ifs with hlong
    · rw [append_body _ h hleft]
      rfl
    · rw [append_body _ h (by omega)]
      rfl
  have hcast : ((rFrame.unit lSt body).mData.size : Int) = rFrame.mData.size ↔
      rFrame.Fits ∧ body.length = rFrame.mData.size := by
    show (body.length : Int) = _ ↔ _
    rw [Int.ofNat_inj]
    exact ⟨fun heq => ⟨hfits, heq⟩, fun heq => heq.2⟩
  unfold startPayload arrive
  simp only [hpayload, hunit, happend, hcast]

theorem esPayload_first (demuxer : MpegTsDemuxer) (lTsHeader : TsHeader) {lPos offset : ℕ} {rIn : SimpleBuffer}
    {body : List UInt8} {waiting : Option EsUnit} {unit : EsUnit}
    (hstart : lTsHeader.mPayloadUnitStartIndicator = 0x01) (hunit : Between lSt waiting unit)
    (h : At lPos rIn offset (MpegTsMuxer.pesHeader rFrame ++ body))
    (hend : offset + (MpegTsMuxer.pesHeader rFrame).length + body.length = 188)
    (hbody : body ≠ []) (hlength : body.length ≤ rFrame.mData.size) :
    demuxer.esPayload lTsHeader (rFrame.mRandomAccess &&& 0x01) lPos unit rIn =
      some ((demuxer.arrive lTsHeader.mPid lSt rFrame body).1,
        demuxer.brokenOut lTsHeader.mPid (rFrame.mRandomAccess &&& 0x01) waiting ++
          (demuxer.arrive lTsHeader.mPid lSt rFrame body).2) := by
  obtain ⟨opened, hopen, hidle, hrandom⟩ := openUnit_between demuxer
    lTsHeader.mPid hunit (rFrame.mRandomAccess &&& 0x01)
  rw [EsFrame.pesHeader_eq, List.append_assoc] at h
  rw [EsFrame.pesHeader_eq, List.length_append] at hend
  have hread := h.decode (PESHeader.decode_encode rFrame.pesHeader _)
  have hstamps := fun unit => readTimestamps_stamps rFrame unit h.skip
  -- nothing of an idle unit is left when the headers have been read
  have hstamped : ({ opened with
      mStreamId := rFrame.pesHeader.received.mStreamId
      mExpectedPesPacketLength := rFrame.pesHeader.received.mPesPacketLength
      mPts := rFrame.mPts &&& 0xFFFFFFFF
      mDts := rFrame.mDts &&& 0xFFFFFFFF } : EsUnit) =
      { rFrame.unit lSt [] with mExpectedPayloadLength := 0 } := by
    unfold Idle at hidle
    rw [hidle, hrandom]
    rfl
  have hafter := h.skip.skip
  have hpayload : (if rFrame.pesHeader.received.mPesPacketLength ≠ 0 then
      demuxer.startPayload lTsHeader.mPid rFrame.pesHeader.received lPos
        { rFrame.unit lSt [] with mExpectedPayloadLength := 0 }
        ((rIn.skip rFrame.pesHeader.encode.length).skip rFrame.stamps.length)
      else demuxer.nextPayload lTsHeader.mPid lPos
        { rFrame.unit lSt [] with mExpectedPayloadLength := 0 }
        ((rIn.skip rFrame.pesHeader.encode.length).skip rFrame.stamps.length)) =
      demuxer.arrive lTsHeader.mPid lSt rFrame body := by
    have hfield : rFrame.pesHeader.received.mPesPacketLength = rFrame.pesLength := rfl
    rw [hfield]
    by_cases hfits : rFrame.Fits
    · have hne : rFrame.pesLength ≠ 0 := by
        have hle : rFrame.pesSize ≤ 0xffff := hfits
        unfold EsFrame.pesLength
        rw [if_neg (by omega)]
        intro hzero
        have hnat := congrArg UInt16.toNat hzero
        rw [UInt16.toNat_ofNat', Nat.mod_eq_of_lt (by omega), UInt16.toNat_zero] at hnat
        unfold EsFrame.pesSize at hnat
        omega
      rw [if_pos hne]
      exact startPayload_arrive hafter (by omega) hbody hlength hfits
    · have hzero : rFrame.pesLength = 0 := if_pos (Nat.lt_of_not_le hfits)
      have hunit' : ({ rFrame.unit lSt [] with mExpectedPayloadLength := 0 } : EsUnit) =
          rFrame.unit lSt [] := by
        unfold EsFrame.unit
        rw [if_neg hfits]
      rw [if_neg (not_not.mpr hzero), hunit']
      exact nextPayload_arrive hafter (by omega) hbody hlength
  unfold esPayload
  rw [if_pos hstart, hopen]
  simp only [hread, Option.bind_eq_bind, Option.bind_some, hstamps, hstamped, hpayload,
    Option.pure_def]

theorem esPayload_next (demuxer : MpegTsDemuxer) (lTsHeader : TsHeader) (lSt random : UInt8)
    {lPos offset : ℕ} {rIn : SimpleBuffer} {data body : List UInt8}
    (hstart : ¬ lTsHeader.mPayloadUnitStartIndicator = 0x01) (h : At lPos rIn offset body)
    (hend : offset + body.length = 188) (hdata : data ++ body ≠ [])
    (hlength : (data ++ body).length ≤ rFrame.mData.size) :
    demuxer.esPayload lTsHeader random lPos (rFrame.unit lSt data) rIn =
      some (demuxer.arrive lTsHeader.mPid lSt rFrame (data ++ body)) := by
  unfold esPayload
  rw [if_neg hstart, nextPayload_arrive h hend hdata hlength]

/-! ### Packets of a stream -/

/-- The tables have been read, and the unit of a PID is known. -/
structure Knows (demuxer : MpegTsDemuxer) (pid : UInt16) (unit : EsUnit) : Prop where
  pmtId : demuxer.mPmtId ≠ 0
  unit : demuxer.mEsFrames[pid]? = some unit

/-- Other PIDs do not matter once the tables have been read. -/
theorem decodePacket_known {lTsHeader : TsHeader} {rIn : SimpleBuffer} {front rest : List UInt8}
    {unit : EsUnit} (hknows : demuxer.Knows lTsHeader.mPid unit)
    (h : At rIn.mPos rIn 0 (front ++ rest))
    (hheader : TsHeader.decode (front ++ rest) = some (lTsHeader, rest)) :
    demuxer.decodePacket rIn =
      demuxer.foundEs lTsHeader rIn.mPos unit (rIn.skip front.length) := by
  have hpat : demuxer.foundPat lTsHeader (rIn.skip front.length) =
      some (demuxer, rIn.skip front.length) :=
    if_neg (fun hzero => hknows.pmtId hzero.2)
  have hpmt : demuxer.foundPmt lTsHeader (rIn.skip front.length) =
      some (demuxer, rIn.skip front.length) := by
    apply if_neg
    rintro ⟨hempty, -⟩
    have hunit := hknows.unit
    rw [Std.TreeMap.getElem?_of_isEmpty hempty] at hunit
    cases hunit
  unfold decodePacket
  simp only [h.decode hheader, Option.bind_eq_bind, Option.bind_some, hpat, hpmt]
  unfold foundStream
  rw [hknows.unit]

/-- A demuxer whose unit of one PID has changed. -/
def withUnit (demuxer : MpegTsDemuxer) (pid : UInt16) (unit : EsUnit) : MpegTsDemuxer :=
  { demuxer with mEsFrames := demuxer.mEsFrames.insert pid unit }

theorem Knows.withUnit {unit : EsUnit} (h : demuxer.Knows pid unit) (unit' : EsUnit) :
    (demuxer.withUnit pid unit').Knows pid unit' where
  pmtId := h.pmtId
  unit := Std.TreeMap.getElem?_insert_self

/-- **The first packet of a frame.** -/
theorem decodes_first {waiting : Option EsUnit} {unit : EsUnit} (hpid : IsPid rFrame.mPid)
    (hknows : demuxer.Knows rFrame.mPid unit) (hunit : Between lSt waiting unit)
    (hdata : rFrame.mData.mData ≠ []) (mPcrPid : UInt16) (cc : UInt8) :
    let result := demuxer.arrive rFrame.mPid lSt rFrame
      (rFrame.mData.mData.take (firstRoom mPcrPid rFrame))
    Decodes demuxer (firstPacket mPcrPid rFrame cc) (demuxer.withUnit rFrame.mPid result.1)
      ((if rFrame.mPid = mPcrPid then demuxer.pcrOut (rFrame.mPcr &&& 0x1FFFFFFFF) else []) ++
        (demuxer.brokenOut rFrame.mPid (rFrame.mRandomAccess &&& 0x01) waiting ++ result.2)) := by
  intro result
  have hroom := firstRoom_pos mPcrPid rFrame
  have hpos := List.length_pos_of_ne_nil hdata
  have hbody : rFrame.mData.mData.take (firstRoom mPcrPid rFrame) ≠ [] := by
    rw [← List.length_pos_iff_ne_nil, List.length_take]
    omega
  have hfield := length_startField_le mPcrPid rFrame
  have hpes := length_pesHeader_le rFrame
  have hwidth := length_widen (startField mPcrPid rFrame)
    (firstRoom mPcrPid rFrame - rFrame.mData.mData.length)
  have hlength : 4 + (widen (startField mPcrPid rFrame)
      (firstRoom mPcrPid rFrame - rFrame.mData.mData.length)).length +
      (MpegTsMuxer.pesHeader rFrame).length +
      (rFrame.mData.mData.take (firstRoom mPcrPid rFrame)).length = 188 := by
    rw [hwidth, List.length_take]
    unfold firstRoom at hroom ⊢
    omega
  apply Decodes.of_at
  · unfold firstPacket
    rw [length_streamPacket, List.length_append]
    omega
  · intro lPos rIn h
    unfold firstPacket streamPacket at h
    generalize hfieldEq : widen (startField mPcrPid rFrame)
      (firstRoom mPcrPid rFrame - rFrame.mData.mData.length) = field at h hlength
    obtain ⟨hmPid, hstart, hhas, hbodyHas⟩ := received_streamHeader hpid true
      (decide (field ≠ [])) cc
    rw [List.append_assoc] at h
    generalize hheader : streamHeader rFrame.mPid true (decide (field ≠ [])) cc = header
      at h hmPid hstart hhas hbodyHas
    have hrIn : rIn.mPos = lPos := h.pos
    have hafter := h.skip
    rw [length_encode] at hafter
    have hfieldRead : demuxer.esField header.received (rIn.skip 4) =
        some (rFrame.mRandomAccess &&& 0x01,
          if rFrame.mPid = mPcrPid then demuxer.pcrOut (rFrame.mPcr &&& 0x1FFFFFFFF) else [],
          (rIn.skip 4).skip field.length) := by
      rw [← hfieldEq]
      apply demuxer.esField_start mPcrPid rFrame
      · unfold firstRoom
        omega
      · rw [hhas, hfieldEq, decide_eq_true_eq]
      · rw [hfieldEq]
        exact hafter
    have hpayload := esPayload_first demuxer header.received hstart hunit
      hafter.skip (by omega) hbody (List.length_take_le' _ _)
    rw [decodePacket_known (by rw [hmPid]; exact hknows)
      (by rw [hrIn]; exact h) (TsHeader.decode_encode header _)]
    unfold foundEs
    simp only [hfieldRead, Option.bind_eq_bind, Option.bind_some, if_pos hbodyHas, hrIn,
      length_encode, hpayload, hmPid, Option.pure_def]
    rfl

/-- **The packets behind the first one.** -/
theorem decodes_next {data body : List UInt8} (hpid : IsPid rFrame.mPid)
    (hknows : demuxer.Knows rFrame.mPid (rFrame.unit lSt data)) (hbody : body ≠ [])
    (hroom : body.length ≤ 184) (hlength : (data ++ body).length ≤ rFrame.mData.size)
    (cc : UInt8) :
    let result := demuxer.arrive rFrame.mPid lSt rFrame (data ++ body)
    Decodes demuxer (streamPacket rFrame.mPid false cc (widen [] (184 - body.length)) body)
      (demuxer.withUnit rFrame.mPid result.1) result.2 := by
  intro result
  have hwidth := length_widen [] (184 - body.length)
  rw [List.length_nil, Nat.zero_add] at hwidth
  have hdata : data ++ body ≠ [] := by
    intro hnil
    exact hbody (List.append_eq_nil_iff.mp hnil).2
  apply Decodes.of_at
  · rw [length_streamPacket, hwidth]
    omega
  · intro lPos rIn h
    unfold streamPacket at h
    generalize hfieldEq : widen [] (184 - body.length) = field at h hwidth
    obtain ⟨hmPid, hstart, hhas, hbodyHas⟩ := received_streamHeader hpid false
      (decide (field ≠ [])) cc
    rw [List.append_assoc] at h
    generalize hheader : streamHeader rFrame.mPid false (decide (field ≠ [])) cc = header
      at h hmPid hstart hhas hbodyHas
    have hrIn : rIn.mPos = lPos := h.pos
    have hafter := h.skip
    rw [length_encode] at hafter
    have hfieldRead : demuxer.esField header.received (rIn.skip 4) =
        some (0, [], (rIn.skip 4).skip field.length) := by
      rw [← hfieldEq]
      apply demuxer.esField_stuffing (Nat.sub_le _ _)
      · rw [hhas, hfieldEq, decide_eq_true_eq]
      · rw [hfieldEq]
        exact hafter
    have hnot : ¬ header.received.mPayloadUnitStartIndicator = 0x01 := by
      rw [hstart]
      decide
    have hpayload := esPayload_next demuxer header.received lSt 0 hnot
      hafter.skip (by omega) hdata hlength
    rw [decodePacket_known (by rw [hmPid]; exact hknows)
      (by rw [hrIn]; exact h) (TsHeader.decode_encode header _)]
    unfold foundEs
    simp only [hfieldRead, Option.bind_eq_bind, Option.bind_some, if_pos hbodyHas, hrIn,
      length_encode, hpayload, hmPid, Option.pure_def, List.nil_append]
    rfl

/-- Only the unit of one PID has changed. -/
structure Moves (demuxer demuxer' : MpegTsDemuxer) (pid : UInt16) (unit' : EsUnit) : Prop where
  fields : demuxer' = { demuxer with mEsFrames := demuxer'.mEsFrames }
  unit : demuxer'.mEsFrames[pid]? = some unit'
  others : ∀ other, other ≠ pid → demuxer'.mEsFrames[other]? = demuxer.mEsFrames[other]?

theorem moves_withUnit (demuxer : MpegTsDemuxer) (pid : UInt16) (unit' : EsUnit) :
    Moves demuxer (demuxer.withUnit pid unit') pid unit' where
  fields := rfl
  unit := Std.TreeMap.getElem?_insert_self
  others other hother := by
    unfold withUnit
    dsimp only
    rw [Std.TreeMap.getElem?_insert, if_neg]
    rw [Std.LawfulEqOrd.compare_eq_iff_eq]
    exact fun heq => hother heq.symm

theorem Moves.trans {demuxer' demuxer'' : MpegTsDemuxer} {unit' unit'' : EsUnit}
    (h : Moves demuxer demuxer' pid unit') (h' : Moves demuxer' demuxer'' pid unit'') :
    Moves demuxer demuxer'' pid unit'' where
  fields := by rw [h'.fields, h.fields]
  unit := h'.unit
  others other hother := (h'.others other hother).trans (h.others other hother)

theorem arrive_part {data : List UInt8} (hlength : data.length < rFrame.mData.size) :
    demuxer.arrive pid lSt rFrame data = (rFrame.unit lSt data, []) :=
  if_neg (fun h => Nat.ne_of_lt hlength h.2)

/-- The packets behind the first one bring the rest of the frame. -/
theorem decodesAll_fragments (demuxer : MpegTsDemuxer) {packets : List (List UInt8)} {rest : List UInt8}
    (hpid : IsPid rFrame.mPid) (h : Fragments rFrame.mPid packets rest) {data : List UInt8}
    (hknows : demuxer.Knows rFrame.mPid (rFrame.unit lSt data)) (hrest : rest ≠ [])
    (hdata : data ++ rest = rFrame.mData.mData) :
    ∃ demuxer', DecodesAll demuxer packets demuxer'
        (demuxer.arrive rFrame.mPid lSt rFrame rFrame.mData.mData).2 ∧
      Moves demuxer demuxer' rFrame.mPid
        (demuxer.arrive rFrame.mPid lSt rFrame rFrame.mData.mData).1 := by
  induction h generalizing demuxer data with
  | nil => exact absurd rfl hrest
  | @cons cc body rest packets hbody hroom hmore ih =>
      have hsize : rFrame.mData.size = data.length + (body.length + rest.length) := by
        unfold SimpleBuffer.size
        rw [← hdata, List.length_append, List.length_append]
      have hpacket := decodes_next hpid hknows hbody hroom
        (by rw [List.length_append, hsize]; omega) cc
      by_cases hlast : rest = []
      · rw [hlast, List.append_nil] at hdata
        rw [hdata] at hpacket
        have hone := DecodesAll.cons hpacket (.nil _)
        rw [List.append_nil] at hone
        rw [hmore.eq_nil hlast]
        exact ⟨_, hone, moves_withUnit _ _ _⟩
      · have hpos := List.length_pos_of_ne_nil hlast
        rw [arrive_part (by rw [List.length_append, hsize]; omega)] at hpacket
        obtain ⟨demuxer', hdecodes, hmoves⟩ := ih _ (hknows.withUnit _) hlast
          (by rw [List.append_assoc]; exact hdata)
        exact ⟨demuxer', .cons hpacket hdecodes, (moves_withUnit _ _ _).trans hmoves⟩

/-- **The packets of a frame** that has data. -/
theorem decodesAll_frame {mPcrPid : UInt16} {packets : List (List UInt8)}
    {waiting : Option EsUnit} {unit : EsUnit} (hpid : IsPid rFrame.mPid)
    (hknows : demuxer.Knows rFrame.mPid unit) (hunit : Between lSt waiting unit)
    (hdata : rFrame.mData.mData ≠ []) (h : FramePackets mPcrPid rFrame packets) :
    ∃ demuxer', DecodesAll demuxer packets demuxer'
        ((if rFrame.mPid = mPcrPid then demuxer.pcrOut (rFrame.mPcr &&& 0x1FFFFFFFF) else []) ++
          (demuxer.brokenOut rFrame.mPid (rFrame.mRandomAccess &&& 0x01) waiting ++
            (demuxer.arrive rFrame.mPid lSt rFrame rFrame.mData.mData).2)) ∧
      Moves demuxer demuxer' rFrame.mPid
        (demuxer.arrive rFrame.mPid lSt rFrame rFrame.mData.mData).1 := by
  cases h with
  | empty hempty => exact absurd hempty hdata
  | @frame cc rest _ hrest =>
      have hpacket := decodes_first hpid hknows hunit hdata mPcrPid cc
      have hsplit := List.take_append_drop (firstRoom mPcrPid rFrame) rFrame.mData.mData
      by_cases hlast : rFrame.mData.mData.drop (firstRoom mPcrPid rFrame) = []
      · rw [hlast, List.append_nil] at hsplit
        rw [hsplit] at hpacket
        have hone := DecodesAll.cons hpacket (.nil _)
        rw [List.append_nil] at hone
        rw [hrest.eq_nil hlast]
        exact ⟨_, hone, moves_withUnit _ _ _⟩
      · have hpos := List.length_pos_of_ne_nil hlast
        rw [List.length_drop] at hpos
        rw [arrive_part (by
          rw [List.length_take]
          unfold SimpleBuffer.size
          omega)] at hpacket
        obtain ⟨demuxer', hdecodes, hmoves⟩ := decodesAll_fragments (demuxer.withUnit _ _)
          hpid hrest (hknows.withUnit _) hlast hsplit
        refine ⟨demuxer', ?_, (moves_withUnit _ _ _).trans hmoves⟩
        have hall := DecodesAll.cons hpacket hdecodes
        simp only [List.append_nil, List.append_assoc] at hall
        exact hall

end MpegTsDemuxer

end Mpegts
