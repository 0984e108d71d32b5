import Xrtc.MpegtsMuxer

/-!
# The transport stream demuxer

`MpegTsDemuxer` reads packets of 188 bytes, learns from the first PAT and PMT
which PIDs carry elementary streams, and puts the frames of each stream together
again.  A call of `decode` is a function from the demuxer and a buffer to the
demuxer and the arguments of the callbacks, in their order; `none` is a read past
the end of the buffer, which throws (or fails an assertion) in the source.

Positions are absolute in the buffer, as in the source: a header may be read
across the end of its packet, and one test compares a position in the buffer with
the size of a packet.  Members that a constructor leaves unset are zero here.
-/

namespace Mpegts

/-! ### Reading from a `SimpleBuffer` -/

deriving instance DecidableEq for SimpleBuffer, EsFrame

namespace SimpleBuffer

def prepend (sb : SimpleBuffer) (bytes : List UInt8) : SimpleBuffer :=
  { sb with mData := bytes ++ sb.mData }

/-- A header read from the position on; the position moves behind it. -/
def decode {α : Type} (sb : SimpleBuffer) (header : List UInt8 → Option (α × List UInt8)) :
    Option (α × SimpleBuffer) := do
  let (value, rest) ← header sb.unread
  return (value, sb.skip (sb.unread.length - rest.length))

end SimpleBuffer

/-- `SimpleBuffer::read1Byte`. -/
def readByte : List UInt8 → Option (UInt8 × List UInt8)
  | b0 :: rest => some (b0, rest)
  | _ => none

/-- `SimpleBuffer::read2Bytes`. -/
def readWord : List UInt8 → Option (UInt16 × List UInt8)
  | b0 :: b1 :: rest => some (read2Bytes b0 b1, rest)
  | _ => none

def AdaptationFieldHeader.decode : List UInt8 → Option (AdaptationFieldHeader × List UInt8)
  | mAdaptationFieldLength :: rest =>
      if mAdaptationFieldLength ≠ 0 then
        match rest with
        | lVal :: rest =>
            some ({ mAdaptationFieldLength := mAdaptationFieldLength
                    mAdaptationFieldExtensionFlag := lVal &&& 0x01
                    mTransportPrivateDataFlag := (lVal >>> 1) &&& 0x01
                    mSplicingPointFlag := (lVal >>> 2) &&& 0x01
                    mOpcrFlag := (lVal >>> 3) &&& 0x01
                    mPcrFlag := (lVal >>> 4) &&& 0x01
                    mElementaryStreamPriorityIndicator := (lVal >>> 5) &&& 0x01
                    mRandomAccessIndicator := (lVal >>> 6) &&& 0x01
                    mDiscontinuityIndicator := (lVal >>> 7) &&& 0x01 }, rest)
        | [] => none
      else some ({ mAdaptationFieldLength := mAdaptationFieldLength }, rest)
  | [] => none

/-- `mReserved0` is not read. -/
def PATHeader.decode : List UInt8 → Option (PATHeader × List UInt8)
  | b0 :: b1 :: b2 :: b3 :: b4 :: b5 :: b6 :: b7 :: rest =>
      let lB1b2 := read2Bytes b1 b2
      some ({ mTableId := b0
              mSectionSyntaxIndicator := ((lB1b2 >>> 15) &&& 0x01).toUInt8
              mB0 := ((lB1b2 >>> 14) &&& 0x01).toUInt8
              mSectionLength := lB1b2 &&& 0x0FFF
              mTransportStreamId := read2Bytes b3 b4
              mReserved1 := (b5 >>> 6) &&& 0x03
              mVersionNumber := (b5 >>> 1) &&& 0x1F
              mCurrentNextIndicator := b5 &&& 0x01
              mSectionNumber := b6
              mLastSectionNumber := b7 }, rest)
  | _ => none

def PESHeader.decode : List UInt8 → Option (PESHeader × List UInt8)
  | b0 :: b1 :: b2 :: b3 :: b4 :: b5 :: b6 :: b7 :: b8 :: rest =>
      let lB0b1b2b3 : UInt32 :=
        (b0.toUInt32 <<< 24) ||| (b1.toUInt32 <<< 16) ||| (b2.toUInt32 <<< 8) ||| b3.toUInt32
      some ({ mPacketStartCode := (lB0b1b2b3 >>> 8) &&& 0x00FFFFFF
              mStreamId := (lB0b1b2b3 &&& 0xFF).toUInt8
              mPesPacketLength := read2Bytes b4 b5
              mOriginalOrCopy := b6 &&& 0x01
              mCopyright := (b6 >>> 1) &&& 0x01
              mDataAlignmentIndicator := (b6 >>> 2) &&& 0x01
              mPesPriority := (b6 >>> 3) &&& 0x01
              mPesScramblingControl := (b6 >>> 4) &&& 0x03
              mMarkerBits := (b6 >>> 6) &&& 0x03
              mPesExtFlag := b7 &&& 0x01
              mPesCrcFlag := (b7 >>> 1) &&& 0x01
              mAddCopyInfoFlag := (b7 >>> 2) &&& 0x01
              mDsmTrickModeFlag := (b7 >>> 3) &&& 0x01
              mEsRateFlag := (b7 >>> 4) &&& 0x01
              mEscrFlag := (b7 >>> 5) &&& 0x01
              mPtsDtsFlags := (b7 >>> 6) &&& 0x03
              mHeaderDataLength := b8 }, rest)
  | _ => none

/-- The groups of bits are put together in 32-bit arithmetic.  The sign extension
of the bytes is cut off by the masks. -/
def readPts : List UInt8 → Option (UInt64 × List UInt8)
  | b0 :: b1 :: b2 :: b3 :: b4 :: rest =>
      let high : UInt32 := ((b0.toUInt32 >>> 1) &&& 0x07) <<< 30
      let mid : UInt32 := (((read2Bytes b1 b2).toUInt32 >>> 1) &&& 0x7fff) <<< 15
      let low : UInt32 := ((read2Bytes b3 b4).toUInt32 >>> 1) &&& 0x7fff
      some (high.toUInt64 ||| mid.toUInt64 ||| low.toUInt64, rest)
  | _ => none

def readPcr : List UInt8 → Option (UInt64 × List UInt8)
  | b0 :: b1 :: b2 :: b3 :: b4 :: _ :: rest =>
      let lPcr : UInt64 :=
        ((b0.toUInt64 <<< (25 : UInt64)) &&& (0x1FE000000 : UInt64)) |||
        ((b1.toUInt64 <<< (17 : UInt64)) &&& (0x1FE0000 : UInt64)) |||
        ((b2.toUInt64 <<< (9 : UInt64)) &&& (0x1FE00 : UInt64)) |||
        ((b3.toUInt64 <<< (1 : UInt64)) &&& (0x1FE : UInt64)) |||
        ((b4.toUInt64 >>> (7 : UInt64)) &&& (0x01 : UInt64))
      some (lPcr, rest)
  | _ => none

/-! ### `MpegTsDemuxer` -/

/-- The `EsFrame` that the demuxer fills. -/
structure EsUnit extends EsFrame where
  mExpectedPesPacketLength : UInt16 := 0
  mExpectedPayloadLength : UInt16 := 0
  mCompleted : Bool := false
  mBroken : Bool := false
deriving DecidableEq

namespace EsUnit

/-- `EsFrame(uint8_t lSt)`. -/
def new (lSt : UInt8) : EsUnit where
  mData := {}
  mPts := 0
  mDts := 0
  mPcr := 0
  mRandomAccess := 0
  mStreamType := lSt
  mStreamId := 0
  mPid := 0

def reset (unit : EsUnit) : EsUnit :=
  { unit with
    mPid := 0
    mCompleted := false
    mBroken := false
    mExpectedPesPacketLength := 0
    mExpectedPayloadLength := 0
    mData := {} }

/-- `mData->append(rIn.data() + rIn.pos(), size)`, which does nothing for a size
that is not positive. -/
def append (unit : EsUnit) (rIn : SimpleBuffer) (size : Int) : EsUnit :=
  { unit with mData := unit.mData.append (rIn.unread.take size.toNat) }

end EsUnit

/-- A call of a callback. -/
inductive Event where
  | es (pEs : EsUnit)
  | pcr (lPcr : UInt64)
deriving DecidableEq

/-- The callbacks are whether they are set. -/
structure MpegTsDemuxer where
  esOutCallback : Bool := false
  pcrOutCallback : Bool := false
  mStreamPidMap : Std.TreeMap UInt8 UInt16 := ∅
  mPmtId : UInt16 := 0
  mPatHeader : PATHeader := {}
  mPatIsValid : Bool := false
  mPmtHeader : PMTHeader := {}
  mPmtIsValid : Bool := false
  mEsFrames : Std.TreeMap UInt16 EsUnit := ∅
  mPcrId : UInt16 := 0
  mRestData : List UInt8 := []

namespace TsHeader

/-- The packet has an adaptation field. -/
def hasField (h : TsHeader) : Prop :=
  h.mAdaptationFieldControl = mAdaptionOnly ∨ h.mAdaptationFieldControl = mPayloadAdaptionBoth

/-- The packet has a payload. -/
def hasBody (h : TsHeader) : Prop :=
  h.mAdaptationFieldControl = mPayloadOnly ∨ h.mAdaptationFieldControl = mPayloadAdaptionBoth

instance (h : TsHeader) : Decidable h.hasField :=
  inferInstanceAs (Decidable (_ ∨ _))

instance (h : TsHeader) : Decidable h.hasBody :=
  inferInstanceAs (Decidable (_ ∨ _))

end TsHeader

namespace MpegTsDemuxer

/-- The adaptation field of a packet with a table. -/
def skipField (lTsHeader : TsHeader) (rIn : SimpleBuffer) : Option SimpleBuffer :=
  if lTsHeader.hasField then do
    let (lAdaptionField, rIn) ← rIn.decode AdaptationFieldHeader.decode
    return rIn.skip (lAdaptionField.mAdaptationFieldLength.toNat - 1)
  else some rIn

/-- The pointer field before a section. -/
def skipPointer (lTsHeader : TsHeader) (rIn : SimpleBuffer) : Option SimpleBuffer :=
  if lTsHeader.mPayloadUnitStartIndicator = 0x01 then (rIn.decode readByte).map Prod.snd
  else some rIn

/-- The section of a PAT. -/
def readPat (demuxer : MpegTsDemuxer) (rIn : SimpleBuffer) :
    Option (MpegTsDemuxer × SimpleBuffer) := do
  let (mPatHeader, rIn) ← rIn.decode PATHeader.decode
  let (_, rIn) ← rIn.decode readWord
  let (pid, rIn) ← rIn.decode readWord
  return ({ demuxer with
    mPatHeader := mPatHeader, mPmtId := pid &&& 0x1fff, mPatIsValid := true }, rIn)

/-- Found PAT and get the PID of the PMT. -/
def foundPat (demuxer : MpegTsDemuxer) (lTsHeader : TsHeader) (rIn : SimpleBuffer) :
    Option (MpegTsDemuxer × SimpleBuffer) :=
  if lTsHeader.mPid = 0 ∧ demuxer.mPmtId = 0 then do
    let rIn ← skipField lTsHeader rIn
    if lTsHeader.hasBody then do
      let rIn ← skipPointer lTsHeader rIn
      demuxer.readPat rIn
    else some (demuxer, rIn)
  else some (demuxer, rIn)

/-- What is entered for an element of the PMT. -/
def addElement (demuxer : MpegTsDemuxer) (info : PMTElementInfo) : MpegTsDemuxer :=
  { demuxer with
    mEsFrames := demuxer.mEsFrames.insert info.mElementaryPid (.new info.mStreamType)
    mStreamPidMap := demuxer.mStreamPidMap.insert info.mStreamType info.mElementaryPid }

/-- The section of a PMT.  It is decoded into a header that has no elements yet,
since none has been entered before. -/
def readPmt (demuxer : MpegTsDemuxer) (rIn : SimpleBuffer) :
    Option (MpegTsDemuxer × SimpleBuffer) := do
  let mPmtHeader ← PMTHeader.decode rIn.unread
  let demuxer :=
    { mPmtHeader.mInfos.foldl addElement demuxer with
      mPmtHeader := mPmtHeader, mPcrId := mPmtHeader.mPcrPid, mPmtIsValid := true }
  return (demuxer, rIn.skip (mPmtHeader.mProgramInfoLength.toNat + mPmtHeader.size))

/-- Found PMT. -/
def foundPmt (demuxer : MpegTsDemuxer) (lTsHeader : TsHeader) (rIn : SimpleBuffer) :
    Option (MpegTsDemuxer × SimpleBuffer) :=
  if demuxer.mEsFrames.isEmpty ∧ demuxer.mPmtId ≠ 0 ∧ lTsHeader.mPid = demuxer.mPmtId then do
    let rIn ← skipField lTsHeader rIn
    if lTsHeader.mPayloadUnitStartIndicator = 0x01 then do
      let (_, rIn) ← rIn.decode readByte
      demuxer.readPmt rIn
    else some (demuxer, rIn)
  else some (demuxer, rIn)

/-- What `pcrOutCallback` is called with. -/
def pcrOut (demuxer : MpegTsDemuxer) (lPcr : UInt64) : List Event :=
  if demuxer.pcrOutCallback then [.pcr lPcr] else []

/-- What `esOutCallback` is called with. -/
def esOut (demuxer : MpegTsDemuxer) (pEs : EsUnit) : List Event :=
  if demuxer.esOutCallback then [.es pEs] else []

/-- The adaptation field of a packet of an elementary stream: the random access
indicator and the PCR it may have. -/
def esField (demuxer : MpegTsDemuxer) (lTsHeader : TsHeader) (rIn : SimpleBuffer) :
    Option (UInt8 × List Event × SimpleBuffer) :=
  if lTsHeader.hasField then do
    let (lAdaptionField, rIn) ← rIn.decode AdaptationFieldHeader.decode
    let lAdaptFieldLength : Int := lAdaptionField.mAdaptationFieldLength.toNat
    if lAdaptionField.mPcrFlag = 1 then
      let (lPcr, rIn) ← rIn.decode readPcr
      return (lAdaptionField.mRandomAccessIndicator, demuxer.pcrOut lPcr,
        rIn.skip (lAdaptFieldLength - 6 - 1).toNat)
    else
      return (lAdaptionField.mRandomAccessIndicator, [], rIn.skip (lAdaptFieldLength - 1).toNat)
  else some (0, [], rIn)

/-- A payload unit starts: what is left of the one before it is given out as
broken. -/
def openUnit (demuxer : MpegTsDemuxer) (mPid : UInt16) (lRandomAccessIndicator : UInt8)
    (unit : EsUnit) : EsUnit × List Event :=
  let unit := { unit with mRandomAccess := lRandomAccessIndicator }
  if unit.mCompleted then (unit.reset, [])
  else if unit.mData.size ≠ 0 then
    (unit.reset, demuxer.esOut { unit with mBroken := true, mPid := mPid })
  else (unit, [])

/-- Give a unit out and start afresh. -/
def complete (demuxer : MpegTsDemuxer) (mPid : UInt16) (unit : EsUnit) : EsUnit × List Event :=
  let unit := { unit with mCompleted := true, mPid := mPid }
  (unit.reset, demuxer.esOut unit)

/-- The timestamps behind a PES header. -/
def readTimestamps (lPesHeader : PESHeader) (unit : EsUnit) (rIn : SimpleBuffer) :
    Option (EsUnit × SimpleBuffer) :=
  if lPesHeader.mPtsDtsFlags = 0x02 then do
    let (lPts, rIn) ← rIn.decode readPts
    return ({ unit with mPts := lPts, mDts := lPts }, rIn)
  else if lPesHeader.mPtsDtsFlags = 0x03 then do
    let (lPts, rIn) ← rIn.decode readPts
    let (lDts, rIn) ← rIn.decode readPts
    return ({ unit with mPts := lPts, mDts := lDts }, rIn)
  else some (unit, rIn)

/-- `188 - (rIn.pos() - lPos)`. -/
def leftInPacket (lPos : ℕ) (rIn : SimpleBuffer) : Int :=
  188 - ((rIn.mPos : Int) - lPos)

/-- The payload of the packet that starts a unit of known length. -/
def startPayload (demuxer : MpegTsDemuxer) (mPid : UInt16) (lPesHeader : PESHeader)
    (lPos : ℕ) (unit : EsUnit) (rIn : SimpleBuffer) : EsUnit × List Event :=
  let payloadLength : Int :=
    lPesHeader.mPesPacketLength.toNat - 3 - lPesHeader.mHeaderDataLength.toNat
  let unit := { unit with mExpectedPayloadLength := UInt16.ofInt payloadLength }
  let unit :=
    if 188 < payloadLength + rIn.mPos ∨ payloadLength < 0 then
      unit.append rIn (leftInPacket lPos rIn)
    else unit.append rIn payloadLength
  if (unit.mData.size : Int) = payloadLength then demuxer.complete mPid unit else (unit, [])

/-- The payload of a packet that goes on with a unit, or starts one of unknown
length. -/
def nextPayload (demuxer : MpegTsDemuxer) (mPid : UInt16) (lPos : ℕ) (unit : EsUnit)
    (rIn : SimpleBuffer) : EsUnit × List Event :=
  let expected : Int := unit.mExpectedPesPacketLength.toNat
  let unit :=
    if unit.mExpectedPesPacketLength ≠ 0 ∧
        expected < unit.mData.size + leftInPacket lPos rIn then
      unit.append rIn (expected - unit.mData.size)
    else unit.append rIn (leftInPacket lPos rIn)
  if unit.mExpectedPayloadLength.toNat = unit.mData.size then demuxer.complete mPid unit
  else (unit, [])

/-- The payload of a packet of an elementary stream. -/
def esPayload (demuxer : MpegTsDemuxer) (lTsHeader : TsHeader) (lRandomAccessIndicator : UInt8)
    (lPos : ℕ) (unit : EsUnit) (rIn : SimpleBuffer) : Option (EsUnit × List Event) :=
  if lTsHeader.mPayloadUnitStartIndicator = 0x01 then do
    let (unit, broken) := demuxer.openUnit lTsHeader.mPid lRandomAccessIndicator unit
    let (lPesHeader, rIn) ← rIn.decode PESHeader.decode
    let unit :=
      { unit with
        mStreamId := lPesHeader.mStreamId
        mExpectedPesPacketLength := lPesHeader.mPesPacketLength }
    let (unit, rIn) ← readTimestamps lPesHeader unit rIn
    let (unit, events) :=
      if lPesHeader.mPesPacketLength ≠ 0 then
        demuxer.startPayload lTsHeader.mPid lPesHeader lPos unit rIn
      else demuxer.nextPayload lTsHeader.mPid lPos unit rIn
    return (unit, broken ++ events)
  else some (demuxer.nextPayload lTsHeader.mPid lPos unit rIn)

/-- A packet of an elementary stream. -/
def foundEs (demuxer : MpegTsDemuxer) (lTsHeader : TsHeader) (lPos : ℕ) (unit : EsUnit)
    (rIn : SimpleBuffer) : Option (MpegTsDemuxer × List Event) := do
  let (lRandomAccessIndicator, pcr, rIn) ← demuxer.esField lTsHeader rIn
  if lTsHeader.hasBody then
    let (unit, events) ←
      demuxer.esPayload lTsHeader lRandomAccessIndicator lPos unit rIn
    return ({ demuxer with mEsFrames := demuxer.mEsFrames.insert lTsHeader.mPid unit },
      pcr ++ events)
  else return (demuxer, pcr)

/-- A packet that has nothing but a PCR. -/
def foundPcr (demuxer : MpegTsDemuxer) (rIn : SimpleBuffer) : Option (List Event) := do
  let (_, rIn) ← rIn.decode AdaptationFieldHeader.decode
  let (lPcr, _) ← rIn.decode readPcr
  return demuxer.pcrOut lPcr

/-- What the PID of a packet leads to, once the tables are known. -/
def foundStream (demuxer : MpegTsDemuxer) (lTsHeader : TsHeader) (lPos : ℕ)
    (rIn : SimpleBuffer) : Option (MpegTsDemuxer × List Event) :=
  match demuxer.mEsFrames[lTsHeader.mPid]? with
  | some unit => demuxer.foundEs lTsHeader lPos unit rIn
  | none =>
      if demuxer.mPcrId ≠ 0 ∧ demuxer.mPcrId = lTsHeader.mPid then
        (demuxer.foundPcr rIn).map (fun events => (demuxer, events))
      else some (demuxer, [])

/-- One round of the loop of `decode`: a packet. -/
def decodePacket (demuxer : MpegTsDemuxer) (rIn : SimpleBuffer) :
    Option (MpegTsDemuxer × List Event) := do
  let lPos := rIn.mPos
  let (lTsHeader, rIn) ← rIn.decode TsHeader.decode
  let (demuxer, rIn) ← demuxer.foundPat lTsHeader rIn
  let (demuxer, rIn) ← demuxer.foundPmt lTsHeader rIn
  demuxer.foundStream lTsHeader lPos rIn

/-- The loop of `decode`.  Every round ends 188 bytes behind where it began. -/
def decodeLoop (demuxer : MpegTsDemuxer) (rIn : SimpleBuffer) :
    ℕ → Option (MpegTsDemuxer × SimpleBuffer × List Event)
  | 0 => some (demuxer, rIn, [])
  | rounds + 1 =>
      if rIn.size < rIn.mPos + 188 then some (demuxer, rIn, [])
      else do
        let (demuxer, events) ← demuxer.decodePacket rIn
        let (demuxer, rIn, rest) ← demuxer.decodeLoop (rIn.skip 188) rounds
        return (demuxer, rIn, events ++ rest)

/-- What is too short for a packet is kept for the next call. -/
def decode (demuxer : MpegTsDemuxer) (rIn : SimpleBuffer) :
    Option (MpegTsDemuxer × List Event) := do
  let rIn := rIn.prepend demuxer.mRestData
  let (demuxer, rIn, events) ←
    { demuxer with mRestData := [] }.decodeLoop rIn (rIn.size / 188)
  return ({ demuxer with mRestData := demuxer.mRestData ++ rIn.unread }, events)

end MpegTsDemuxer

end Mpegts
