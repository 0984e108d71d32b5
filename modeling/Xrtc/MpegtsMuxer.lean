import Std.Data.TreeMap
import Xrtc.Framing
import Xrtc.MpegtsPacket

/-!
# The transport stream muxer

`MpegTsMuxer` turns elementary stream frames into packets of 188 bytes, and
`SimpleMpegtsMuxer` is the object the application uses: it chooses the stream
types and PIDs and hands every frame on.  A call is a function from the muxer to
the muxer and the arguments of the output callback.

Bytes are written into a packet the way the source does it, by position and
length in the packet (`overwrite` stands for `memcpy` and `memset`), and not by
building the packet from its parts.  The sizes of a `SimpleBuffer`, which are
`int` in the source, are natural numbers: the model is that of outputs shorter
than `2 ^ 31` bytes.
-/

open Framing (overwrite)

namespace Mpegts

/-! ### `SimpleBuffer` -/

structure SimpleBuffer where
  mData : List UInt8 := []
  mPos : ℕ := 0

namespace SimpleBuffer

def append (sb : SimpleBuffer) (bytes : List UInt8) : SimpleBuffer :=
  { sb with mData := sb.mData ++ bytes }

def skip (sb : SimpleBuffer) (size : ℕ) : SimpleBuffer :=
  { sb with mPos := sb.mPos + size }

def empty (sb : SimpleBuffer) : Bool :=
  decide (sb.mData.length ≤ sb.mPos)

def size (sb : SimpleBuffer) : ℕ :=
  sb.mData.length

/-- The bytes from the position on. -/
def unread (sb : SimpleBuffer) : List UInt8 :=
  sb.mData.drop sb.mPos

end SimpleBuffer

/-- `SimpleBuffer::setData`, which refuses to write past the end. -/
def setData (packet : List UInt8) (pos : ℕ) (bytes : List UInt8) : List UInt8 :=
  if packet.length < pos + bytes.length then packet else overwrite packet pos bytes

/-! ### `MpegTsMuxer` -/

inductive MuxType where
  | unknown
  | segmentType
  | h222Type
  | dvbType
deriving DecidableEq

/-- What the muxer reads of an `EsFrame`. -/
structure EsFrame where
  mData : SimpleBuffer
  mPts : UInt64
  mDts : UInt64
  mPcr : UInt64
  mRandomAccess : UInt8
  mStreamType : UInt8
  mStreamId : UInt8
  mPid : UInt16

structure MpegTsMuxer where
  mCurrentIndex : ℕ := 0
  mPidCcMap : UInt32 → Option UInt8 := fun _ => none
  mPmtPid : UInt16 := 0
  mStreamPidMap : Std.TreeMap UInt8 UInt16
  mPcrPid : UInt16
  mMuxType : MuxType := .unknown

def MPEGTS_PAT_PID : UInt16 := 0x0000
def MPEGTS_NULL_PACKET_PID : UInt16 := 0x1fff
def MPEGTS_PAT_INTERVAL : ℕ := 20

/-- Fill a packet up to 188 bytes. -/
def stuffed (packet : List UInt8) : List UInt8 :=
  packet ++ List.replicate (188 - packet.length) 0xff

/-- The packet of a section: the header, an adaptation field header of length
zero that takes the place of the pointer field, the section and its checksum. -/
def sectionPacket (lTsHeader : TsHeader) (table : List UInt8) : List UInt8 :=
  let packet := lTsHeader.encode ++ AdaptationFieldHeader.encode {} ++ table
  stuffed (packet ++ write4Bytes (crc32 (packet.drop 5)))

def createPat (lPmtPid : UInt16) (lCc : UInt8) : List UInt8 :=
  let lTsHeader : TsHeader :=
    { mPayloadUnitStartIndicator := 1
      mPid := MPEGTS_PAT_PID
      mAdaptationFieldControl := mPayloadOnly
      mContinuityCounter := lCc }
  let lPatHeader : PATHeader :=
    { mTableId := 0x00
      mSectionSyntaxIndicator := 1
      mReserved0 := 0x3
      mReserved1 := 0x3
      mCurrentNextIndicator := 1
      mSectionLength := (4 + 4 + 5) &&& 0x3ff }
  let lProgramNumber : UInt16 := 0x0001
  let lProgramMapPid : UInt16 := 0xe000 ||| (lPmtPid &&& 0x1fff)
  sectionPacket lTsHeader
    (lPatHeader.encode ++ write2Bytes lProgramNumber ++ write2Bytes lProgramMapPid)

namespace MpegTsMuxer

def createPmt (muxer : MpegTsMuxer) (lStreamPidMap : Std.TreeMap UInt8 UInt16)
    (lPmtPid : UInt16) (lCc : UInt8) : List UInt8 :=
  let lTsHeader : TsHeader :=
    { mPayloadUnitStartIndicator := 1
      mPid := lPmtPid
      mAdaptationFieldControl := mPayloadOnly
      mContinuityCounter := lCc }
  let lPmtHeader : PMTHeader :=
    { mTableId := 0x02
      mSectionSyntaxIndicator := 1
      mReserved0 := 0x3
      mProgramNumber := 0x0001
      mReserved1 := 0x3
      mCurrentNextIndicator := 1
      mReserved2 := 0x7
      mReserved3 := 0xf
      mPcrPid := muxer.mPcrPid
      mInfos := lStreamPidMap.toList.map (fun (lSt, lPid) =>
        { mStreamType := lSt, mElementaryPid := lPid }) }
  let lSectionLength : UInt16 := UInt16.ofNat (lPmtHeader.size - 3 + 4)
  sectionPacket lTsHeader
    { lPmtHeader with mSectionLength := lSectionLength &&& 0x3ff }.encode

/-- The next counter for a key, which is 0 at first. -/
def getCc (muxer : MpegTsMuxer) (lWithPid : UInt32) : UInt8 × MpegTsMuxer :=
  let lCc := match muxer.mPidCcMap lWithPid with
    | some lCc => (lCc + 1) &&& 0x0F
    | none => 0
  (lCc, { muxer with mPidCcMap := Function.update muxer.mPidCcMap lWithPid (some lCc) })

def shouldCreatePat (muxer : MpegTsMuxer) : Bool × MpegTsMuxer :=
  if muxer.mCurrentIndex % MPEGTS_PAT_INTERVAL = 0 then
    (true, { muxer with mCurrentIndex := 0 + 1 })
  else
    (false, { muxer with mCurrentIndex := muxer.mCurrentIndex + 1 })

/-- The PES header of a frame, with its timestamps. -/
def pesHeader (rFrame : EsFrame) : List UInt8 :=
  let both := decide (rFrame.mPts ≠ rFrame.mDts)
  let mHeaderDataLength : UInt8 := if both then 0x0A else 0x05
  let lPesSize : ℕ := mHeaderDataLength.toNat + rFrame.mData.size + 3
  let lPesHeader : PESHeader :=
    { mPacketStartCode := 0x000001
      mStreamId := rFrame.mStreamId
      mMarkerBits := 0x02
      mOriginalOrCopy := 0x01
      mPtsDtsFlags := if both then 0x03 else 0x02
      mHeaderDataLength := mHeaderDataLength
      mPesPacketLength := if 0xffff < lPesSize then 0 else UInt16.ofNat lPesSize }
  lPesHeader.encode ++
    (if both then writePts 3 rFrame.mPts ++ writePts 1 rFrame.mDts
    else writePts 2 rFrame.mPts)

/-- What is written before the body of a packet: the header as it stands and the
bytes. -/
def pesStart (muxer : MpegTsMuxer) (rFrame : EsFrame) (lFirst : Bool) (lCc : UInt8) :
    TsHeader × List UInt8 :=
  let lTsHeader : TsHeader :=
    { mPid := rFrame.mPid
      mAdaptationFieldControl := mPayloadOnly
      mContinuityCounter := lCc }
  if lFirst then
    let lTsHeader := { lTsHeader with mPayloadUnitStartIndicator := 0x01 }
    let (lTsHeader, lPacket) :=
      if rFrame.mPid = muxer.mPcrPid then
        let lTsHeader :=
          { lTsHeader with
            mAdaptationFieldControl := lTsHeader.mAdaptationFieldControl ||| 0x02 }
        let adaptFieldHeader : AdaptationFieldHeader :=
          { mAdaptationFieldLength := 0x07
            mRandomAccessIndicator := rFrame.mRandomAccess
            mPcrFlag := 0x01 }
        (lTsHeader, lTsHeader.encode ++ adaptFieldHeader.encode ++ writePcr rFrame.mPcr)
      else if rFrame.mRandomAccess ≠ 0 then
        let lTsHeader :=
          { lTsHeader with
            mAdaptationFieldControl := lTsHeader.mAdaptationFieldControl ||| 0x02 }
        let adaptFieldHeader : AdaptationFieldHeader :=
          { mAdaptationFieldLength := 0x01
            mRandomAccessIndicator := rFrame.mRandomAccess }
        (lTsHeader, lTsHeader.encode ++ adaptFieldHeader.encode)
      else (lTsHeader, lTsHeader.encode)
    (lTsHeader, lPacket ++ pesHeader rFrame)
  else (lTsHeader, lTsHeader.encode)

/-- `data()[4] = lStuffSize - 1`, then a zero byte and filling, if there is
room for them. -/
def stuffingField (packet : List UInt8) (lStuffSize : ℕ) : List UInt8 :=
  let packet := packet.set 4 (UInt8.ofNat (lStuffSize - 1))
  if 2 ≤ lStuffSize then
    overwrite (packet.set 5 0) 6 (List.replicate (lStuffSize - 2) 0xff)
  else packet

/-- Make room for `lStuffSize` bytes of stuffing in a packet whose first `lPos`
bytes are written. -/
def stuff (lTsHeader : TsHeader) (lFirst : Bool) (packet : List UInt8)
    (lPos lStuffSize : ℕ) : List UInt8 :=
  if lTsHeader.mAdaptationFieldControl = mAdaptionOnly ∨
      lTsHeader.mAdaptationFieldControl = mPayloadAdaptionBoth then
    let length := packet.getD 4 0
    let base := 5 + length.toNat
    let written := (packet.take lPos).drop base
    let moved := if lFirst then overwrite packet (base + lStuffSize) written
      else setData packet (base + lStuffSize) written
    (overwrite moved base (List.replicate lStuffSize 0xff)).set 4
      (length + UInt8.ofNat lStuffSize)
  else
    let packet := packet.set 3 (packet.getD 3 0 ||| 0x20)
    if lFirst then
      let moved := overwrite packet (4 + lStuffSize) ((packet.take lPos).drop 4)
      stuffingField (stuffingField moved lStuffSize) lStuffSize
    else
      let moved := setData packet (188 - 4 - lStuffSize) ((packet.take lPos).drop 4)
      stuffingField moved lStuffSize

/-- One round of the loop of `createPes`: the packet, and how many bytes of the
frame it takes. -/
def pesPacket (muxer : MpegTsMuxer) (rFrame : EsFrame) (lFirst : Bool) (lCc : UInt8) :
    List UInt8 × ℕ :=
  let (lTsHeader, start) := muxer.pesStart rFrame lFirst lCc
  let lPos := start.length
  let lBodySize := 188 - lPos
  let lPacket := start ++ List.replicate lBodySize 0x00
  let unread := rFrame.mData.unread
  let lInSize := unread.length
  if lBodySize ≤ lInSize then
    (setData lPacket lPos (unread.take lBodySize), lBodySize)
  else
    let lStuffSize := lBodySize - lInSize
    (setData (stuff lTsHeader lFirst lPacket lPos lStuffSize) (lPos + lStuffSize) unread,
      lInSize)

/-- The loop of `createPes`.  Every round takes at least one byte of the frame,
so as many rounds as there are bytes are enough. -/
def pesLoop (muxer : MpegTsMuxer) (rFrame : EsFrame) (lFirst : Bool) :
    ℕ → MpegTsMuxer × List UInt8
  | 0 => (muxer, [])
  | rounds + 1 =>
      if rFrame.mData.empty then (muxer, [])
      else
        let (lCc, muxer) := muxer.getCc rFrame.mStreamType.toUInt32
        let (packet, taken) := muxer.pesPacket rFrame lFirst lCc
        let (muxer, rest) :=
          muxer.pesLoop { rFrame with mData := rFrame.mData.skip taken } false rounds
        (muxer, packet ++ rest)

def createPes (muxer : MpegTsMuxer) (rFrame : EsFrame) : MpegTsMuxer × List UInt8 :=
  muxer.pesLoop rFrame true rFrame.mData.size

/-- The tables that go in front of a frame. -/
def tables (muxer : MpegTsMuxer) : MpegTsMuxer × List UInt8 :=
  let (lPatPmtCc, muxer) := muxer.getCc 0
  (muxer, createPat muxer.mPmtPid lPatPmtCc ++
    muxer.createPmt muxer.mStreamPidMap muxer.mPmtPid lPatPmtCc)

/-- The arguments of `tsOutCallback`. -/
structure Output where
  rSb : List UInt8
  lTag : UInt8
  lRandomAccess : Bool
deriving DecidableEq

def encode (muxer : MpegTsMuxer) (rFrame : EsFrame) (lTag : UInt8 := 0)
    (lRandomAccess : Bool := false) : MpegTsMuxer × Output :=
  let (muxer, lSb) :=
    if muxer.mMuxType = .segmentType ∧ lRandomAccess = true then muxer.tables
    else if muxer.mMuxType = .h222Type then
      let (create, muxer) := muxer.shouldCreatePat
      if create then muxer.tables else (muxer, [])
    else (muxer, [])
  let (muxer, pes) := muxer.createPes rFrame
  (muxer, { rSb := lSb ++ pes, lTag := lTag, lRandomAccess := lRandomAccess })

/-- A packet with nothing but a PCR. -/
def createPcr (muxer : MpegTsMuxer) (lPcr : UInt64) (lTag : UInt8 := 0) : Output :=
  let lTsHeader : TsHeader :=
    { mPid := muxer.mPcrPid
      mAdaptationFieldControl := mAdaptionOnly }
  let lAdaptField : AdaptationFieldHeader :=
    { mAdaptationFieldLength := 188 - 4 - 1
      mPcrFlag := 1 }
  { rSb := stuffed (lTsHeader.encode ++ lAdaptField.encode ++ writePcr lPcr)
    lTag := lTag
    lRandomAccess := false }

/-- Nothing is written behind the header. -/
def createNull (lTag : UInt8 := 0) : Output :=
  let lTsHeader : TsHeader :=
    { mPid := MPEGTS_NULL_PACKET_PID
      mAdaptationFieldControl := mPayloadOnly }
  { rSb := lTsHeader.encode, lTag := lTag, lRandomAccess := false }

end MpegTsMuxer

/-! ### `SimpleMpegtsMuxer` -/

inductive StreamType where
  | AVC
  | HEVC
  | AAC
  | OPUS
deriving DecidableEq

def StreamType.value : StreamType → UInt8
  | .AVC => 0x1b
  | .HEVC => 0x24
  | .AAC => 0x0f
  | .OPUS => 0x12

inductive MediaType where
  | video
  | audio
deriving DecidableEq

/-- The PES stream id of the media type. -/
def MediaType.value : MediaType → UInt8
  | .video => 0xe0
  | .audio => 0xc0

def getMediaType : StreamType → MediaType
  | .AVC => .video
  | .HEVC => .video
  | .AAC => .audio
  | .OPUS => .audio

def VIDEO_PID : UInt16 := 256
def AUDIO_PID : UInt16 := 257
def PMT_PID : UInt16 := 100
def PCR_PID : UInt16 := VIDEO_PID

/-- The stream map of the constructor. -/
def streamMap (streamTypes : List StreamType) : Std.TreeMap UInt8 UInt16 :=
  streamTypes.foldl (fun map streamType =>
    match getMediaType streamType with
    | .video => map.insert streamType.value VIDEO_PID
    | .audio => map.insert streamType.value AUDIO_PID) ∅

/-- `output_` is whether an output callback is set. -/
structure SimpleMpegtsMuxer where
  tsMuxer : MpegTsMuxer
  output : Bool := false

/-- The arguments of one call of `encode`. -/
structure Frame where
  data : List UInt8
  dtsUs : Int64
  streamType : StreamType
  isKeyFrame : Bool := true

namespace SimpleMpegtsMuxer

def new (streamTypes : List StreamType) : SimpleMpegtsMuxer where
  tsMuxer :=
    { mPmtPid := PMT_PID
      mStreamPidMap := streamMap streamTypes
      mPcrPid := PCR_PID
      mMuxType := .h222Type }

def setOutputCallBack (muxer : SimpleMpegtsMuxer) (output : Bool) : SimpleMpegtsMuxer :=
  { muxer with output := output }

/-- Every frame goes out on `VIDEO_PID`. -/
def esFrame (frame : Frame) : EsFrame where
  mData := SimpleBuffer.append {} frame.data
  mPts := frame.dtsUs.toUInt64
  mDts := frame.dtsUs.toUInt64
  mPcr := 0
  mStreamType := frame.streamType.value
  mStreamId := (getMediaType frame.streamType).value
  mPid := VIDEO_PID
  mRandomAccess := if frame.isKeyFrame then 1 else 0

/-- The muxer afterwards and what the output callback was called with, call by
call. -/
def encode (muxer : SimpleMpegtsMuxer) (frame : Frame) :
    SimpleMpegtsMuxer × List (List UInt8 × Bool) :=
  let (tsMuxer, out) := muxer.tsMuxer.encode (esFrame frame)
  ({ muxer with tsMuxer := tsMuxer },
    if muxer.output then [(out.rSb, out.lRandomAccess)] else [])

/-- A sequence of calls, with the callback invocations of each. -/
def encodeAll (muxer : SimpleMpegtsMuxer) :
    List Frame → SimpleMpegtsMuxer × List (List (List UInt8 × Bool))
  | [] => (muxer, [])
  | frame :: frames =>
      let (muxer, outputs) := muxer.encode frame
      let (muxer, rest) := muxer.encodeAll frames
      (muxer, outputs :: rest)

/-- A new muxer with an output callback. -/
def ready (streamTypes : List StreamType) : SimpleMpegtsMuxer :=
  (new streamTypes).setOutputCallBack true

end SimpleMpegtsMuxer

end Mpegts
