import Mathlib.Tactic.Common
import Mathlib.Data.List.Basic

/-!
# Headers of transport stream packets

The headers that the muxer writes, with the bytes their `encode` appends to a
`SimpleBuffer`, and the parts of `decode` that a receiver needs to find the
elementary streams of a program.  Fields have the width they have in the source.
-/

namespace Mpegts

/-- The bytes appended by `SimpleBuffer::write2Bytes`. -/
def write2Bytes (val : UInt16) : List UInt8 :=
  [(val >>> 8).toUInt8, val.toUInt8]

/-- The bytes appended by `SimpleBuffer::write4Bytes`. -/
def write4Bytes (val : UInt32) : List UInt8 :=
  [(val >>> 24).toUInt8, (val >>> 16).toUInt8, (val >>> 8).toUInt8, val.toUInt8]

/-- `SimpleBuffer::read2Bytes` on the two bytes it consumes. -/
def read2Bytes (b0 b1 : UInt8) : UInt16 :=
  (b0.toUInt16 <<< 8) ||| b1.toUInt16

/-- `(v << shift) & mask`. -/
def field8 (v : UInt8) (shift mask : UInt8) : UInt8 :=
  (v <<< shift) &&& mask

/-- `(v << shift) & mask`. -/
def field16 (v : UInt16) (shift mask : UInt16) : UInt16 :=
  (v <<< shift) &&& mask

/-! ### `TsHeader` -/

/-- `MpegTsAdaptationFieldType`. -/
def mPayloadOnly : UInt8 := 0x01
def mAdaptionOnly : UInt8 := 0x02
def mPayloadAdaptionBoth : UInt8 := 0x03

structure TsHeader where
  mSyncByte : UInt8 := 0x47
  mTransportErrorIndicator : UInt8 := 0
  mPayloadUnitStartIndicator : UInt8 := 0
  mTransportPriority : UInt8 := 0
  mPid : UInt16 := 0
  mTransportScramblingControl : UInt8 := 0
  mAdaptationFieldControl : UInt8 := 0
  mContinuityCounter : UInt8 := 0
deriving DecidableEq

namespace TsHeader

def encode (h : TsHeader) : List UInt8 :=
  let lB1b2 : UInt16 :=
    field16 h.mPid 0 0x1FFF |||
    field16 h.mTransportPriority.toUInt16 13 0x2000 |||
    field16 h.mPayloadUnitStartIndicator.toUInt16 14 0x4000 |||
    field16 h.mTransportErrorIndicator.toUInt16 15 0x8000
  let lB3 : UInt8 :=
    field8 h.mContinuityCounter 0 0x0F |||
    field8 h.mAdaptationFieldControl 4 0x30 |||
    field8 h.mTransportScramblingControl 6 0xC0
  h.mSyncByte :: (write2Bytes lB1b2 ++ [lB3])

/-- The priority bit is read into the error indicator and then overwritten, as
in the source. -/
def decode : List UInt8 → Option (TsHeader × List UInt8)
  | b0 :: b1 :: b2 :: b3 :: rest =>
      let lB1b2 := read2Bytes b1 b2
      some ({ mSyncByte := b0
              mPid := lB1b2 &&& 0x1FFF
              mPayloadUnitStartIndicator := ((lB1b2 >>> 14) &&& 0x01).toUInt8
              mTransportErrorIndicator := ((lB1b2 >>> 15) &&& 0x01).toUInt8
              mContinuityCounter := b3 &&& 0x0F
              mAdaptationFieldControl := (b3 >>> 4) &&& 0x03
              mTransportScramblingControl := (b3 >>> 6) &&& 0x03 }, rest)
  | _ => none

end TsHeader

/-! ### `AdaptationFieldHeader` -/

structure AdaptationFieldHeader where
  mAdaptationFieldLength : UInt8 := 0
  mAdaptationFieldExtensionFlag : UInt8 := 0
  mTransportPrivateDataFlag : UInt8 := 0
  mSplicingPointFlag : UInt8 := 0
  mOpcrFlag : UInt8 := 0
  mPcrFlag : UInt8 := 0
  mElementaryStreamPriorityIndicator : UInt8 := 0
  mRandomAccessIndicator : UInt8 := 0
  mDiscontinuityIndicator : UInt8 := 0

/-- The flags follow only a nonzero length: a length of zero is one byte. -/
def AdaptationFieldHeader.encode (h : AdaptationFieldHeader) : List UInt8 :=
  if h.mAdaptationFieldLength ≠ 0 then
    [h.mAdaptationFieldLength,
      field8 h.mAdaptationFieldExtensionFlag 0 0x01 |||
      field8 h.mTransportPrivateDataFlag 1 0x02 |||
      field8 h.mSplicingPointFlag 2 0x04 |||
      field8 h.mOpcrFlag 3 0x08 |||
      field8 h.mPcrFlag 4 0x10 |||
      field8 h.mElementaryStreamPriorityIndicator 5 0x20 |||
      field8 h.mRandomAccessIndicator 6 0x40 |||
      field8 h.mDiscontinuityIndicator 7 0x80]
  else [h.mAdaptationFieldLength]

/-! ### `PATHeader` and `PMTHeader` -/

structure PATHeader where
  mTableId : UInt8 := 0
  mSectionSyntaxIndicator : UInt8 := 0
  mB0 : UInt8 := 0
  mReserved0 : UInt8 := 0
  mSectionLength : UInt16 := 0
  mTransportStreamId : UInt16 := 0
  mReserved1 : UInt8 := 0
  mVersionNumber : UInt8 := 0
  mCurrentNextIndicator : UInt8 := 0
  mSectionNumber : UInt8 := 0
  mLastSectionNumber : UInt8 := 0

def PATHeader.encode (h : PATHeader) : List UInt8 :=
  let lB1b2 : UInt16 :=
    field16 h.mSectionLength 0 0x0FFF |||
    field16 h.mReserved0.toUInt16 12 0x3000 |||
    field16 h.mB0.toUInt16 14 0x4000 |||
    field16 h.mSectionSyntaxIndicator.toUInt16 15 0x8000
  let lB5 : UInt8 :=
    field8 h.mCurrentNextIndicator 0 0x01 |||
    field8 h.mVersionNumber 1 0x3E |||
    field8 h.mReserved1 6 0xC0
  h.mTableId :: (write2Bytes lB1b2 ++ write2Bytes h.mTransportStreamId ++
    [lB5, h.mSectionNumber, h.mLastSectionNumber])

structure PMTElementInfo where
  mStreamType : UInt8 := 0
  mReserved0 : UInt8 := 0x7
  mElementaryPid : UInt16 := 0
  mReserved1 : UInt8 := 0xf
  mEsInfoLength : UInt16 := 0
deriving DecidableEq

namespace PMTElementInfo

def encode (info : PMTElementInfo) : List UInt8 :=
  let lB1b2 : UInt16 :=
    field16 info.mElementaryPid 0 0x1FFF ||| field16 info.mReserved0.toUInt16 13 0xE000
  let lB3b4 : UInt16 :=
    field16 info.mEsInfoLength 0 0x0FFF ||| field16 info.mReserved1.toUInt16 12 0xF000
  info.mStreamType :: (write2Bytes lB1b2 ++ write2Bytes lB3b4)

def size (info : PMTElementInfo) : ℕ :=
  5 + info.mEsInfoLength.toNat

/-- The descriptors of an element are skipped. -/
def decode : List UInt8 → Option (PMTElementInfo × List UInt8)
  | b0 :: b1 :: b2 :: b3 :: b4 :: rest =>
      let lB1b2 := read2Bytes b1 b2
      let lB3b4 := read2Bytes b3 b4
      let info : PMTElementInfo :=
        { mStreamType := b0
          mReserved0 := ((lB1b2 >>> 13) &&& 0x07).toUInt8
          mElementaryPid := lB1b2 &&& 0x1FFF
          mReserved1 := ((lB3b4 >>> 12) &&& 0xF).toUInt8
          mEsInfoLength := lB3b4 &&& 0xFFF }
      if info.mEsInfoLength.toNat ≤ rest.length then
        some (info, rest.drop info.mEsInfoLength.toNat)
      else none
  | _ => none

end PMTElementInfo

structure PMTHeader where
  mTableId : UInt8 := 0x02
  mSectionSyntaxIndicator : UInt8 := 0
  mB0 : UInt8 := 0
  mReserved0 : UInt8 := 0
  mSectionLength : UInt16 := 0
  mProgramNumber : UInt16 := 0
  mReserved1 : UInt8 := 0
  mVersionNumber : UInt8 := 0
  mCurrentNextIndicator : UInt8 := 0
  mSectionNumber : UInt8 := 0
  mLastSectionNumber : UInt8 := 0
  mReserved2 : UInt8 := 0
  mPcrPid : UInt16 := 0
  mReserved3 : UInt8 := 0
  mProgramInfoLength : UInt16 := 0
  mInfos : List PMTElementInfo := []
deriving DecidableEq

namespace PMTHeader

def size (h : PMTHeader) : ℕ :=
  h.mInfos.foldl (fun lRet info => lRet + info.size) 12

def encode (h : PMTHeader) : List UInt8 :=
  let lB1b2 : UInt16 :=
    field16 h.mSectionLength 0 0xFFFF |||
    field16 h.mReserved0.toUInt16 12 0x3000 |||
    field16 h.mB0.toUInt16 14 0x4000 |||
    field16 h.mSectionSyntaxIndicator.toUInt16 15 0x8000
  let lB5 : UInt8 :=
    field8 h.mCurrentNextIndicator 0 0x01 |||
    field8 h.mVersionNumber 1 0x3E |||
    field8 h.mReserved1 6 0xC0
  let lB8b9 : UInt16 :=
    field16 h.mPcrPid 0 0x1FFF ||| field16 h.mReserved2.toUInt16 13 0xE000
  let lB10b11 : UInt16 :=
    field16 h.mProgramInfoLength 0 0xFFF ||| field16 h.mReserved3.toUInt16 12 0xF000
  h.mTableId :: (write2Bytes lB1b2 ++ write2Bytes h.mProgramNumber ++
    [lB5, h.mSectionNumber, h.mLastSectionNumber] ++ write2Bytes lB8b9 ++
    write2Bytes lB10b11 ++ h.mInfos.flatMap PMTElementInfo.encode)

/-- The loop over the elements of a section; every element takes five bytes or
more, so `lRemainBytes` rounds are enough. -/
def decodeInfos (rounds : ℕ) (lRemainBytes : Int) (bytes : List UInt8) :
    Option (List PMTElementInfo) :=
  if lRemainBytes ≤ 0 then some []
  else
    match rounds with
    | 0 => none
    | rounds + 1 => do
        let (info, rest) ← PMTElementInfo.decode bytes
        let infos ← decodeInfos rounds (lRemainBytes - info.size) rest
        return info :: infos

/-- The descriptors of the program are skipped. -/
def decode : List UInt8 → Option PMTHeader
  | b0 :: b1 :: b2 :: b3 :: b4 :: b5 :: b6 :: b7 :: b8 :: b9 :: b10 :: b11 :: rest =>
      let lB1b2 := read2Bytes b1 b2
      let lB8b9 := read2Bytes b8 b9
      let lB10b11 := read2Bytes b10 b11
      let mSectionLength := lB1b2 &&& 0xFFF
      let mProgramInfoLength := lB10b11 &&& 0xFFF
      let lRemainBytes : Int := mSectionLength.toNat - 4 - 9 - mProgramInfoLength.toNat
      if mProgramInfoLength.toNat ≤ rest.length then do
        let infos ← decodeInfos lRemainBytes.toNat lRemainBytes
          (rest.drop mProgramInfoLength.toNat)
        return {
          mTableId := b0
          mSectionSyntaxIndicator := ((lB1b2 >>> 15) &&& 0x01).toUInt8
          mB0 := ((lB1b2 >>> 14) &&& 0x01).toUInt8
          mReserved0 := ((lB1b2 >>> 12) &&& 0x03).toUInt8
          mSectionLength := mSectionLength
          mProgramNumber := read2Bytes b3 b4
          mReserved1 := (b5 >>> 6) &&& 0x03
          mVersionNumber := (b5 >>> 1) &&& 0x1F
          mCurrentNextIndicator := b5 &&& 0x01
          mSectionNumber := b6
          mLastSectionNumber := b7
          mReserved2 := ((lB8b9 >>> 13) &&& 0x07).toUInt8
          mPcrPid := lB8b9 &&& 0x1FFF
          mReserved3 := ((lB10b11 >>> 12) &&& 0xF).toUInt8
          mProgramInfoLength := mProgramInfoLength
          mInfos := infos }
      else none
  | _ => none

end PMTHeader

/-! ### `PESHeader` and timestamps -/

structure PESHeader where
  mPacketStartCode : UInt32 := 0x000001
  mStreamId : UInt8 := 0
  mPesPacketLength : UInt16 := 0
  mOriginalOrCopy : UInt8 := 0
  mCopyright : UInt8 := 0
  mDataAlignmentIndicator : UInt8 := 0
  mPesPriority : UInt8 := 0
  mPesScramblingControl : UInt8 := 0
  mMarkerBits : UInt8 := 0x02
  mPesExtFlag : UInt8 := 0
  mPesCrcFlag : UInt8 := 0
  mAddCopyInfoFlag : UInt8 := 0
  mDsmTrickModeFlag : UInt8 := 0
  mEsRateFlag : UInt8 := 0
  mEscrFlag : UInt8 := 0
  mPtsDtsFlags : UInt8 := 0
  mHeaderDataLength : UInt8 := 0

def PESHeader.encode (h : PESHeader) : List UInt8 :=
  let lB0b1b2b3 : UInt32 :=
    ((h.mPacketStartCode <<< 8) &&& 0xFFFFFF00) ||| h.mStreamId.toUInt32
  let lB6 : UInt8 :=
    field8 h.mOriginalOrCopy 0 0x01 |||
    field8 h.mCopyright 1 0x02 |||
    field8 h.mDataAlignmentIndicator 2 0x04 |||
    field8 h.mPesPriority 3 0x08 |||
    field8 h.mPesScramblingControl 4 0x30 |||
    field8 h.mMarkerBits 6 0xC0
  let lB7 : UInt8 :=
    field8 h.mPesExtFlag 0 0x01 |||
    field8 h.mPesCrcFlag 1 0x02 |||
    field8 h.mAddCopyInfoFlag 2 0x04 |||
    field8 h.mDsmTrickModeFlag 3 0x08 |||
    field8 h.mEsRateFlag 4 0x10 |||
    field8 h.mEscrFlag 5 0x20 |||
    field8 h.mPtsDtsFlags 6 0xC0
  write4Bytes lB0b1b2b3 ++ write2Bytes h.mPesPacketLength ++ [lB6, lB7, h.mHeaderDataLength]

def writePcr (lPcr : UInt64) : List UInt8 :=
  [(lPcr >>> 25).toUInt8, (lPcr >>> 17).toUInt8, (lPcr >>> 9).toUInt8, (lPcr >>> 1).toUInt8,
    ((lPcr <<< 7) ||| 0x7e).toUInt8, 0]

def writePts (lFb : UInt32) (lPts : UInt64) : List UInt8 :=
  [((lFb.toUInt64 <<< 4) ||| (((lPts >>> 30) &&& 0x07) <<< 1) ||| 1).toUInt8] ++
    write2Bytes ((((lPts >>> 15) &&& 0x7fff) <<< 1) ||| 1).toUInt16 ++
    write2Bytes (((lPts &&& 0x7fff) <<< 1) ||| 1).toUInt16

/-! ### `crc32` -/

def crcTable : Array UInt32 := #[
    0x00000000, 0x04c11db7, 0x09823b6e, 0x0d4326d9, 0x130476dc, 0x17c56b6b,
    0x1a864db2, 0x1e475005, 0x2608edb8, 0x22c9f00f, 0x2f8ad6d6, 0x2b4bcb61,
    0x350c9b64, 0x31cd86d3, 0x3c8ea00a, 0x384fbdbd, 0x4c11db70, 0x48d0c6c7,
    0x4593e01e, 0x4152fda9, 0x5f15adac, 0x5bd4b01b, 0x569796c2, 0x52568b75,
    0x6a1936c8, 0x6ed82b7f, 0x639b0da6, 0x675a1011, 0x791d4014, 0x7ddc5da3,
    0x709f7b7a, 0x745e66cd, 0x9823b6e0, 0x9ce2ab57, 0x91a18d8e, 0x95609039,
    0x8b27c03c, 0x8fe6dd8b, 0x82a5fb52, 0x8664e6e5, 0xbe2b5b58, 0xbaea46ef,
    0xb7a96036, 0xb3687d81, 0xad2f2d84, 0xa9ee3033, 0xa4ad16ea, 0xa06c0b5d,
    0xd4326d90, 0xd0f37027, 0xddb056fe, 0xd9714b49, 0xc7361b4c, 0xc3f706fb,
    0xceb42022, 0xca753d95, 0xf23a8028, 0xf6fb9d9f, 0xfbb8bb46, 0xff79a6f1,
    0xe13ef6f4, 0xe5ffeb43, 0xe8bccd9a, 0xec7dd02d, 0x34867077, 0x30476dc0,
    0x3d044b19, 0x39c556ae, 0x278206ab, 0x23431b1c, 0x2e003dc5, 0x2ac12072,
    0x128e9dcf, 0x164f8078, 0x1b0ca6a1, 0x1fcdbb16, 0x018aeb13, 0x054bf6a4,
    0x0808d07d, 0x0cc9cdca, 0x7897ab07, 0x7c56b6b0, 0x71159069, 0x75d48dde,
    0x6b93dddb, 0x6f52c06c, 0x6211e6b5, 0x66d0fb02, 0x5e9f46bf, 0x5a5e5b08,
    0x571d7dd1, 0x53dc6066, 0x4d9b3063, 0x495a2dd4, 0x44190b0d, 0x40d816ba,
    0xaca5c697, 0xa864db20, 0xa527fdf9, 0xa1e6e04e, 0xbfa1b04b, 0xbb60adfc,
    0xb6238b25, 0xb2e29692, 0x8aad2b2f, 0x8e6c3698, 0x832f1041, 0x87ee0df6,
    0x99a95df3, 0x9d684044, 0x902b669d, 0x94ea7b2a, 0xe0b41de7, 0xe4750050,
    0xe9362689, 0xedf73b3e, 0xf3b06b3b, 0xf771768c, 0xfa325055, 0xfef34de2,
    0xc6bcf05f, 0xc27dede8, 0xcf3ecb31, 0xcbffd686, 0xd5b88683, 0xd1799b34,
    0xdc3abded, 0xd8fba05a, 0x690ce0ee, 0x6dcdfd59, 0x608edb80, 0x644fc637,
    0x7a089632, 0x7ec98b85, 0x738aad5c, 0x774bb0eb, 0x4f040d56, 0x4bc510e1,
    0x46863638, 0x42472b8f, 0x5c007b8a, 0x58c1663d, 0x558240e4, 0x51435d53,
    0x251d3b9e, 0x21dc2629, 0x2c9f00f0, 0x285e1d47, 0x36194d42, 0x32d850f5,
    0x3f9b762c, 0x3b5a6b9b, 0x0315d626, 0x07d4cb91, 0x0a97ed48, 0x0e56f0ff,
    0x1011a0fa, 0x14d0bd4d, 0x19939b94, 0x1d528623, 0xf12f560e, 0xf5ee4bb9,
    0xf8ad6d60, 0xfc6c70d7, 0xe22b20d2, 0xe6ea3d65, 0xeba91bbc, 0xef68060b,
    0xd727bbb6, 0xd3e6a601, 0xdea580d8, 0xda649d6f, 0xc423cd6a, 0xc0e2d0dd,
    0xcda1f604, 0xc960ebb3, 0xbd3e8d7e, 0xb9ff90c9, 0xb4bcb610, 0xb07daba7,
    0xae3afba2, 0xaafbe615, 0xa7b8c0cc, 0xa379dd7b, 0x9b3660c6, 0x9ff77d71,
    0x92b45ba8, 0x9675461f, 0x8832161a, 0x8cf30bad, 0x81b02d74, 0x857130c3,
    0x5d8a9099, 0x594b8d2e, 0x5408abf7, 0x50c9b640, 0x4e8ee645, 0x4a4ffbf2,
    0x470cdd2b, 0x43cdc09c, 0x7b827d21, 0x7f436096, 0x7200464f, 0x76c15bf8,
    0x68860bfd, 0x6c47164a, 0x61043093, 0x65c52d24, 0x119b4be9, 0x155a565e,
    0x18197087, 0x1cd86d30, 0x029f3d35, 0x065e2082, 0x0b1d065b, 0x0fdc1bec,
    0x3793a651, 0x3352bbe6, 0x3e119d3f, 0x3ad08088, 0x2497d08d, 0x2056cd3a,
    0x2d15ebe3, 0x29d4f654, 0xc5a92679, 0xc1683bce, 0xcc2b1d17, 0xc8ea00a0,
    0xd6ad50a5, 0xd26c4d12, 0xdf2f6bcb, 0xdbee767c, 0xe3a1cbc1, 0xe760d676,
    0xea23f0af, 0xeee2ed18, 0xf0a5bd1d, 0xf464a0aa, 0xf9278673, 0xfde69bc4,
    0x89b8fd09, 0x8d79e0be, 0x803ac667, 0x84fbdbd0, 0x9abc8bd5, 0x9e7d9662,
    0x933eb0bb, 0x97ffad0c, 0xafb010b1, 0xab710d06, 0xa6322bdf, 0xa2f33668,
    0xbcb4666d, 0xb8757bda, 0xb5365d03, 0xb1f740b4]

def crc32 (data : List UInt8) : UInt32 :=
  data.foldl (fun lCrc byte =>
    (lCrc <<< 8) ^^^ crcTable.getD (((lCrc >>> 24) ^^^ byte.toUInt32) &&& 0xff).toNat 0)
    0xffffffff

end Mpegts
