import Xrtc.StepSystem
import Xrtc.Mutex
import Xrtc.SrtNetState
import Xrtc.SrtNetStep
import Xrtc.SrtNetMoves
import Xrtc.SrtNetLocks
import Xrtc.SrtNetLifecycle
import Xrtc.SrtNetDeadlock
import Xrtc.Custody
import Xrtc.SrtNetSockets
import Xrtc.SrtNetClients
import Xrtc.SrtNetClientFate
import Xrtc.SrtNetEpoll
import Xrtc.SrtNetDataPath
import Xrtc.SrtNetClientSession
import Xrtc.SrtNetConnected
import Xrtc.SrtNetHistory
import Xrtc.SrtNetCallbacks
import Xrtc.FairRun
import Xrtc.SrtNetAble
import Xrtc.SrtNetWindUp
import Xrtc.SrtNetProgress
import Xrtc.SrtNetCloses
import Xrtc.RunTask
import Xrtc.RunTaskOnce
import Xrtc.Blocks
import Xrtc.MachineInt
import Xrtc.SrtCongestionCtrl
import Xrtc.SrtCcEstimator
import Xrtc.SrtCcBandwidth
import Xrtc.SrtCcBitrate
import Xrtc.SrtNetReady
import Xrtc.Framing
import Xrtc.MpegtsPacket
import Xrtc.MpegtsMuxer
import Xrtc.MpegtsLayout
import Xrtc.MpegtsPes
import Xrtc.MpegtsTables
import Xrtc.MpegtsFraming
import Xrtc.MpegtsPids
import Xrtc.MpegtsFrameStart
import Xrtc.Continuity
import Xrtc.MpegtsContinuity
import Xrtc.Chunks
import Xrtc.MpegtsDemuxer
import Xrtc.MpegtsDemuxerChunks
import Xrtc.MpegtsDemuxerInvariant
import Xrtc.MpegtsCodec
import Xrtc.MpegtsStream
import Xrtc.MpegtsReceive
import Xrtc.MpegtsRoundTrip
import Xrtc.MpegtsDelivery
import Xrtc.Crc
import Xrtc.MpegtsCrc
