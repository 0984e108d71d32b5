import Mathlib.Data.List.MinMax
import Mathlib.Data.Rat.Floor
import Xrtc.MachineInt
import Xrtc.RunTask
import Xrtc.StepSystem

/-!
# The congestion controller

`congestionCtrl` samples the socket statistics under a throttle.  Six round-trip
times and six bandwidths make a window; each completed window contributes the
distance between the gained bandwidth-delay product and the bytes in flight, and
the sum of these values decides whether the encoder may go up, has to go down,
or keeps its bitrate.  `updateVideoEncodeBitate` acts on that decision under a
throttle of its own.

`Estimator` holds the fields the statistics callback works on; the two tasks are
the rest of the object.  The two places where the statistics go through `double`
are a parameter, `Doubles`; the statistics themselves are given as the integers
they are converted to.
-/

open MachineInt

namespace SrtCc

inductive CongestionState where
  | STATE_INCR
  | STATE_DECR
  | STATE_KEEP
deriving DecidableEq

/-- The arithmetic in `double` between integers: `blend x` is
`(uint64_t)(x * 1.2 / 2)`, and `excess bdp inflight` is
`(int64_t)(cwnd_gain_ * bdp - inflight)`. -/
structure Doubles where
  blend : ℕ → ℕ
  excess : ℕ → Int → Int

/-- Truncation toward zero. -/
def truncate (q : ℚ) : Int :=
  q.num.tdiv q.den

/-- The arithmetic without rounding. -/
def Doubles.exact : Doubles where
  blend x := (truncate (x * (6 / 5) / 2)).toNat
  excess bdp inflight := truncate (13 / 10 * bdp - inflight)

/-- What `congestionCtrl` reads of the statistics of a socket: the packets in
flight, the sending rate in bits per second and the round-trip time in
milliseconds. -/
structure Perf where
  pktFlightSize : Int
  bwBitrate : Int
  msRTT : Int
deriving DecidableEq

def RTT_LIST_MAX : ℕ := 6
def BW_LIST_MAX : ℕ := 6
def STATE_LIST_MAX : ℕ := 6
def RTT_INIT : Int := 100
def RTT_MIN : Int := 35
def VIDEO_UPDATE_INTERVAL : Int := 500000000
def SRT_CHECK_INTERVAL : Int := 300000000
def INCR : Int := 1316 * 8 * 3
def DECR : Int := -1316 * 8 * 6

structure Estimator where
  rttArray : List Int := []
  rttMin : Int := RTT_INIT
  rttReady : Bool := false
  bwArray : List ℕ := []
  bwMax : ℕ := 0
  avgBw : ℕ := 0
  bwReady : Bool := false
  stateArray : List Int := []
  stateReady : Bool := false
  congestionState : CongestionState := .STATE_KEEP
deriving DecidableEq

structure SrtCongestionCtrl extends Estimator where
  updateVencodeBitrateTask : RunTask := .ofTime VIDEO_UPDATE_INTERVAL
  srtCongestionCtrlTask : RunTask := .ofTime SRT_CHECK_INTERVAL
deriving DecidableEq

/-- `*std::min_element(begin, end)`. -/
def minElement (l : List Int) : Int :=
  l.min?.getD 0

/-- `*std::max_element(begin, end)`. -/
def maxElement (l : List ℕ) : ℕ :=
  l.max?.getD 0

/-- `std::accumulate(begin, end, 0)` over `uint64_t`: every partial sum is
computed in `uint64_t` and stored in an `int`. -/
def accumulateInt (l : List ℕ) : Int :=
  l.foldl (fun (acc : Int) (x : ℕ) => toInt32 (toUInt64 (toUInt64 acc + x))) 0

/-- `std::accumulate(begin, end, 0l)` over `int64_t`. -/
def accumulateLong (l : List Int) : Int :=
  l.foldl (fun acc x => toInt64 (acc + x)) 0

namespace Estimator

variable (fp : Doubles)

def updateRTT (e : Estimator) (rtt : Int) : Estimator :=
  let rttArray := e.rttArray ++ [max rtt RTT_MIN]
  if RTT_LIST_MAX ≤ rttArray.length then
    { e with rttReady := true, rttMin := minElement rttArray, rttArray := [] }
  else
    { e with rttReady := false, rttArray := rttArray }

def updateMaxBW (e : Estimator) (maxbw : ℕ) : Estimator :=
  let bwArray := e.bwArray ++ [maxbw]
  if BW_LIST_MAX ≤ bwArray.length then
    let avgBw := toUInt64 (accumulateInt bwArray) / bwArray.length
    { e with
      bwReady := true
      avgBw := avgBw
      bwMax := fp.blend (toUInt64 (maxElement bwArray + avgBw))
      bwArray := [] }
  else
    { e with bwReady := false, bwArray := bwArray }

/-- `bw_max_ * rtt_min_ / 1000`, an unsigned division. -/
def bdp (e : Estimator) : ℕ :=
  toUInt64 (e.bwMax * toUInt64 e.rttMin) / 1000

/-- The value `current_state` that a completed window contributes. -/
def currentState (e : Estimator) (inflight : Int) : Int :=
  fp.excess e.bdp (toInt32 (inflight * 8))

/-- The decision on the accumulated window values. -/
def decideState (stateArray : List Int) : CongestionState :=
  let finalState := accumulateLong stateArray
  if INCR < finalState then .STATE_INCR
  else if finalState < DECR - 1 then .STATE_DECR
  else .STATE_KEEP

def srtBitrateGetState (e : Estimator) (inflight : Int) :
    Estimator × CongestionState :=
  if !e.rttReady || !e.bwReady then (e, .STATE_KEEP)
  else
    let stateArray := e.stateArray ++ [e.currentState fp inflight]
    if stateArray.length < STATE_LIST_MAX then
      ({ e with stateArray := stateArray, stateReady := false }, .STATE_KEEP)
    else
      ({ e with stateArray := stateArray, stateReady := true }, decideState stateArray)

/-- The bytes in flight that one set of statistics accounts for. -/
def inflight (perf : Perf) : Int :=
  toInt32 (perf.pktFlightSize * 188 * 7)

/-- The two filters of one evaluation, before the decision. -/
def update (e : Estimator) (perf : Perf) : Estimator :=
  (e.updateRTT (max perf.msRTT RTT_MIN)).updateMaxBW fp (toUInt64 perf.bwBitrate)

/-- The callback of `congestionCtrl`: nothing happens when `srt_bstats` fails. -/
def evaluate (e : Estimator) (bstats : Option Perf) : Estimator :=
  match bstats with
  | none => e
  | some perf =>
      let (next, state) := (e.update fp perf).srtBitrateGetState fp (inflight perf)
      { next with congestionState := state }

/-- The window value that an evaluation adds, if it completes a window. -/
def windowValue (e : Estimator) (perf : Perf) : Option Int :=
  let next := e.update fp perf
  if next.rttReady && next.bwReady then some (next.currentState fp (inflight perf))
  else none

end Estimator

namespace SrtCongestionCtrl

variable (fp : Doubles)

def congestionCtrl (ctrl : SrtCongestionCtrl) (clock : Reading)
    (bstats : Option Perf) : SrtCongestionCtrl :=
  let (task, estimator) := ctrl.srtCongestionCtrlTask.doThenReset clock
    (fun e => e.evaluate fp bstats) ctrl.toEstimator
  { ctrl with toEstimator := estimator, srtCongestionCtrlTask := task }

def INCR_RATION : ℚ := 27 / 25
def DECR_RATION : ℚ := 17 / 20

/-- The callback of `updateVideoEncodeBitate`, on `tmp_vencode_bitrate`. -/
def adjust (state : CongestionState) (current video : Int) (tmp : Int) : Int :=
  match state with
  | .STATE_INCR =>
      if (current : ℚ) < video * (13 / 10) then truncate (current * INCR_RATION) else tmp
  | .STATE_DECR =>
      if (current : ℚ) > video * (2 / 5) then truncate (current * DECR_RATION) else tmp
  | .STATE_KEEP => tmp

/-- The return value of `updateVideoEncodeBitate`, the object and the bitrate
passed by reference. -/
structure Updated where
  returned : Bool
  ctrl : SrtCongestionCtrl
  current : Int

def updateVideoEncodeBitate (ctrl : SrtCongestionCtrl) (clock : Reading)
    (current video : Int) : Updated :=
  let outcome := ctrl.updateVencodeBitrateTask.doByTimeAndCount clock
    (adjust ctrl.congestionState current video) current
  if outcome.returned then
    let next := { ctrl with updateVencodeBitrateTask := outcome.task.reset }
    if outcome.state ≠ current then ⟨true, next, outcome.state⟩
    else ⟨false, next, current⟩
  else ⟨false, { ctrl with updateVencodeBitrateTask := outcome.task }, current⟩

/-- Whether a call of `updateVideoEncodeBitate` runs its callback. -/
def updates (ctrl : SrtCongestionCtrl) (clock : Reading) : Bool :=
  (ctrl.updateVencodeBitrateTask.doByTimeAndCount clock id ()).returned

/-- Whether a call of `congestionCtrl` runs its callback. -/
def evaluates (ctrl : SrtCongestionCtrl) (clock : Reading) : Bool :=
  (ctrl.srtCongestionCtrlTask.doByTimeAndCount clock id ()).returned

end SrtCongestionCtrl

/-! ### Runs -/

/-- A controller in use: the object, the bitrate the caller holds, and the
history of the run, that is, the statistics of the evaluations in which
`srt_bstats` succeeded and the value each completed window contributed. -/
structure Session where
  ctrl : SrtCongestionCtrl := {}
  current : Int
  samples : List Perf := []
  windows : List Int := []
deriving DecidableEq

inductive Call where
  | congestionCtrl (clock : Reading) (bstats : Option Perf)
  | updateVideoEncodeBitate (clock : Reading)

namespace Session

variable (fp : Doubles) (video : Int)

def call (σ : Session) : Call → Session
  | .congestionCtrl clock bstats =>
      let next := { σ with ctrl := σ.ctrl.congestionCtrl fp clock bstats }
      if σ.ctrl.evaluates clock then
        { next with
          samples := σ.samples ++ bstats.toList
          windows := σ.windows ++ (bstats.bind (σ.ctrl.windowValue fp)).toList }
      else next
  | .updateVideoEncodeBitate clock =>
      let updated := σ.ctrl.updateVideoEncodeBitate clock σ.current video
      { σ with ctrl := updated.ctrl, current := updated.current }

end Session

/-- The runs of a new controller, with any interleaving of the two calls. -/
def session (fp : Doubles) (video current : Int) : StepSystem Session Call where
  init := { current := current }
  step σ c := some (σ.call fp video c)

end SrtCc
