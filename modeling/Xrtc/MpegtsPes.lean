import Mathlib.Algebra.Order.Floor.Div
import Xrtc.MpegtsLayout

/-!
# The packets of a frame

The loop of `createPes` turns a frame into packets that carry the PES header and
the bytes of the frame and nothing else.  It takes a counter for every packet:
the continuity counter of a packet is the number of packets that used the same
key before it, modulo 16.
-/

open Framing

namespace Mpegts

/-! ### Counters -/

/-- The counter after `m` packets have used a key. -/
def ccAfter (m : ℕ) : Option UInt8 :=
  if m = 0 then none else some (UInt8.ofNat ((m - 1) % 16))

/-- The counters of the muxer, given how many packets used each key. -/
def Counts (muxer : MpegTsMuxer) (count : UInt32 → ℕ) : Prop :=
  ∀ key, muxer.mPidCcMap key = ccAfter (count key)

/-- The counter of the next packet after `m`. -/
def nextCc (m : ℕ) : Fin 16 :=
  Fin.ofNat 16 m

theorem cc_succ (m : ℕ) :
    (UInt8.ofNat (m % 16) + 1) &&& 0x0F = UInt8.ofNat ((m + 1) % 16) := by
  have hall : ∀ i : Fin 16, (UInt8.ofNat i + 1) &&& 0x0F = UInt8.ofNat ((i + 1) % 16 : ℕ) := by
    decide
  have hm := hall (nextCc m)
  have hval : ((nextCc m : ℕ) + 1) % 16 = (m + 1) % 16 := by
    show (m % 16 + 1) % 16 = (m + 1) % 16
    omega
  rw [hval] at hm
  exact hm

variable {muxer : MpegTsMuxer} {count : UInt32 → ℕ}

theorem getCc_fst (h : Counts muxer count) (key : UInt32) :
    (muxer.getCc key).1 = UInt8.ofNat (nextCc (count key)) := by
  unfold MpegTsMuxer.getCc
  simp only [h key, ccAfter]
  by_cases hzero : count key = 0
  · rw [if_pos hzero, hzero]
    rfl
  · obtain ⟨m, hm⟩ := Nat.exists_eq_succ_of_ne_zero hzero
    rw [if_neg hzero, hm]
    exact cc_succ m

theorem getCc_snd (h : Counts muxer count) (key : UInt32) :
    Counts (muxer.getCc key).2 (Function.update count key (count key + 1)) := by
  intro other
  have hfst := getCc_fst h key
  show Function.update muxer.mPidCcMap key (some (muxer.getCc key).1) other = _
  by_cases hother : other = key
  · subst hother
    rw [Function.update_self, Function.update_self, hfst]
    rfl
  · rw [Function.update_of_ne hother, Function.update_of_ne hother]
    exact h other

/-- Only the counters changed. -/
def SameSettings (muxer' muxer : MpegTsMuxer) : Prop :=
  muxer' = { muxer with mPidCcMap := muxer'.mPidCcMap }

theorem sameSettings_getCc (key : UInt32) : SameSettings (muxer.getCc key).2 muxer :=
  rfl

theorem SameSettings.trans {muxer₁ muxer₂ muxer₃ : MpegTsMuxer}
    (h₁ : SameSettings muxer₁ muxer₂) (h₂ : SameSettings muxer₂ muxer₃) :
    SameSettings muxer₁ muxer₃ := by
  unfold SameSettings at h₁ h₂ ⊢
  rw [h₁, h₂]

/-! ### The packets of a frame -/

/-- Packets that carry `bytes` with counters from `m` on; only the first one may
start a payload unit. -/
inductive EsPackets : Bool → ℕ → List (List UInt8) → List UInt8 → Prop
  | nil (start : Bool) (m : ℕ) : EsPackets start m [] []
  | cons {start : Bool} {m : ℕ} {packet : List UInt8} {packets : List (List UInt8)}
      {body bytes : List UInt8} (hpacket : EsPacket packet start (nextCc m) body)
      (hrest : EsPackets false (m + 1) packets bytes) :
      EsPackets start m (packet :: packets) (body ++ bytes)

/-- What a loop of `createPes` leaves: the packets, the counter of its key moved
on by their number, and nothing else changed. -/
structure Emits (muxer : MpegTsMuxer) (count : UInt32 → ℕ) (key : UInt32)
    (result : MpegTsMuxer × List UInt8) (start : Bool) (packets : List (List UInt8))
    (bytes : List UInt8) : Prop where
  output : result.2 = packets.flatten
  carries : EsPackets start (count key) packets bytes
  counts : Counts result.1 (Function.update count key (count key + packets.length))
  settings : SameSettings result.1 muxer

theorem Emits.nothing (h : Counts muxer count) (key : UInt32) (start : Bool) :
    Emits muxer count key (muxer, []) start [] [] where
  output := rfl
  carries := .nil start (count key)
  counts := by
    rw [List.length_nil, Nat.add_zero, Function.update_eq_self]
    exact h
  settings := rfl

/-- One packet before those of the rest of the loop. -/
theorem Emits.cons {key : UInt32} {start : Bool} {packet body bytes : List UInt8}
    {result : MpegTsMuxer × List UInt8} {packets : List (List UInt8)}
    (hpacket : EsPacket packet start (nextCc (count key)) body)
    (hrest : Emits (muxer.getCc key).2 (Function.update count key (count key + 1)) key
      result false packets bytes) :
    Emits muxer count key (result.1, packet ++ result.2) start (packet :: packets)
      (body ++ bytes) where
  output := by rw [hrest.output, List.flatten_cons]
  carries := by
    have hcarries := hrest.carries
    rw [Function.update_self] at hcarries
    exact .cons hpacket hcarries
  counts := by
    have hcounts := hrest.counts
    rw [Function.update_self, Function.update_idem] at hcounts
    rw [List.length_cons, Nat.add_comm packets.length 1, ← Nat.add_assoc]
    exact hcounts
  settings := hrest.settings.trans (sameSettings_getCc key)

theorem unread_skip (sb : SimpleBuffer) (size : ℕ) :
    (sb.skip size).unread = sb.unread.drop size := by
  unfold SimpleBuffer.unread SimpleBuffer.skip
  rw [List.drop_drop]

theorem empty_iff (sb : SimpleBuffer) : sb.empty = true ↔ sb.unread = [] := by
  unfold SimpleBuffer.empty SimpleBuffer.unread
  rw [decide_eq_true_eq, List.drop_eq_nil_iff]

/-- One round of the loop. -/
theorem pesLoop_succ (rFrame : EsFrame) (first : Bool) (rounds : ℕ)
    (hunread : rFrame.mData.unread ≠ []) {key : UInt32} (hkey : rFrame.mStreamType.toUInt32 = key)
    {packet : List UInt8} {taken : ℕ}
    (hpacket : (muxer.getCc key).2.pesPacket rFrame first (muxer.getCc key).1 =
      (packet, taken)) :
    muxer.pesLoop rFrame first (rounds + 1) =
      (let result := (muxer.getCc key).2.pesLoop
        { rFrame with mData := rFrame.mData.skip taken } false rounds
      (result.1, packet ++ result.2)) := by
  subst hkey
  have hnot : ¬ rFrame.mData.empty = true := mt (empty_iff _).mp hunread
  rw [MpegTsMuxer.pesLoop, if_neg hnot]
  simp only [hpacket]

theorem pesLoop_of_empty {rFrame : EsFrame} (first : Bool) (rounds : ℕ)
    (hunread : rFrame.mData.unread = []) :
    muxer.pesLoop rFrame first rounds = (muxer, []) := by
  cases rounds with
  | zero => rfl
  | succ rounds => rw [MpegTsMuxer.pesLoop, if_pos ((empty_iff _).mpr hunread)]

/-- What a packet takes and what it leaves. -/
theorem take_append_drop_min (size : ℕ) (bytes : List UInt8) :
    bytes.take size ++ bytes.drop (min size bytes.length) = bytes := by
  rw [List.take_eq_take_min]
  exact List.take_append_drop _ _

/-- The rounds after the first. -/
theorem pesLoop_next (rounds : ℕ) {rFrame : EsFrame} (hpid : rFrame.mPid = VIDEO_PID)
    (h : Counts muxer count) (hrounds : rFrame.mData.unread.length ≤ rounds) :
    ∃ packets, packets.length = (rFrame.mData.unread.length + 183) / 184 ∧
      Emits muxer count rFrame.mStreamType.toUInt32 (muxer.pesLoop rFrame false rounds) false
        packets rFrame.mData.unread := by
  induction rounds generalizing muxer count rFrame with
  | zero =>
      have hnil : rFrame.mData.unread = [] := List.length_eq_zero_iff.mp (by omega)
      refine ⟨[], by rw [hnil]; rfl, ?_⟩
      rw [hnil]
      exact Emits.nothing h _ _
  | succ rounds ih =>
      by_cases hempty : rFrame.mData.unread = []
      · refine ⟨[], by rw [hempty]; rfl, ?_⟩
        rw [pesLoop_of_empty _ _ hempty, hempty]
        exact Emits.nothing h _ _
      · have hpos : 0 < rFrame.mData.unread.length := List.length_pos_of_ne_nil hempty
        generalize hkey : rFrame.mStreamType.toUInt32 = key
        have hpacket := pesPacket_next (muxer.getCc key).2 hpid (nextCc (count key)) hempty
        rw [← getCc_fst h] at hpacket
        -- the rest of the frame, after the bytes this packet takes
        have hskip := unread_skip rFrame.mData (min 184 rFrame.mData.unread.length)
        obtain ⟨packets, hlen, hrest⟩ := @ih (muxer.getCc key).2 _
          { rFrame with
            mData := rFrame.mData.skip (min 184 rFrame.mData.unread.length) } hpid
          (getCc_snd h key) (by
            simp only [hskip, List.length_drop]
            omega)
        simp only [hskip, List.length_drop, hkey] at hlen hrest
        refine ⟨nextPacket (UInt8.ofNat (nextCc (count key))) (rFrame.mData.unread.take 184) ::
          packets, ?_, ?_⟩
        · rw [List.length_cons, hlen]
          omega
        · rw [pesLoop_succ rFrame false rounds hempty hkey hpacket]
          have hemits := Emits.cons (esPacket_next (nextCc (count key))
            (List.length_take_le 184 rFrame.mData.unread)) hrest
          rw [take_append_drop_min] at hemits
          rw [getCc_fst h]
          exact hemits

/-- How many packets a frame of `n` bytes takes. -/
def packetCount (n : ℕ) : ℕ :=
  if n = 0 then 0 else 1 + (n - 162) ⌈/⌉ 184

theorem packetCount_pos {data : List UInt8} (hdata : data ≠ []) :
    0 < packetCount data.length := by
  have hne : data.length ≠ 0 := mt List.length_eq_zero_iff.mp hdata
  unfold packetCount
  rw [if_neg hne]
  omega

/-- What the packets of a frame carry. -/
def frameBytes (frame : Frame) : List UInt8 :=
  if frame.data = [] then []
  else MpegTsMuxer.pesHeader (SimpleMpegtsMuxer.esFrame frame) ++ frame.data

/-- The key under which the packets of a stream type are counted. -/
def StreamType.key (streamType : StreamType) : UInt32 :=
  streamType.value.toUInt32

/-- The packets of a frame with data begin with its start packet. -/
def Starts (frame : Frame) (packets : List (List UInt8)) : Prop :=
  frame.data ≠ [] → ∃ i : Fin 16, packets.head? =
    some (startPacket (UInt8.ofNat i) frame.isKeyFrame (162 - frame.data.length)
      (MpegTsMuxer.pesHeader (SimpleMpegtsMuxer.esFrame frame)) (frame.data.take 162))

theorem createPes_emits (hpcr : muxer.mPcrPid = PCR_PID) (h : Counts muxer count)
    (frame : Frame) :
    ∃ packets, packets.length = packetCount frame.data.length ∧ Starts frame packets ∧
      Emits muxer count frame.streamType.key
        (muxer.createPes (SimpleMpegtsMuxer.esFrame frame)) true packets (frameBytes frame) := by
  have hunread : (SimpleMpegtsMuxer.esFrame frame).mData.unread = frame.data := rfl
  have hsize : (SimpleMpegtsMuxer.esFrame frame).mData.size = frame.data.length := rfl
  unfold MpegTsMuxer.createPes packetCount frameBytes
  rw [hsize]
  by_cases hempty : frame.data = []
  · refine ⟨[], by rw [hempty]; rfl, fun hdata => absurd hempty hdata, ?_⟩
    rw [@pesLoop_of_empty muxer (SimpleMpegtsMuxer.esFrame frame) true _ hempty,
      if_pos hempty]
    exact Emits.nothing h _ _
  · have hne : frame.data.length ≠ 0 := mt List.length_eq_zero_iff.mp hempty
    obtain ⟨rounds, hrounds⟩ := Nat.exists_eq_succ_of_ne_zero hne
    generalize hkey : frame.streamType.key = key
    have hpacket := pesPacket_first (muxer.getCc key).2 frame hpcr
      (UInt8.ofNat (nextCc (count key)))
    rw [← getCc_fst h] at hpacket
    have hskip := unread_skip (SimpleMpegtsMuxer.esFrame frame).mData
      (min 162 frame.data.length)
    rw [hunread] at hskip
    obtain ⟨packets, hlen, hrest⟩ := @pesLoop_next (muxer.getCc key).2 _ rounds
      { SimpleMpegtsMuxer.esFrame frame with
        mData := (SimpleMpegtsMuxer.esFrame frame).mData.skip (min 162 frame.data.length) } rfl
      (getCc_snd h key) (by
        simp only [hskip, List.length_drop]
        omega)
    have hkey' : (SimpleMpegtsMuxer.esFrame frame).mStreamType.toUInt32 = key := hkey
    simp only [hskip, List.length_drop, hkey'] at hlen hrest
    refine ⟨startPacket (UInt8.ofNat (nextCc (count key))) frame.isKeyFrame
      (162 - frame.data.length) (MpegTsMuxer.pesHeader (SimpleMpegtsMuxer.esFrame frame))
      (frame.data.take 162) :: packets, ?_, fun _ => ⟨nextCc (count key), rfl⟩, ?_⟩
    · rw [if_neg hne, List.length_cons, hlen, Nat.ceilDiv_eq_add_pred_div]
      omega
    · have hloop := pesLoop_succ (SimpleMpegtsMuxer.esFrame frame) true rounds hempty hkey' hpacket
      rw [← Nat.succ_eq_add_one, ← hrounds] at hloop
      rw [if_neg hempty, hloop]
      have hemits := Emits.cons (esPacket_start (nextCc (count key)) frame.isKeyFrame
        (length_pesHeader frame)
        (show 162 - frame.data.length + (frame.data.take 162).length = 162 by
          rw [List.length_take]
          omega)) hrest
      rw [List.append_assoc, take_append_drop_min] at hemits
      rw [getCc_fst h]
      exact hemits

end Mpegts
