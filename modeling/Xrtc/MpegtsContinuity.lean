import Xrtc.Continuity
import Xrtc.MpegtsFraming

/-!
# Continuity counters over whole runs

The muxer counts the packets of each stream type, and all of them share one PID.
The counters on that PID are therefore continuous exactly if, before every frame,
the packets of the other stream types add up to a multiple of 16.  The tables
have a counter of their own, which is always continuous.
-/

open Continuity

namespace Mpegts

/-- The continuity counters of the packets with a payload on a PID. -/
def counters (pid : UInt16) (packets : List (List UInt8)) : List ℕ :=
  (packets.filter (fun packet => (header packet).mPid = pid && hasPayload packet)).map
    (fun packet => (header packet).mContinuityCounter.toNat)

/-- Everything that a run hands to the output callback. -/
def stream (streamTypes : List StreamType) (frames : List Frame) : List UInt8 :=
  (buffers streamTypes frames).flatten

/-- On every PID, each counter is one more, modulo 16, than the one before. -/
def ContinuousCounters (stream : List UInt8) : Prop :=
  ∀ pid, (counters pid (Framing.frames 188 stream)).IsChain (fun a b => b = (a + 1) % 16)

theorem counters_append (pid : UInt16) (packets packets' : List (List UInt8)) :
    counters pid (packets ++ packets') = counters pid packets ++ counters pid packets' := by
  unfold counters
  rw [List.filter_append, List.map_append]

/-! ### Counters of single packets -/

theorem counters_cons {packet : List UInt8} {h : TsHeader} (hheader : header packet = h)
    (hpayload : h.mAdaptationFieldControl = mPayloadOnly ∨
      h.mAdaptationFieldControl = mPayloadAdaptionBoth)
    (pid : UInt16) (packets : List (List UInt8)) :
    counters pid (packet :: packets) =
      if h.mPid = pid then h.mContinuityCounter.toNat :: counters pid packets
      else counters pid packets := by
  have hhas : hasPayload packet = true := by
    unfold hasPayload
    rw [hheader, Bool.or_eq_true, beq_iff_eq, beq_iff_eq]
    exact hpayload
  unfold counters
  rw [List.filter_cons, hheader, hhas, Bool.and_true]
  by_cases hpid : h.mPid = pid
  · rw [if_pos (decide_eq_true hpid), if_pos hpid, List.map_cons, hheader]
  · rw [if_neg (by rw [decide_eq_false hpid]; decide), if_neg hpid]

theorem toNat_nextCc (m : ℕ) : (UInt8.ofNat (nextCc m)).toNat = m % 16 := by
  have hlt : m % 16 < 2 ^ 8 := by omega
  show (UInt8.ofNat (m % 16)).toNat = m % 16
  rw [UInt8.toNat_ofNat', Nat.mod_eq_of_lt hlt]

theorem EsPacket.counters_cons {packet body : List UInt8} {start : Bool} {m : ℕ}
    (h : EsPacket packet start (nextCc m) body) (pid : UInt16) (packets : List (List UInt8)) :
    counters pid (packet :: packets) =
      if VIDEO_PID = pid then m % 16 :: counters pid packets else counters pid packets := by
  obtain ⟨adaptation, hheader⟩ := h.header
  rw [Mpegts.counters_cons hheader]
  · rw [← toNat_nextCc m]
    rfl
  · cases adaptation
    · exact .inl rfl
    · exact .inr rfl

theorem TablePacket.counters_cons {packet table : List UInt8} {pid' : UInt16} {m : ℕ}
    (h : TablePacket packet pid' (nextCc m) table) (pid : UInt16)
    (packets : List (List UInt8)) :
    counters pid (packet :: packets) =
      if pid' = pid then m % 16 :: counters pid packets else counters pid packets := by
  rw [Mpegts.counters_cons h.header _ _ _]
  · rw [← toNat_nextCc m]
    rfl
  · exact .inl rfl

/-! ### Counters of one call -/

theorem EsPackets.countsFrom {start : Bool} {m : ℕ} {packets : List (List UInt8)}
    {bytes : List UInt8} (h : EsPackets start m packets bytes) :
    (counters VIDEO_PID packets).length = packets.length ∧
      CountsFrom 16 m (counters VIDEO_PID packets) := by
  induction h with
  | nil start m => exact ⟨rfl, trivial⟩
  | @cons start m packet packets body bytes hpacket hrest ih =>
      rw [hpacket.counters_cons, if_pos rfl]
      exact ⟨congrArg Nat.succ ih.1, rfl, ih.2⟩

theorem EsPackets.counters_of_ne {start : Bool} {m : ℕ} {packets : List (List UInt8)}
    {bytes : List UInt8} (h : EsPackets start m packets bytes) {pid : UInt16}
    (hpid : VIDEO_PID ≠ pid) : counters pid packets = [] := by
  induction h with
  | nil start m => rfl
  | cons hpacket hrest ih => rw [hpacket.counters_cons, if_neg hpid, ih]

variable {streamTypes : List StreamType}

/-- The tables are on two PIDs, with one counter. -/
theorem Tables.counters {done : List Frame} {tables : List (List UInt8)}
    (h : Tables streamTypes done tables) (pid : UInt16) :
    counters pid tables =
      if done.length % 20 = 0 ∧ (pid = MPEGTS_PAT_PID ∨ pid = PMT_PID) then
        [countAfter done 0 % 16] else [] := by
  cases h with
  | notDue hdue =>
      rw [if_neg (fun h => hdue h.1)]
      rfl
  | due hdue hpat hpmt =>
      have hnil : Mpegts.counters pid [] = [] := rfl
      have hne : MPEGTS_PAT_PID ≠ PMT_PID := by decide
      rw [hpat.counters_cons, hpmt.counters_cons, hnil]
      by_cases hpat' : MPEGTS_PAT_PID = pid
      · subst hpat'
        rw [if_pos rfl, if_neg hne.symm, if_pos ⟨hdue, .inl rfl⟩]
      · rw [if_neg hpat']
        by_cases hpmt' : PMT_PID = pid
        · rw [if_pos hpmt', if_pos ⟨hdue, .inr hpmt'.symm⟩]
        · rw [if_neg hpmt', if_neg]
          rintro ⟨-, h | h⟩
          · exact hpat' h.symm
          · exact hpmt' h.symm

theorem Encodes.counters_video {done : List Frame} {frame : Frame} {call : Call}
    (h : Encodes streamTypes done frame call) :
    counters VIDEO_PID call.packets = counters VIDEO_PID call.pes := by
  have hnot : ¬ (done.length % 20 = 0 ∧ (VIDEO_PID = MPEGTS_PAT_PID ∨ VIDEO_PID = PMT_PID)) := by
    rintro ⟨-, h | h⟩ <;> exact absurd h (by decide)
  unfold Call.packets
  rw [counters_append, h.tables.counters, if_neg hnot]
  rfl

theorem Encodes.counters_of_ne {done : List Frame} {frame : Frame} {call : Call}
    (h : Encodes streamTypes done frame call) {pid : UInt16} (hpid : VIDEO_PID ≠ pid) :
    counters pid call.packets = counters pid call.tables := by
  unfold Call.packets
  rw [counters_append, h.pes.counters_of_ne hpid, List.append_nil]

/-! ### Counters of whole runs -/

/-- All packets of the frames of a run. -/
def packetTotal (done : List Frame) : ℕ :=
  (done.map (fun frame => packetCount frame.data.length)).sum

/-- The packets of the frames of other stream types. -/
def otherPackets (done : List Frame) (streamType : StreamType) : ℕ :=
  packetTotal (done.filter (fun frame => frame.streamType ≠ streamType))

/-- The packets of other stream types before a frame with data are a multiple
of 16. -/
def Aligned (done : List Frame) (frame : Frame) : Prop :=
  frame.data ≠ [] → 16 ∣ otherPackets done frame.streamType

theorem packetTotal_append (done : List Frame) (frame : Frame) :
    packetTotal (done ++ [frame]) = packetTotal done + packetCount frame.data.length := by
  unfold packetTotal
  rw [List.map_append, List.sum_append, List.map_singleton, List.sum_singleton]

theorem StreamType.key_injective : Function.Injective StreamType.key := by
  intro a b h
  cases a <;> cases b <;> first | rfl | exact absurd h (by decide)

/-- Packets of a run are of the stream type or of another. -/
theorem packetTotal_eq (done : List Frame) (streamType : StreamType) :
    packetTotal done = countAfter done streamType.key + otherPackets done streamType := by
  have hkey : ∀ frame : Frame, decide (frame.streamType.key = streamType.key) =
      decide (frame.streamType = streamType) := by
    intro frame
    rw [decide_eq_decide]
    exact StreamType.key_injective.eq_iff
  unfold countAfter otherPackets packetTotal
  rw [if_neg streamType.key_ne_zero]
  simp only [hkey]
  induction done with
  | nil => rfl
  | cons frame done ih =>
      rw [List.map_cons, List.sum_cons, ih, List.filter_cons, List.filter_cons]
      by_cases hsame : frame.streamType = streamType
      · simp only [hsame, decide_true, if_true, ne_eq, not_true, decide_false, Bool.false_eq_true,
          if_false, List.map_cons, List.sum_cons]
        omega
      · simp only [hsame, decide_false, Bool.false_eq_true, if_false, ne_eq, not_false_eq_true,
          decide_true, if_true, List.map_cons, List.sum_cons]
        omega

/-- The packets of a frame go on counting where the run stands, or they do not. -/
theorem Encodes.countsFrom_iff {done : List Frame} {frame : Frame} {call : Call}
    (h : Encodes streamTypes done frame call) :
    CountsFrom 16 (packetTotal done) (counters VIDEO_PID call.pes) ↔ Aligned done frame := by
  obtain ⟨hlen, hcounts⟩ := h.pes.countsFrom
  rw [h.length] at hlen
  unfold Aligned
  by_cases hdata : frame.data = []
  · rw [hdata] at hlen
    rw [List.length_eq_zero_iff.mp hlen]
    simp [CountsFrom, hdata]
  · have hne : counters VIDEO_PID call.pes ≠ [] := by
      apply List.ne_nil_of_length_pos
      rw [hlen]
      exact packetCount_pos hdata
    rw [hcounts.iff_modEq hne, imp_iff_right hdata, packetTotal_eq done frame.streamType]
    constructor
    · intro hmod
      exact (Nat.modEq_zero_iff_dvd).mp (Nat.ModEq.add_left_cancel' _ hmod)
    · intro hdvd
      exact ((Nat.modEq_zero_iff_dvd).mpr hdvd).add_left _

theorem getElem?_cons_forall {frame : Frame} {frames : List Frame} {P : ℕ → Frame → Prop} :
    (∀ k other, (frame :: frames)[k]? = some other → P k other) ↔
      P 0 frame ∧ ∀ k other, frames[k]? = some other → P (k + 1) other := by
  constructor
  · intro h
    exact ⟨h 0 frame rfl, fun k other hk => h (k + 1) other hk⟩
  · rintro ⟨hzero, hsucc⟩ k other hk
    cases k with
    | zero =>
        obtain rfl : frame = other := Option.some.inj hk
        exact hzero
    | succ k => exact hsucc k other hk

/-- The counters on `VIDEO_PID` count the packets of the run exactly if every
frame is aligned. -/
theorem Calls.countsFrom_video {done frames : List Frame} {calls : List Call}
    (h : Calls streamTypes done frames calls) :
    CountsFrom 16 (packetTotal done) (counters VIDEO_PID (calls.map Call.packets).flatten) ↔
      ∀ k frame, frames[k]? = some frame → Aligned (done ++ frames.take k) frame := by
  induction h with
  | nil done => simp [CountsFrom, counters]
  | @cons done frames frame call calls hcall hrest ih =>
      have hlen := hcall.pes.countsFrom.1
      rw [hcall.length] at hlen
      rw [List.map_cons, List.flatten_cons, counters_append, hcall.counters_video,
        countsFrom_append, hlen, ← packetTotal_append, ih, hcall.countsFrom_iff,
        getElem?_cons_forall]
      simp only [List.take_zero, List.append_nil, List.take_succ_cons, List.append_assoc,
        List.cons_append, List.nil_append]

/-- The first counter on `VIDEO_PID` is 0. -/
theorem Calls.head_video {done frames : List Frame} {calls : List Call}
    (h : Calls streamTypes done frames calls) (hnone : packetTotal done = 0) {c : ℕ}
    (hc : (counters VIDEO_PID (calls.map Call.packets).flatten).head? = some c) : c = 0 := by
  induction h with
  | nil done => cases hc
  | @cons done frames frame call calls hcall hrest ih =>
      obtain ⟨hlen, hcounts⟩ := hcall.pes.countsFrom
      rw [List.map_cons, List.flatten_cons, counters_append, hcall.counters_video] at hc
      cases hpes : counters VIDEO_PID call.pes with
      | nil =>
          -- no packets yet, so the count does not move
          rw [hpes, hcall.length] at hlen
          rw [hpes, List.nil_append] at hc
          apply ih _ hc
          rw [packetTotal_append, hnone, ← hlen]
          rfl
      | cons d rest =>
          have htotal := packetTotal_eq done frame.streamType
          rw [hpes] at hc hcounts
          obtain rfl : d = c := Option.some.inj hc
          rw [hcounts.1]
          omega

/-- The tables count on their own. -/
theorem Calls.countsFrom_tables {done frames : List Frame} {calls : List Call}
    (h : Calls streamTypes done frames calls) {pid : UInt16}
    (hpid : pid = MPEGTS_PAT_PID ∨ pid = PMT_PID) :
    CountsFrom 16 (countAfter done 0) (counters pid (calls.map Call.packets).flatten) := by
  have hne : VIDEO_PID ≠ pid := by
    rcases hpid with rfl | rfl <;> decide
  induction h with
  | nil done => trivial
  | @cons done frames frame call calls hcall hrest ih =>
      have hcount : countAfter (done ++ [frame]) 0 = (done.length + 20) / 20 := by
        rw [countAfter_append, Function.update_of_ne frame.streamType.key_ne_zero.symm]
        exact Function.update_self _ _ _
      have hzero : countAfter done 0 = (done.length + 19) / 20 := if_pos rfl
      rw [List.map_cons, List.flatten_cons, counters_append, hcall.counters_of_ne hne,
        hcall.tables.counters]
      rw [hcount] at ih
      by_cases hdue : done.length % 20 = 0
      · have hnext : (done.length + 20) / 20 = countAfter done 0 + 1 := by
          rw [hzero]
          omega
        rw [if_pos ⟨hdue, hpid⟩]
        rw [hnext] at ih
        exact ⟨rfl, ih⟩
      · have hnext : (done.length + 20) / 20 = countAfter done 0 := by
          rw [hzero]
          omega
        rw [if_neg (fun h => hdue h.1)]
        rw [hnext] at ih
        exact ih

theorem Calls.counters_other {done frames : List Frame} {calls : List Call}
    (h : Calls streamTypes done frames calls) {pid : UInt16} (hvideo : VIDEO_PID ≠ pid)
    (hpid : ¬ (pid = MPEGTS_PAT_PID ∨ pid = PMT_PID)) :
    counters pid (calls.map Call.packets).flatten = [] := by
  induction h with
  | nil done => rfl
  | cons hcall hrest ih =>
      rw [List.map_cons, List.flatten_cons, counters_append, hcall.counters_of_ne hvideo,
        hcall.tables.counters, if_neg (fun h => hpid h.2), ih]
      rfl

/-- The stream of a run is cut into the packets of its calls. -/
theorem frames_stream (streamTypes : List StreamType) (frames : List Frame) :
    ∃ calls, Calls streamTypes [] frames calls ∧
      Framing.frames 188 (stream streamTypes frames) = (calls.map Call.packets).flatten := by
  obtain ⟨calls, hcalls, hbuffers⟩ := buffers_eq_calls streamTypes frames
  refine ⟨calls, hcalls, ?_⟩
  have hstream : stream streamTypes frames = (calls.map Call.packets).flatten.flatten := by
    unfold stream
    rw [hbuffers, List.flatten_flatten, List.map_map]
    rfl
  rw [hstream]
  apply Framing.frames_flatten (by decide)
  intro packet hpacket
  obtain ⟨packets, hpackets, hmem⟩ := List.mem_flatten.mp hpacket
  obtain ⟨call, hcall, rfl⟩ := List.mem_map.mp hpackets
  obtain ⟨done, frame, hencodes⟩ := hcalls.encodes_of_mem hcall
  exact (hencodes.wellFormed hmem).1

/-- **Continuity.**  The counters of a run are continuous exactly if, before
every frame with data, the packets of the other stream types are a multiple of
16. -/
theorem continuousCounters_iff (streamTypes : List StreamType) (frames : List Frame) :
    ContinuousCounters (stream streamTypes frames) ↔
      ∀ k frame, frames[k]? = some frame → frame.data ≠ [] →
        16 ∣ otherPackets (frames.take k) frame.streamType := by
  obtain ⟨calls, hcalls, hframes⟩ := frames_stream streamTypes frames
  have hhead : ∀ c, (counters VIDEO_PID (calls.map Call.packets).flatten).head? = some c →
      c = 0 := by
    intro c hc
    exact hcalls.head_video rfl hc
  have hvideo := (isChain_iff_countsFrom hhead (show 0 < 16 by decide)).trans
    hcalls.countsFrom_video
  unfold ContinuousCounters
  rw [hframes]
  -- the other PIDs are continuous in any case
  refine Iff.trans ⟨fun h => h VIDEO_PID, fun h pid => ?_⟩ hvideo
  by_cases hpid : VIDEO_PID = pid
  · rw [← hpid]
    exact h
  · by_cases htable : pid = MPEGTS_PAT_PID ∨ pid = PMT_PID
    · exact (hcalls.countsFrom_tables htable).isChain (by decide)
    · rw [hcalls.counters_other hpid htable]
      exact List.isChain_nil

/-- A video frame and an audio frame of one packet each have the same counter. -/
theorem two_types_not_continuous :
    ¬ ContinuousCounters (stream [.AVC, .AAC]
      [{ data := [1], dtsUs := 0, streamType := .AVC },
        { data := [2], dtsUs := 0, streamType := .AAC }]) := by
  intro h
  have hcounters : counters VIDEO_PID (Framing.frames 188 (stream [.AVC, .AAC]
      [{ data := [1], dtsUs := 0, streamType := .AVC },
        { data := [2], dtsUs := 0, streamType := .AAC }])) = [0, 0] := by
    decide +kernel
  have hchain := h VIDEO_PID
  rw [hcounters] at hchain
  simp at hchain

end Mpegts
