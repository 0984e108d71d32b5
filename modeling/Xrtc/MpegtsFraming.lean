import Xrtc.MpegtsPes
import Xrtc.MpegtsTables

/-!
# Framing and payload over whole runs

A call of `encode` puts out whole packets: a PAT and a PMT every twenty calls,
then the packets of the frame.  The state of the muxer after a number of calls is
a function of the frames of these calls, and so is the output of the next one.
-/

open Framing

namespace Mpegts

variable {muxer : MpegTsMuxer} {count : UInt32 → ℕ}

/-! ### One call -/

/-- How many packets used a key in the calls for `done`: the tables are counted
under 0. -/
def countAfter (done : List Frame) (key : UInt32) : ℕ :=
  if key = 0 then (done.length + 19) / 20
  else ((done.filter (fun frame => frame.streamType.key = key)).map
    (fun frame => packetCount frame.data.length)).sum

theorem StreamType.key_ne_zero (streamType : StreamType) : streamType.key ≠ 0 := by
  cases streamType <;> decide

/-- The counts after the tables of the next call. -/
def countTables (done : List Frame) : UInt32 → ℕ :=
  Function.update (countAfter done) 0 ((done.length + 20) / 20)

theorem countTables_eq (done : List Frame) :
    countTables done = if done.length % 20 = 0 then
      Function.update (countAfter done) 0 (countAfter done 0 + 1) else countAfter done := by
  have hzero : countAfter done 0 = (done.length + 19) / 20 := if_pos rfl
  unfold countTables
  split_ifs with htables
  · rw [hzero]
    congr 1
    omega
  · apply Function.update_eq_self_iff.mpr
    rw [hzero]
    omega

theorem countAfter_append (done : List Frame) (frame : Frame) :
    countAfter (done ++ [frame]) = Function.update (countTables done) frame.streamType.key
      (countTables done frame.streamType.key + packetCount frame.data.length) := by
  have hkey := frame.streamType.key_ne_zero
  funext key
  by_cases hzero : key = 0
  · subst hzero
    rw [Function.update_of_ne hkey.symm]
    unfold countTables countAfter
    rw [Function.update_self, if_pos rfl, List.length_append]
    rfl
  · have hother : countTables done key = countAfter done key :=
      Function.update_of_ne hzero _ _
    by_cases hsame : key = frame.streamType.key
    · subst hsame
      rw [Function.update_self, hother]
      unfold countAfter
      rw [if_neg hzero, if_neg hzero, List.filter_append, List.map_append, List.sum_append]
      simp
    · rw [Function.update_of_ne hsame, hother]
      unfold countAfter
      rw [if_neg hzero, if_neg hzero, List.filter_append, List.map_append, List.sum_append]
      simp [Ne.symm hsame]

/-- The packets of one call. -/
structure Call where
  tables : List (List UInt8)
  pes : List (List UInt8)

def Call.packets (call : Call) : List (List UInt8) :=
  call.tables ++ call.pes

variable (streamTypes : List StreamType)

/-- The tables of a call after the calls for `done`: a PAT and a PMT with the
same counter in every twentieth call. -/
inductive Tables (done : List Frame) : List (List UInt8) → Prop
  | due {pat pmt : List UInt8} (hdue : done.length % 20 = 0)
      (hpat : TablePacket pat MPEGTS_PAT_PID (nextCc (countAfter done 0)) patTable)
      (hpmt : TablePacket pmt PMT_PID (nextCc (countAfter done 0))
        (pmtHeader (streamMap streamTypes).toList).encode) :
      Tables done [pat, pmt]
  | notDue (hdue : done.length % 20 ≠ 0) : Tables done []

/-- What a call for `frame` after the calls for `done` puts out. -/
structure Encodes (done : List Frame) (frame : Frame) (call : Call) : Prop where
  tables : Tables streamTypes done call.tables
  pes : EsPackets true (countAfter done frame.streamType.key) call.pes (frameBytes frame)
  length : call.pes.length = packetCount frame.data.length

/-- The muxer with its settings, after a number of calls and with the counters
that `count` packets leave. -/
structure Holds (calls : ℕ) (count : UInt32 → ℕ) (muxer : MpegTsMuxer) : Prop where
  pmtPid : muxer.mPmtPid = PMT_PID
  streamPidMap : muxer.mStreamPidMap = streamMap streamTypes
  pcrPid : muxer.mPcrPid = PCR_PID
  muxType : muxer.mMuxType = .h222Type
  index : muxer.mCurrentIndex % 20 = calls % 20
  counts : Counts muxer count

/-- The muxer after the calls for `done`. -/
def After (done : List Frame) (muxer : MpegTsMuxer) : Prop :=
  Holds streamTypes done.length (countAfter done) muxer

theorem after_nil : After streamTypes [] (SimpleMpegtsMuxer.new streamTypes).tsMuxer where
  pmtPid := rfl
  streamPidMap := rfl
  pcrPid := rfl
  muxType := rfl
  index := rfl
  counts := by
    intro key
    have hnone : countAfter [] key = 0 := by
      unfold countAfter
      split_ifs <;> rfl
    rw [hnone]
    rfl

variable {streamTypes}

/-- Only the counters move on. -/
theorem Holds.advance {calls : ℕ} {count' : UInt32 → ℕ} {muxer' : MpegTsMuxer}
    (h : Holds streamTypes calls count muxer) (hsame : SameSettings muxer' muxer)
    (hcounts : Counts muxer' count') : Holds streamTypes calls count' muxer' where
  pmtPid := by rw [hsame]; exact h.pmtPid
  streamPidMap := by rw [hsame]; exact h.streamPidMap
  pcrPid := by rw [hsame]; exact h.pcrPid
  muxType := by rw [hsame]; exact h.muxType
  index := by rw [hsame]; exact h.index
  counts := hcounts

theorem shouldCreatePat_fst {calls : ℕ} (h : Holds streamTypes calls count muxer) :
    muxer.shouldCreatePat.1 = decide (calls % 20 = 0) := by
  have hindex : muxer.mCurrentIndex % MPEGTS_PAT_INTERVAL = calls % 20 := h.index
  unfold MpegTsMuxer.shouldCreatePat
  rw [hindex]
  split_ifs with hdue
  · exact (decide_eq_true hdue).symm
  · exact (decide_eq_false hdue).symm

theorem shouldCreatePat_snd {calls : ℕ} (h : Holds streamTypes calls count muxer) :
    Holds streamTypes (calls + 1) count muxer.shouldCreatePat.2 := by
  have hindex := h.index
  have hinterval : MPEGTS_PAT_INTERVAL = 20 := rfl
  unfold MpegTsMuxer.shouldCreatePat
  rw [hinterval]
  split_ifs with hdue
  · refine ⟨h.pmtPid, h.streamPidMap, h.pcrPid, h.muxType, ?_, h.counts⟩
    show (0 + 1) % 20 = (calls + 1) % 20
    omega
  · refine ⟨h.pmtPid, h.streamPidMap, h.pcrPid, h.muxType, ?_, h.counts⟩
    show (muxer.mCurrentIndex + 1) % 20 = (calls + 1) % 20
    omega

/-- What `encode` does before the packets of the frame. -/
def front (muxer : MpegTsMuxer) : MpegTsMuxer × List UInt8 :=
  if muxer.shouldCreatePat.1 then muxer.shouldCreatePat.2.tables
  else (muxer.shouldCreatePat.2, [])

theorem encode_eq (hmux : muxer.mMuxType = .h222Type) (rFrame : EsFrame) :
    muxer.encode rFrame =
      (((front muxer).1.createPes rFrame).1,
        { rSb := (front muxer).2 ++ ((front muxer).1.createPes rFrame).2
          lTag := 0
          lRandomAccess := false }) := by
  have hsegment : ¬ (muxer.mMuxType = .segmentType ∧ false = true) := by
    rintro ⟨-, h⟩
    cases h
  unfold MpegTsMuxer.encode front
  rw [if_neg hsegment, if_pos hmux]

theorem tables_front {done : List Frame} (h : After streamTypes done muxer) :
    ∃ tables, Tables streamTypes done tables ∧ (front muxer).2 = tables.flatten ∧
      Holds streamTypes (done.length + 1) (countTables done) (front muxer).1 := by
  have hnext := shouldCreatePat_snd h
  unfold front
  rw [shouldCreatePat_fst h, countTables_eq]
  by_cases hdue : done.length % 20 = 0
  · simp only [hdue, decide_true, if_true]
    generalize muxer.shouldCreatePat.2 = muxer' at hnext
    have hcc := getCc_fst hnext.counts 0
    have hholds := hnext.advance (sameSettings_getCc 0) (getCc_snd hnext.counts 0)
    refine ⟨_, .due hdue (tablePacket_createPat (nextCc (countAfter done 0)))
      (tablePacket_createPmt streamTypes hholds.pcrPid (nextCc (countAfter done 0))), ?_, hholds⟩
    show createPat (muxer'.getCc 0).2.mPmtPid (muxer'.getCc 0).1 ++
      (muxer'.getCc 0).2.createPmt (muxer'.getCc 0).2.mStreamPidMap
        (muxer'.getCc 0).2.mPmtPid (muxer'.getCc 0).1 = _
    rw [hcc, hholds.pmtPid, hholds.streamPidMap]
    simp
  · simp only [hdue, decide_false, Bool.false_eq_true, if_false]
    exact ⟨[], .notDue hdue, rfl, hnext⟩

/-- **One call.** -/
theorem encode_encodes {done : List Frame} (h : After streamTypes done muxer) (frame : Frame) :
    ∃ call : Call, Encodes streamTypes done frame call ∧ Starts frame call.pes ∧
      (muxer.encode (SimpleMpegtsMuxer.esFrame frame)).2 =
        { rSb := call.packets.flatten, lTag := 0, lRandomAccess := false } ∧
      After streamTypes (done ++ [frame]) (muxer.encode (SimpleMpegtsMuxer.esFrame frame)).1 := by
  obtain ⟨tables, htables, hfront, hholds⟩ := tables_front h
  obtain ⟨pes, hlen, hstarts, hemits⟩ := createPes_emits hholds.pcrPid hholds.counts frame
  have hkey : countTables done frame.streamType.key = countAfter done frame.streamType.key :=
    Function.update_of_ne frame.streamType.key_ne_zero _ _
  refine ⟨⟨tables, pes⟩, ⟨htables, ?_, hlen⟩, hstarts, ?_, ?_⟩
  · rw [← hkey]
    exact hemits.carries
  · rw [encode_eq h.muxType]
    simp only [hfront, hemits.output, Call.packets, List.flatten_append]
  · rw [encode_eq h.muxType]
    have hcounts := hemits.counts
    rw [hlen, ← countAfter_append] at hcounts
    have hafter := hholds.advance hemits.settings hcounts
    unfold After
    rw [List.length_append]
    exact hafter

/-! ### Whole runs -/

/-- The calls for `frames`, after those for `done`. -/
inductive Calls (streamTypes : List StreamType) :
    List Frame → List Frame → List Call → Prop
  | nil (done : List Frame) : Calls streamTypes done [] []
  | cons {done frames : List Frame} {frame : Frame} {call : Call} {calls : List Call}
      (hcall : Encodes streamTypes done frame call)
      (hrest : Calls streamTypes (done ++ [frame]) frames calls) :
      Calls streamTypes done (frame :: frames) (call :: calls)

/-- What the output callback is called with. -/
def Call.outputs (call : Call) : List (List UInt8 × Bool) :=
  [(call.packets.flatten, false)]

theorem encodeAll_calls {done : List Frame} {simple : SimpleMpegtsMuxer}
    (h : After streamTypes done simple.tsMuxer) (houtput : simple.output = true)
    (frames : List Frame) :
    ∃ calls, Calls streamTypes done frames calls ∧
      List.Forall₂ (fun frame call => Starts frame call.pes) frames calls ∧
      (simple.encodeAll frames).2 = calls.map Call.outputs := by
  induction frames generalizing done simple with
  | nil => exact ⟨[], .nil done, .nil, rfl⟩
  | cons frame frames ih =>
      obtain ⟨call, hcall, hstarts, hout, hafter⟩ := encode_encodes h frame
      have hstep : simple.encode frame =
          ({ simple with
              tsMuxer := (simple.tsMuxer.encode (SimpleMpegtsMuxer.esFrame frame)).1 },
            call.outputs) := by
        unfold SimpleMpegtsMuxer.encode Call.outputs
        simp only [hout, houtput, if_true]
      obtain ⟨calls, hcalls, hall, hrest⟩ := @ih (done ++ [frame]) (simple.encode frame).1
        (by rw [hstep]; exact hafter) (by rw [hstep]; exact houtput)
      refine ⟨call :: calls, .cons hcall hcalls, .cons hstarts hall, ?_⟩
      show (simple.encode frame).2 :: ((simple.encode frame).1.encodeAll frames).2 = _
      rw [hrest, hstep]
      rfl

/-- Every run of a new muxer with a callback. -/
theorem ready_calls (streamTypes : List StreamType) (frames : List Frame) :
    ∃ calls, Calls streamTypes [] frames calls ∧
      List.Forall₂ (fun frame call => Starts frame call.pes) frames calls ∧
      ((SimpleMpegtsMuxer.ready streamTypes).encodeAll frames).2 = calls.map Call.outputs :=
  @encodeAll_calls streamTypes [] (SimpleMpegtsMuxer.ready streamTypes)
    (after_nil streamTypes) rfl frames

theorem length_take_of_getElem? {frames : List Frame} {k : ℕ} {frame : Frame}
    (hk : frames[k]? = some frame) : (frames.take k).length = k := by
  have hlt := (List.getElem?_eq_some_iff.mp hk).1
  rw [List.length_take]
  omega

theorem Calls.getElem? {done frames : List Frame} {calls : List Call} {k : ℕ} {frame : Frame}
    (h : Calls streamTypes done frames calls) (hk : frames[k]? = some frame) :
    ∃ call, calls[k]? = some call ∧ Encodes streamTypes (done ++ frames.take k) frame call := by
  induction h generalizing k with
  | nil done => simp at hk
  | @cons done frames first call calls hcall hrest ih =>
      cases k with
      | zero =>
          obtain rfl : first = frame := by simpa using hk
          exact ⟨call, rfl, by rw [List.take_zero, List.append_nil]; exact hcall⟩
      | succ k =>
          obtain ⟨call', hget, hcall'⟩ := ih (by simpa using hk)
          refine ⟨call', by simpa using hget, ?_⟩
          rw [List.take_succ_cons]
          rw [List.append_assoc] at hcall'
          exact hcall'

/-! ### What a receiver reads -/

theorem head_eq_sync {packet : List UInt8} (hlen : packet.length = 188) :
    packet.head? = some (header packet).mSyncByte := by
  match packet, hlen with
  | b0 :: b1 :: b2 :: b3 :: rest, _ => rfl

namespace EsPackets

variable {start : Bool} {m : ℕ} {packets : List (List UInt8)} {bytes : List UInt8}

/-- Every packet has its own counter, and only the first may start a payload
unit. -/
theorem getElem? (h : EsPackets start m packets bytes) {i : ℕ} {packet : List UInt8}
    (hi : packets[i]? = some packet) :
    ∃ body, EsPacket packet (start && decide (i = 0)) (nextCc (m + i)) body := by
  induction h generalizing i with
  | nil start m => simp at hi
  | @cons start m first packets body bytes hpacket hrest ih =>
      cases i with
      | zero =>
          obtain rfl : first = packet := by simpa using hi
          refine ⟨body, ?_⟩
          rw [decide_eq_true rfl, Bool.and_true, Nat.add_zero]
          exact hpacket
      | succ i =>
          obtain ⟨body', hbody⟩ := ih (by simpa using hi)
          refine ⟨body', ?_⟩
          rw [Bool.false_and] at hbody
          rw [decide_eq_false (Nat.succ_ne_zero i), Bool.and_false, ← Nat.add_assoc,
            Nat.add_right_comm]
          exact hbody

theorem payloads (h : EsPackets start m packets bytes) :
    (packets.map payload).flatten = bytes := by
  induction h with
  | nil start m => rfl
  | cons hpacket hrest ih => rw [List.map_cons, List.flatten_cons, hpacket.payload, ih]

end EsPackets

theorem EsPacket.wellFormed {packet body : List UInt8} {start : Bool} {i : Fin 16}
    (h : EsPacket packet start i body) : packet.length = 188 ∧ packet.head? = some 0x47 := by
  obtain ⟨adaptation, hheader⟩ := h.header
  refine ⟨h.length, ?_⟩
  rw [head_eq_sync h.length, hheader]
  rfl

theorem TablePacket.wellFormed {packet table : List UInt8} {pid : UInt16} {i : Fin 16}
    (h : TablePacket packet pid i table) : packet.length = 188 ∧ packet.head? = some 0x47 := by
  refine ⟨h.length, ?_⟩
  rw [head_eq_sync h.length, h.header]
  rfl

/-- A packet of a call is a PAT, a PMT or a packet of the frame. -/
theorem Encodes.packet_cases {done : List Frame} {frame : Frame} {call : Call}
    (h : Encodes streamTypes done frame call) {packet : List UInt8}
    (hpacket : packet ∈ call.packets) :
    (∃ i, TablePacket packet MPEGTS_PAT_PID i patTable) ∨
      (∃ i, TablePacket packet PMT_PID i (pmtHeader (streamMap streamTypes).toList).encode) ∨
      ∃ start i body, EsPacket packet start i body := by
  rcases List.mem_append.mp hpacket with htable | hpes
  · have htables := h.tables
    generalize call.tables = tables at htable htables
    cases htables with
    | due hdue hpat hpmt =>
        simp only [List.mem_cons, List.not_mem_nil, or_false] at htable
        rcases htable with rfl | rfl
        · exact .inl ⟨_, hpat⟩
        · exact .inr (.inl ⟨_, hpmt⟩)
    | notDue hdue => cases htable
  · obtain ⟨i, hi⟩ := List.getElem?_of_mem hpes
    obtain ⟨body, hbody⟩ := h.pes.getElem? hi
    exact .inr (.inr ⟨_, _, body, hbody⟩)

theorem Encodes.wellFormed {done : List Frame} {frame : Frame} {call : Call}
    (h : Encodes streamTypes done frame call) {packet : List UInt8}
    (hpacket : packet ∈ call.packets) : packet.length = 188 ∧ packet.head? = some 0x47 := by
  rcases h.packet_cases hpacket with ⟨i, hpat⟩ | ⟨i, hpmt⟩ | ⟨start, i, body, hes⟩
  · exact hpat.wellFormed
  · exact hpmt.wellFormed
  · exact hes.wellFormed

/-! ### The PES header -/

theorem read2Bytes_write2Bytes (v : UInt16) :
    read2Bytes (v >>> 8).toUInt8 v.toUInt8 = v := by
  have hv := v.toNat_lt
  have hor : ∀ a b : ℕ, b < 256 → (a <<< 8) ||| b = 256 * a + b := by
    intro a b hb
    rw [← Nat.shiftLeft_add_eq_or_of_lt (show b < 2 ^ 8 from hb), Nat.shiftLeft_eq]
    omega
  have hhigh : (v.toNat / 256 % 256) <<< 8 < 65536 := by
    rw [Nat.shiftLeft_eq]
    omega
  apply UInt16.toNat_inj.mp
  unfold read2Bytes
  have hnat : (((v >>> 8).toUInt8.toUInt16 <<< 8) ||| v.toUInt8.toUInt16).toNat =
      (v.toNat / 256 % 256) <<< 8 % 65536 ||| v.toNat % 256 := by
    simp [UInt16.toNat_or, UInt16.toNat_shiftLeft, Nat.shiftRight_eq_div_pow]
  rw [hnat, Nat.mod_eq_of_lt hhigh, hor _ _ (Nat.mod_lt _ (by decide))]
  omega

/-- `PES_packet_length` as a receiver reads it. -/
def pesPacketLength (pes : List UInt8) : UInt16 :=
  read2Bytes (pes.getD 4 0) (pes.getD 5 0)

/-- The length field counts what follows it, or is 0 if that is too long. -/
theorem pesPacketLength_pesHeader (frame : Frame) :
    (pesPacketLength (MpegTsMuxer.pesHeader (SimpleMpegtsMuxer.esFrame frame))).toNat =
      if 65535 < frame.data.length + 8 then 0 else frame.data.length + 8 := by
  have hboth := pts_eq_dts frame
  have hlength : pesPacketLength (MpegTsMuxer.pesHeader (SimpleMpegtsMuxer.esFrame frame)) =
      if 0xffff < 5 + frame.data.length + 3 then 0
      else UInt16.ofNat (5 + frame.data.length + 3) := by
    unfold MpegTsMuxer.pesHeader
    simp only [hboth]
    exact read2Bytes_write2Bytes _
  rw [hlength]
  split_ifs with hlong
  · rfl
  · omega
  · omega
  · rw [UInt16.toNat_ofNat', Nat.mod_eq_of_lt (by omega)]
    omega

theorem take_pesHeader (frame : Frame) :
    (MpegTsMuxer.pesHeader (SimpleMpegtsMuxer.esFrame frame)).take 4 =
      [0, 0, 1, (getMediaType frame.streamType).value] := by
  have hstart : ∀ media : MediaType,
      write4Bytes ((((0x000001 : UInt32) <<< 8) &&& 0xFFFFFF00) ||| media.value.toUInt32) =
        [0, 0, 1, media.value] := by
    intro media
    cases media <;> decide
  rw [← hstart]
  rfl

variable (streamTypes)

/-- **Framing and payload.**  Call by call, the callback is called once, with a
PAT and a PMT in every twentieth call and with the packets of the frame, which
carry the PES header and the bytes of the frame. -/
theorem encode_framing (frames : List Frame) (k : ℕ) (frame : Frame)
    (hk : frames[k]? = some frame) :
    ∃ tables pes : List (List UInt8),
      ((SimpleMpegtsMuxer.ready streamTypes).encodeAll frames).2[k]? =
        some [((tables ++ pes).flatten, false)] ∧
      (∀ packet ∈ tables ++ pes, packet.length = 188 ∧ packet.head? = some 0x47) ∧
      (if k % 20 = 0 then ∃ pat pmt, tables = [pat, pmt] ∧ IsPat pat ∧ IsPmt pmt
        else tables = []) ∧
      pes.length = packetCount frame.data.length ∧
      (∀ i packet, pes[i]? = some packet →
        ((header packet).mPayloadUnitStartIndicator = 1 ↔ i = 0)) ∧
      (frame.data ≠ [] → ∃ pesHeader : List UInt8, pesHeader.length = 14 ∧
        pesHeader.take 4 = [0, 0, 1, (getMediaType frame.streamType).value] ∧
        (pesPacketLength pesHeader).toNat =
          (if 65535 < frame.data.length + 8 then 0 else frame.data.length + 8) ∧
        (pes.map payload).flatten = pesHeader ++ frame.data) := by
  obtain ⟨calls, hcalls, -, houtputs⟩ := ready_calls streamTypes frames
  obtain ⟨call, hget, hcall⟩ := hcalls.getElem? hk
  rw [List.nil_append] at hcall
  have hlen := length_take_of_getElem? hk
  refine ⟨call.tables, call.pes, ?_, fun packet hpacket => hcall.wellFormed hpacket, ?_,
    hcall.length, ?_, ?_⟩
  · rw [houtputs, List.getElem?_map, hget]
    rfl
  · have htables := hcall.tables
    generalize call.tables = tables at htables
    cases htables with
    | due hdue hpat hpmt =>
        rw [hlen] at hdue
        rw [if_pos hdue]
        exact ⟨_, _, rfl, hpat.isPat, hpmt.isPmt⟩
    | notDue hdue =>
        rw [hlen] at hdue
        rw [if_neg hdue]
  · intro i packet hi
    obtain ⟨body, hpacket⟩ := hcall.pes.getElem? hi
    obtain ⟨adaptation, hheader⟩ := hpacket.header
    rw [hheader, Bool.true_and]
    by_cases hfirst : i = 0 <;> simp [esHeader, hfirst]
  · intro hdata
    refine ⟨_, length_pesHeader frame, take_pesHeader frame, pesPacketLength_pesHeader frame, ?_⟩
    rw [hcall.pes.payloads]
    exact if_neg hdata

/-- The second of two calls, for a frame whose last byte is alone in a packet. -/
theorem encode_framing_second_call :
    ∃ pes : List (List UInt8),
      ((SimpleMpegtsMuxer.ready [.AVC, .AAC]).encodeAll
        [{ data := [1, 2, 3], dtsUs := 0, streamType := .AVC },
          { data := List.replicate 163 7, dtsUs := 40000, streamType := .AAC }]).2[1]? =
        some [(pes.flatten, false)] ∧
      pes.length = 2 ∧
      ∃ pesHeader : List UInt8, pesHeader.length = 14 ∧
        (pes.map payload).flatten = pesHeader ++ List.replicate 163 7 := by
  obtain ⟨tables, pes, hout, -, htables, hlen, -, hdata⟩ := encode_framing [.AVC, .AAC]
    [{ data := [1, 2, 3], dtsUs := 0, streamType := .AVC },
      { data := List.replicate 163 7, dtsUs := 40000, streamType := .AAC }] 1 _ rfl
  obtain ⟨pesHeader, hheader, -, -, hpayload⟩ := hdata (by decide)
  obtain rfl : tables = [] := htables
  rw [List.length_replicate] at hlen
  exact ⟨pes, hout, hlen.trans (by decide), pesHeader, hheader, hpayload⟩

/-! ### Cutting the output -/

/-- The bytes of each call. -/
def buffers (frames : List Frame) : List (List UInt8) :=
  ((SimpleMpegtsMuxer.ready streamTypes).encodeAll frames).2.map
    (fun outputs => (outputs.map Prod.fst).flatten)

variable {streamTypes}

theorem Calls.encodes_of_mem {done frames : List Frame} {calls : List Call} {call : Call}
    (h : Calls streamTypes done frames calls) (hcall : call ∈ calls) :
    ∃ done frame, Encodes streamTypes done frame call := by
  induction h with
  | nil done => cases hcall
  | @cons done frames frame first calls hfirst hrest ih =>
      rcases List.mem_cons.mp hcall with rfl | hmem
      · exact ⟨done, frame, hfirst⟩
      · exact ih hmem

/-- The buffers are the packets of the calls, one after the other. -/
theorem buffers_eq_calls (streamTypes : List StreamType) (frames : List Frame) :
    ∃ calls, Calls streamTypes [] frames calls ∧
      buffers streamTypes frames = calls.map (fun call => call.packets.flatten) := by
  obtain ⟨calls, hcalls, -, houtputs⟩ := ready_calls streamTypes frames
  refine ⟨calls, hcalls, ?_⟩
  unfold buffers
  rw [houtputs, List.map_map]
  apply List.map_congr_left
  intro call _
  exact List.append_nil _

theorem Encodes.frames_packets {done : List Frame} {frame : Frame} {call : Call}
    (h : Encodes streamTypes done frame call) :
    Framing.frames 188 call.packets.flatten = call.packets :=
  frames_flatten (by decide) (fun _ hpacket => (h.wellFormed hpacket).1)

end Mpegts
