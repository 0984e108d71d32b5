import Xrtc.MpegtsFraming

/-!
# PIDs of frames and PIDs of the PMT

The PMT announces audio streams on `AUDIO_PID`, and every frame goes out on
`VIDEO_PID`.  A receiver that follows the PMT therefore finds the packets of a
run where they were announced exactly if no audio frame had any data.
-/

namespace Mpegts

/-- The PIDs that a PMT packet announces for a stream type. -/
def announced (packet : List UInt8) (streamType : StreamType) : List UInt16 :=
  match PMTHeader.decode (tableSection packet) with
  | some lPmtHeader =>
      (lPmtHeader.mInfos.filter (fun info => info.mStreamType = streamType.value)).map
        PMTElementInfo.mElementaryPid
  | none => []

/-- The packets of the frame of call `k`: those after the tables, which stand in
every twentieth call. -/
def esPackets (k : ℕ) (buffer : List UInt8) : List (List UInt8) :=
  (Framing.frames 188 buffer).drop (if k % 20 = 0 then 2 else 0)

/-- The PMT packets of a run. -/
def pmtPackets (streamTypes : List StreamType) (frames : List Frame) : List (List UInt8) :=
  ((buffers streamTypes frames).flatMap (Framing.frames 188)).filter
    (fun packet => (header packet).mPid = PMT_PID)

/-- Every packet of a frame is on the PID that the PMT packets of the run
announce for the stream type of the frame. -/
def PidsAnnounced (streamTypes : List StreamType) (frames : List Frame) : Prop :=
  ∀ k frame buffer, frames[k]? = some frame → (buffers streamTypes frames)[k]? = some buffer →
    ∀ packet ∈ esPackets k buffer, ∀ pmt ∈ pmtPackets streamTypes frames,
      announced pmt frame.streamType = [(header packet).mPid]

/-! ### What the PMT announces -/

variable {streamTypes : List StreamType}

theorem filter_streamMap {streamType : StreamType} (hmem : streamType ∈ streamTypes) :
    (streamMap streamTypes).toList.filter (fun entry => entry.1 = streamType.value) =
      [streamType.entry] := by
  have hentry : streamType.entry ∈ (streamMap streamTypes).toList :=
    mem_streamMap.mpr ⟨streamType, hmem, rfl⟩
  -- the key of an entry decides it
  have hkey : ∀ entry ∈ (streamMap streamTypes).toList,
      decide (entry.1 = streamType.value) = (entry == streamType.entry) := by
    intro entry hmem'
    obtain ⟨other, -, rfl⟩ := mem_streamMap.mp hmem'
    rw [Bool.eq_iff_iff, decide_eq_true_eq, beq_iff_eq]
    constructor
    · intro h
      rw [StreamType.value_injective h]
    · intro h
      exact congrArg Prod.fst h
  rw [List.filter_congr hkey, List.filter_beq,
    List.count_eq_one_of_mem (Custody.nodup_toList _) hentry]
  rfl

theorem announced_of_pmt {packet : List UInt8} {i : Fin 16} {streamType : StreamType}
    (h : TablePacket packet PMT_PID i (pmtHeader (streamMap streamTypes).toList).encode)
    (hmem : streamType ∈ streamTypes) :
    announced packet streamType = [(getMediaType streamType).pid] := by
  have hfilter : ∀ entries : List (UInt8 × UInt16),
      (((pmtHeader entries).mInfos.filter
        (fun info => info.mStreamType = streamType.value)).map PMTElementInfo.mElementaryPid) =
          (entries.filter (fun entry => entry.1 = streamType.value)).map Prod.snd := by
    intro entries
    show ((entries.map info).filter _).map _ = _
    rw [List.filter_map, List.map_map]
    rfl
  unfold announced
  rw [h.decode_pmt]
  show ((pmtHeader _).mInfos.filter _).map _ = _
  rw [hfilter, filter_streamMap hmem]
  rfl

/-! ### The packets of a run -/

theorem EsPacket.pid {packet body : List UInt8} {start : Bool} {i : Fin 16}
    (h : EsPacket packet start i body) : (Mpegts.header packet).mPid = VIDEO_PID := by
  obtain ⟨adaptation, hheader⟩ := h.header
  rw [hheader]
  rfl

theorem Encodes.pes_pid {done : List Frame} {frame : Frame} {call : Call}
    (h : Encodes streamTypes done frame call) {packet : List UInt8} (hpacket : packet ∈ call.pes) :
    (header packet).mPid = VIDEO_PID := by
  obtain ⟨i, hi⟩ := List.getElem?_of_mem hpacket
  obtain ⟨body, hbody⟩ := h.pes.getElem? hi
  exact hbody.pid

/-- A packet on the PID of the PMT is a PMT. -/
theorem Encodes.pmt {done : List Frame} {frame : Frame} {call : Call}
    (h : Encodes streamTypes done frame call) {packet : List UInt8}
    (hpacket : packet ∈ call.packets) (hpid : (header packet).mPid = PMT_PID) :
    ∃ i, TablePacket packet PMT_PID i (pmtHeader (streamMap streamTypes).toList).encode := by
  rcases h.packet_cases hpacket with ⟨i, hpat⟩ | hpmt | ⟨start, i, body, hes⟩
  · rw [hpat.header] at hpid
    exact absurd hpid (show MPEGTS_PAT_PID ≠ PMT_PID by decide)
  · exact hpmt
  · rw [hes.pid] at hpid
    exact absurd hpid (show VIDEO_PID ≠ PMT_PID by decide)

theorem Encodes.esPackets {done : List Frame} {frame : Frame} {call : Call}
    (h : Encodes streamTypes done frame call) :
    esPackets done.length call.packets.flatten = call.pes := by
  have htables := h.tables
  unfold Mpegts.esPackets
  rw [h.frames_packets]
  unfold Call.packets
  generalize call.tables = tables at htables ⊢
  cases htables with
  | due hdue hpat hpmt =>
      rw [if_pos hdue]
      rfl
  | notDue hdue =>
      rw [if_neg hdue]
      rfl

/-- The PMT packets of a run announce every stream type under the PID of its
media type. -/
theorem announced_of_mem {frames : List Frame} {pmt : List UInt8}
    (hpmt : pmt ∈ pmtPackets streamTypes frames) {streamType : StreamType}
    (hmem : streamType ∈ streamTypes) :
    announced pmt streamType = [(getMediaType streamType).pid] := by
  obtain ⟨calls, hcalls, hbuffers⟩ := buffers_eq_calls streamTypes frames
  unfold pmtPackets at hpmt
  rw [hbuffers, List.mem_filter, List.mem_flatMap] at hpmt
  obtain ⟨⟨buffer, hbuffer, hpacket⟩, hpid⟩ := hpmt
  obtain ⟨call, hcall, rfl⟩ := List.mem_map.mp hbuffer
  obtain ⟨done, frame, hencodes⟩ := hcalls.encodes_of_mem hcall
  rw [hencodes.frames_packets] at hpacket
  obtain ⟨i, htable⟩ := hencodes.pmt hpacket (of_decide_eq_true hpid)
  exact announced_of_pmt htable hmem

/-- The first call puts out a PMT. -/
theorem exists_pmt {frames : List Frame} (hne : frames ≠ []) :
    ∃ pmt, pmt ∈ pmtPackets streamTypes frames := by
  obtain ⟨calls, hcalls, hbuffers⟩ := buffers_eq_calls streamTypes frames
  obtain ⟨frame, hfirst⟩ : ∃ frame, frames[0]? = some frame :=
    ⟨frames.head hne, by rw [← List.head?_eq_getElem?, List.head?_eq_some_head hne]⟩
  obtain ⟨call, hget, hencodes⟩ := hcalls.getElem? hfirst
  have htables := hencodes.tables
  generalize hcall : call.tables = tables at htables
  cases htables with
  | notDue hdue => exact absurd rfl hdue
  | @due pat pmt hdue hpat hpmt =>
      have hmem : pmt ∈ call.packets := by
        apply List.mem_append_left
        rw [hcall]
        exact List.mem_cons_of_mem _ List.mem_cons_self
      refine ⟨pmt, List.mem_filter.mpr ⟨List.mem_flatMap.mpr ⟨call.packets.flatten, ?_, ?_⟩, ?_⟩⟩
      · rw [hbuffers]
        exact List.mem_map_of_mem (List.mem_of_getElem? hget)
      · rw [hencodes.frames_packets]
        exact hmem
      · rw [hpmt.header]
        rfl

/-- What follows the tables in call `k`. -/
theorem exists_pes {frames : List Frame} {k : ℕ} {frame : Frame}
    (hk : frames[k]? = some frame) :
    ∃ buffer pes, (buffers streamTypes frames)[k]? = some buffer ∧ esPackets k buffer = pes ∧
      pes.length = packetCount frame.data.length ∧
      ∀ packet ∈ pes, (header packet).mPid = VIDEO_PID := by
  obtain ⟨calls, hcalls, hbuffers⟩ := buffers_eq_calls streamTypes frames
  obtain ⟨call, hget, hencodes⟩ := hcalls.getElem? hk
  have hlen : ([] ++ frames.take k).length = k := length_take_of_getElem? hk
  refine ⟨call.packets.flatten, call.pes, ?_, ?_, hencodes.length,
    fun packet hpacket => hencodes.pes_pid hpacket⟩
  · rw [hbuffers, List.getElem?_map, hget]
    rfl
  · rw [← hlen]
    exact hencodes.esPackets

/-! ### When they agree -/

/-- The packets of an audio frame are not where the PMT announces them. -/
theorem not_pidsAnnounced_of_audio {frames : List Frame} {frame : Frame}
    (hframe : frame ∈ frames) (hmem : frame.streamType ∈ streamTypes)
    (haudio : getMediaType frame.streamType = .audio) (hdata : frame.data ≠ []) :
    ¬ PidsAnnounced streamTypes frames := by
  intro h
  obtain ⟨k, hk⟩ := List.getElem?_of_mem hframe
  obtain ⟨buffer, pes, hbuffer, hpes, hlen, hpids⟩ := exists_pes hk
  obtain ⟨pmt, hpmt⟩ := @exists_pmt streamTypes frames (List.ne_nil_of_mem hframe)
  obtain ⟨packet, hpacket⟩ := List.exists_mem_of_length_pos (hlen ▸ packetCount_pos hdata)
  have hagree := h k frame buffer hk hbuffer packet (hpes ▸ hpacket) pmt hpmt
  rw [announced_of_mem hpmt hmem, hpids packet hpacket, haudio] at hagree
  exact absurd hagree (by decide)

/-- **Announced PIDs.**  The packets of a run are on the announced PIDs exactly
if no audio frame had any data. -/
theorem pidsAnnounced_iff (frames : List Frame)
    (hmem : ∀ frame ∈ frames, frame.streamType ∈ streamTypes) :
    PidsAnnounced streamTypes frames ↔
      ∀ frame ∈ frames, getMediaType frame.streamType = .audio → frame.data = [] := by
  constructor
  · intro h frame hframe haudio
    by_contra hdata
    exact not_pidsAnnounced_of_audio hframe (hmem frame hframe) haudio hdata h
  · intro h k frame buffer hk hbuffer packet hpacket pmt hpmt
    have hframe := List.mem_of_getElem? hk
    obtain ⟨buffer', pes, hbuffer', hpes, hlen, hpids⟩ := @exists_pes streamTypes _ _ _ hk
    obtain rfl : buffer = buffer' := Option.some.inj (hbuffer.symm.trans hbuffer')
    rw [hpes] at hpacket
    rw [announced_of_mem hpmt (hmem frame hframe), hpids packet hpacket]
    cases hmedia : getMediaType frame.streamType with
    | video => rfl
    | audio =>
        -- an audio frame has no packets
        rw [h frame hframe hmedia] at hlen
        rw [List.length_eq_zero_iff.mp hlen] at hpacket
        cases hpacket

/-- Two video frames, and an audio frame without data between them. -/
theorem pidsAnnounced_video_only :
    PidsAnnounced [.AVC, .AAC]
      [{ data := [1, 2, 3], dtsUs := 0, streamType := .AVC },
        { data := [], dtsUs := 0, streamType := .AAC },
        { data := [4], dtsUs := 40000, streamType := .AVC, isKeyFrame := false }] := by
  apply (pidsAnnounced_iff _ _).mpr
  · intro frame hframe haudio
    simp only [List.mem_cons, List.not_mem_nil, or_false] at hframe
    rcases hframe with rfl | rfl | rfl
    · exact absurd haudio (by decide)
    · rfl
    · exact absurd haudio (by decide)
  · decide

/-- One audio frame, announced on `AUDIO_PID`, goes out on `VIDEO_PID`. -/
theorem audio_frame_not_announced :
    ¬ PidsAnnounced [.AVC, .AAC] [{ data := [0xff], dtsUs := 0, streamType := .AAC }] :=
  not_pidsAnnounced_of_audio List.mem_cons_self (by decide) rfl (by decide)

end Mpegts
