import Xrtc.MpegtsDemuxerInvariant
import Xrtc.MpegtsReceive

/-!
# From the muxer to the demuxer

A muxer and a demuxer are the two ends of a channel for frames.  The channel is
described without packets: once the tables have been sent, a frame on an announced
PID comes out with the stream type that the PMT has last for this PID, unless it is
too long for the PES length field; then it waits and comes out broken when the next
frame on its PID starts.  Every run of the muxer, cut in any way, is received as the
channel says.
-/

namespace Mpegts

/-! ### Runs of the muxer -/

/-- The calls that write to the output. -/
inductive MuxCall where
  | encode (rFrame : EsFrame) (lTag : UInt8) (lRandomAccess : Bool)
  | createPcr (lPcr : UInt64) (lTag : UInt8)
  | createNull (lTag : UInt8)

namespace MpegTsMuxer

def call (muxer : MpegTsMuxer) : MuxCall → MpegTsMuxer × Output
  | .encode rFrame lTag lRandomAccess => muxer.encode rFrame lTag lRandomAccess
  | .createPcr lPcr lTag => (muxer, muxer.createPcr lPcr lTag)
  | .createNull lTag => (muxer, createNull lTag)

/-- A sequence of calls, with the arguments of `tsOutCallback` in each. -/
def callAll (muxer : MpegTsMuxer) : List MuxCall → MpegTsMuxer × List Output
  | [] => (muxer, [])
  | call :: calls =>
      let (muxer, output) := muxer.call call
      let (muxer, outputs) := muxer.callAll calls
      (muxer, output :: outputs)

end MpegTsMuxer

/-! ### The channel -/

/-- The last stream type that a list of entries has for a PID. -/
def lastType : List (UInt8 × UInt16) → UInt16 → Option UInt8
  | [], _ => none
  | entry :: entries, pid =>
      (lastType entries pid).or (if entry.2 = pid then some entry.1 else none)

namespace MpegTsMuxer

/-- The stream type that the PMT announces for a PID. -/
def announced (muxer : MpegTsMuxer) (pid : UInt16) : Option UInt8 :=
  lastType muxer.mStreamPidMap.toList pid

/-- The tables are sent with the first frame at the latest, or with every random
access point. -/
def tunes (muxer : MpegTsMuxer) (lRandomAccess : Bool) : Bool :=
  decide (muxer.mMuxType = .h222Type) ||
    (decide (muxer.mMuxType = .segmentType) && lRandomAccess)

end MpegTsMuxer

namespace EsFrame

/-- A frame as it comes out. -/
def delivered (rFrame : EsFrame) (lSt : UInt8) : EsUnit :=
  { rFrame.unit lSt rFrame.mData.mData with mCompleted := true, mPid := rFrame.mPid }

/-- A frame that was waiting, as it comes out when `next` starts. -/
def broken (waiting : EsUnit) (next : EsFrame) : EsUnit :=
  { waiting with
    mRandomAccess := next.mRandomAccess &&& 0x01
    mBroken := true
    mPid := next.mPid }

end EsFrame

/-- Whether the tables have been sent, and the frames that wait. -/
structure Channel where
  tuned : Bool := false
  waiting : UInt16 → Option EsUnit := fun _ => none

namespace Channel

/-- A frame on an announced PID. -/
def deliver (mPcrPid : UInt16) (lSt : UInt8) (channel : Channel) (rFrame : EsFrame) :
    Channel × List Event :=
  let pcr := if rFrame.mPid = mPcrPid then [Event.pcr (rFrame.mPcr &&& 0x1FFFFFFFF)] else []
  let broken := ((channel.waiting rFrame.mPid).map (fun waiting =>
    Event.es (EsFrame.broken waiting rFrame))).toList
  if rFrame.Fits then
    ({ channel with waiting := Function.update channel.waiting rFrame.mPid none },
      pcr ++ (broken ++ [.es (rFrame.delivered lSt)]))
  else
    ({ channel with
        waiting := Function.update channel.waiting rFrame.mPid
          (some (rFrame.unit lSt rFrame.mData.mData)) },
      pcr ++ broken)

def send (muxer : MpegTsMuxer) (channel : Channel) (rFrame : EsFrame) : Channel × List Event :=
  match muxer.announced rFrame.mPid with
  | some lSt =>
      if channel.tuned = true ∧ rFrame.mData.mData ≠ [] then
        channel.deliver muxer.mPcrPid lSt rFrame
      else (channel, [])
  | none => (channel, [])

def call (muxer : MpegTsMuxer) (channel : Channel) : MuxCall → Channel × List Event
  | .encode rFrame _ lRandomAccess =>
      { channel with tuned := channel.tuned || muxer.tunes lRandomAccess }.send muxer rFrame
  | .createPcr lPcr _ =>
      (channel, if channel.tuned then [.pcr (lPcr &&& 0x1FFFFFFFF)] else [])
  | .createNull _ => (channel, [])

def callAll (muxer : MpegTsMuxer) (channel : Channel) : List MuxCall → Channel × List Event
  | [] => (channel, [])
  | call :: calls =>
      let (channel, events) := channel.call muxer call
      let (channel, rest) := channel.callAll muxer calls
      (channel, events ++ rest)

end Channel

/-! ### Programs that can be received -/

/-- The PIDs fit into their fields, the PMT has a PID of its own and lists no more
than 33 streams, and none of them is on the PID of a table. -/
structure MpegTsMuxer.Valid (muxer : MpegTsMuxer) : Prop where
  pmtPid : IsPid muxer.mPmtPid
  pmtPid_ne : muxer.mPmtPid ≠ 0
  pcrPid : IsPid muxer.mPcrPid
  pcrPid_ne : muxer.mPcrPid ≠ 0
  pcrPid_ne_pmt : muxer.mPcrPid ≠ muxer.mPmtPid
  pids : ∀ entry ∈ muxer.mStreamPidMap.toList, IsPid entry.2 ∧ entry.2 ≠ 0 ∧
    entry.2 ≠ muxer.mPmtPid
  count : muxer.mStreamPidMap.toList.length ≤ 33

/-- A frame that nothing has been taken from, on a PID that is free for it. -/
structure MpegTsMuxer.AcceptsFrame (muxer : MpegTsMuxer) (rFrame : EsFrame) : Prop where
  fresh : rFrame.mData.mPos = 0
  pid : IsPid rFrame.mPid
  pid_ne : rFrame.mPid ≠ 0
  pid_ne_pmt : rFrame.mPid ≠ muxer.mPmtPid
  pcr : rFrame.mPid = muxer.mPcrPid → muxer.announced rFrame.mPid ≠ none

/-- `createNull` does not write a whole packet. -/
def MpegTsMuxer.Accepts (muxer : MpegTsMuxer) : MuxCall → Prop
  | .encode rFrame _ _ => muxer.AcceptsFrame rFrame
  | .createPcr _ _ => True
  | .createNull _ => False

theorem lastType_eq_none {entries : List (UInt8 × UInt16)} {pid : UInt16}
    (h : ∀ entry ∈ entries, entry.2 ≠ pid) : lastType entries pid = none := by
  induction entries with
  | nil => rfl
  | cons entry entries ih =>
      unfold lastType
      rw [ih (fun other hother => h other (List.mem_cons_of_mem _ hother)),
        if_neg (h entry List.mem_cons_self)]
      rfl

/-- What entering the elements of a PMT leaves for a PID. -/
theorem foldl_addElement_lookup (entries : List (UInt8 × UInt16)) (demuxer : MpegTsDemuxer)
    (pid : UInt16) :
    ((entries.map info).foldl MpegTsDemuxer.addElement demuxer).mEsFrames[pid]? =
      ((lastType entries pid).map EsUnit.new).or demuxer.mEsFrames[pid]? := by
  induction entries generalizing demuxer with
  | nil => rfl
  | cons entry entries ih =>
      have hcons : lastType (entry :: entries) pid =
          (lastType entries pid).or (if entry.2 = pid then some entry.1 else none) := rfl
      rw [List.map_cons, List.foldl_cons, ih, hcons]
      unfold MpegTsDemuxer.addElement info
      simp only [Std.TreeMap.getElem?_insert, Std.LawfulEqOrd.compare_eq_iff_eq]
      cases lastType entries pid with
      | some lSt => rfl
      | none => split_ifs <;> rfl

namespace MpegTsDemuxer

variable {demuxer demuxer' : MpegTsDemuxer}

/-! ### Packets that do nothing, tables and PCRs -/

section Packets

variable {header : TsHeader} {rest : List UInt8}

/-- Nothing is known about the PID of the packet. -/
theorem decodes_ignored (hlength : (header.encode ++ rest).length = 188)
    (hpat : ¬ (header.received.mPid = 0 ∧ demuxer.mPmtId = 0))
    (hpmt : ¬ (demuxer.mEsFrames.isEmpty ∧ demuxer.mPmtId ≠ 0 ∧
      header.received.mPid = demuxer.mPmtId))
    (hunit : demuxer.mEsFrames[header.received.mPid]? = none)
    (hpcr : ¬ (demuxer.mPcrId ≠ 0 ∧ demuxer.mPcrId = header.received.mPid)) :
    Decodes demuxer (header.encode ++ rest) demuxer [] := by
  apply Decodes.of_at hlength
  intro lPos rIn h
  unfold decodePacket foundPat foundPmt foundStream
  simp only [h.decode (TsHeader.decode_encode header rest), Option.bind_eq_bind,
    Option.bind_some, if_neg hpat, if_neg hpmt, hunit, if_neg hpcr]

theorem received_tableHeader {pid : UInt16} (hpid : IsPid pid) (cc : UInt8) :
    (tableHeader pid cc).received.mPid = pid ∧
      (tableHeader pid cc).received.mPayloadUnitStartIndicator = 0x01 ∧
      ¬ (tableHeader pid cc).received.hasField ∧ (tableHeader pid cc).received.hasBody :=
  have hheader := received_streamHeader hpid true false cc
  ⟨hheader.1, hheader.2.1, fun h => Bool.false_ne_true (hheader.2.2.1.mp h), hheader.2.2.2⟩

theorem readWord_write2Bytes (val : UInt16) (rest : List UInt8) :
    readWord (write2Bytes val ++ rest) = some (val, rest) := by
  show some (read2Bytes (val >>> 8).toUInt8 val.toUInt8, rest) = _
  rw [read2Bytes_write2Bytes]

theorem programMapPid {pid : UInt16} (hpid : IsPid pid) :
    (0xe000 ||| (pid &&& 0x1fff)) &&& 0x1fff = pid := by
  have hbits : (0xe000 ||| (pid &&& 0x1fff)) &&& 0x1fff = pid &&& 0x1fff := by
    apply eq_of_bits16
    intro i hi
    interval_cases i <;> simp
  exact hbits.trans hpid

/-- The tables have not been read. -/
structure Untuned (demuxer : MpegTsDemuxer) : Prop where
  pmtId : demuxer.mPmtId = 0
  pcrId : demuxer.mPcrId = 0
  frames : demuxer.mEsFrames.isEmpty = true

theorem decodes_pat (h : demuxer.Untuned) {lPmtPid : UInt16} (hpid : IsPid lPmtPid)
    (hne : lPmtPid ≠ 0) (cc : UInt8) :
    Decodes demuxer (createPat lPmtPid cc)
      { demuxer with
        mPatHeader := patHeader.received, mPmtId := lPmtPid, mPatIsValid := true } [] := by
  obtain ⟨hlength, filling, hpacket⟩ := sectionPacket_eq MPEGTS_PAT_PID cc
    (patSection lPmtPid) (by decide : 12 ≤ 179)
  obtain ⟨hmPid, hstart, hfield, hbody⟩ :=
    received_tableHeader (by decide : IsPid MPEGTS_PAT_PID) cc
  rw [createPat_eq]
  apply Decodes.of_at hlength
  intro lPos rIn hAt
  rw [hpacket] at hAt
  generalize tableHeader MPEGTS_PAT_PID cc = header at hAt hmPid hstart hfield hbody
  have hsection := hAt.skip
  have hpointer : At lPos (rIn.skip header.encode.length) (0 + header.encode.length)
      ([0] ++ (patSection lPmtPid ++ filling)) := hsection
  unfold patSection at hpointer
  have htable := hpointer.skip
  rw [List.append_assoc, List.append_assoc] at htable
  have hnumber := htable.skip
  have hmap := hnumber.skip
  -- the section is read field by field
  have hpat : demuxer.foundPat header.received (rIn.skip header.encode.length) =
      some ({ demuxer with
        mPatHeader := patHeader.received, mPmtId := lPmtPid, mPatIsValid := true },
        (((((rIn.skip header.encode.length).skip [(0 : UInt8)].length).skip
          patHeader.encode.length).skip (write2Bytes 0x0001).length).skip
          (write2Bytes (0xe000 ||| (lPmtPid &&& 0x1fff))).length)) := by
    unfold foundPat skipField skipPointer readPat
    rw [if_pos ⟨hmPid, h.pmtId⟩, if_neg hfield]
    simp only [Option.bind_eq_bind, Option.bind_some, if_pos hbody, if_pos hstart,
      hpointer.readByte, Option.map_some,
      htable.decode (PATHeader.decode_encode patHeader _),
      hnumber.decode (readWord_write2Bytes 0x0001 _), hmap.decode (readWord_write2Bytes _ _),
      programMapPid hpid, Option.pure_def]
  have hnone : demuxer.mEsFrames[header.received.mPid]? = none :=
    Std.TreeMap.getElem?_of_isEmpty h.frames
  unfold decodePacket
  simp only [hAt.decode (TsHeader.decode_encode header _), Option.bind_eq_bind,
    Option.bind_some, hpat]
  unfold foundPmt
  rw [if_neg]
  · unfold foundStream
    simp only [Option.bind_some, hnone]
    rw [if_neg]
    exact fun hpcr => hpcr.1 h.pcrId
  · rintro ⟨-, -, heq⟩
    rw [hmPid] at heq
    exact hne heq.symm

/-- What the demuxer has from the tables of a muxer, with a unit for every PID that
is announced. -/
structure Tuned (muxer : MpegTsMuxer) (waiting : UInt16 → Option EsUnit)
    (demuxer : MpegTsDemuxer) : Prop where
  pmtId : demuxer.mPmtId = muxer.mPmtPid
  pcrId : demuxer.mPcrId = muxer.mPcrPid
  unknown : ∀ pid, muxer.announced pid = none → demuxer.mEsFrames[pid]? = none
  units : ∀ pid lSt, muxer.announced pid = some lSt →
    ∃ unit, demuxer.mEsFrames[pid]? = some unit ∧ Between lSt (waiting pid) unit

theorem announced_pmtPid {muxer : MpegTsMuxer} (hvalid : muxer.Valid) :
    muxer.announced muxer.mPmtPid = none :=
  lastType_eq_none (fun entry hentry => (hvalid.pids entry hentry).2.2)

theorem announced_zero {muxer : MpegTsMuxer} (hvalid : muxer.Valid) : muxer.announced 0 = none :=
  lastType_eq_none (fun entry hentry => (hvalid.pids entry hentry).2.1)

/-- The first PMT behind the PAT. -/
theorem decodes_pmt (demuxer : MpegTsDemuxer) {muxer : MpegTsMuxer} (hvalid : muxer.Valid)
    (hpmtId : demuxer.mPmtId = muxer.mPmtPid) (hframes : demuxer.mEsFrames.isEmpty = true)
    (cc : UInt8) :
    ∃ demuxer', Decodes demuxer (muxer.createPmt muxer.mStreamPidMap muxer.mPmtPid cc)
        demuxer' [] ∧
      Tuned muxer (fun _ => none) demuxer' ∧ demuxer'.esOutCallback = demuxer.esOutCallback ∧
      demuxer'.pcrOutCallback = demuxer.pcrOutCallback := by
  let program := programHeader muxer.mPcrPid muxer.mStreamPidMap.toList
  let tuned : MpegTsDemuxer :=
    { (muxer.mStreamPidMap.toList.map info).foldl addElement demuxer with
      mPmtHeader := program, mPcrId := muxer.mPcrPid, mPmtIsValid := true }
  have hfold := foldl_addElement (muxer.mStreamPidMap.toList.map info) demuxer
  have hlookup : ∀ pid, tuned.mEsFrames[pid]? = (muxer.announced pid).map EsUnit.new := by
    intro pid
    have hnone : demuxer.mEsFrames[pid]? = none := Std.TreeMap.getElem?_of_isEmpty hframes
    show ((muxer.mStreamPidMap.toList.map info).foldl addElement demuxer).mEsFrames[pid]? = _
    rw [foldl_addElement_lookup, hnone, Option.or_none]
    rfl
  have htuned : Tuned muxer (fun _ => none) tuned := by
    refine ⟨?_, rfl, fun pid hpid => by rw [hlookup, hpid]; rfl, fun pid lSt hpid => ?_⟩
    · show ((muxer.mStreamPidMap.toList.map info).foldl addElement demuxer).mPmtId = _
      rw [hfold]
      exact hpmtId
    · exact ⟨EsUnit.new lSt, by rw [hlookup, hpid]; rfl, rfl⟩
  obtain ⟨hlength, filling, hpacket⟩ := sectionPacket_eq muxer.mPmtPid cc _
    (length_programHeader muxer.mPcrPid hvalid.count)
  obtain ⟨hmPid, hstart, hfield, hbody⟩ := received_tableHeader hvalid.pmtPid cc
  refine ⟨tuned, ?_, htuned, ?_, ?_⟩
  · rw [createPmt_program hvalid.count]
    apply Decodes.of_at hlength
    intro lPos rIn hAt
    rw [hpacket] at hAt
    generalize tableHeader muxer.mPmtPid cc = header at hAt hmPid hstart hfield hbody
    have hpointer : At lPos (rIn.skip header.encode.length) (0 + header.encode.length)
        ([0] ++ (program.encode ++ filling)) := hAt.skip
    have hdecode : PMTHeader.decode (program.encode ++ filling) = some program :=
      decode_programHeader hvalid.pcrPid hvalid.count
        (fun entry hentry => (hvalid.pids entry hentry).1) filling
    have hpat : demuxer.foundPat header.received (rIn.skip header.encode.length) =
        some (demuxer, rIn.skip header.encode.length) := by
      apply if_neg
      rintro ⟨-, hzero⟩
      exact hvalid.pmtPid_ne (hpmtId.symm.trans hzero)
    have hcond : demuxer.mEsFrames.isEmpty ∧ demuxer.mPmtId ≠ 0 ∧
        header.received.mPid = demuxer.mPmtId :=
      ⟨hframes, by rw [hpmtId]; exact hvalid.pmtPid_ne, by rw [hmPid, hpmtId]⟩
    have hnone : tuned.mEsFrames[header.received.mPid]? = none := by
      rw [hlookup, hmPid, announced_pmtPid hvalid]
      rfl
    unfold decodePacket
    simp only [hAt.decode (TsHeader.decode_encode header _), Option.bind_eq_bind,
      Option.bind_some, hpat]
    unfold foundPmt skipField readPmt
    rw [if_pos hcond, if_neg hfield]
    simp only [Option.bind_eq_bind, Option.bind_some, if_pos hstart,
      hpointer.readByte, hpointer.skip.unread, hdecode, Option.pure_def]
    show tuned.foundStream header.received rIn.mPos _ = _
    unfold foundStream
    rw [hnone]
    dsimp only
    rw [if_neg]
    rintro ⟨-, heq⟩
    rw [hmPid] at heq
    exact hvalid.pcrPid_ne_pmt heq
  · show ((muxer.mStreamPidMap.toList.map info).foldl addElement demuxer).esOutCallback = _
    rw [hfold]
  · show ((muxer.mStreamPidMap.toList.map info).foldl addElement demuxer).pcrOutCallback = _
    rw [hfold]

/-- A packet of `createPcr`, on a PID of its own or on that of a stream. -/
theorem decodes_pcr {muxer : MpegTsMuxer} (hvalid : muxer.Valid)
    {waiting : UInt16 → Option EsUnit} (h : Tuned muxer waiting demuxer) (lPcr : UInt64)
    (lTag : UInt8) :
    Decodes demuxer (muxer.createPcr lPcr lTag).rSb demuxer
      (demuxer.pcrOut (lPcr &&& 0x1FFFFFFFF)) := by
  let header : TsHeader := { mPid := muxer.mPcrPid, mAdaptationFieldControl := mAdaptionOnly }
  let field : AdaptationFieldHeader :=
    { mAdaptationFieldLength := 188 - 4 - 1, mPcrFlag := 1 }
  have hpacket : (muxer.createPcr lPcr lTag).rSb =
      header.encode ++ (field.encode ++ writePcr lPcr ++ List.replicate 176 0xff ++ []) := by
    show header.encode ++ field.encode ++ writePcr lPcr ++ List.replicate 176 0xff = _
    simp only [List.append_assoc, List.append_nil]
  have hmPid : header.received.mPid = muxer.mPcrPid := hvalid.pcrPid
  have hfield : header.received.hasField := .inl (by decide : mAdaptionOnly &&& 0x03 = _)
  have hbody : ¬ header.received.hasBody :=
    (by decide : ¬ (mAdaptionOnly &&& 0x03 = mPayloadOnly ∨
      mAdaptionOnly &&& 0x03 = mPayloadAdaptionBoth))
  rw [hpacket]
  apply Decodes.of_at
  · rw [List.length_append, length_encode, List.append_nil, List.length_append,
      List.length_replicate]
    rfl
  · intro lPos rIn hAt
    generalize header = header at hAt hmPid hfield hbody
    have hafter := hAt.skip
    rw [length_encode] at hafter
    have hpat : demuxer.foundPat header.received (rIn.skip header.encode.length) =
        some (demuxer, rIn.skip header.encode.length) := by
      apply if_neg
      rintro ⟨-, hzero⟩
      exact hvalid.pmtPid_ne (h.pmtId.symm.trans hzero)
    have hpmt : demuxer.foundPmt header.received (rIn.skip header.encode.length) =
        some (demuxer, rIn.skip header.encode.length) := by
      apply if_neg
      rintro ⟨-, -, heq⟩
      rw [hmPid, h.pmtId] at heq
      exact hvalid.pcrPid_ne_pmt heq
    unfold decodePacket
    simp only [hAt.decode (TsHeader.decode_encode header _), Option.bind_eq_bind,
      Option.bind_some, hpat, hpmt]
    unfold foundStream
    rw [hmPid, length_encode]
    cases hannounced : muxer.announced muxer.mPcrPid with
    | some lSt =>
        obtain ⟨unit, hunit, -⟩ := h.units _ _ hannounced
        have hread := demuxer.esField_pcr hfield field
          (List.replicate 176 0xff) (by rw [List.length_replicate]; decide) rfl lPcr
          hafter
        rw [hunit]
        unfold foundEs
        simp only [hread, Option.bind_eq_bind, Option.bind_some, if_neg hbody, Option.pure_def]
    | none =>
        have hne : demuxer.mPcrId ≠ 0 ∧ demuxer.mPcrId = muxer.mPcrPid :=
          ⟨by rw [h.pcrId]; exact hvalid.pcrPid_ne, h.pcrId⟩
        rw [List.append_assoc, List.append_assoc] at hafter
        rw [h.unknown _ hannounced]
        dsimp only
        rw [if_pos hne]
        unfold foundPcr
        simp only [hafter.decode (AdaptationFieldHeader.decode_encode
            (by decide : field.mAdaptationFieldLength ≠ 0) _), Option.bind_eq_bind,
          Option.bind_some, hafter.skip.decode (readPcr_writePcr lPcr _), Option.pure_def,
          Option.map_some]

/-! ### Tables and frames -/

/-- The two packets of the tables. -/
def tablePackets (muxer : MpegTsMuxer) (cc : UInt8) : List (List UInt8) :=
  [createPat muxer.mPmtPid cc, muxer.createPmt muxer.mStreamPidMap muxer.mPmtPid cc]

/-- The callbacks are set and stay set. -/
def SameCallbacks (demuxer demuxer' : MpegTsDemuxer) : Prop :=
  demuxer'.esOutCallback = demuxer.esOutCallback ∧
    demuxer'.pcrOutCallback = demuxer.pcrOutCallback

/-- The tables are read once. -/
theorem decodesAll_tables_untuned {muxer : MpegTsMuxer} (hvalid : muxer.Valid)
    (h : demuxer.Untuned) (cc : UInt8) :
    ∃ demuxer', DecodesAll demuxer (tablePackets muxer cc) demuxer' [] ∧
      Tuned muxer (fun _ => none) demuxer' ∧ SameCallbacks demuxer demuxer' := by
  have hpat := decodes_pat h hvalid.pmtPid hvalid.pmtPid_ne cc
  obtain ⟨demuxer', hpmt, htuned, hes, hpcr⟩ := decodes_pmt { demuxer with
    mPatHeader := patHeader.received, mPmtId := muxer.mPmtPid, mPatIsValid := true }
    hvalid rfl h.frames cc
  exact ⟨demuxer', .cons hpat (.cons hpmt (.nil _)), htuned, hes, hpcr⟩

/-- Tables that come again are passed over; a program without streams is read again
and again. -/
theorem decodesAll_tables_tuned {muxer : MpegTsMuxer} (hvalid : muxer.Valid)
    {waiting : UInt16 → Option EsUnit} (h : Tuned muxer waiting demuxer) (cc : UInt8) :
    ∃ demuxer', DecodesAll demuxer (tablePackets muxer cc) demuxer' [] ∧
      Tuned muxer waiting demuxer' ∧ SameCallbacks demuxer demuxer' := by
  have hpmtId : demuxer.mPmtId ≠ 0 := by
    rw [h.pmtId]
    exact hvalid.pmtPid_ne
  have hpat : Decodes demuxer (createPat muxer.mPmtPid cc) demuxer [] := by
    obtain ⟨hlength, filling, hpacket⟩ := sectionPacket_eq MPEGTS_PAT_PID cc
      (patSection muxer.mPmtPid) (by decide : 12 ≤ 179)
    have hmPid := (received_tableHeader (by decide : IsPid MPEGTS_PAT_PID) cc).1
    rw [createPat_eq]
    rw [hpacket] at hlength ⊢
    apply decodes_ignored hlength
    · exact fun hzero => hpmtId hzero.2
    · rintro ⟨-, -, heq⟩
      rw [hmPid] at heq
      exact hpmtId heq.symm
    · rw [hmPid]
      exact h.unknown 0 (announced_zero hvalid)
    · rintro ⟨hne, heq⟩
      rw [hmPid] at heq
      exact hne heq
  by_cases hframes : demuxer.mEsFrames.isEmpty = true
  · obtain ⟨demuxer', hpmt, htuned, hes, hpcr⟩ := decodes_pmt demuxer hvalid h.pmtId hframes cc
    refine ⟨demuxer', .cons hpat (.cons hpmt (.nil _)),
      ⟨htuned.pmtId, htuned.pcrId, htuned.unknown, fun pid lSt hpid => ?_⟩, hes, hpcr⟩
    obtain ⟨unit, hunit, -⟩ := h.units pid lSt hpid
    rw [Std.TreeMap.getElem?_of_isEmpty hframes] at hunit
    cases hunit
  · have hpmt : Decodes demuxer (muxer.createPmt muxer.mStreamPidMap muxer.mPmtPid cc)
        demuxer [] := by
      obtain ⟨hlength, filling, hpacket⟩ := sectionPacket_eq muxer.mPmtPid cc _
        (length_programHeader muxer.mPcrPid hvalid.count)
      have hmPid := (received_tableHeader hvalid.pmtPid cc).1
      rw [createPmt_program hvalid.count]
      rw [hpacket] at hlength ⊢
      apply decodes_ignored hlength
      · exact fun hzero => hpmtId hzero.2
      · exact fun hempty => hframes hempty.1
      · rw [hmPid]
        exact h.unknown _ (announced_pmtPid hvalid)
      · rintro ⟨-, heq⟩
        rw [hmPid, h.pcrId] at heq
        exact hvalid.pcrPid_ne_pmt heq
    exact ⟨demuxer, .cons hpat (.cons hpmt (.nil _)), h, rfl, rfl⟩

end Packets

end MpegTsDemuxer

/-- Every packet of a frame is a packet on its PID. -/
theorem FramePackets.of_mem {mPcrPid : UInt16} {rFrame : EsFrame} {packets : List (List UInt8)}
    (h : FramePackets mPcrPid rFrame packets) {packet : List UInt8} (hpacket : packet ∈ packets) :
    ∃ start adaptation cc rest, packet.length = 188 ∧
      packet = (streamHeader rFrame.mPid start adaptation cc).encode ++ rest := by
  have hfragments : ∀ {packets : List (List UInt8)} {data : List UInt8},
      Fragments rFrame.mPid packets data → packet ∈ packets →
      ∃ start adaptation cc rest, packet.length = 188 ∧
        packet = (streamHeader rFrame.mPid start adaptation cc).encode ++ rest := by
    intro packets data h hpacket
    induction h with
    | nil => cases hpacket
    | @cons cc body data packets hbody hlength hrest ih =>
        rcases List.mem_cons.mp hpacket with rfl | hmem
        · refine ⟨false, _, cc, _, ?_, List.append_assoc _ _ _⟩
          rw [length_streamPacket, length_widen, List.length_nil]
          omega
        · exact ih hmem
  cases h with
  | empty hdata => cases hpacket
  | @frame cc rest hdata hrest =>
      rcases List.mem_cons.mp hpacket with rfl | hmem
      · refine ⟨true, _, cc, _, ?_, List.append_assoc _ _ _⟩
        have hfield := length_startField_le mPcrPid rFrame
        have hpes := length_pesHeader_le rFrame
        unfold firstPacket firstRoom
        rw [length_streamPacket, length_widen, List.length_append, List.length_take]
        omega
      · exact hfragments hrest hmem

namespace MpegTsDemuxer

variable {demuxer : MpegTsDemuxer}

/-- The frames of a PID that the demuxer does not know. -/
theorem decodesAll_ignored {mPcrPid : UInt16} {rFrame : EsFrame} {packets : List (List UInt8)}
    (h : FramePackets mPcrPid rFrame packets) (hpid : IsPid rFrame.mPid)
    (hpat : ¬ (rFrame.mPid = 0 ∧ demuxer.mPmtId = 0))
    (hpmt : ¬ (demuxer.mEsFrames.isEmpty ∧ demuxer.mPmtId ≠ 0 ∧ rFrame.mPid = demuxer.mPmtId))
    (hunit : demuxer.mEsFrames[rFrame.mPid]? = none)
    (hpcr : ¬ (demuxer.mPcrId ≠ 0 ∧ demuxer.mPcrId = rFrame.mPid)) :
    DecodesAll demuxer packets demuxer [] := by
  have hall : ∀ packet ∈ packets, Decodes demuxer packet demuxer [] := by
    intro packet hpacket
    obtain ⟨start, adaptation, cc, rest, hlength, rfl⟩ := h.of_mem hpacket
    have hmPid := (received_streamHeader hpid start adaptation cc).1
    apply decodes_ignored hlength <;> rw [hmPid] <;> assumption
  clear h
  induction packets with
  | nil => exact .nil demuxer
  | cons packet packets ih =>
      exact .cons (hall packet List.mem_cons_self)
        (ih (fun other hother => hall other (List.mem_cons_of_mem _ hother)))

/-! ### The demuxer refines the channel -/

/-- The demuxer is in the state of the channel. -/
structure Receives (muxer : MpegTsMuxer) (channel : Channel) (demuxer : MpegTsDemuxer) : Prop where
  esOut : demuxer.esOutCallback = true
  pcrOut : demuxer.pcrOutCallback = true
  tuned : channel.tuned = true → Tuned muxer channel.waiting demuxer
  untuned : channel.tuned = false → demuxer.Untuned ∧ channel.waiting = fun _ => none

variable {muxer : MpegTsMuxer} {channel : Channel}

theorem Receives.tables (hvalid : muxer.Valid) (h : Receives muxer channel demuxer) (cc : UInt8) :
    ∃ demuxer', DecodesAll demuxer (tablePackets muxer cc) demuxer' [] ∧
      Receives muxer { channel with tuned := true } demuxer' := by
  have hread : ∃ demuxer', DecodesAll demuxer (tablePackets muxer cc) demuxer' [] ∧
      Tuned muxer channel.waiting demuxer' ∧ SameCallbacks demuxer demuxer' := by
    by_cases htuned : channel.tuned = true
    · exact decodesAll_tables_tuned hvalid (h.tuned htuned) cc
    · obtain ⟨huntuned, hwaiting⟩ := h.untuned (Bool.eq_false_iff.mpr htuned)
      rw [hwaiting]
      exact decodesAll_tables_untuned hvalid huntuned cc
  obtain ⟨demuxer', hdecodes, htuned, hes, hpcr⟩ := hread
  exact ⟨demuxer', hdecodes, hes.trans h.esOut, hpcr.trans h.pcrOut, fun _ => htuned,
    fun hfalse => absurd hfalse.symm Bool.false_ne_true⟩

/-- A frame that is whole leaves its unit idle, and one that is not known to be
waits. -/
theorem arrive_whole (lSt : UInt8) {rFrame : EsFrame} (hes : demuxer.esOutCallback = true)
    (hdata : rFrame.mData.mData ≠ []) :
    Between lSt (if rFrame.Fits then none else some (rFrame.unit lSt rFrame.mData.mData))
        (demuxer.arrive rFrame.mPid lSt rFrame rFrame.mData.mData).1 ∧
      (demuxer.arrive rFrame.mPid lSt rFrame rFrame.mData.mData).2 =
        if rFrame.Fits then [.es (rFrame.delivered lSt)] else [] := by
  unfold arrive
  by_cases hfits : rFrame.Fits
  · have hwhole : rFrame.Fits ∧ rFrame.mData.mData.length = rFrame.mData.size := ⟨hfits, rfl⟩
    simp only [if_pos hwhole, if_pos hfits]
    exact ⟨rfl, if_pos hes⟩
  · have hnot : ¬ (rFrame.Fits ∧ rFrame.mData.mData.length = rFrame.mData.size) :=
      fun hboth => hfits hboth.1
    simp only [if_neg hnot, if_neg hfits]
    refine ⟨⟨rfl, ?_, rfl, rfl, rfl⟩, trivial⟩
    exact mt List.length_eq_zero_iff.mp hdata

theorem Receives.deliver {rFrame : EsFrame} {lSt : UInt8}
    (h : Receives muxer channel demuxer) (hvalid : muxer.Valid) (htuned : channel.tuned = true)
    (hpid : IsPid rFrame.mPid) (hannounced : muxer.announced rFrame.mPid = some lSt)
    (hdata : rFrame.mData.mData ≠ []) {packets : List (List UInt8)}
    (hpackets : FramePackets muxer.mPcrPid rFrame packets) :
    ∃ demuxer', DecodesAll demuxer packets demuxer'
        (channel.deliver muxer.mPcrPid lSt rFrame).2 ∧
      Receives muxer (channel.deliver muxer.mPcrPid lSt rFrame).1 demuxer' := by
  have hstate := h.tuned htuned
  obtain ⟨unit, hunit, hbetween⟩ := hstate.units _ _ hannounced
  have hknows : demuxer.Knows rFrame.mPid unit :=
    ⟨by rw [hstate.pmtId]; exact hvalid.pmtPid_ne, hunit⟩
  obtain ⟨demuxer', hdecodes, hmoves⟩ := decodesAll_frame hpid hknows hbetween hdata hpackets
  obtain ⟨hwhole, hout⟩ := arrive_whole lSt h.esOut hdata
  have hbroken : demuxer.brokenOut rFrame.mPid (rFrame.mRandomAccess &&& 0x01)
      (channel.waiting rFrame.mPid) =
      ((channel.waiting rFrame.mPid).map (fun waiting =>
        Event.es (EsFrame.broken waiting rFrame))).toList := by
    unfold brokenOut MpegTsDemuxer.esOut
    cases channel.waiting rFrame.mPid with
    | none => rfl
    | some waiting => exact if_pos h.esOut
  have hpcr : demuxer.pcrOut (rFrame.mPcr &&& 0x1FFFFFFFF) =
      [Event.pcr (rFrame.mPcr &&& 0x1FFFFFFFF)] := if_pos h.pcrOut
  rw [hbroken, hout, hpcr] at hdecodes
  -- the other PIDs keep their units
  have htuned' : ∀ waiting : Option EsUnit,
      Between lSt waiting (demuxer.arrive rFrame.mPid lSt rFrame rFrame.mData.mData).1 →
      Tuned muxer (Function.update channel.waiting rFrame.mPid waiting) demuxer' := by
    intro waiting hnew
    refine ⟨?_, ?_, ?_, ?_⟩
    · rw [hmoves.fields]
      exact hstate.pmtId
    · rw [hmoves.fields]
      exact hstate.pcrId
    · intro pid hnone
      have hother : pid ≠ rFrame.mPid := by
        rintro rfl
        rw [hannounced] at hnone
        cases hnone
      rw [hmoves.others pid hother]
      exact hstate.unknown pid hnone
    · intro pid other hsome
      by_cases hsame : pid = rFrame.mPid
      · subst hsame
        rw [hannounced] at hsome
        cases hsome
        rw [Function.update_self]
        exact ⟨_, hmoves.unit, hnew⟩
      · rw [Function.update_of_ne hsame, hmoves.others pid hsame]
        exact hstate.units pid other hsome
  have hes : demuxer'.esOutCallback = true := by
    rw [hmoves.fields]
    exact h.esOut
  have hpcr' : demuxer'.pcrOutCallback = true := by
    rw [hmoves.fields]
    exact h.pcrOut
  have huntuned : ∀ {P : Prop}, channel.tuned = false → P := by
    intro P hfalse
    rw [htuned] at hfalse
    cases hfalse
  unfold Channel.deliver
  by_cases hfits : rFrame.Fits
  · rw [if_pos hfits] at hdecodes hwhole
    simp only [if_pos hfits]
    exact ⟨demuxer', hdecodes, hes, hpcr', fun _ => htuned' _ hwhole, huntuned⟩
  · rw [if_neg hfits, List.append_nil] at hdecodes
    rw [if_neg hfits] at hwhole
    simp only [if_neg hfits]
    exact ⟨demuxer', hdecodes, hes, hpcr', fun _ => htuned' _ hwhole, huntuned⟩

theorem Receives.send {rFrame : EsFrame} (h : Receives muxer channel demuxer)
    (hvalid : muxer.Valid) (haccepts : muxer.AcceptsFrame rFrame) {packets : List (List UInt8)}
    (hpackets : FramePackets muxer.mPcrPid rFrame packets) :
    ∃ demuxer', DecodesAll demuxer packets demuxer' (channel.send muxer rFrame).2 ∧
      Receives muxer (channel.send muxer rFrame).1 demuxer' := by
  unfold Channel.send
  -- the PIDs for which the demuxer has no unit
  have hignored : (channel.tuned = true → muxer.announced rFrame.mPid = none) →
      DecodesAll demuxer packets demuxer [] := by
    intro hunknown
    by_cases htuned : channel.tuned = true
    · have hstate := h.tuned htuned
      apply decodesAll_ignored hpackets haccepts.pid
      · exact fun hzero => haccepts.pid_ne hzero.1
      · rintro ⟨-, -, heq⟩
        exact haccepts.pid_ne_pmt (heq.trans hstate.pmtId)
      · exact hstate.unknown _ (hunknown htuned)
      · rintro ⟨-, heq⟩
        exact haccepts.pcr (heq.symm.trans hstate.pcrId) (hunknown htuned)
    · obtain ⟨huntuned, -⟩ := h.untuned (Bool.eq_false_iff.mpr htuned)
      apply decodesAll_ignored hpackets haccepts.pid
      · exact fun hzero => haccepts.pid_ne hzero.1
      · exact fun hpmt => hpmt.2.1 huntuned.pmtId
      · exact Std.TreeMap.getElem?_of_isEmpty huntuned.frames
      · exact fun hpcr => hpcr.1 huntuned.pcrId
  cases hannounced : muxer.announced rFrame.mPid with
  | none => exact ⟨demuxer, hignored (fun _ => hannounced), h⟩
  | some lSt =>
      dsimp only
      split_ifs with hboth
      · exact h.deliver hvalid hboth.1 haccepts.pid hannounced hboth.2 hpackets
      · by_cases hdata : rFrame.mData.mData = []
        · cases hpackets with
          | empty _ => exact ⟨demuxer, .nil demuxer, h⟩
          | frame cc hne hrest => exact absurd hdata hne
        · refine ⟨demuxer, hignored (fun htuned => ?_), h⟩
          exact absurd ⟨htuned, hdata⟩ hboth

end MpegTsDemuxer

/-! ### Whole runs -/

namespace MpegTsMuxer

/-- The tables are written in front of this frame. -/
def due (muxer : MpegTsMuxer) (lRandomAccess : Bool) : Prop :=
  (muxer.mMuxType = .segmentType ∧ lRandomAccess = true) ∨
    (muxer.mMuxType = .h222Type ∧ muxer.mCurrentIndex % MPEGTS_PAT_INTERVAL = 0)

/-- Only the counters have changed. -/
def SameStreams (muxer' muxer : MpegTsMuxer) : Prop :=
  muxer' = { muxer with
    mPidCcMap := muxer'.mPidCcMap, mCurrentIndex := muxer'.mCurrentIndex }

theorem tables_eq (muxer : MpegTsMuxer) :
    muxer.tables.2 = (MpegTsDemuxer.tablePackets muxer (muxer.getCc 0).1).flatten := by
  show _ = createPat _ _ ++ (createPmt _ _ _ _ ++ [])
  rw [List.append_nil]
  rfl

/-- What goes in front of a frame. -/
theorem encode_tables (muxer : MpegTsMuxer) (rFrame : EsFrame) (lTag : UInt8)
    (lRandomAccess : Bool) :
    ∃ front : MpegTsMuxer × List UInt8,
      muxer.encode rFrame lTag lRandomAccess =
        ((front.1.createPes rFrame).1,
          { rSb := front.2 ++ (front.1.createPes rFrame).2
            lTag := lTag
            lRandomAccess := lRandomAccess }) ∧
      SameStreams front.1 muxer ∧
      (muxer.mMuxType ≠ .h222Type → front.1.mCurrentIndex = muxer.mCurrentIndex) ∧
      (muxer.due lRandomAccess → ∃ cc, front.2 =
        (MpegTsDemuxer.tablePackets muxer cc).flatten) ∧
      (¬ muxer.due lRandomAccess → front.2 = []) := by
  unfold due encode shouldCreatePat
  by_cases hsegment : muxer.mMuxType = .segmentType ∧ lRandomAccess = true
  · refine ⟨muxer.tables, by rw [if_pos hsegment], rfl, fun _ => rfl,
      fun _ => ⟨_, tables_eq muxer⟩, fun hnot => absurd (.inl hsegment) hnot⟩
  · rw [if_neg hsegment]
    by_cases htype : muxer.mMuxType = .h222Type
    · rw [if_pos htype]
      by_cases hindex : muxer.mCurrentIndex % MPEGTS_PAT_INTERVAL = 0
      · simp only [if_pos hindex, if_true]
        exact ⟨tables { muxer with mCurrentIndex := 0 + 1 }, rfl, rfl,
          fun hne => absurd htype hne, fun _ => ⟨_, tables_eq _⟩,
          fun hnot => absurd (.inr ⟨htype, hindex⟩) hnot⟩
      · simp only [if_neg hindex, Bool.false_eq_true, if_false]
        refine ⟨({ muxer with mCurrentIndex := muxer.mCurrentIndex + 1 }, []), rfl, rfl,
          fun hne => absurd htype hne, ?_, fun _ => rfl⟩
        rintro (hboth | hboth)
        · exact absurd hboth hsegment
        · exact absurd hboth.2 hindex
    · rw [if_neg htype]
      refine ⟨(muxer, []), rfl, rfl, fun _ => rfl, ?_, fun _ => rfl⟩
      rintro (hboth | hboth)
      · exact absurd hboth hsegment
      · exact absurd hboth.1 htype

/-- A muxer on its way, against the one it started as: until the channel is tuned no
frame has been counted. -/
structure Sends (muxer : MpegTsMuxer) (channel : Channel) (current : MpegTsMuxer) : Prop where
  streams : SameStreams current muxer
  index : channel.tuned = true ∨ current.mCurrentIndex = 0

variable {muxer current : MpegTsMuxer} {channel : Channel} {demuxer : MpegTsDemuxer}

theorem Sends.due_iff (h : Sends muxer channel current) (lRandomAccess : Bool) :
    (current.due lRandomAccess → muxer.tunes lRandomAccess = true) ∧
      (muxer.tunes lRandomAccess = true → channel.tuned = false → current.due lRandomAccess) := by
  have htype : current.mMuxType = muxer.mMuxType := by rw [h.streams]
  unfold due tunes
  rw [htype]
  simp only [Bool.or_eq_true, Bool.and_eq_true, decide_eq_true_eq]
  constructor
  · rintro (hsegment | ⟨hh222, -⟩)
    · exact .inr hsegment
    · exact .inl hh222
  · rintro (hh222 | hsegment) hfalse
    · have hzero : current.mCurrentIndex = 0 :=
        h.index.resolve_left (by rw [hfalse]; exact Bool.false_ne_true)
      exact .inr ⟨hh222, by rw [hzero]; rfl⟩
    · exact .inl hsegment

/-- The packets of one call, as the demuxer and the channel take them. -/
theorem Sends.call (hvalid : muxer.Valid) (h : Sends muxer channel current)
    (hreceives : MpegTsDemuxer.Receives muxer channel demuxer) {call : MuxCall}
    (haccepts : muxer.Accepts call) :
    ∃ packets demuxer', (current.call call).2.rSb = packets.flatten ∧
      DecodesAll demuxer packets demuxer' (channel.call muxer call).2 ∧
      MpegTsDemuxer.Receives muxer (channel.call muxer call).1 demuxer' ∧
      Sends muxer (channel.call muxer call).1 (current.call call).1 := by
  cases call with
  | createNull lTag => exact absurd haccepts not_false
  | createPcr lPcr lTag =>
      have hsame : (current.createPcr lPcr lTag).rSb = (muxer.createPcr lPcr lTag).rSb := by
        rw [h.streams]
        rfl
      refine ⟨[(muxer.createPcr lPcr lTag).rSb], demuxer, ?_, ?_, hreceives, h⟩
      · rw [List.flatten_cons, List.flatten_nil, List.append_nil]
        exact hsame
      · show DecodesAll demuxer _ demuxer (if channel.tuned = true then _ else _)
        split_ifs with htuned
        · have hpcr := MpegTsDemuxer.decodes_pcr hvalid (hreceives.tuned htuned) lPcr lTag
          rw [MpegTsDemuxer.pcrOut, if_pos hreceives.pcrOut] at hpcr
          exact .cons hpcr (.nil demuxer)
        · obtain ⟨huntuned, -⟩ := hreceives.untuned (Bool.eq_false_iff.mpr htuned)
          show DecodesAll demuxer _ demuxer ([] ++ [])
          refine .cons ?_ (.nil demuxer)
          have hpid : (TsHeader.received
              { mPid := muxer.mPcrPid, mAdaptationFieldControl := mAdaptionOnly }).mPid =
              muxer.mPcrPid := hvalid.pcrPid
          show Decodes demuxer (_ ++ _ ++ writePcr lPcr ++ List.replicate 176 0xff) demuxer []
          rw [List.append_assoc, List.append_assoc]
          apply MpegTsDemuxer.decodes_ignored
          · rw [List.length_append, List.length_append, List.length_append, List.length_replicate]
            rfl
          · rw [hpid]
            exact fun hzero => hvalid.pcrPid_ne hzero.1
          · exact fun hpmt => hpmt.2.1 huntuned.pmtId
          · exact Std.TreeMap.getElem?_of_isEmpty huntuned.frames
          · exact fun hpcr => hpcr.1 huntuned.pcrId
  | encode rFrame lTag lRandomAccess =>
      have hframe : muxer.AcceptsFrame rFrame := haccepts
      obtain ⟨front, hencode, hsame, hindex, hdue, hnotDue⟩ :=
        encode_tables current rFrame lTag lRandomAccess
      obtain ⟨packets, hpackets, hpes, hsettings⟩ :=
        createPes_packets front.1 rFrame hframe.fresh
      obtain ⟨hdueTunes, htunesDue⟩ := h.due_iff lRandomAccess
      have hpcrPid : front.1.mPcrPid = muxer.mPcrPid := by rw [hsame, h.streams]
      rw [hpcrPid] at hpackets
      generalize htuned : { channel with
        tuned := channel.tuned || muxer.tunes lRandomAccess } = tuned
      -- the tables, if they are written now
      have htables : ∃ tables middle, front.2 = List.flatten tables ∧
          DecodesAll demuxer tables middle [] ∧ MpegTsDemuxer.Receives muxer tuned middle := by
        by_cases hnow : current.due lRandomAccess
        · obtain ⟨cc, hfront⟩ := hdue hnow
          obtain ⟨middle, hdecodes, hmiddle⟩ := hreceives.tables hvalid cc
          have htrue : tuned = { channel with tuned := true } := by
            rw [← htuned, hdueTunes hnow, Bool.or_true]
          have hpackets : MpegTsDemuxer.tablePackets current cc =
              MpegTsDemuxer.tablePackets muxer cc := by
            rw [h.streams]
            rfl
          exact ⟨_, middle, by rw [hfront, hpackets], hdecodes, by rw [htrue]; exact hmiddle⟩
        · have hsameTuned : tuned = channel := by
            rw [← htuned]
            cases hwas : channel.tuned with
            | true => rw [Bool.true_or, ← hwas]
            | false =>
                have hnot : muxer.tunes lRandomAccess = false := by
                  rw [Bool.eq_false_iff]
                  exact fun htunes => hnow (htunesDue htunes hwas)
                rw [hnot, Bool.or_false, ← hwas]
          exact ⟨[], demuxer, hnotDue hnow, .nil demuxer, by rw [hsameTuned]; exact hreceives⟩
      obtain ⟨tables, middle, hfront, hdecodes, hmiddle⟩ := htables
      obtain ⟨demuxer', hrest, hfinal⟩ := hmiddle.send hvalid hframe hpackets
      refine ⟨tables ++ packets, demuxer', ?_, ?_, ?_, ?_⟩
      · show (current.encode rFrame lTag lRandomAccess).2.rSb = _
        rw [hencode, List.flatten_append, ← hfront, ← hpes]
      · show DecodesAll demuxer _ demuxer' (Channel.send muxer _ rFrame).2
        rw [htuned]
        exact hdecodes.append hrest
      · show MpegTsDemuxer.Receives muxer (Channel.send muxer _ rFrame).1 demuxer'
        rw [htuned]
        exact hfinal
      · refine ⟨?_, ?_⟩
        · show SameStreams (current.encode rFrame lTag lRandomAccess).1 muxer
          rw [hencode]
          unfold SameStreams
          rw [hsettings, hsame, h.streams]
        · have hsend : (Channel.send muxer { channel with
              tuned := channel.tuned || muxer.tunes lRandomAccess } rFrame).1.tuned =
              (channel.tuned || muxer.tunes lRandomAccess) := by
            unfold Channel.send Channel.deliver
            split
            · split_ifs <;> rfl
            · rfl
          show (Channel.send muxer _ rFrame).1.tuned = true ∨
            (current.encode rFrame lTag lRandomAccess).1.mCurrentIndex = 0
          rw [hsend, hencode]
          by_cases hnow : (channel.tuned || muxer.tunes lRandomAccess) = true
          · exact .inl hnow
          · rw [Bool.or_eq_true, not_or] at hnow
            have hne : current.mMuxType ≠ .h222Type := by
              rw [h.streams]
              intro heq
              apply hnow.2
              unfold tunes
              rw [decide_eq_true heq, Bool.true_or]
            right
            show (front.1.createPes rFrame).1.mCurrentIndex = 0
            rw [hsettings]
            exact (hindex hne).trans (h.index.resolve_left hnow.1)

theorem Sends.callAll (hvalid : muxer.Valid) {calls : List MuxCall}
    (hcalls : ∀ call ∈ calls, muxer.Accepts call) (h : Sends muxer channel current)
    (hreceives : MpegTsDemuxer.Receives muxer channel demuxer) :
    ∃ packets demuxer', (current.callAll calls).2.flatMap Output.rSb = packets.flatten ∧
      DecodesAll demuxer packets demuxer' (channel.callAll muxer calls).2 := by
  induction calls generalizing channel current demuxer with
  | nil => exact ⟨[], demuxer, rfl, .nil demuxer⟩
  | cons call calls ih =>
      obtain ⟨packets, middle, hpackets, hdecodes, hmiddle, hsends⟩ :=
        h.call hvalid hreceives (hcalls call List.mem_cons_self)
      obtain ⟨rest, demuxer', hrest, hdecodesRest⟩ :=
        ih (fun other hother => hcalls other (List.mem_cons_of_mem _ hother)) hsends hmiddle
      refine ⟨packets ++ rest, demuxer', ?_, hdecodes.append hdecodesRest⟩
      show (current.call call).2.rSb ++
        ((current.call call).1.callAll calls).2.flatMap Output.rSb = _
      rw [List.flatten_append, hpackets, hrest]

/-- Video and audio, with the PCR on the PID of the video. -/
def twoStreams : MpegTsMuxer where
  mPmtPid := 0x20
  mStreamPidMap := ((∅ : Std.TreeMap UInt8 UInt16).insert 0x1b 0x100).insert 0x0f 0x101
  mPcrPid := 0x100
  mMuxType := .h222Type

/-- A video frame of two packets, with a DTS of its own. -/
def videoFrame : EsFrame where
  mData := { mData := List.replicate 200 7 }
  mPts := 0x123456789
  mDts := 0x123456700
  mPcr := 0x123456789
  mRandomAccess := 1
  mStreamType := 0x1b
  mStreamId := 0xe0
  mPid := 0x100

/-- An audio frame of three bytes. -/
def audioFrame : EsFrame where
  mData := { mData := [1, 2, 3] }
  mPts := 90000
  mDts := 90000
  mPcr := 0
  mRandomAccess := 0
  mStreamType := 0x0f
  mStreamId := 0xc0
  mPid := 0x101

end MpegTsMuxer

end Mpegts
