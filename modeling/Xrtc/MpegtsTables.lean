import Mathlib.Data.List.Nodup
import Mathlib.Tactic.IntervalCases
import Xrtc.Custody
import Xrtc.MpegtsLayout

/-!
# The packets of the tables

A table packet carries its section from the fifth byte on and is filled up to
188 bytes.  The PMT lists the entries of the stream map, of which there are at
most four, and a receiver that decodes it the way the demuxer does finds these
entries again.
-/

namespace Mpegts

/-! ### The stream map -/

/-- The PID under which the constructor enters a media type. -/
def MediaType.pid : MediaType → UInt16
  | .video => VIDEO_PID
  | .audio => AUDIO_PID

/-- The entry of a stream type in the stream map. -/
def StreamType.entry (streamType : StreamType) : UInt8 × UInt16 :=
  (streamType.value, (getMediaType streamType).pid)

theorem StreamType.value_injective : Function.Injective StreamType.value := by
  intro a b h
  cases a <;> cases b <;> first | rfl | exact absurd h (by decide)

theorem streamMap_eq (streamTypes : List StreamType) :
    streamMap streamTypes = streamTypes.foldl
      (fun map streamType => map.insert streamType.entry.1 streamType.entry.2) ∅ := by
  unfold streamMap
  congr 1
  funext map streamType
  cases streamType <;> rfl

/-- The entries of a map to which stream types are added. -/
theorem getElem?_addAll (streamTypes : List StreamType) (map : Std.TreeMap UInt8 UInt16)
    (key : UInt8) (pid : UInt16) :
    (streamTypes.foldl (fun map streamType =>
        map.insert streamType.entry.1 streamType.entry.2) map)[key]? = some pid ↔
      (∃ streamType ∈ streamTypes, streamType.entry = (key, pid)) ∨
        (∀ streamType ∈ streamTypes, streamType.value ≠ key) ∧ map[key]? = some pid := by
  induction streamTypes generalizing map with
  | nil => simp
  | cons streamType streamTypes ih =>
      rw [List.foldl_cons, ih, Std.TreeMap.getElem?_insert]
      have hvalue : streamType.entry.1 = streamType.value := rfl
      by_cases hkey : streamType.value = key
      · -- a type with this key that is added later has the same entry
        have hsame : ∀ other : StreamType, other.value = key → other = streamType := by
          intro other hother
          exact StreamType.value_injective (hother.trans hkey.symm)
        simp only [hvalue, hkey, Std.compare_self, if_true, Option.some.injEq,
          List.exists_mem_cons_iff, List.forall_mem_cons, ne_eq, not_true, false_and, or_false]
        constructor
        · rintro (⟨other, hmem, hentry⟩ | ⟨-, hpid⟩)
          · exact .inr ⟨other, hmem, hentry⟩
          · exact .inl (Prod.ext hkey hpid)
        · rintro (hentry | ⟨other, hmem, hentry⟩)
          · by_cases hlater : ∃ other ∈ streamTypes, other.value = key
            · obtain ⟨other, hmem, hother⟩ := hlater
              exact .inl ⟨other, hmem, hsame other hother ▸ hentry⟩
            · exact .inr ⟨fun other hmem hother => hlater ⟨other, hmem, hother⟩,
                congrArg Prod.snd hentry⟩
          · exact .inl ⟨other, hmem, hentry⟩
      · have hne : ¬ streamType.entry = (key, pid) := fun h => hkey (congrArg Prod.fst h)
        simp only [hvalue, Std.LawfulEqOrd.compare_eq_iff_eq, hkey, if_false,
          List.exists_mem_cons_iff, List.forall_mem_cons, hne, ne_eq, not_false_eq_true,
          true_and, false_or]

theorem mem_streamMap {streamTypes : List StreamType} {entry : UInt8 × UInt16} :
    entry ∈ (streamMap streamTypes).toList ↔
      ∃ streamType ∈ streamTypes, streamType.entry = entry := by
  rw [Std.TreeMap.mem_toList_iff_getElem?_eq_some, streamMap_eq, getElem?_addAll]
  simp

theorem length_streamMap_le (streamTypes : List StreamType) :
    (streamMap streamTypes).toList.length ≤ 4 := by
  have hsub : (streamMap streamTypes).toList ⊆
      [StreamType.AVC, .HEVC, .AAC, .OPUS].map StreamType.entry := by
    intro entry hentry
    obtain ⟨streamType, -, rfl⟩ := mem_streamMap.mp hentry
    apply List.mem_map_of_mem
    cases streamType <;> decide
  exact (List.subperm_of_subset (Custody.nodup_toList _) hsub).length_le

/-! ### Reading a table packet -/

def tableHeader (pid : UInt16) (cc : UInt8) : TsHeader where
  mPayloadUnitStartIndicator := 1
  mPid := pid
  mAdaptationFieldControl := mPayloadOnly
  mContinuityCounter := cc

/-- A packet with a section on `pid` with counter `i`. -/
structure TablePacket (packet : List UInt8) (pid : UInt16) (i : Fin 16) (table : List UInt8) :
    Prop where
  length : packet.length = 188
  header : header packet = tableHeader pid (UInt8.ofNat i)
  payload : ∃ rest, payload packet = 0 :: table ++ rest

theorem header_tableHeader (i : Fin 16) {pid : UInt16}
    (hpid : pid = MPEGTS_PAT_PID ∨ pid = PMT_PID) (rest : List UInt8) :
    header ((tableHeader pid (UInt8.ofNat i)).encode ++ rest) =
      tableHeader pid (UInt8.ofNat i) := by
  have hdecode : TsHeader.decode (tableHeader pid (UInt8.ofNat i)).encode =
      some (tableHeader pid (UInt8.ofNat i), []) := by
    revert i
    rcases hpid with rfl | rfl <;> decide
  unfold header
  rw [decode_append hdecode]
  rfl

theorem tablePacket_sectionPacket (i : Fin 16) {pid : UInt16}
    (hpid : pid = MPEGTS_PAT_PID ∨ pid = PMT_PID) {table : List UInt8}
    (htable : table.length ≤ 179) :
    TablePacket (sectionPacket (tableHeader pid (UInt8.ofNat i)) table) pid i table := by
  generalize hcrc : write4Bytes (crc32 (((tableHeader pid (UInt8.ofNat i)).encode ++
    AdaptationFieldHeader.encode {} ++ table).drop 5)) = crc
  have hcrcLen : crc.length = 4 := by
    rw [← hcrc]
    rfl
  -- the section, its checksum and the filling
  have hpacket : sectionPacket (tableHeader pid (UInt8.ofNat i)) table =
      (tableHeader pid (UInt8.ofNat i)).encode ++
        (0 :: table ++ (crc ++ List.replicate (179 - table.length) 0xff)) := by
    have hlen : 188 - ((tableHeader pid (UInt8.ofNat i)).encode ++
        AdaptationFieldHeader.encode {} ++ table ++ crc).length = 179 - table.length := by
      rw [List.length_append, List.length_append, hcrcLen]
      show 188 - (5 + table.length + 4) = _
      omega
    unfold sectionPacket stuffed
    simp only [hcrc]
    rw [hlen]
    simp only [List.append_assoc]
    rfl
  refine ⟨?_, ?_, ⟨crc ++ List.replicate (179 - table.length) 0xff, ?_⟩⟩
  · rw [hpacket]
    simp only [List.length_append, List.length_cons, List.length_replicate, hcrcLen,
      length_encode]
    omega
  · rw [hpacket, header_tableHeader i hpid]
  · unfold payload
    rw [hpacket, header_tableHeader i hpid]
    rfl

/-! ### The PMT -/

def info (entry : UInt8 × UInt16) : PMTElementInfo where
  mStreamType := entry.1
  mElementaryPid := entry.2

theorem foldl_size_info (entries : List (UInt8 × UInt16)) (lRet : ℕ) :
    (entries.map info).foldl (fun lRet info => lRet + info.size) lRet =
      lRet + 5 * entries.length := by
  induction entries generalizing lRet with
  | nil => rfl
  | cons entry entries ih =>
      have hsize : (info entry).size = 5 := rfl
      rw [List.map_cons, List.foldl_cons, ih, hsize, List.length_cons]
      omega

theorem length_flatMap_info (entries : List (UInt8 × UInt16)) :
    ((entries.map info).flatMap PMTElementInfo.encode).length = 5 * entries.length := by
  induction entries with
  | nil => rfl
  | cons entry entries ih =>
      have hlen : (info entry).encode.length = 5 := rfl
      rw [List.map_cons, List.flatMap_cons, List.length_append, ih, hlen, List.length_cons]
      omega

/-- The PMT that lists `entries`. -/
def pmtHeader (entries : List (UInt8 × UInt16)) : PMTHeader where
  mTableId := 0x02
  mSectionSyntaxIndicator := 1
  mReserved0 := 0x3
  mSectionLength := UInt16.ofNat (13 + 5 * entries.length)
  mProgramNumber := 0x0001
  mReserved1 := 0x3
  mCurrentNextIndicator := 1
  mReserved2 := 0x7
  mPcrPid := PCR_PID
  mReserved3 := 0xf
  mInfos := entries.map info

theorem encode_info (streamType : UInt8) (media : MediaType) :
    (info (streamType, media.pid)).encode =
      [streamType, 0xe1, if media = .audio then 1 else 0, 0xf0, 0] := by
  have htail : (info (0, media.pid)).encode.tail =
      [0xe1, if media = .audio then 1 else 0, 0xf0, 0] := by
    cases media <;> decide
  show streamType :: (info (0, media.pid)).encode.tail = _
  rw [htail]

theorem decode_info (streamType : UInt8) (media : MediaType) (rest : List UInt8) :
    PMTElementInfo.decode ((info (streamType, media.pid)).encode ++ rest) =
      some (info (streamType, media.pid), rest) := by
  have hpid : read2Bytes 0xe1 (if media = .audio then 1 else 0) &&& 0x1FFF = media.pid := by
    cases media <;> decide
  have hreserved : ((read2Bytes 0xe1 (if media = .audio then 1 else 0) >>> 13) &&&
      0x07).toUInt8 = 0x7 := by
    cases media <;> decide
  have hlen : read2Bytes 0xf0 0 &&& 0xFFF = 0 := by decide
  have hreserved' : ((read2Bytes 0xf0 0 >>> 12) &&& 0xF).toUInt8 = 0xf := by decide
  rw [encode_info]
  simp only [PMTElementInfo.decode, List.cons_append, List.nil_append, hpid, hreserved, hlen,
    hreserved']
  rw [UInt16.toNat_zero, if_pos (Nat.zero_le _)]
  rfl

theorem decodeInfos_flatMap {entries : List (UInt8 × UInt16)}
    (hentries : ∀ entry ∈ entries, ∃ media : MediaType, entry.2 = media.pid) (rounds : ℕ)
    (hrounds : entries.length ≤ rounds) (rest : List UInt8) :
    PMTHeader.decodeInfos rounds (5 * entries.length)
        ((entries.map info).flatMap PMTElementInfo.encode ++ rest) =
      some (entries.map info) := by
  induction entries generalizing rounds with
  | nil =>
      unfold PMTHeader.decodeInfos
      simp
  | cons entry entries ih =>
      obtain ⟨media, hmedia⟩ := hentries entry List.mem_cons_self
      obtain ⟨rounds, rfl⟩ : ∃ n, rounds = n + 1 := by
        cases rounds with
        | zero => simp at hrounds
        | succ n => exact ⟨n, rfl⟩
      have hpos : ¬ (5 * (((entry :: entries).length : ℕ) : Int) ≤ 0) := by
        rw [List.length_cons]
        omega
      have hentry : entry = (entry.1, media.pid) := Prod.ext rfl hmedia
      have hremain : 5 * (((entry :: entries).length : ℕ) : Int) - (info entry).size =
          5 * entries.length := by
        have hsize : (info entry).size = 5 := rfl
        rw [hsize, List.length_cons]
        omega
      have hdecode := decode_info entry.1 media
        ((entries.map info).flatMap PMTElementInfo.encode ++ rest)
      rw [← hentry] at hdecode
      unfold PMTHeader.decodeInfos
      rw [if_neg hpos, List.map_cons, List.flatMap_cons, List.append_assoc, hdecode]
      simp only [Option.bind_eq_bind, Option.bind_some, hremain]
      rw [ih (fun other hother => hentries other (List.mem_cons_of_mem _ hother)) rounds
        (Nat.le_of_succ_le_succ hrounds)]
      rfl

theorem encode_pmtHeader {entries : List (UInt8 × UInt16)} (hlen : entries.length ≤ 4) :
    (pmtHeader entries).encode =
      [0x02, 0xb0, UInt8.ofNat (13 + 5 * entries.length), 0, 1, 0xc1, 0, 0, 0xe1, 0, 0xf0, 0] ++
        (entries.map info).flatMap PMTElementInfo.encode := by
  unfold pmtHeader
  generalize entries.map info = infos
  generalize entries.length = count at hlen ⊢
  -- the section length is one of five values
  have hfront : ∀ count : Fin 5,
      ({ mTableId := 0x02
         mSectionSyntaxIndicator := 1
         mReserved0 := 0x3
         mSectionLength := UInt16.ofNat (13 + 5 * count)
         mProgramNumber := 0x0001
         mReserved1 := 0x3
         mCurrentNextIndicator := 1
         mReserved2 := 0x7
         mPcrPid := PCR_PID
         mReserved3 := 0xf } : PMTHeader).encode =
        [0x02, 0xb0, UInt8.ofNat (13 + 5 * count), 0, 1, 0xc1, 0, 0, 0xe1, 0, 0xf0, 0] := by
    decide
  rw [← hfront ⟨count, by omega⟩]
  rfl

/-- A receiver finds the entries again. -/
theorem decode_pmtHeader {entries : List (UInt8 × UInt16)} (hlen : entries.length ≤ 4)
    (hentries : ∀ entry ∈ entries, ∃ media : MediaType, entry.2 = media.pid)
    (rest : List UInt8) :
    PMTHeader.decode ((pmtHeader entries).encode ++ rest) = some (pmtHeader entries) := by
  have hinfos := decodeInfos_flatMap hentries (5 * entries.length) (by omega) rest
  rw [encode_pmtHeader hlen]
  unfold pmtHeader
  generalize entries.map info = infos at hinfos ⊢
  generalize entries.length = count at hlen hinfos ⊢
  have hlength : ∀ count : Fin 5,
      read2Bytes 0xb0 (UInt8.ofNat (13 + 5 * count)) &&& 0xFFF =
        UInt16.ofNat (13 + 5 * count) := by
    decide
  have hflags : ∀ count : Fin 5,
      ((read2Bytes 0xb0 (UInt8.ofNat (13 + 5 * count)) >>> 15) &&& 0x01).toUInt8 = 1 ∧
      ((read2Bytes 0xb0 (UInt8.ofNat (13 + 5 * count)) >>> 14) &&& 0x01).toUInt8 = 0 ∧
      ((read2Bytes 0xb0 (UInt8.ofNat (13 + 5 * count)) >>> 12) &&& 0x03).toUInt8 = 3 := by
    decide
  have hnone : read2Bytes 0xf0 0 &&& 0xFFF = 0 := by decide
  have hremain : (((UInt16.ofNat (13 + 5 * count)).toNat : Int) - 4 - 9 -
      ((0 : UInt16).toNat : Int)) = 5 * count := by
    rw [UInt16.toNat_ofNat', UInt16.toNat_zero]
    omega
  have hrounds : (5 * (count : Int)).toNat = 5 * count := by omega
  simp only [PMTHeader.decode, List.cons_append, List.nil_append,
    hlength ⟨count, by omega⟩, hflags ⟨count, by omega⟩, hnone, hremain, hrounds]
  rw [UInt16.toNat_zero, if_pos (Nat.zero_le _)]
  show (PMTHeader.decodeInfos (5 * count) (5 * count) (infos.flatMap _ ++ rest)).bind _ = _
  rw [hinfos]
  simp only [Option.bind_some, Option.pure_def, Option.some.injEq, PMTHeader.mk.injEq, and_true,
    true_and]
  decide

/-! ### The two table packets -/

/-- The section of a table packet, after its pointer field. -/
def tableSection (packet : List UInt8) : List UInt8 :=
  (payload packet).drop 1

/-- A PAT packet. -/
def IsPat (packet : List UInt8) : Prop :=
  (header packet).mPid = MPEGTS_PAT_PID ∧ (tableSection packet).head? = some 0x00

/-- A PMT packet. -/
def IsPmt (packet : List UInt8) : Prop :=
  (header packet).mPid = PMT_PID ∧ (tableSection packet).head? = some 0x02

theorem TablePacket.tableSection {packet table : List UInt8} {pid : UInt16} {i : Fin 16}
    (h : TablePacket packet pid i table) : ∃ rest, tableSection packet = table ++ rest := by
  obtain ⟨rest, hrest⟩ := h.payload
  refine ⟨rest, ?_⟩
  unfold Mpegts.tableSection
  rw [hrest]
  rfl

/-- The section of the PAT. -/
def patTable : List UInt8 :=
  [0x00, 0xb0, 0x0d, 0, 0, 0xc1, 0, 0, 0, 1, 0xe0, 0x64]

theorem tablePacket_createPat (i : Fin 16) :
    TablePacket (createPat PMT_PID (UInt8.ofNat i)) MPEGTS_PAT_PID i patTable := by
  have htable : createPat PMT_PID (UInt8.ofNat i) =
      sectionPacket (tableHeader MPEGTS_PAT_PID (UInt8.ofNat i)) patTable := by
    unfold createPat
    congr 1
  rw [htable]
  exact tablePacket_sectionPacket i (.inl rfl) (by decide)

theorem TablePacket.isPat {packet : List UInt8} {i : Fin 16}
    (h : TablePacket packet MPEGTS_PAT_PID i patTable) : IsPat packet := by
  obtain ⟨rest, hrest⟩ := h.tableSection
  refine ⟨by rw [h.header]; rfl, ?_⟩
  rw [hrest]
  rfl

theorem TablePacket.isPmt {packet : List UInt8} {i : Fin 16}
    {entries : List (UInt8 × UInt16)}
    (h : TablePacket packet PMT_PID i (pmtHeader entries).encode) : IsPmt packet := by
  obtain ⟨rest, hrest⟩ := h.tableSection
  refine ⟨by rw [h.header]; rfl, ?_⟩
  rw [hrest]
  rfl

variable {muxer : MpegTsMuxer} (streamTypes : List StreamType)

theorem createPmt_eq (hpcr : muxer.mPcrPid = PCR_PID) (pid : UInt16) (cc : UInt8) :
    muxer.createPmt (streamMap streamTypes) pid cc =
      sectionPacket (tableHeader pid cc) (pmtHeader (streamMap streamTypes).toList).encode := by
  have hlen := length_streamMap_le streamTypes
  have hmask : ∀ count : Fin 5,
      UInt16.ofNat (13 + 5 * count) &&& 0x3ff = UInt16.ofNat (13 + 5 * count) := by
    decide
  have hlength : UInt16.ofNat (((streamMap streamTypes).toList.map info).foldl
      (fun lRet info => lRet + info.size) 12 - 3 + 4) &&& 0x3ff =
        UInt16.ofNat (13 + 5 * (streamMap streamTypes).toList.length) := by
    rw [foldl_size_info, ← hmask ⟨_, Nat.lt_succ_of_le hlen⟩]
    congr 2
    show _ = 13 + 5 * (streamMap streamTypes).toList.length
    omega
  unfold MpegTsMuxer.createPmt pmtHeader
  rw [← hlength, hpcr]
  rfl

theorem streamMap_pids {entry : UInt8 × UInt16}
    (hentry : entry ∈ (streamMap streamTypes).toList) :
    ∃ media : MediaType, entry.2 = media.pid := by
  obtain ⟨streamType, -, rfl⟩ := mem_streamMap.mp hentry
  exact ⟨getMediaType streamType, rfl⟩

theorem tablePacket_createPmt (hpcr : muxer.mPcrPid = PCR_PID) (i : Fin 16) :
    TablePacket (muxer.createPmt (streamMap streamTypes) PMT_PID (UInt8.ofNat i)) PMT_PID i
      (pmtHeader (streamMap streamTypes).toList).encode := by
  have hlen := length_streamMap_le streamTypes
  rw [createPmt_eq streamTypes hpcr]
  apply tablePacket_sectionPacket i (.inr rfl)
  rw [encode_pmtHeader hlen, List.length_append, length_flatMap_info]
  show 12 + _ ≤ 179
  omega

/-- A PMT packet lists the stream map. -/
theorem TablePacket.decode_pmt {packet : List UInt8} {i : Fin 16}
    (h : TablePacket packet PMT_PID i (pmtHeader (streamMap streamTypes).toList).encode) :
    PMTHeader.decode (Mpegts.tableSection packet) =
      some (pmtHeader (streamMap streamTypes).toList) := by
  obtain ⟨rest, hrest⟩ := h.tableSection
  rw [hrest]
  exact decode_pmtHeader (length_streamMap_le streamTypes)
    (fun _ => streamMap_pids streamTypes) rest

end Mpegts
