import Xrtc.MpegtsCodec

/-!
# The packets of any elementary stream

The layout of what `createPes` writes, for any PID and any frame: with or without
an adaptation field in the first packet, with or without a PCR, with one timestamp
or two.  All the ways of stuffing come to the same thing: the adaptation field is
widened, and what was written behind it moves.
-/

open Framing

namespace Mpegts

/-! ### Headers and adaptation fields -/

/-- The header of a packet of an elementary stream. -/
def streamHeader (pid : UInt16) (start adaptation : Bool) (cc : UInt8) : TsHeader where
  mPayloadUnitStartIndicator := if start then 1 else 0
  mPid := pid
  mAdaptationFieldControl := if adaptation then mPayloadAdaptionBoth else mPayloadOnly
  mContinuityCounter := cc

/-- Setting the adaptation field bit in the fourth byte. -/
theorem set_streamHeader (pid : UInt16) (start : Bool) (cc : UInt8) (rest : List UInt8) :
    ((streamHeader pid start false cc).encode ++ rest).set 3
        (((streamHeader pid start false cc).encode ++ rest).getD 3 0 ||| 0x20) =
      (streamHeader pid start true cc).encode ++ rest := by
  have hbyte : field8 cc 0 0x0F ||| field8 mPayloadOnly 4 0x30 ||| field8 0 6 0xC0 ||| 0x20 =
      field8 cc 0 0x0F ||| field8 mPayloadAdaptionBoth 4 0x30 ||| field8 0 6 0xC0 := by
    have hboth : field8 mPayloadOnly 4 0x30 ||| field8 0 6 0xC0 ||| 0x20 =
        field8 mPayloadAdaptionBoth 4 0x30 ||| field8 0 6 0xC0 := by
      decide
    rw [UInt8.or_assoc, UInt8.or_assoc, UInt8.or_assoc, ← UInt8.or_assoc (field8 mPayloadOnly _ _),
      hboth]
  unfold streamHeader TsHeader.encode
  simp only [write2Bytes, List.cons_append, List.nil_append, List.set_cons_succ,
    List.set_cons_zero, List.getD_cons_succ, List.getD_cons_zero, Bool.false_eq_true, if_false,
    if_true, hbyte]

/-- An adaptation field widened by `size` bytes of stuffing. -/
def widen (field : List UInt8) (size : ℕ) : List UInt8 :=
  match field with
  | [] => if size = 0 then [] else stuffing size
  | length :: rest => (length + UInt8.ofNat size) :: (rest ++ List.replicate size 0xff)

theorem length_widen (field : List UInt8) (size : ℕ) :
    (widen field size).length = field.length + size := by
  unfold widen
  split
  · split_ifs with hzero
    · rw [hzero]
      rfl
    · rw [length_stuffing (by omega), List.length_nil, Nat.zero_add]
  · rw [List.length_cons, List.length_append, List.length_replicate, List.length_cons]
    omega

theorem widen_zero (field : List UInt8) : widen field 0 = field := by
  cases field with
  | nil => rfl
  | cons length rest =>
      unfold widen
      simp

/-- The length byte of an adaptation field counts the bytes behind it. -/
def IsField (field : List UInt8) : Prop :=
  ∀ length rest, field = length :: rest → length.toNat = rest.length

/-- The adaptation field with which a frame starts. -/
def startField (mPcrPid : UInt16) (rFrame : EsFrame) : List UInt8 :=
  if rFrame.mPid = mPcrPid then
    AdaptationFieldHeader.encode
      { mAdaptationFieldLength := 0x07
        mRandomAccessIndicator := rFrame.mRandomAccess
        mPcrFlag := 0x01 } ++ writePcr rFrame.mPcr
  else if rFrame.mRandomAccess ≠ 0 then
    AdaptationFieldHeader.encode
      { mAdaptationFieldLength := 0x01, mRandomAccessIndicator := rFrame.mRandomAccess }
  else []

theorem isField_startField (mPcrPid : UInt16) (rFrame : EsFrame) :
    IsField (startField mPcrPid rFrame) := by
  intro length rest h
  unfold startField at h
  split_ifs at h
  · obtain ⟨rfl, rfl⟩ := List.cons.inj h
    rfl
  · obtain ⟨rfl, rfl⟩ := List.cons.inj h
    rfl

theorem length_startField_le (mPcrPid : UInt16) (rFrame : EsFrame) :
    (startField mPcrPid rFrame).length ≤ 8 := by
  unfold startField
  split_ifs
  · exact Nat.le_refl 8
  · exact (by decide : 2 ≤ 8)
  · exact Nat.zero_le 8

/-- The number of bytes of timestamps in a PES header. -/
theorem length_pesHeader_le (rFrame : EsFrame) :
    14 ≤ (MpegTsMuxer.pesHeader rFrame).length ∧ (MpegTsMuxer.pesHeader rFrame).length ≤ 19 := by
  unfold MpegTsMuxer.pesHeader
  generalize decide (rFrame.mPts ≠ rFrame.mDts) = both
  cases both with
  | true => exact (by decide : 14 ≤ 19 ∧ 19 ≤ 19)
  | false => exact (by decide : 14 ≤ 14 ∧ 14 ≤ 19)

/-! ### Packets -/

/-- A packet of an elementary stream: its adaptation field, which may be missing,
and its payload. -/
def streamPacket (pid : UInt16) (start : Bool) (cc : UInt8) (field body : List UInt8) :
    List UInt8 :=
  (streamHeader pid start (decide (field ≠ [])) cc).encode ++ field ++ body

theorem length_streamPacket (pid : UInt16) (start : Bool) (cc : UInt8) (field body : List UInt8) :
    (streamPacket pid start cc field body).length = 4 + field.length + body.length := by
  unfold streamPacket
  rw [List.length_append, List.length_append, length_encode]

/-- `stuffingField` over what stands behind the header. -/
theorem stuffingField_append (a b c d : UInt8) {old after : List UInt8}
    (hone : 1 ≤ old.length) :
    MpegTsMuxer.stuffingField ([a, b, c, d] ++ old ++ after) old.length =
      [a, b, c, d] ++ stuffing old.length ++ after := by
  unfold MpegTsMuxer.stuffingField stuffing
  cases old with
  | nil => simp at hone
  | cons e old =>
      cases old with
      | nil => rfl
      | cons f old =>
          have htwo : 2 ≤ (e :: f :: old).length := by simp
          have hlen : (e :: f :: old).length - 2 = old.length := by simp
          rw [if_pos htwo, if_pos htwo, hlen]
          have hwrite := @overwrite_append UInt8
            [a, b, c, d, UInt8.ofNat ((e :: f :: old).length - 1), 0] old after
            (List.replicate old.length 0xff) 6 rfl List.length_replicate
          exact hwrite.trans rfl

/-- Stuffing without an adaptation field: one is made. -/
theorem stuff_none (pid : UInt16) (first : Bool) (cc : UInt8) {pes : List UInt8}
    (hpes : first = false → pes = []) {room size : ℕ} (hone : 1 ≤ size) (hsize : size ≤ room) :
    ∃ after : List UInt8, after.length = room - size ∧
      MpegTsMuxer.stuff (streamHeader pid first false cc) first
          ((streamHeader pid first false cc).encode ++ pes ++ List.replicate room 0)
          (4 + pes.length) size =
        (streamHeader pid first true cc).encode ++ stuffing size ++ pes ++ after := by
  have hplain : ¬ ((streamHeader pid first false cc).mAdaptationFieldControl = mAdaptionOnly ∨
      (streamHeader pid first false cc).mAdaptationFieldControl = mPayloadAdaptionBoth) := by
    show ¬ (mPayloadOnly = mAdaptionOnly ∨ mPayloadOnly = mPayloadAdaptionBoth)
    decide
  obtain ⟨a, b, c, d, hheader⟩ : ∃ a b c d,
      (streamHeader pid first true cc).encode = [a, b, c, d] := ⟨_, _, _, _, rfl⟩
  -- what is written over by the stuffing and by what moves behind it
  obtain ⟨old, rest, hrest, hold, hlen⟩ :=
    @exists_split UInt8 (pes ++ List.replicate room 0) size (by
      rw [List.length_append, List.length_replicate]; omega)
  obtain ⟨under, after, rfl, hunder, hafter⟩ := @exists_split UInt8 rest pes.length (by
    rw [hlen, List.length_append, List.length_replicate]; omega)
  rw [hlen, List.length_append, List.length_replicate] at hafter
  refine ⟨after, by omega, ?_⟩
  have hwritten : (([a, b, c, d] ++ pes ++ List.replicate room (0 : UInt8)).take
      (4 + pes.length)).drop 4 = pes := by
    rw [List.take_left' (by simp only [List.length_append, List.length_cons, List.length_nil])]
    rfl
  have hpacket : [a, b, c, d] ++ pes ++ List.replicate room 0 =
      [a, b, c, d] ++ old ++ under ++ after := by
    rw [List.append_assoc, hrest]
    simp only [List.append_assoc]
  have hmoved := @overwrite_append UInt8 ([a, b, c, d] ++ old) under after pes (4 + size)
    (by rw [List.length_append, hold]; rfl) hunder.symm
  have hfield := @stuffingField_append a b c d old (pes ++ after) (by omega)
  have hagain := @stuffingField_append a b c d (stuffing old.length) (pes ++ after)
    (by rw [length_stuffing (by omega)]; omega)
  rw [length_stuffing (by omega)] at hagain
  unfold MpegTsMuxer.stuff
  rw [if_neg hplain, List.append_assoc, set_streamHeader, ← List.append_assoc, hheader]
  dsimp only
  rw [hwritten]
  cases first with
  | true =>
      rw [if_pos rfl, hpacket, hmoved, ← hold, List.append_assoc ([a, b, c, d] ++ old), hfield,
        hagain]
      simp only [List.append_assoc]
  | false =>
      obtain rfl := hpes rfl
      have hnone : under = [] := List.length_eq_zero_iff.mp hunder
      rw [if_neg Bool.false_ne_true, setData_nil, hpacket, hnone, ← hold, List.append_nil,
        List.append_nil]
      exact hfield

/-- Stuffing widens an adaptation field. -/
theorem stuff_field (pid : UInt16) (cc : UInt8) {length : UInt8} {field pes : List UInt8}
    (hfield : length.toNat = field.length) {room size : ℕ} (hsize : size ≤ room) :
    ∃ after : List UInt8, after.length = room - size ∧
      MpegTsMuxer.stuff (streamHeader pid true true cc) true
          ((streamHeader pid true true cc).encode ++ (length :: field) ++ pes ++
            List.replicate room 0) (4 + (length :: field).length + pes.length) size =
        (streamHeader pid true true cc).encode ++ widen (length :: field) size ++ pes ++ after := by
  have hboth : (streamHeader pid true true cc).mAdaptationFieldControl = mAdaptionOnly ∨
      (streamHeader pid true true cc).mAdaptationFieldControl = mPayloadAdaptionBoth := .inr rfl
  obtain ⟨a, b, c, d, hheader⟩ : ∃ a b c d,
      (streamHeader pid true true cc).encode = [a, b, c, d] := ⟨_, _, _, _, rfl⟩
  obtain ⟨old, rest, hrest, hold, hlen⟩ :=
    @exists_split UInt8 (pes ++ List.replicate room 0) size (by
      rw [List.length_append, List.length_replicate]; omega)
  obtain ⟨under, after, rfl, hunder, hafter⟩ := @exists_split UInt8 rest pes.length (by
    rw [hlen, List.length_append, List.length_replicate]; omega)
  rw [hlen, List.length_append, List.length_replicate] at hafter
  refine ⟨after, by omega, ?_⟩
  unfold MpegTsMuxer.stuff
  rw [if_pos hboth, hheader]
  generalize hfront : [a, b, c, d] ++ (length :: field) = front
  have hfrontLen : front.length = 5 + field.length := by
    rw [← hfront, List.length_append, List.length_cons]
    show 4 + (field.length + 1) = _
    omega
  have hbyte : (front ++ pes ++ List.replicate room 0).getD 4 0 = length := by
    rw [← hfront]
    rfl
  have hpos : 4 + (length :: field).length + pes.length = (front ++ pes).length := by
    rw [List.length_append, hfrontLen, List.length_cons]
    omega
  have hwritten : ((front ++ pes ++ List.replicate room 0).take
      (4 + (length :: field).length + pes.length)).drop (5 + length.toNat) = pes := by
    rw [hpos, List.take_left, hfield, ← hfrontLen, List.drop_left]
  have hpacket : front ++ pes ++ List.replicate room 0 = front ++ old ++ under ++ after := by
    rw [List.append_assoc, hrest]
    simp only [List.append_assoc]
  have hmoved := @overwrite_append UInt8 (front ++ old) under after pes
    (5 + length.toNat + size) (by rw [List.length_append, hold, hfrontLen, hfield]) hunder.symm
  have hfilled := @overwrite_append UInt8 front old (pes ++ after)
    (List.replicate size 0xff) (5 + length.toNat) (by rw [hfrontLen, hfield])
    (by rw [List.length_replicate, hold])
  simp only [hbyte, if_true]
  rw [hwritten, hpacket, hmoved, List.append_assoc (front ++ old), hfilled, ← hfront]
  unfold widen
  simp only [List.append_assoc, List.cons_append]
  rfl

/-! ### One round -/

section Round

variable (muxer : MpegTsMuxer) (rFrame : EsFrame) (cc : UInt8)

/-- What is written before the body of a packet, behind its header. -/
def startOfPacket (first : Bool) : List UInt8 × List UInt8 :=
  if first then (startField muxer.mPcrPid rFrame, MpegTsMuxer.pesHeader rFrame) else ([], [])

theorem pesStart_eq (first : Bool) :
    muxer.pesStart rFrame first cc =
      (let (field, pes) := startOfPacket muxer rFrame first
      let header := streamHeader rFrame.mPid first (decide (field ≠ [])) cc
      (header, header.encode ++ field ++ pes)) := by
  unfold MpegTsMuxer.pesStart startOfPacket startField
  cases first with
  | false => rfl
  | true =>
      by_cases hpcr : rFrame.mPid = muxer.mPcrPid
      · simp only [if_true, if_pos hpcr, List.append_assoc]
        rfl
      · by_cases hrandom : rFrame.mRandomAccess ≠ 0
        · simp only [if_true, if_neg hpcr, if_pos hrandom, List.append_assoc]
          rfl
        · simp only [if_true, if_neg hpcr, if_neg hrandom, List.append_nil]
          rfl

theorem startOfPacket_spec (first : Bool) :
    IsField (startOfPacket muxer rFrame first).1 ∧
      (startOfPacket muxer rFrame first).1.length + (startOfPacket muxer rFrame first).2.length ≤
        27 ∧
      (first = false → startOfPacket muxer rFrame first = ([], [])) := by
  unfold startOfPacket
  cases first with
  | true =>
      have hfield := length_startField_le muxer.mPcrPid rFrame
      have hpes := length_pesHeader_le rFrame
      exact ⟨isField_startField _ _, by simp only [if_true]; omega, by simp⟩
  | false =>
      refine ⟨?_, Nat.zero_le _, fun _ => rfl⟩
      intro length rest h
      cases h

/-- Stuffing, with or without an adaptation field. -/
theorem stuff_eq (pid : UInt16) {first : Bool} {field pes : List UInt8} (hfield : IsField field)
    (hfirst : first = false → field = [] ∧ pes = []) {room size : ℕ} (hone : 1 ≤ size)
    (hsize : size ≤ room) :
    ∃ after : List UInt8, after.length = room - size ∧
      MpegTsMuxer.stuff (streamHeader pid first (decide (field ≠ [])) cc) first
          ((streamHeader pid first (decide (field ≠ [])) cc).encode ++ field ++ pes ++
            List.replicate room 0) (4 + field.length + pes.length) size =
        (streamHeader pid first true cc).encode ++ widen field size ++ pes ++ after := by
  cases field with
  | nil =>
      obtain ⟨after, hafter, hstuff⟩ :=
        stuff_none pid first cc (fun h => (hfirst h).2) hone hsize
      refine ⟨after, hafter, ?_⟩
      unfold widen
      rw [if_neg (by omega), ← hstuff]
      simp only [ne_eq, not_true_eq_false, decide_false, List.append_nil, List.length_nil,
        Nat.add_zero]
  | cons length field =>
      cases first with
      | false => exact absurd (hfirst rfl).1 (List.cons_ne_nil _ _)
      | true => exact stuff_field pid cc (hfield length field rfl) hsize

/-- What a round writes, and how much of the frame it takes. -/
theorem pesPacket_eq (first : Bool) :
    muxer.pesPacket rFrame first cc =
      (let (field, pes) := startOfPacket muxer rFrame first
      let room := 184 - field.length - pes.length
      (streamPacket rFrame.mPid first cc (widen field (room - rFrame.mData.unread.length))
        (pes ++ rFrame.mData.unread.take room), min room rFrame.mData.unread.length)) := by
  obtain ⟨hfield, hlength, hfirst⟩ := startOfPacket_spec muxer rFrame first
  unfold MpegTsMuxer.pesPacket
  rw [pesStart_eq]
  generalize rFrame.mData.unread = unread
  generalize startOfPacket muxer rFrame first = start at hfield hlength hfirst ⊢
  obtain ⟨field, pes⟩ := start
  dsimp only at hfield hlength ⊢
  generalize hheader : streamHeader rFrame.mPid first (decide (field ≠ [])) cc = header
  have hpos : (header.encode ++ field ++ pes).length = 4 + field.length + pes.length := by
    rw [List.length_append, List.length_append, length_encode]
  have hroom : 188 - (4 + field.length + pes.length) = 184 - field.length - pes.length := by
    omega
  rw [hpos, hroom]
  generalize hsize : 184 - field.length - pes.length = room
  unfold streamPacket
  by_cases hfull : room ≤ unread.length
  · have hwrite := @setData_append (header.encode ++ field ++ pes) (List.replicate room 0) []
      (unread.take room) (4 + field.length + pes.length) hpos.symm
      (by rw [List.length_take, List.length_replicate]; omega)
    rw [List.append_nil, List.append_nil] at hwrite
    rw [if_pos hfull, hwrite, Nat.sub_eq_zero_of_le hfull, widen_zero, hheader,
      Nat.min_eq_left hfull, List.append_assoc (header.encode ++ field)]
  · obtain ⟨after, hafter, hstuff⟩ := stuff_eq cc rFrame.mPid hfield
      (fun h => Prod.mk.inj (hfirst h)) (show 1 ≤ room - unread.length by omega)
      (Nat.sub_le room unread.length)
    have hwiden : decide (widen field (room - unread.length) ≠ []) = true := by
      rw [decide_eq_true_eq, ← List.length_pos_iff_ne_nil, length_widen]
      omega
    have hwrite := @setData_append ((streamHeader rFrame.mPid first true cc).encode ++
      widen field (room - unread.length) ++ pes) after [] unread
      (4 + field.length + pes.length + (room - unread.length))
      (by
        rw [List.length_append, List.length_append, length_encode, length_widen]
        omega)
      (by omega)
    rw [List.append_nil, List.append_nil] at hwrite
    rw [if_neg hfull, ← hheader, hstuff, hwrite, hwiden, Nat.min_eq_right (by omega),
      List.take_of_length_le (by omega), List.append_assoc (_ ++ widen field _)]

end Round

/-! ### All rounds -/

/-- The packets behind the first one, with the data they carry. -/
inductive Fragments (pid : UInt16) : List (List UInt8) → List UInt8 → Prop
  | nil : Fragments pid [] []
  | cons (cc : UInt8) {body data : List UInt8} {packets : List (List UInt8)}
      (hbody : body ≠ []) (hlength : body.length ≤ 184) (hrest : Fragments pid packets data) :
      Fragments pid (streamPacket pid false cc (widen [] (184 - body.length)) body :: packets)
        (body ++ data)

theorem Fragments.eq_nil {pid : UInt16} {packets : List (List UInt8)} {data : List UInt8}
    (h : Fragments pid packets data) (hdata : data = []) : packets = [] := by
  cases h with
  | nil => rfl
  | cons cc hbody hlength hrest => exact absurd (List.append_eq_nil_iff.mp hdata).1 hbody

/-- How much of a frame its first packet holds. -/
def firstRoom (mPcrPid : UInt16) (rFrame : EsFrame) : ℕ :=
  184 - (startField mPcrPid rFrame).length - (MpegTsMuxer.pesHeader rFrame).length

/-- The first packet of a frame. -/
def firstPacket (mPcrPid : UInt16) (rFrame : EsFrame) (cc : UInt8) : List UInt8 :=
  streamPacket rFrame.mPid true cc
    (widen (startField mPcrPid rFrame)
      (firstRoom mPcrPid rFrame - rFrame.mData.mData.length))
    (MpegTsMuxer.pesHeader rFrame ++ rFrame.mData.mData.take (firstRoom mPcrPid rFrame))

/-- The packets of a frame.  A frame without data has none. -/
inductive FramePackets (mPcrPid : UInt16) (rFrame : EsFrame) : List (List UInt8) → Prop
  | empty (hdata : rFrame.mData.mData = []) : FramePackets mPcrPid rFrame []
  | frame (cc : UInt8) {rest : List (List UInt8)} (hdata : rFrame.mData.mData ≠ [])
      (hrest : Fragments rFrame.mPid rest
        (rFrame.mData.mData.drop (firstRoom mPcrPid rFrame))) :
      FramePackets mPcrPid rFrame (firstPacket mPcrPid rFrame cc :: rest)

theorem firstRoom_pos (mPcrPid : UInt16) (rFrame : EsFrame) : 157 ≤ firstRoom mPcrPid rFrame := by
  have hfield := length_startField_le mPcrPid rFrame
  have hpes := length_pesHeader_le rFrame
  unfold firstRoom
  omega

theorem pesLoop_fragments (rounds : ℕ) {muxer : MpegTsMuxer} {rFrame : EsFrame}
    (hrounds : rFrame.mData.unread.length ≤ rounds) :
    ∃ packets, Fragments rFrame.mPid packets rFrame.mData.unread ∧
      (muxer.pesLoop rFrame false rounds).2 = packets.flatten ∧
      SameSettings (muxer.pesLoop rFrame false rounds).1 muxer := by
  induction rounds generalizing muxer rFrame with
  | zero =>
      have hnil : rFrame.mData.unread = [] := List.length_eq_zero_iff.mp (by omega)
      rw [hnil]
      exact ⟨[], .nil, rfl, rfl⟩
  | succ rounds ih =>
      by_cases hempty : rFrame.mData.unread = []
      · rw [pesLoop_of_empty _ _ hempty, hempty]
        exact ⟨[], .nil, rfl, rfl⟩
      · have hpos : 0 < rFrame.mData.unread.length := List.length_pos_of_ne_nil hempty
        generalize hkey : rFrame.mStreamType.toUInt32 = key
        have hpacket := pesPacket_eq (muxer.getCc key).2 rFrame (muxer.getCc key).1 false
        have hskip := unread_skip rFrame.mData (min 184 rFrame.mData.unread.length)
        obtain ⟨packets, hfragments, hout, hsame⟩ := @ih (muxer.getCc key).2
          { rFrame with mData := rFrame.mData.skip (min 184 rFrame.mData.unread.length) } (by
            simp only [hskip, List.length_drop]
            omega)
        rw [pesLoop_succ rFrame false rounds hempty hkey hpacket]
        refine ⟨_ :: packets, ?_, by rw [List.flatten_cons, ← hout]; rfl,
          hsame.trans (sameSettings_getCc key)⟩
        have hbody : rFrame.mData.unread.take 184 ≠ [] := by
          rw [← List.length_pos_iff_ne_nil, List.length_take]
          omega
        have hcons := Fragments.cons (muxer.getCc key).1 hbody
          (by rw [List.length_take]; omega) hfragments
        simp only [hskip, take_append_drop_min] at hcons
        have hstuff : 184 - (rFrame.mData.unread.take 184).length =
            184 - rFrame.mData.unread.length := by
          rw [List.length_take]
          omega
        rw [hstuff] at hcons
        exact hcons

/-- **The packets of a frame**, on any PID. -/
theorem createPes_packets (muxer : MpegTsMuxer) (rFrame : EsFrame)
    (hfresh : rFrame.mData.mPos = 0) :
    ∃ packets, FramePackets muxer.mPcrPid rFrame packets ∧
      (muxer.createPes rFrame).2 = packets.flatten ∧
      SameSettings (muxer.createPes rFrame).1 muxer := by
  have hunread : rFrame.mData.unread = rFrame.mData.mData := by
    unfold SimpleBuffer.unread
    rw [hfresh, List.drop_zero]
  unfold MpegTsMuxer.createPes SimpleBuffer.size
  by_cases hempty : rFrame.mData.mData = []
  · rw [pesLoop_of_empty _ _ (hunread.trans hempty)]
    exact ⟨[], .empty hempty, rfl, rfl⟩
  · have hne : rFrame.mData.mData.length ≠ 0 := mt List.length_eq_zero_iff.mp hempty
    obtain ⟨rounds, hrounds⟩ := Nat.exists_eq_succ_of_ne_zero hne
    have hroom := firstRoom_pos muxer.mPcrPid rFrame
    generalize hkey : rFrame.mStreamType.toUInt32 = key
    have hpacket := pesPacket_eq (muxer.getCc key).2 rFrame (muxer.getCc key).1 true
    rw [hunread] at hpacket
    have hloop := pesLoop_succ rFrame true rounds (by rw [hunread]; exact hempty) hkey hpacket
    have hskip := unread_skip rFrame.mData
      (min (firstRoom muxer.mPcrPid rFrame) rFrame.mData.mData.length)
    rw [hunread] at hskip
    obtain ⟨packets, hfragments, hout, hsame⟩ := @pesLoop_fragments rounds (muxer.getCc key).2
      { rFrame with
        mData := rFrame.mData.skip
          (min (firstRoom muxer.mPcrPid rFrame) rFrame.mData.mData.length) } (by
        simp only [hskip, List.length_drop]
        omega)
    rw [hrounds, ← Nat.add_one, hloop]
    refine ⟨firstPacket muxer.mPcrPid rFrame (muxer.getCc key).1 :: packets,
      .frame (muxer.getCc key).1 hempty ?_, ?_, hsame.trans (sameSettings_getCc key)⟩
    · simp only [hskip] at hfragments
      have hdrop : rFrame.mData.mData.drop
          (min (firstRoom muxer.mPcrPid rFrame) rFrame.mData.mData.length) =
          rFrame.mData.mData.drop (firstRoom muxer.mPcrPid rFrame) := by
        rw [← List.drop_eq_drop_min]
      rw [hdrop] at hfragments
      exact hfragments
    · rw [List.flatten_cons, ← hout]
      rfl

/-! ### Tables -/

/-- A section behind its pointer field, and what fills the packet. -/
theorem sectionPacket_eq (pid : UInt16) (cc : UInt8) (table : List UInt8)
    (htable : table.length ≤ 179) :
    (sectionPacket (tableHeader pid cc) table).length = 188 ∧
      ∃ filling, sectionPacket (tableHeader pid cc) table =
        (tableHeader pid cc).encode ++ 0 :: (table ++ filling) := by
  generalize hcrc : write4Bytes (crc32 (((tableHeader pid cc).encode ++
    AdaptationFieldHeader.encode {} ++ table).drop 5)) = crc
  have hcrcLen : crc.length = 4 := by
    rw [← hcrc]
    rfl
  have hpacket : sectionPacket (tableHeader pid cc) table =
      (tableHeader pid cc).encode ++ 0 :: (table ++
        (crc ++ List.replicate (188 - (5 + table.length + 4)) 0xff)) := by
    have hlen : ((tableHeader pid cc).encode ++ AdaptationFieldHeader.encode {} ++ table ++
        crc).length = 5 + table.length + 4 := by
      rw [List.length_append, List.length_append, hcrcLen]
      rfl
    unfold sectionPacket stuffed
    simp only [hcrc]
    rw [hlen]
    simp only [List.append_assoc]
    rfl
  refine ⟨?_, _, hpacket⟩
  rw [hpacket]
  simp only [List.length_append, List.length_cons, List.length_replicate, hcrcLen, length_encode]
  omega

/-- The header of the PAT. -/
def patHeader : PATHeader where
  mTableId := 0x00
  mSectionSyntaxIndicator := 1
  mReserved0 := 0x3
  mReserved1 := 0x3
  mCurrentNextIndicator := 1
  mSectionLength := (4 + 4 + 5) &&& 0x3ff

/-- The section of the PAT. -/
def patSection (lPmtPid : UInt16) : List UInt8 :=
  patHeader.encode ++ write2Bytes 0x0001 ++ write2Bytes (0xe000 ||| (lPmtPid &&& 0x1fff))

theorem createPat_eq (lPmtPid : UInt16) (cc : UInt8) :
    createPat lPmtPid cc = sectionPacket (tableHeader MPEGTS_PAT_PID cc) (patSection lPmtPid) :=
  rfl

theorem createPmt_program {muxer : MpegTsMuxer}
    (hlen : muxer.mStreamPidMap.toList.length ≤ 33) (cc : UInt8) :
    muxer.createPmt muxer.mStreamPidMap muxer.mPmtPid cc =
      sectionPacket (tableHeader muxer.mPmtPid cc)
        (programHeader muxer.mPcrPid muxer.mStreamPidMap.toList).encode := by
  have hmask : ∀ count : Fin 34,
      UInt16.ofNat (13 + 5 * count) &&& 0x3ff = UInt16.ofNat (13 + 5 * count) := by
    decide
  have hlength : UInt16.ofNat ((muxer.mStreamPidMap.toList.map info).foldl
      (fun lRet info => lRet + info.size) 12 - 3 + 4) &&& 0x3ff =
        UInt16.ofNat (13 + 5 * muxer.mStreamPidMap.toList.length) := by
    rw [foldl_size_info, ← hmask ⟨_, Nat.lt_succ_of_le hlen⟩]
    congr 2
    show _ = 13 + 5 * muxer.mStreamPidMap.toList.length
    omega
  unfold MpegTsMuxer.createPmt programHeader pmtHeader
  rw [← hlength]
  rfl

theorem length_programHeader (mPcrPid : UInt16) {entries : List (UInt8 × UInt16)}
    (hlen : entries.length ≤ 33) : (programHeader mPcrPid entries).encode.length ≤ 179 := by
  rw [encode_programHeader mPcrPid hlen, List.length_append, length_flatMap_info]
  show 12 + _ ≤ 179
  omega

end Mpegts
