import Xrtc.MpegtsMuxer

/-!
# The layout of one packet

What a round of `createPes` writes into a packet, as a concatenation of its
parts, and what a receiver reads from it: the header, and the payload that is
left after the adaptation field.  The first packet of a frame always has an
adaptation field with a PCR, which stuffing widens; a later packet gets one only
for stuffing.
-/

open Framing

namespace Mpegts

/-! ### Reading a packet -/

theorem decode_append {bytes rest rest' : List UInt8} {h : TsHeader}
    (hdecode : TsHeader.decode bytes = some (h, rest)) :
    TsHeader.decode (bytes ++ rest') = some (h, rest ++ rest') := by
  unfold TsHeader.decode at hdecode ⊢
  split at hdecode
  · simp only [Option.some.injEq, Prod.mk.injEq] at hdecode
    obtain ⟨rfl, rfl⟩ := hdecode
    rfl
  · cases hdecode

/-- The header of a packet. -/
def header (packet : List UInt8) : TsHeader :=
  ((TsHeader.decode packet).map Prod.fst).getD { mSyncByte := 0 }

/-- The packet has a payload, with or without an adaptation field before it. -/
def hasPayload (packet : List UInt8) : Bool :=
  (header packet).mAdaptationFieldControl == mPayloadOnly ||
    (header packet).mAdaptationFieldControl == mPayloadAdaptionBoth

/-- What follows the header and the adaptation field. -/
def payload (packet : List UInt8) : List UInt8 :=
  if (header packet).mAdaptationFieldControl = mPayloadOnly then packet.drop 4
  else if (header packet).mAdaptationFieldControl = mPayloadAdaptionBoth then
    (packet.drop 4).drop (1 + ((packet.drop 4).headD 0).toNat)
  else []

/-! ### Headers of elementary stream packets -/

/-- The header of a packet on `VIDEO_PID`. -/
def esHeader (start adaptation : Bool) (cc : UInt8) : TsHeader where
  mPayloadUnitStartIndicator := if start then 1 else 0
  mPid := VIDEO_PID
  mAdaptationFieldControl := if adaptation then mPayloadAdaptionBoth else mPayloadOnly
  mContinuityCounter := cc

theorem length_encode (h : TsHeader) : h.encode.length = 4 :=
  rfl

theorem decode_esHeader (start adaptation : Bool) (i : Fin 16) (rest : List UInt8) :
    TsHeader.decode ((esHeader start adaptation (UInt8.ofNat i)).encode ++ rest) =
      some (esHeader start adaptation (UInt8.ofNat i), rest) := by
  have hdecode : ∀ start adaptation, ∀ i : Fin 16,
      TsHeader.decode (esHeader start adaptation (UInt8.ofNat i)).encode =
        some (esHeader start adaptation (UInt8.ofNat i), []) := by
    decide
  exact decode_append (hdecode start adaptation i)

theorem header_esHeader (start adaptation : Bool) (i : Fin 16) (rest : List UInt8) :
    header ((esHeader start adaptation (UInt8.ofNat i)).encode ++ rest) =
      esHeader start adaptation (UInt8.ofNat i) := by
  unfold header
  rw [decode_esHeader]
  rfl

/-- Setting the adaptation field bit in the fourth byte. -/
theorem set_adaptation_bit (start : Bool) (i : Fin 16) (rest : List UInt8) :
    ((esHeader start false (UInt8.ofNat i)).encode ++ rest).set 3
        (((esHeader start false (UInt8.ofNat i)).encode ++ rest).getD 3 0 ||| 0x20) =
      (esHeader start true (UInt8.ofNat i)).encode ++ rest := by
  have hset : ∀ start, ∀ i : Fin 16,
      (esHeader start false (UInt8.ofNat i)).encode.set 3
          ((esHeader start false (UInt8.ofNat i)).encode.getD 3 0 ||| 0x20) =
        (esHeader start true (UInt8.ofNat i)).encode := by
    decide
  rw [← hset start i]
  rfl

theorem setData_append {before old after bytes : List UInt8} {pos : ℕ}
    (hpos : pos = before.length) (hlen : bytes.length = old.length) :
    setData (before ++ old ++ after) pos bytes = before ++ bytes ++ after := by
  unfold setData
  rw [if_neg (by simp only [List.length_append]; omega)]
  exact overwrite_append hpos hlen

/-- Writing no bytes changes nothing. -/
theorem setData_nil (packet : List UInt8) (pos : ℕ) : setData packet pos [] = packet := by
  unfold setData overwrite
  split_ifs
  · rfl
  · rw [List.append_nil, List.length_nil, Nat.add_zero, List.take_append_drop]

/-! ### Packets after the first -/

/-- An adaptation field that is nothing but `size` bytes of stuffing. -/
def stuffing (size : ℕ) : List UInt8 :=
  UInt8.ofNat (size - 1) :: (if 2 ≤ size then 0 :: List.replicate (size - 2) 0xff else [])

theorem length_stuffing {size : ℕ} (hsize : 1 ≤ size) : (stuffing size).length = size := by
  unfold stuffing
  split_ifs with htwo
  · simp only [List.length_cons, List.length_replicate]
    omega
  · simp only [List.length_cons, List.length_nil]
    omega

/-- A packet that is not the first of its frame. -/
def nextPacket (cc : UInt8) (body : List UInt8) : List UInt8 :=
  if body.length = 184 then (esHeader false false cc).encode ++ body
  else (esHeader false true cc).encode ++ stuffing (184 - body.length) ++ body

/-- `stuffingField` on a packet with nothing but a header. -/
theorem stuffingField_eq (a b c d : UInt8) {size : ℕ} (hone : 1 ≤ size) (hmax : size ≤ 184) :
    MpegTsMuxer.stuffingField ([a, b, c, d] ++ List.replicate 184 0) size =
      [a, b, c, d] ++ stuffing size ++ List.replicate (184 - size) 0 := by
  unfold MpegTsMuxer.stuffingField stuffing
  by_cases htwo : 2 ≤ size
  · have hzeros : List.replicate 182 (0 : UInt8) =
        List.replicate (size - 2) 0 ++ List.replicate (184 - size) 0 := by
      rw [← List.replicate_add]
      congr 1
      omega
    rw [if_pos htwo, if_pos htwo]
    have hwrite := @overwrite_append UInt8 [a, b, c, d, UInt8.ofNat (size - 1), 0]
      (List.replicate (size - 2) 0) (List.replicate (184 - size) 0)
      (List.replicate (size - 2) 0xff) 6 rfl (by simp only [List.length_replicate])
    show overwrite ([a, b, c, d, UInt8.ofNat (size - 1), 0] ++ List.replicate 182 0) 6 _ = _
    rw [hzeros, ← List.append_assoc, hwrite]
    simp only [List.cons_append, List.nil_append]
  · obtain rfl : size = 1 := by omega
    rw [if_neg htwo, if_neg htwo]
    rfl

theorem stuff_next (i : Fin 16) {size : ℕ} (hone : 1 ≤ size) (hmax : size ≤ 184) :
    MpegTsMuxer.stuff (esHeader false false (UInt8.ofNat i)) false
        ((esHeader false false (UInt8.ofNat i)).encode ++ List.replicate 184 0) 4 size =
      (esHeader false true (UInt8.ofNat i)).encode ++ stuffing size ++
        List.replicate (184 - size) 0 := by
  have hplain : ¬ ((esHeader false false (UInt8.ofNat i)).mAdaptationFieldControl =
      mAdaptionOnly ∨ (esHeader false false (UInt8.ofNat i)).mAdaptationFieldControl =
      mPayloadAdaptionBoth) := by
    show ¬ (mPayloadOnly = mAdaptionOnly ∨ mPayloadOnly = mPayloadAdaptionBoth)
    decide
  have hnone : (((esHeader false true (UInt8.ofNat i)).encode ++
      List.replicate 184 (0 : UInt8)).take 4).drop 4 = [] := rfl
  unfold MpegTsMuxer.stuff
  rw [if_neg hplain, set_adaptation_bit]
  simp only [Bool.false_eq_true, if_false]
  rw [hnone, setData_nil]
  exact stuffingField_eq _ _ _ _ hone hmax

variable (muxer : MpegTsMuxer)

/-- What a round after the first writes. -/
theorem pesPacket_next {rFrame : EsFrame} (hpid : rFrame.mPid = VIDEO_PID) (i : Fin 16)
    (hunread : rFrame.mData.unread ≠ []) :
    muxer.pesPacket rFrame false (UInt8.ofNat i) =
      (nextPacket (UInt8.ofNat i) (rFrame.mData.unread.take 184),
        min 184 rFrame.mData.unread.length) := by
  have hstart : muxer.pesStart rFrame false (UInt8.ofNat i) =
      (esHeader false false (UInt8.ofNat i),
        (esHeader false false (UInt8.ofNat i)).encode) := by
    unfold MpegTsMuxer.pesStart esHeader
    rw [hpid]
    rfl
  have hpos : 0 < rFrame.mData.unread.length := List.length_pos_of_ne_nil hunread
  unfold MpegTsMuxer.pesPacket nextPacket
  rw [hstart]
  simp only [length_encode, Nat.reduceSub, List.length_take]
  generalize rFrame.mData.unread = unread at hpos ⊢
  by_cases hfull : 184 ≤ unread.length
  · simp only [hfull, if_true, Nat.min_eq_left]
    have hwrite := @setData_append (esHeader false false (UInt8.ofNat i)).encode
      (List.replicate 184 0) [] (unread.take 184) 4 rfl
      (by rw [List.length_take, List.length_replicate]; omega)
    rw [List.append_nil, List.append_nil] at hwrite
    rw [hwrite]
  · have hne : unread.length ≠ 184 := by omega
    have hone : 1 ≤ 184 - unread.length := by omega
    rw [Nat.min_eq_right (by omega), List.take_of_length_le (by omega)]
    simp only [hfull, hne, if_false]
    have hwrite := @setData_append
      ((esHeader false true (UInt8.ofNat i)).encode ++ stuffing (184 - unread.length))
      (List.replicate (184 - (184 - unread.length)) 0) [] unread (4 + (184 - unread.length))
      (by rw [List.length_append, length_stuffing hone]; rfl)
      (by rw [List.length_replicate]; omega)
    rw [List.append_nil, List.append_nil] at hwrite
    rw [stuff_next i hone (by omega), hwrite]

/-! ### The first packet -/

/-- The flags of the adaptation field of a first packet: a PCR is present, and
the random access indicator is that of the frame. -/
def startFlags (isKeyFrame : Bool) : UInt8 :=
  if isKeyFrame then 0x50 else 0x10

/-- The first packet of a frame, with `size` bytes of stuffing. -/
def startPacket (cc : UInt8) (isKeyFrame : Bool) (size : ℕ) (pes body : List UInt8) :
    List UInt8 :=
  (esHeader true true cc).encode ++
    (UInt8.ofNat (7 + size) :: startFlags isKeyFrame :: writePcr 0) ++
    List.replicate size 0xff ++ pes ++ body

variable (frame : Frame)

/-- The wrapper gives a frame one timestamp. -/
theorem pts_eq_dts : decide ((SimpleMpegtsMuxer.esFrame frame).mPts ≠
    (SimpleMpegtsMuxer.esFrame frame).mDts) = false :=
  decide_eq_false (not_not.mpr rfl)

theorem length_pesHeader :
    (MpegTsMuxer.pesHeader (SimpleMpegtsMuxer.esFrame frame)).length = 14 := by
  have hboth := pts_eq_dts frame
  unfold MpegTsMuxer.pesHeader
  simp only [hboth]
  rfl

theorem encode_startField (isKeyFrame : Bool) :
    AdaptationFieldHeader.encode
        { mAdaptationFieldLength := 0x07
          mRandomAccessIndicator := if isKeyFrame then 1 else 0
          mPcrFlag := 0x01 } =
      [7, startFlags isKeyFrame] := by
  cases isKeyFrame <;> decide

theorem pesStart_first (hpcr : muxer.mPcrPid = PCR_PID) (cc : UInt8) :
    muxer.pesStart (SimpleMpegtsMuxer.esFrame frame) true cc =
      (esHeader true true cc, (esHeader true true cc).encode ++
        (7 :: startFlags frame.isKeyFrame :: writePcr 0) ++
        MpegTsMuxer.pesHeader (SimpleMpegtsMuxer.esFrame frame)) := by
  have hpid : (SimpleMpegtsMuxer.esFrame frame).mPid = muxer.mPcrPid := hpcr.symm
  have hfield : (SimpleMpegtsMuxer.esFrame frame).mRandomAccess =
      if frame.isKeyFrame then 1 else 0 := rfl
  unfold MpegTsMuxer.pesStart
  simp only [if_true, if_pos hpid, hfield, encode_startField]
  rw [hpid, hpcr]
  rfl

/-- Widening the adaptation field of a first packet and moving the PES header
behind it. -/
theorem stuff_first (cc : UInt8) (flags : UInt8) {pes : List UInt8} (hpes : pes.length = 14)
    {size : ℕ} (hmax : size ≤ 162) :
    ∃ after : List UInt8, after.length = 162 - size ∧
      MpegTsMuxer.stuff (esHeader true true cc) true
          ((esHeader true true cc).encode ++ (7 :: flags :: writePcr 0) ++ pes ++
            List.replicate 162 0) 26 size =
        (esHeader true true cc).encode ++ (UInt8.ofNat (7 + size) :: flags :: writePcr 0) ++
          List.replicate size 0xff ++ pes ++ after := by
  have hboth : (esHeader true true cc).mAdaptationFieldControl = mAdaptionOnly ∨
      (esHeader true true cc).mAdaptationFieldControl = mPayloadAdaptionBoth := Or.inr rfl
  -- what the moved header and the stuffing are written over
  obtain ⟨a, rest, hrest, ha, hlen⟩ :=
    @exists_split UInt8 (pes ++ List.replicate 162 0) size (by
      rw [List.length_append, hpes, List.length_replicate]; omega)
  obtain ⟨b, after, rfl, hb, hafter⟩ := @exists_split UInt8 rest 14 (by
    rw [hlen, List.length_append, hpes, List.length_replicate]; omega)
  rw [hlen, List.length_append, hpes, List.length_replicate] at hafter
  refine ⟨after, by omega, ?_⟩
  unfold MpegTsMuxer.stuff
  rw [if_pos hboth]
  generalize hfront : (esHeader true true cc).encode ++ (7 :: flags :: writePcr 0) = front
  have hfrontLen : front.length = 12 := by
    rw [← hfront]
    rfl
  have hseven : (front ++ pes ++ List.replicate 162 0).getD 4 0 = 7 := by
    rw [← hfront]
    rfl
  have hwritten : ((front ++ pes ++ List.replicate 162 0).take 26).drop 12 = pes := by
    rw [List.take_left' (by rw [List.length_append, hfrontLen, hpes]),
      List.drop_left' hfrontLen]
  have hmoved := @overwrite_append UInt8 (front ++ a) b after pes (12 + size)
    (by rw [List.length_append, ha, hfrontLen]) (by rw [hpes, hb])
  have hfilled := @overwrite_append UInt8 front a (pes ++ after)
    (List.replicate size 0xff) 12 hfrontLen.symm (by rw [List.length_replicate, ha])
  have hpacket : front ++ pes ++ List.replicate 162 0 = front ++ a ++ b ++ after := by
    rw [List.append_assoc, hrest]
    simp only [List.append_assoc]
  simp only [hseven, if_true]
  show (overwrite (overwrite _ (12 + size) (List.drop 12 _)) 12 _).set 4 _ = _
  rw [hwritten, hpacket, hmoved, List.append_assoc (front ++ a), hfilled, ← hfront,
    UInt8.ofNat_add]
  simp only [List.append_assoc]
  rfl

/-- What the first round writes. -/
theorem pesPacket_first (hpcr : muxer.mPcrPid = PCR_PID) (cc : UInt8) :
    muxer.pesPacket (SimpleMpegtsMuxer.esFrame frame) true cc =
      (startPacket cc frame.isKeyFrame (162 - frame.data.length)
        (MpegTsMuxer.pesHeader (SimpleMpegtsMuxer.esFrame frame)) (frame.data.take 162),
        min 162 frame.data.length) := by
  have hpes := length_pesHeader frame
  have hunread : (SimpleMpegtsMuxer.esFrame frame).mData.unread = frame.data := rfl
  unfold MpegTsMuxer.pesPacket
  rw [pesStart_first muxer frame hpcr, hunread]
  generalize MpegTsMuxer.pesHeader (SimpleMpegtsMuxer.esFrame frame) = pes at hpes ⊢
  have hpos : ((esHeader true true cc).encode ++
      (7 :: startFlags frame.isKeyFrame :: writePcr 0) ++ pes).length = 26 := by
    rw [List.length_append, hpes]
    rfl
  simp only [hpos, Nat.reduceSub]
  unfold startPacket
  by_cases hfull : 162 ≤ frame.data.length
  · have hwrite := @setData_append ((esHeader true true cc).encode ++
      (7 :: startFlags frame.isKeyFrame :: writePcr 0) ++ pes)
      (List.replicate 162 0) [] (frame.data.take 162) 26 hpos.symm
      (by rw [List.length_take, List.length_replicate]; omega)
    rw [List.append_nil, List.append_nil] at hwrite
    simp only [hfull, if_true, Nat.min_eq_left, Nat.sub_eq_zero_of_le]
    rw [hwrite]
    simp
  · obtain ⟨after, hafter, hstuff⟩ := stuff_first cc (startFlags frame.isKeyFrame) hpes
      (show 162 - frame.data.length ≤ 162 by omega)
    have hwrite := @setData_append ((esHeader true true cc).encode ++
      (UInt8.ofNat (7 + (162 - frame.data.length)) :: startFlags frame.isKeyFrame ::
        writePcr 0) ++ List.replicate (162 - frame.data.length) 0xff ++ pes) after []
      frame.data (26 + (162 - frame.data.length))
      (by
        rw [List.length_append, List.length_append, hpes, List.length_replicate]
        show _ = 12 + _ + 14
        omega)
      (by omega)
    rw [List.append_nil, List.append_nil] at hwrite
    rw [Nat.min_eq_right (by omega), List.take_of_length_le (by omega)]
    simp only [hfull, if_false]
    rw [hstuff, hwrite]

/-! ### What a receiver reads -/

/-- A packet on `VIDEO_PID` with counter `i` that carries `body`; `start` is its
payload unit start indicator. -/
structure EsPacket (packet : List UInt8) (start : Bool) (i : Fin 16) (body : List UInt8) :
    Prop where
  length : packet.length = 188
  header : ∃ adaptation, header packet = esHeader start adaptation (UInt8.ofNat i)
  payload : payload packet = body

theorem payload_of_plain {packet rest : List UInt8} {start : Bool} {i : Fin 16}
    (hpacket : packet = (esHeader start false (UInt8.ofNat i)).encode ++ rest) :
    payload packet = rest := by
  have hheader := header_esHeader start false i rest
  rw [← hpacket] at hheader
  unfold payload
  rw [hheader, if_pos (show (esHeader start false (UInt8.ofNat i)).mAdaptationFieldControl =
    mPayloadOnly from rfl), hpacket]
  rfl

/-- An adaptation field is skipped by its length. -/
theorem payload_of_field {packet field rest : List UInt8} {start : Bool} {i : Fin 16}
    (hpacket : packet = (esHeader start true (UInt8.ofNat i)).encode ++ field ++ rest)
    (size : ℕ) (hsize : size < 256) (hhead : field.head? = some (UInt8.ofNat size))
    (hlen : field.length = 1 + size) : payload packet = rest := by
  have hheader := header_esHeader start true i (field ++ rest)
  rw [← List.append_assoc, ← hpacket] at hheader
  have hdrop : packet.drop 4 = field ++ rest := by
    rw [hpacket, List.append_assoc]
    rfl
  have hbyte : ((packet.drop 4).headD 0).toNat = size := by
    rw [hdrop, List.headD_eq_head?_getD, List.head?_append, hhead]
    show (UInt8.ofNat size).toNat = size
    rw [UInt8.toNat_ofNat']
    exact Nat.mod_eq_of_lt hsize
  have hafc : (esHeader start true (UInt8.ofNat i)).mAdaptationFieldControl =
      mPayloadAdaptionBoth := rfl
  have hne : mPayloadAdaptionBoth ≠ mPayloadOnly := by decide
  unfold payload
  rw [hheader, hafc, if_neg hne, if_pos rfl, hbyte, hdrop, ← hlen]
  exact List.drop_left

theorem esPacket_next (i : Fin 16) {body : List UInt8} (hbody : body.length ≤ 184) :
    EsPacket (nextPacket (UInt8.ofNat i) body) false i body := by
  by_cases hfull : body.length = 184
  · have hpacket : nextPacket (UInt8.ofNat i) body =
        (esHeader false false (UInt8.ofNat i)).encode ++ body := if_pos hfull
    refine ⟨?_, ⟨false, ?_⟩, payload_of_plain hpacket⟩
    · rw [hpacket, List.length_append, length_encode, hfull]
    · rw [hpacket, header_esHeader]
  · have hpacket : nextPacket (UInt8.ofNat i) body =
        (esHeader false true (UInt8.ofNat i)).encode ++ stuffing (184 - body.length) ++ body :=
      if_neg hfull
    have hlen : (stuffing (184 - body.length)).length = 184 - body.length :=
      length_stuffing (by omega)
    refine ⟨?_, ⟨true, ?_⟩, ?_⟩
    · rw [hpacket, List.length_append, List.length_append, length_encode, hlen]
      omega
    · rw [hpacket, List.append_assoc, header_esHeader]
    · exact payload_of_field hpacket (184 - body.length - 1) (by omega) rfl (by omega)

theorem esPacket_start (i : Fin 16) (isKeyFrame : Bool) {size : ℕ} {pes body : List UInt8}
    (hpes : pes.length = 14) (hbody : size + body.length = 162) :
    EsPacket (startPacket (UInt8.ofNat i) isKeyFrame size pes body) true i (pes ++ body) := by
  have hpacket : startPacket (UInt8.ofNat i) isKeyFrame size pes body =
      (esHeader true true (UInt8.ofNat i)).encode ++
        ((UInt8.ofNat (7 + size) :: startFlags isKeyFrame :: writePcr 0) ++
          List.replicate size 0xff) ++ (pes ++ body) := by
    unfold startPacket
    simp only [List.append_assoc]
  have hlen : ((UInt8.ofNat (7 + size) :: startFlags isKeyFrame :: writePcr 0) ++
      List.replicate size (0xff : UInt8)).length = 8 + size := by
    rw [List.length_append, List.length_replicate]
    rfl
  refine ⟨?_, ⟨true, ?_⟩, ?_⟩
  · rw [hpacket, List.length_append, List.length_append, length_encode, hlen,
      List.length_append, hpes]
    omega
  · rw [hpacket, List.append_assoc, header_esHeader]
  · exact payload_of_field hpacket (7 + size) (by omega) rfl (by omega)

end Mpegts
