import Xrtc.MpegtsPids

/-!
# What the first packet of a frame says

The packet that starts a frame has an adaptation field with the random access
indicator and a PCR, and behind it the PES header with the timestamp.  The
indicator is that of the frame, but the flag that the output callback gets with
the same buffer is never raised.  The timestamp is the caller's microseconds,
put into a field that counts at 90 kHz, and the PCR stands still.
-/

namespace Mpegts

/-! ### Reading the start of a frame -/

/-- The first packet of a buffer that belongs to neither table. -/
def firstEs (buffer : List UInt8) : Option (List UInt8) :=
  (Framing.frames 188 buffer).find? (fun packet =>
    (header packet).mPid ≠ MPEGTS_PAT_PID ∧ (header packet).mPid ≠ PMT_PID)

/-- The flags of the adaptation field; a packet without the field, or with one
of length zero, has none set. -/
def adaptationFlags (packet : List UInt8) : UInt8 :=
  if (header packet).mAdaptationFieldControl &&& 0x02 = 0 ∨ packet.getD 4 0 = 0 then 0
  else packet.getD 5 0

/-- `random_access_indicator`. -/
def randomAccessIndicator (packet : List UInt8) : Bool :=
  adaptationFlags packet &&& 0x40 != 0

/-- `program_clock_reference_base`, the 33 bits that count at 90 kHz. -/
def pcrBase (packet : List UInt8) : Option ℕ :=
  if adaptationFlags packet &&& 0x10 = 0 then none
  else
    let byte (i : ℕ) := (packet.getD i 0).toNat
    some (byte 6 * 2 ^ 25 + byte 7 * 2 ^ 17 + byte 8 * 2 ^ 9 + byte 9 * 2 + byte 10 / 128)

/-- The 33 bits of the `PTS` of a PES header: three, fifteen and fifteen, each
group before a marker bit. -/
def pts (pes : List UInt8) : ℕ :=
  let byte (i : ℕ) := ((pes.drop 9).getD i 0).toNat
  byte 0 / 2 % 8 * 2 ^ 30 + (byte 1 * 256 + byte 2) / 2 * 2 ^ 15 + (byte 3 * 256 + byte 4) / 2

variable (streamTypes : List StreamType) (frames : List Frame)

/-- What the output callback gets in call `k`. -/
def output (k : ℕ) : Option (List UInt8 × Bool) :=
  ((SimpleMpegtsMuxer.ready streamTypes).encodeAll frames).2[k]?.bind List.head?

/-- The first packet of the frame in the buffer of call `k`. -/
def startOf (k : ℕ) : Option (List UInt8) :=
  (output streamTypes frames k).bind (fun out => firstEs out.1)

variable {streamTypes frames}

theorem Tables.find?_eq_none {done : List Frame} {tables : List (List UInt8)}
    (h : Tables streamTypes done tables) :
    tables.find? (fun packet =>
      (header packet).mPid ≠ MPEGTS_PAT_PID ∧ (header packet).mPid ≠ PMT_PID) = none := by
  rw [List.find?_eq_none]
  intro packet hpacket
  cases h with
  | due hdue hpat hpmt =>
      simp only [List.mem_cons, List.not_mem_nil, or_false] at hpacket
      rcases hpacket with rfl | rfl
      · rw [hpat.header]
        show ¬ decide (MPEGTS_PAT_PID ≠ MPEGTS_PAT_PID ∧ MPEGTS_PAT_PID ≠ PMT_PID) = true
        decide
      · rw [hpmt.header]
        show ¬ decide (PMT_PID ≠ MPEGTS_PAT_PID ∧ PMT_PID ≠ PMT_PID) = true
        decide
  | notDue hdue => cases hpacket

/-- The first packet after the tables is the first of the frame. -/
theorem Encodes.firstEs {done : List Frame} {frame : Frame} {call : Call}
    (h : Encodes streamTypes done frame call) :
    firstEs call.packets.flatten = call.pes.head? := by
  have hpid : ∀ packet ∈ call.pes, (header packet).mPid = VIDEO_PID := fun _ => h.pes_pid
  unfold Mpegts.firstEs
  rw [h.frames_packets]
  unfold Call.packets
  rw [List.find?_append, h.tables.find?_eq_none, Option.none_or]
  generalize call.pes = pes at hpid ⊢
  cases pes with
  | nil => rfl
  | cons packet packets =>
      have hvideo := hpid packet List.mem_cons_self
      rw [List.find?_cons_of_pos, List.head?_cons]
      rw [hvideo]
      decide

/-- The start packet of a frame, as a receiver finds it in the buffer. -/
theorem exists_start {k : ℕ} {frame : Frame} (hk : frames[k]? = some frame)
    (hdata : frame.data ≠ []) :
    ∃ (buffer : List UInt8) (i : Fin 16), output streamTypes frames k = some (buffer, false) ∧
      startOf streamTypes frames k = some (startPacket (UInt8.ofNat i) frame.isKeyFrame
        (162 - frame.data.length) (MpegTsMuxer.pesHeader (SimpleMpegtsMuxer.esFrame frame))
        (frame.data.take 162)) := by
  obtain ⟨calls, hcalls, hstarts, houtputs⟩ := ready_calls streamTypes frames
  obtain ⟨call, hget, hcall⟩ := hcalls.getElem? hk
  have hstart : Starts frame call.pes := by
    obtain ⟨hlt, hframe⟩ := List.getElem?_eq_some_iff.mp hk
    obtain ⟨hlt', hcall'⟩ := List.getElem?_eq_some_iff.mp hget
    have hget' := hstarts.get hlt hlt'
    rw [List.get_eq_getElem, List.get_eq_getElem, hframe, hcall'] at hget'
    exact hget'
  obtain ⟨i, hhead⟩ := hstart hdata
  have hout : output streamTypes frames k = some (call.packets.flatten, false) := by
    unfold output
    rw [houtputs, List.getElem?_map, hget]
    rfl
  refine ⟨call.packets.flatten, i, hout, ?_⟩
  unfold startOf
  rw [hout, Option.bind_some, hcall.firstEs, hhead]

/-! ### The adaptation field -/

section StartPacket

variable (i : Fin 16) (isKeyFrame : Bool) {size : ℕ} (pes body : List UInt8)

theorem adaptationFlags_startPacket (hsize : size ≤ 162) :
    adaptationFlags (startPacket (UInt8.ofNat i) isKeyFrame size pes body) =
      startFlags isKeyFrame := by
  have hheader : header (startPacket (UInt8.ofNat i) isKeyFrame size pes body) =
      esHeader true true (UInt8.ofNat i) := by
    unfold startPacket
    simp only [List.append_assoc]
    exact header_esHeader true true i _
  have hlength : (startPacket (UInt8.ofNat i) isKeyFrame size pes body).getD 4 0 =
      UInt8.ofNat (7 + size) := rfl
  have hne : UInt8.ofNat (7 + size) ≠ 0 := by
    intro h
    have hzero : (7 + size) % 256 = 0 := by simpa using congrArg UInt8.toNat h
    omega
  unfold adaptationFlags
  rw [hheader, hlength, if_neg]
  · rfl
  · rintro (h | h)
    · exact absurd h (show ¬ mPayloadAdaptionBoth &&& 0x02 = 0 by decide)
    · exact hne h

theorem randomAccessIndicator_startPacket (hsize : size ≤ 162) :
    randomAccessIndicator (startPacket (UInt8.ofNat i) isKeyFrame size pes body) =
      isKeyFrame := by
  unfold randomAccessIndicator
  rw [adaptationFlags_startPacket i isKeyFrame pes body hsize]
  cases isKeyFrame <;> decide

theorem pcrBase_startPacket (hsize : size ≤ 162) :
    pcrBase (startPacket (UInt8.ofNat i) isKeyFrame size pes body) = some 0 := by
  have hflag : startFlags isKeyFrame &&& 0x10 ≠ 0 := by
    cases isKeyFrame <;> decide
  have hpcr : writePcr 0 = [0, 0, 0, 0, 0x7e, 0] := by decide
  unfold pcrBase
  rw [adaptationFlags_startPacket i isKeyFrame pes body hsize, if_neg hflag]
  unfold startPacket
  rw [hpcr]
  show some ((0 : UInt8).toNat * 2 ^ 25 + (0 : UInt8).toNat * 2 ^ 17 + (0 : UInt8).toNat * 2 ^ 9 +
    (0 : UInt8).toNat * 2 + (0x7e : UInt8).toNat / 128) = some 0
  decide

end StartPacket

/-! ### The timestamp -/

/-- The time of a frame in microseconds, for frames that are not before 0. -/
def Frame.time (frame : Frame) : ℕ :=
  frame.dtsUs.toInt.toNat

theorem toNat_toUInt64 {dtsUs : Int64} (hdts : 0 ≤ dtsUs.toInt) :
    dtsUs.toUInt64.toNat = dtsUs.toInt.toNat := by
  have hlt := dtsUs.toBitVec.isLt
  have hint : dtsUs.toInt = dtsUs.toBitVec.toInt := rfl
  have hnat : dtsUs.toUInt64.toNat = dtsUs.toBitVec.toNat := rfl
  rw [hint, BitVec.toInt_eq_toNat_cond] at hdts
  rw [hint, hnat, BitVec.toInt_eq_toNat_cond]
  split_ifs at hdts ⊢ with hsmall
  · rfl
  · omega

/-- The three bits before the first marker. -/
theorem pts_high (v : UInt64) :
    (((2 : UInt32).toUInt64 <<< 4) ||| (((v >>> 30) &&& 0x07) <<< 1) ||| 1).toUInt8.toNat / 2 % 8 =
      v.toNat / 2 ^ 30 % 8 := by
  have hall : ∀ x : Fin 8, (((2 : UInt32).toUInt64 <<< 4) |||
      (UInt64.ofNat x <<< 1) ||| 1).toUInt8.toNat / 2 % 8 = x := by
    decide
  have hthree : (v >>> 30) &&& 0x07 = UInt64.ofNat (v.toNat / 2 ^ 30 % 8) := by
    apply UInt64.toNat_inj.mp
    have hmask : (0x07 : UInt64).toNat = 2 ^ 3 - 1 := rfl
    have hshift : (v >>> 30).toNat = v.toNat / 2 ^ 30 := by
      rw [UInt64.toNat_shiftRight]
      exact Nat.shiftRight_eq_div_pow _ _
    rw [UInt64.toNat_and, hmask, Nat.and_two_pow_sub_one_eq_mod, hshift, UInt64.toNat_ofNat']
    omega
  rw [hthree]
  exact hall ⟨v.toNat / 2 ^ 30 % 8, Nat.mod_lt _ (by decide)⟩

/-- The two bytes of `write2Bytes` are a number in base 256. -/
theorem toNat_bytes (v : UInt16) :
    (v >>> 8).toUInt8.toNat * 256 + v.toUInt8.toNat = v.toNat := by
  have hlt := v.toNat_lt
  have hhigh : (v >>> 8).toUInt8.toNat = v.toNat / 256 % 256 := by
    simp [Nat.shiftRight_eq_div_pow]
  rw [hhigh, UInt16.toNat_toUInt8]
  omega

/-- Fifteen bits and the marker behind them, written as two bytes. -/
theorem pts_low {w : UInt64} (hw : w.toNat < 2 ^ 15) :
    (((((w <<< 1) ||| 1).toUInt16 >>> 8).toUInt8).toNat * 256 +
      (((w <<< 1) ||| 1).toUInt16.toUInt8).toNat) / 2 = w.toNat := by
  have hshift : (w <<< 1).toNat = w.toNat <<< 1 := by
    rw [UInt64.toNat_shiftLeft]
    apply Nat.mod_eq_of_lt
    show w.toNat <<< 1 < 2 ^ 64
    rw [Nat.shiftLeft_eq]
    omega
  have hmarked : ((w <<< 1) ||| 1).toUInt16.toNat = 2 * w.toNat + 1 := by
    rw [UInt64.toNat_toUInt16, UInt64.toNat_or, hshift, UInt64.toNat_one,
      ← Nat.shiftLeft_add_eq_or_of_lt (show 1 < 2 ^ 1 by decide), Nat.shiftLeft_eq]
    omega
  rw [toNat_bytes, hmarked]
  omega

/-- `& 0x7fff`. -/
theorem toNat_and_low (v : UInt64) : (v &&& 0x7fff).toNat = v.toNat % 2 ^ 15 := by
  have hmask : (0x7fff : UInt64).toNat = 2 ^ 15 - 1 := rfl
  rw [UInt64.toNat_and, hmask, Nat.and_two_pow_sub_one_eq_mod]

/-- `writePts` keeps the low 33 bits. -/
theorem pts_writePts {front : List UInt8} (hfront : front.length = 9) (v : UInt64)
    (rest : List UInt8) :
    pts (front ++ (writePts 2 v ++ rest)) = v.toNat % 2 ^ 33 := by
  have hmid : (v >>> 15).toNat = v.toNat / 2 ^ 15 := by
    rw [UInt64.toNat_shiftRight]
    exact Nat.shiftRight_eq_div_pow _ _
  have hlow : ∀ w : UInt64, (w &&& 0x7fff).toNat < 2 ^ 15 := by
    intro w
    rw [toNat_and_low]
    exact Nat.mod_lt _ (by decide)
  unfold pts
  rw [List.drop_left' hfront]
  show (((2 : UInt32).toUInt64 <<< 4) ||| (((v >>> 30) &&& 0x07) <<< 1) |||
      1).toUInt8.toNat / 2 % 8 * 2 ^ 30 +
    ((((((v >>> 15) &&& 0x7fff) <<< 1) ||| 1).toUInt16 >>> 8).toUInt8.toNat * 256 +
      ((((v >>> 15) &&& 0x7fff) <<< 1) ||| 1).toUInt16.toUInt8.toNat) / 2 * 2 ^ 15 +
    (((((v &&& 0x7fff) <<< 1) ||| 1).toUInt16 >>> 8).toUInt8.toNat * 256 +
      (((v &&& 0x7fff) <<< 1) ||| 1).toUInt16.toUInt8.toNat) / 2 = _
  rw [pts_high, pts_low (hlow _), pts_low (hlow _), toNat_and_low, toNat_and_low, hmid]
  omega

/-- A frame is stamped with its time in microseconds, as it is. -/
theorem pts_pesHeader {frame : Frame} (hdts : 0 ≤ frame.dtsUs.toInt) (body : List UInt8) :
    pts (MpegTsMuxer.pesHeader (SimpleMpegtsMuxer.esFrame frame) ++ body) =
      frame.time % 2 ^ 33 := by
  have hboth := pts_eq_dts frame
  unfold MpegTsMuxer.pesHeader
  simp only [hboth, Bool.false_eq_true, if_false]
  rw [List.append_assoc, pts_writePts rfl]
  exact congrArg (· % 2 ^ 33) (toNat_toUInt64 hdts)

/-! ### Random access -/

/-- In every call the flag that the callback gets, the indicator in the buffer
it gets with it and the caller's flag are the same. -/
def RandomAccessAgrees (streamTypes : List StreamType) (frames : List Frame) : Prop :=
  ∀ k frame, frames[k]? = some frame →
    (output streamTypes frames k).map Prod.snd =
        (startOf streamTypes frames k).map randomAccessIndicator ∧
      (output streamTypes frames k).map Prod.snd = some frame.isKeyFrame

/-- The indicator follows the frame, and the flag of the callback does not. -/
theorem flag_and_indicator {k : ℕ} {frame : Frame} (hk : frames[k]? = some frame)
    (hdata : frame.data ≠ []) :
    (output streamTypes frames k).map Prod.snd = some false ∧
      (startOf streamTypes frames k).map randomAccessIndicator = some frame.isKeyFrame := by
  obtain ⟨buffer, i, hout, hstart⟩ := @exists_start streamTypes frames k frame hk hdata
  rw [hout, hstart, Option.map_some, Option.map_some,
    randomAccessIndicator_startPacket _ _ _ _ (by omega)]
  exact ⟨rfl, rfl⟩

theorem not_randomAccessAgrees_of_key {frame : Frame} (hframe : frame ∈ frames)
    (hdata : frame.data ≠ []) (hkey : frame.isKeyFrame = true) :
    ¬ RandomAccessAgrees streamTypes frames := by
  intro h
  obtain ⟨k, hk⟩ := List.getElem?_of_mem hframe
  obtain ⟨hflag, -⟩ := @flag_and_indicator streamTypes frames k frame hk hdata
  have hagree := (h k frame hk).2
  rw [hflag, hkey] at hagree
  cases hagree

/-- **Random access.**  The flag of the callback, the indicator and the caller's
flag agree over a run exactly if no frame of the run is a key frame. -/
theorem randomAccessAgrees_iff (streamTypes : List StreamType) (frames : List Frame)
    (hdata : ∀ frame ∈ frames, frame.data ≠ []) :
    RandomAccessAgrees streamTypes frames ↔ ∀ frame ∈ frames, frame.isKeyFrame = false := by
  constructor
  · intro h frame hframe
    by_contra hkey
    exact not_randomAccessAgrees_of_key hframe (hdata frame hframe) (by simpa using hkey) h
  · intro h k frame hk
    have hframe := List.mem_of_getElem? hk
    obtain ⟨hflag, hindicator⟩ := @flag_and_indicator streamTypes frames k frame hk
      (hdata frame hframe)
    rw [hflag, hindicator, h frame hframe]
    exact ⟨rfl, rfl⟩

/-- Two frames that are no key frames, the second of them in two packets. -/
theorem randomAccessAgrees_no_key :
    RandomAccessAgrees [.AVC]
      [{ data := [1], dtsUs := 0, streamType := .AVC, isKeyFrame := false },
        { data := List.replicate 163 7, dtsUs := 40000, streamType := .AVC,
          isKeyFrame := false }] := by
  apply (randomAccessAgrees_iff _ _ _).mpr
  · decide
  · decide

/-- A key frame of one byte. -/
theorem key_frame_flag_not_raised :
    ¬ RandomAccessAgrees [.AVC] [{ data := [1], dtsUs := 0, streamType := .AVC }] :=
  not_randomAccessAgrees_of_key List.mem_cons_self (by decide) rfl

/-! ### Timestamps -/

/-- Two frames that are 12 microseconds or more and less than one wrap of a
33-bit clock at 90 kHz apart. -/
def Apart (first second : Frame) : Prop :=
  first.time + 12 ≤ second.time ∧ (second.time - first.time) * 9 < 2 ^ 33 * 100

/-- Every PTS is the time of its frame at 90 kHz, and the PCR moves on between
frames that are apart. -/
def FollowsClock (streamTypes : List StreamType) (frames : List Frame) : Prop :=
  (∀ k frame, frames[k]? = some frame →
    (startOf streamTypes frames k).map (fun packet => pts (payload packet)) =
      some (frame.time * 9 / 100 % 2 ^ 33)) ∧
  ∀ i j first second, frames[i]? = some first → frames[j]? = some second →
    Apart first second →
      (startOf streamTypes frames i).bind pcrBase ≠ (startOf streamTypes frames j).bind pcrBase

/-- What a receiver reads of the time of a frame. -/
theorem pts_and_pcr {k : ℕ} {frame : Frame} (hk : frames[k]? = some frame)
    (hdata : frame.data ≠ []) (hdts : 0 ≤ frame.dtsUs.toInt) :
    (startOf streamTypes frames k).map (fun packet => pts (payload packet)) =
        some (frame.time % 2 ^ 33) ∧
      (startOf streamTypes frames k).bind pcrBase = some 0 := by
  obtain ⟨buffer, i, -, hstart⟩ := @exists_start streamTypes frames k frame hk hdata
  have hpacket := esPacket_start i frame.isKeyFrame (length_pesHeader frame)
    (show 162 - frame.data.length + (frame.data.take 162).length = 162 by
      rw [List.length_take]
      omega)
  rw [hstart, Option.map_some, Option.bind_some, hpacket.payload, pts_pesHeader hdts,
    pcrBase_startPacket _ _ _ _ (by omega)]
  exact ⟨rfl, rfl⟩

/-- The instants at which a count of microseconds is ahead of a count at 90 kHz
by whole wraps of 33 bits: the time is less than 100/91 microseconds before a
multiple of `100 * 2 ^ 33 / 91`. -/
def InStep (time : ℕ) : Prop :=
  ∃ wraps : ℕ, 91 * time ≤ 100 * (2 ^ 33 * wraps) ∧ 100 * (2 ^ 33 * wraps) < 91 * time + 100

theorem inStep_iff (time : ℕ) :
    InStep time ↔ time % 2 ^ 33 = time * 9 / 100 % 2 ^ 33 := by
  have hmod : time % 2 ^ 33 = time * 9 / 100 % 2 ^ 33 ↔ 2 ^ 33 ∣ time - time * 9 / 100 := by
    omega
  rw [hmod]
  constructor
  · rintro ⟨wraps, hlow, hhigh⟩
    exact ⟨wraps, by omega⟩
  · rintro ⟨wraps, hwraps⟩
    exact ⟨wraps, by omega, by omega⟩

/-- **Timestamps.**  A run of frames keeps to the 90 kHz clock exactly if every
frame is at one of the instants at which microseconds read the same, and no two
frames are apart: the PCR stands still. -/
theorem followsClock_iff (streamTypes : List StreamType) (frames : List Frame)
    (hdata : ∀ frame ∈ frames, frame.data ≠ [])
    (hdts : ∀ frame ∈ frames, 0 ≤ frame.dtsUs.toInt) :
    FollowsClock streamTypes frames ↔
      (∀ frame ∈ frames, InStep frame.time) ∧
        ∀ first ∈ frames, ∀ second ∈ frames, ¬ Apart first second := by
  have hread : ∀ k frame, frames[k]? = some frame →
      (startOf streamTypes frames k).map (fun packet => pts (payload packet)) =
          some (frame.time % 2 ^ 33) ∧
        (startOf streamTypes frames k).bind pcrBase = some 0 := by
    intro k frame hk
    have hframe := List.mem_of_getElem? hk
    exact pts_and_pcr hk (hdata frame hframe) (hdts frame hframe)
  constructor
  · rintro ⟨hpts, hpcr⟩
    constructor
    · intro frame hframe
      obtain ⟨k, hk⟩ := List.getElem?_of_mem hframe
      have heq := hpts k frame hk
      rw [(hread k frame hk).1, Option.some.injEq] at heq
      exact (inStep_iff _).mpr heq
    · intro first hfirst second hsecond hapart
      obtain ⟨i, hi⟩ := List.getElem?_of_mem hfirst
      obtain ⟨j, hj⟩ := List.getElem?_of_mem hsecond
      apply hpcr i j first second hi hj hapart
      rw [(hread i first hi).2, (hread j second hj).2]
  · rintro ⟨hstep, hapart⟩
    constructor
    · intro k frame hk
      rw [(hread k frame hk).1, (inStep_iff _).mp (hstep frame (List.mem_of_getElem? hk))]
    · intro i j first second hi hj h
      exact absurd h (hapart first (List.mem_of_getElem? hi) second (List.mem_of_getElem? hj))

/-- Two frames at the first instant after 0 at which the counts are in step, after
more than two and a half hours. -/
theorem followsClock_in_step :
    FollowsClock [.AVC]
      [{ data := [1], dtsUs := 9439488562, streamType := .AVC },
        { data := [2], dtsUs := 9439488562, streamType := .AVC, isKeyFrame := false }] := by
  apply (followsClock_iff _ _ _ _).mpr
  · constructor
    · intro frame hframe
      have htime : frame.time = 9439488562 := by
        simp only [List.mem_cons, List.not_mem_nil, or_false] at hframe
        rcases hframe with rfl | rfl <;> decide
      rw [htime]
      exact ⟨1, by decide, by decide⟩
    · intro first hfirst second hsecond hapart
      simp only [List.mem_cons, List.not_mem_nil, or_false] at hfirst hsecond
      have hfirst : first.time = 9439488562 := by
        rcases hfirst with rfl | rfl <;> decide
      have hsecond : second.time = 9439488562 := by
        rcases hsecond with rfl | rfl <;> decide
      have := hapart.1
      omega
  · decide
  · decide

/-- Two frames of one byte, 40 ms apart. -/
def fortyApart : List Frame :=
  [{ data := [1], dtsUs := 0, streamType := .AVC },
    { data := [2], dtsUs := 40000, streamType := .AVC }]

/-- The second frame is stamped 40000 where the clock counts 3600, and the PCR
has not moved. -/
theorem microseconds_not_clock :
    (startOf [.AVC] fortyApart 1).map (fun packet => pts (payload packet)) = some 40000 ∧
      (startOf [.AVC] fortyApart 0).bind pcrBase = (startOf [.AVC] fortyApart 1).bind pcrBase ∧
      ¬ FollowsClock [.AVC] fortyApart := by
  obtain ⟨-, hpcr⟩ := @pts_and_pcr [.AVC] fortyApart 0 _ rfl (by decide) (by decide)
  obtain ⟨hpts, hpcr'⟩ := @pts_and_pcr [.AVC] fortyApart 1 _ rfl (by decide) (by decide)
  have hstill : (startOf [.AVC] fortyApart 0).bind pcrBase =
      (startOf [.AVC] fortyApart 1).bind pcrBase := by
    rw [hpcr, hpcr']
  refine ⟨hpts.trans (by decide), hstill, ?_⟩
  rintro ⟨-, hmoves⟩
  exact hmoves 0 1 _ _ rfl rfl ⟨by decide, by decide⟩ hstill

end Mpegts
