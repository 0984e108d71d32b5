import Xrtc.Crc
import Xrtc.MpegtsRoundTrip

/-!
# The checksum of the tables

`crc32` is the division by the polynomial `0x04c11db7`, eight bits at a time.  A
receiver that goes by the section length of a table packet finds the checksum of the
section at its end, and notices it if up to four bytes in a row were changed on the
way.  (The demuxer does not look at the checksum.)
-/

namespace Mpegts

/-! ### `crc32` -/

/-- An entry of the table. -/
def crcEntry (i : UInt8) : UInt32 :=
  crcTable.getD i.toNat 0

theorem crc32_eq_run (data : List UInt8) : crc32 data = Crc.run crcEntry 0xffffffff data := by
  have hindex : ∀ (lCrc : UInt32) (byte : UInt8),
      (((lCrc >>> 24) ^^^ byte.toUInt32) &&& 0xff).toNat = (Crc.high lCrc ^^^ byte).toNat := by
    intro lCrc byte
    have heq : ((lCrc >>> 24) ^^^ byte.toUInt32) &&& 0xff =
        (Crc.high lCrc ^^^ byte).toUInt32 := by
      unfold Crc.high
      apply eq_of_bits32
      intro i hi
      simp only [UInt32.toBitVec_and, UInt32.toBitVec_xor, UInt32.toBitVec_shiftRight,
        UInt8.toBitVec_toUInt32, UInt8.toBitVec_xor, UInt32.toBitVec_toUInt8]
      interval_cases i <;> simp
    rw [heq, UInt8.toNat_toUInt32]
  have hstep : (fun (lCrc : UInt32) (byte : UInt8) => (lCrc <<< 8) ^^^
      crcTable.getD (((lCrc >>> 24) ^^^ byte.toUInt32) &&& 0xff).toNat 0) =
      Crc.step crcEntry := by
    funext lCrc byte
    unfold Crc.step crcEntry
    rw [hindex]
  unfold crc32 Crc.run
  rw [hstep]

/-- The entries of the table are the remainders of their indices. -/
theorem crcEntry_eq_octet (i : UInt8) :
    crcEntry i = Crc.octet 0x04c11db7 (i.toUInt32 <<< 24) := by
  have htable : crcTable.toList = (List.range 256).map (fun n =>
      Crc.octet 0x04c11db7 ((UInt8.ofNat n).toUInt32 <<< 24)) := by
    decide +kernel
  have hget : crcEntry i = crcTable.toList.getD i.toNat 0 := by
    unfold crcEntry
    rw [List.getD_eq_getElem?_getD, Array.getElem?_toList, Array.getD_eq_getD_getElem?]
  have hlt : i.toNat < (List.range 256).length := by
    rw [List.length_range]
    exact i.toNat_lt
  rw [hget, htable, List.getD_eq_getElem?_getD, List.getElem?_map, List.getElem?_eq_getElem hlt,
    List.getElem_range, Option.map_some, Option.getD_some, UInt8.ofNat_toNat]

theorem separates_crcEntry : Crc.Separates crcEntry := by
  apply Crc.separates_of_division crcEntry_eq_octet
  intro i hi
  have hall : ∀ n : Fin 256, (Crc.octet 0x04c11db7
      ((UInt8.ofNat n).toUInt32 <<< 24)).toUInt8 = 0 → UInt8.ofNat n = 0 := by
    decide +kernel
  have hzero := hall ⟨i.toNat, i.toNat_lt⟩
  rw [UInt8.ofNat_toNat, ← crcEntry_eq_octet] at hzero
  exact hzero hi

/-- **The table-driven checksum is the polynomial division.** -/
theorem crc32_eq_divide (data : List UInt8) :
    crc32 data = Crc.divide 0x04c11db7 0xffffffff data := by
  rw [crc32_eq_run, Crc.run_eq_divide crcEntry_eq_octet]

/-- **Damage is noticed.**  If up to four bytes in a row of a section that passes the
check are changed, it does not pass any more. -/
theorem damage_noticed (before burst burst' after : List UInt8)
    (hcheck : crc32 (before ++ (burst ++ after)) = 0) (hlength : burst'.length = burst.length)
    (hshort : burst.length ≤ 4) (hne : burst' ≠ burst) :
    crc32 (before ++ (burst' ++ after)) ≠ 0 := by
  rw [crc32_eq_run] at hcheck ⊢
  rw [← hcheck]
  exact Crc.run_burst_ne separates_crcEntry 0xffffffff hlength hshort hne

/-- Another PID for the PMT in the PAT. -/
theorem damage_noticed_pat :
    crc32 ((patSection 0x20).take 10 ++ ([0xe0, 0x21] ++
      write4Bytes (crc32 (patSection 0x20)))) ≠ 0 :=
  damage_noticed _ [0xe0, 0x20] _ _ (by decide +kernel) rfl (by decide) (by decide)

end Mpegts
