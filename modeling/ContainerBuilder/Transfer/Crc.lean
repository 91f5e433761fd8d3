import ContainerBuilder.Lib.ShiftRegister
import ContainerBuilder.Lib.Decimal
import ContainerBuilder.Common.Data

/-!
# `boost::crc_32_type`

The checksum of both `write_file`s and both `read_file`s: the reflected CRC of 32 bits with the
polynomial `0x04C11DB7`, whose register starts as `0xFFFFFFFF` and is complemented at the end. What
is sent is `std::to_string` of it.
-/

namespace ContainerBuilder

open Lib.ShiftRegister
open Lib.Decimal (decimal decimal_injective)

/-- The register of a `boost::crc_32_type`. -/
abbrev Crc := BitVec 32

namespace Crc

/-- The polynomial with its lowest power in the top bit. -/
def polynomial : BitVec 32 := (0x04C11DB7#32).reverse

def initial : Crc := 0xFFFFFFFF#32

def word (b : UInt8) : BitVec 32 := b.toBitVec.setWidth 32

/-- `process_bytes`. -/
def processBytes (csc : Crc) (bytes : Bytes) : Crc := feedAll polynomial 8 csc (bytes.map word)

/-- `checksum`. -/
def checksum (csc : Crc) : BitVec 32 := csc ^^^ 0xFFFFFFFF#32

/-- `std::to_string(csc.checksum())`. -/
def text (csc : Crc) : Bytes := decimal csc.checksum.toNat

example : (initial.processBytes (ascii "123456789")).checksum = 0xCBF43926#32 := by decide +kernel

/-- The boundaries at which the bytes are fed make no difference. -/
theorem processBytes_append (csc : Crc) (xs ys : Bytes) :
    csc.processBytes (xs ++ ys) = (csc.processBytes xs).processBytes ys := by
  unfold processBytes
  rw [List.map_append, feedAll_append]

theorem text_injective {c d : Crc} (h : c.text = d.text) : c = d := by
  have hsum : c.checksum = d.checksum := BitVec.eq_of_toNat_eq (decimal_injective h)
  rwa [checksum, checksum, BitVec.xor_left_inj] at hsum

theorem polynomial_msb : polynomial.msb = true := by decide +kernel

theorem word_fits (b : UInt8) : Fits 8 (word b) := by
  intro i hi
  rw [word, BitVec.getLsbD_setWidth, BitVec.getLsbD_of_ge _ _ hi, Bool.and_false]

theorem word_injective {a b : UInt8} (h : word a = word b) : a = b := by
  have hn : (word a).toNat = (word b).toNat := congrArg BitVec.toNat h
  have hlt : ∀ c : UInt8, (word c).toNat = c.toNat := by
    intro c
    have : c.toNat < 2 ^ 32 := Nat.lt_trans c.toNat_lt (by decide)
    rw [word, BitVec.toNat_setWidth]
    exact Nat.mod_eq_of_lt this
  rw [hlt, hlt] at hn
  exact UInt8.toNat_inj.1 hn

/-- **Two texts that differ in one window of at most four bytes have different checksums.** -/
theorem window_detected {csc : Crc} {pre xs ys suf : Bytes} (hl : xs.length = ys.length)
    (hw : xs.length ≤ 4)
    (h : csc.processBytes (pre ++ xs ++ suf) = csc.processBytes (pre ++ ys ++ suf)) : xs = ys := by
  simp only [processBytes, List.map_append] at h
  have hfits : ∀ (bs : Bytes), ∀ x ∈ bs.map word, Fits 8 x := by
    intro bs x hx
    obtain ⟨b, -, rfl⟩ := List.mem_map.1 hx
    exact word_fits b
  have hwords : xs.map word = ys.map word :=
    Lib.ShiftRegister.window_detected polynomial_msb (by simpa using hl)
      (by rw [List.length_map]; omega) (hfits xs) (hfits ys) h
  exact (List.map_inj_right fun _ _ => word_injective).1 hwords

end Crc

/-- The text of the checksum of a file. -/
def checksumText (bytes : Bytes) : Bytes := (Crc.initial.processBytes bytes).text

end ContainerBuilder
