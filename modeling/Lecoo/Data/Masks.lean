import Mathlib.Logic.Basic

namespace Lecoo.Data

/-! # Bytes under masks

What a byte holds where a mask has its bits is told by the conjunction with the
mask; setting or clearing the bits of one mask shows under that mask only.
-/

/-- The byte with the bits of the mask all set or all cleared. -/
def withBits (mask : UInt8) (set : Bool) (byte : UInt8) : UInt8 :=
  if set then byte ||| mask else byte &&& ~~~mask

variable {mask other byte : UInt8} {set : Bool}

theorem byte_or_and (first second mask : UInt8) :
    (first ||| second) &&& mask = (first &&& mask) ||| (second &&& mask) :=
  UInt8.toBitVec_inj.mp BitVec.and_or_distrib_right

theorem byte_and_not (apart : byte &&& mask = 0) : byte &&& ~~~mask = byte := by
  calc byte &&& ~~~mask
      = (byte &&& mask) ||| (byte &&& ~~~mask) := by rw [apart, UInt8.or_comm, UInt8.or_zero]
    _ = (mask ||| ~~~mask) &&& byte := by
        rw [byte_or_and, UInt8.and_comm byte, UInt8.and_comm byte]
    _ = byte := by rw [UInt8.or_not_self, UInt8.and_comm, UInt8.and_neg_one]

theorem byte_and_or (byte mask : UInt8) : (byte &&& mask) ||| mask = mask := by
  apply UInt8.toBitVec_inj.mp
  refine BitVec.eq_of_getElem_eq fun position _ => ?_
  simp

theorem withBits_under : withBits mask set byte &&& mask = if set then mask else 0 := by
  cases set with
  | true =>
      change (byte ||| mask) &&& mask = mask
      rw [byte_or_and, UInt8.and_self, byte_and_or]
  | false =>
      change byte &&& ~~~mask &&& mask = 0
      rw [UInt8.and_assoc, UInt8.not_and_self, UInt8.and_zero]

theorem withBits_apart (apart : mask &&& other = 0) :
    withBits mask set byte &&& other = byte &&& other := by
  cases set with
  | true =>
      change (byte ||| mask) &&& other = byte &&& other
      rw [byte_or_and, apart, UInt8.or_zero]
  | false =>
      change byte &&& ~~~mask &&& other = byte &&& other
      rw [UInt8.and_assoc, UInt8.and_comm _ other,
        byte_and_not ((UInt8.and_comm other mask).trans apart)]

end Lecoo.Data
