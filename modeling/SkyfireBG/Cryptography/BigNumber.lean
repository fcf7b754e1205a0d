import Mathlib.Data.Nat.Size
import SkyfireBG.Lib.Byte

/-!
# SkyfireBG.Cryptography.BigNumber

The bytes of a big number.  `AsByteArray` puts the bytes without leading zeros at the start of an
array, fills it up behind them, and turns it around; `SetBinary` reads an array from its end.

* `setBinary_asByteArray` — what is read back, for every number and width.
* `codec_iff`             — it is the number itself when no byte was filled up.
-/

namespace SkyfireBG

namespace BigNumber

/-- `BN_num_bytes` -/
def numBytes (x : Nat) : Nat := (x.size + 7) / 8

/-- `BN_bn2bin`: the bytes without leading zeros, the highest first. -/
def bn2bin (x : Nat) : List UInt8 := (littleEndian (numBytes x) x).reverse

/-- `BN_bin2bn` -/
def bin2bn (bytes : List UInt8) : Nat := ofLittleEndian bytes.reverse

/-- `SetBinary`, which turns the bytes around in an array of 1000. -/
def setBinary (bytes : List UInt8) (len : Nat) : Option Nat :=
  if len ≤ 1000 ∧ len ≤ bytes.length then some (bin2bn (bytes.take len).reverse) else none

def asByteArray (x minSize : Nat) (reverse : Bool) : List UInt8 :=
  let length := if minSize ≥ numBytes x then minSize else numBytes x
  -- the array is filled with zeros, and the bytes are written from its start on
  let array := bn2bin x ++ List.replicate (length - numBytes x) 0
  if reverse then array.reverse else array

def bigEndian (len x : Nat) : List UInt8 := (littleEndian len x).reverse

theorem numBytes_le_iff {x k : Nat} : numBytes x ≤ k ↔ x < 256 ^ k := by
  have hpow : 256 ^ k = 2 ^ (8 * k) := by rw [Nat.pow_mul]
  rw [hpow, ← Nat.size_le, numBytes]
  omega

theorem lt_pow_numBytes (x : Nat) : x < 256 ^ numBytes x := numBytes_le_iff.mp (Nat.le_refl _)

theorem numBytes_zero : numBytes 0 = 0 := rfl

theorem littleEndian_zero (len : Nat) : littleEndian len 0 = List.replicate len 0 := by
  induction len with
  | zero => rfl
  | succ len ih => rw [littleEndian, Nat.zero_div, ih, List.replicate_succ]; rfl

theorem ofLittleEndian_zeros (k : Nat) (bytes : List UInt8) :
    ofLittleEndian (List.replicate k 0 ++ bytes) = 256 ^ k * ofLittleEndian bytes := by
  induction k with
  | zero => rw [List.replicate_zero, List.nil_append, Nat.pow_zero, Nat.one_mul]
  | succ k ih =>
    rw [List.replicate_succ, List.cons_append, ofLittleEndian, ih, Nat.pow_succ, Nat.mul_comm _ 256,
      Nat.mul_assoc]
    exact Nat.zero_add _

theorem ofLittleEndian_lt (bytes : List UInt8) : ofLittleEndian bytes < 256 ^ bytes.length := by
  induction bytes with
  | nil => exact Nat.one_pos
  | cons x bytes ih =>
    have hx := x.toNat_lt
    rw [ofLittleEndian, List.length_cons, Nat.pow_succ]
    omega

theorem ofLittleEndian_concat (bytes : List UInt8) (x : UInt8) :
    ofLittleEndian (bytes ++ [x]) = ofLittleEndian bytes + 256 ^ bytes.length * x.toNat := by
  induction bytes with
  | nil => simp [ofLittleEndian]
  | cons y bytes ih =>
    rw [List.cons_append, ofLittleEndian, ih, ofLittleEndian, List.length_cons, Nat.pow_succ,
      Nat.mul_comm _ 256, Nat.mul_assoc]
    omega

variable {x m : Nat}

theorem asByteArray_of_lt (h : x < 256 ^ m) (reverse : Bool) :
    asByteArray x m reverse =
      if reverse then List.replicate (m - numBytes x) 0 ++ littleEndian (numBytes x) x
      else bn2bin x ++ List.replicate (m - numBytes x) 0 := by
  rw [asByteArray, if_pos (numBytes_le_iff.mpr h)]
  cases reverse with
  | false => rfl
  | true => simp [bn2bin]

theorem length_asByteArray (h : x < 256 ^ m) (reverse : Bool) :
    (asByteArray x m reverse).length = m := by
  have hle := numBytes_le_iff.mpr h
  rw [asByteArray_of_lt h]
  cases reverse <;> simp [bn2bin] <;> omega

theorem length_asByteArray_zero (x : Nat) (reverse : Bool) :
    (asByteArray x 0 reverse).length = numBytes x := by
  have hlength : (if 0 ≥ numBytes x then 0 else numBytes x) = numBytes x := by
    split <;> omega
  simp only [asByteArray, hlength, Nat.sub_self, List.replicate_zero, List.append_nil]
  cases reverse <;> simp [bn2bin]

/-- The zeros are below the bytes of the number, in the order in which `SetBinary` reads them. -/
theorem ofLittleEndian_asByteArray (h : x < 256 ^ m) :
    ofLittleEndian (asByteArray x m true) = 256 ^ (m - numBytes x) * x := by
  rw [asByteArray_of_lt h, if_pos rfl, ofLittleEndian_zeros,
    ofLittleEndian_littleEndian (lt_pow_numBytes x)]

theorem setBinary_of_length {bytes : List UInt8} {len : Nat} (h : bytes.length = len)
    (hlen : len ≤ 1000) : setBinary bytes len = some (ofLittleEndian bytes) := by
  rw [setBinary, if_pos ⟨hlen, Nat.le_of_eq h.symm⟩, List.take_of_length_le (Nat.le_of_eq h),
    bin2bn, List.reverse_reverse]

theorem setBinary_asByteArray (hm : m ≤ 1000) (h : x < 256 ^ m) :
    setBinary (asByteArray x m true) m = some (256 ^ (m - numBytes x) * x) := by
  rw [setBinary_of_length (length_asByteArray h true) hm, ofLittleEndian_asByteArray h]

theorem shift_eq_iff (h : x < 256 ^ m) :
    256 ^ (m - numBytes x) * x = x ↔ x = 0 ∨ numBytes x = m := by
  have hle := numBytes_le_iff.mpr h
  constructor
  · intro heq
    by_cases hx : x = 0
    · exact .inl hx
    · have hone : 256 ^ (m - numBytes x) = 1 :=
        Nat.eq_of_mul_eq_mul_right (Nat.pos_of_ne_zero hx) (by rw [heq, Nat.one_mul])
      rw [Nat.pow_eq_one] at hone
      exact .inr (by omega)
  · rintro (rfl | hm)
    · rw [Nat.mul_zero]
    · rw [hm, Nat.sub_self, Nat.pow_zero, Nat.one_mul]

theorem asByteArray_false (h : x < 256 ^ m) (hfull : x = 0 ∨ numBytes x = m) :
    asByteArray x m false = bigEndian m x := by
  rw [asByteArray_of_lt h, if_neg Bool.false_ne_true]
  rcases hfull with rfl | hm
  · rw [bn2bin, bigEndian, numBytes_zero, littleEndian_zero, littleEndian_zero]
    simp
  · rw [hm, Nat.sub_self, bn2bin, hm, bigEndian]
    exact List.append_nil _

theorem codec_iff (hm : m ≤ 1000) (h : x < 256 ^ m) :
    (setBinary (asByteArray x m true) m = some x ∧ asByteArray x m false = bigEndian m x) ↔
      x = 0 ∨ numBytes x = m := by
  rw [setBinary_asByteArray hm h, Option.some_inj, shift_eq_iff h]
  exact ⟨fun hboth => hboth.1, fun hfull => ⟨hfull, asByteArray_false h hfull⟩⟩

end BigNumber

end SkyfireBG
