import Mathlib.Algebra.Order.Field.Rat
import Mathlib.Order.Lattice.Nat

/-!
# SkyfireBG.Lib.Byte

An eight-bit counter counts as a natural number as long as it neither wraps at 256 nor below zero.
Numbers are written in bytes, the lowest first, and read back.  A signed number of 32 bits keeps
a value that fits.
-/

namespace SkyfireBG

theorem byte_inc {a : UInt8} (h : a.toNat < 255) : (a + 1).toNat = a.toNat + 1 := by
  rw [UInt8.toNat_add]
  simp only [UInt8.reduceToNat]
  omega

theorem byte_ite {a : UInt8} {c : Bool} (h : a.toNat < 255) :
    (if c then a + 1 else a).toNat = a.toNat + if c then 1 else 0 := by
  cases c with
  | true => exact byte_inc h
  | false => rfl

theorem byte_dec {a : UInt8} (h : 0 < a.toNat) : (a - 1).toNat = a.toNat - 1 := by
  rw [UInt8.toNat_sub]
  have := a.toNat_lt
  simp only [UInt8.reduceToNat]
  omega

def littleEndian : Nat → Nat → List UInt8
  | 0, _ => []
  | len + 1, n => UInt8.ofNat (n % 256) :: littleEndian len (n / 256)

def ofLittleEndian : List UInt8 → Nat
  | [] => 0
  | x :: xs => x.toNat + 256 * ofLittleEndian xs

@[simp] theorem length_littleEndian (len n : Nat) : (littleEndian len n).length = len := by
  induction len generalizing n with
  | zero => rfl
  | succ len ih => rw [littleEndian, List.length_cons, ih]

theorem ofLittleEndian_littleEndian {len n : Nat} (h : n < 256 ^ len) :
    ofLittleEndian (littleEndian len n) = n := by
  induction len generalizing n with
  | zero =>
    rw [Nat.pow_zero] at h
    rw [littleEndian, ofLittleEndian]
    omega
  | succ len ih =>
    have hdiv : n / 256 < 256 ^ len := by
      rw [Nat.pow_succ] at h
      omega
    have hbyte : (UInt8.ofNat (n % 256)).toNat = n % 256 := by
      rw [UInt8.toNat_ofNat']
      omega
    rw [littleEndian, ofLittleEndian, ih hdiv, hbyte]
    omega

/-- A number converted to `uint32`. -/
def uint32 (n : Nat) : Nat := n % 2 ^ 32

def int32 (x : Int) : Int := x.bmod (2 ^ 32)

theorem int32_of_fits {x : Int} (hle : -2 ^ 31 ≤ x) (hlt : x < 2 ^ 31) : int32 x = x :=
  Int.bmod_eq_of_le (by simpa using hle) (by simpa using hlt)

end SkyfireBG
