import Mathlib.Algebra.Order.Field.Rat
import Mathlib.Order.Lattice.Nat

/-!
# SkyfireBG.Lib.StreamCipher

A stream cipher: each byte is combined with the next one of a key stream.

* `xorStream_append` — parts of a text are ciphered one after the other.
* `xorStream_xorStream` — ciphering twice from one place of the key stream gives the text back.
-/

namespace SkyfireBG

/-- The text, combined with the key stream from its `k`-th byte on. -/
def xorStream (ks : Nat → UInt8) : Nat → List UInt8 → List UInt8
  | _, [] => []
  | k, b :: bs => (b ^^^ ks k) :: xorStream ks (k + 1) bs

variable {ks : Nat → UInt8} {k : Nat} {as bs : List UInt8}

@[simp] theorem length_xorStream : (xorStream ks k bs).length = bs.length := by
  induction bs generalizing k with
  | nil => rfl
  | cons b bs ih => simp [xorStream, ih]

theorem xorStream_append :
    xorStream ks k (as ++ bs) = xorStream ks k as ++ xorStream ks (k + as.length) bs := by
  induction as generalizing k with
  | nil => rfl
  | cons a as ih =>
    rw [List.cons_append, xorStream, xorStream, ih, List.length_cons, Nat.add_right_comm,
      Nat.add_assoc, List.cons_append]

@[simp] theorem xorStream_xorStream : xorStream ks k (xorStream ks k bs) = bs := by
  induction bs generalizing k with
  | nil => rfl
  | cons b bs ih =>
    rw [xorStream, xorStream, ih, UInt8.xor_assoc, UInt8.xor_self, UInt8.xor_zero]

abbrev CipherState := Option Nat

def cipher (ks : Nat → UInt8) (c : CipherState) (bs : List UInt8) : List UInt8 × CipherState :=
  match c with
  | none => (bs, none)
  | some k => (xorStream ks k bs, some (k + bs.length))

variable {c : CipherState}

@[simp] theorem length_cipher : (cipher ks c bs).1.length = bs.length := by
  cases c <;> simp [cipher]

theorem cipher_append : cipher ks c (as ++ bs) =
    ((cipher ks c as).1 ++ (cipher ks (cipher ks c as).2 bs).1,
      (cipher ks (cipher ks c as).2 bs).2) := by
  cases c with
  | none => rfl
  | some k => simp only [cipher, xorStream_append, List.length_append, Nat.add_assoc]

@[simp] theorem cipher_cipher : cipher ks c (cipher ks c bs).1 = (bs, (cipher ks c bs).2) := by
  cases c with
  | none => rfl
  | some k => simp only [cipher, xorStream_xorStream, length_xorStream]

end SkyfireBG
