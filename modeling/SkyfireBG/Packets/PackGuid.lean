import Mathlib.Algebra.Order.Field.Rat
import Mathlib.Order.Lattice.Nat

/-!
# SkyfireBG.Packets.PackGuid

A guid on the wire: a byte that marks which of the eight bytes are not zero, and these bytes.

* `unpackGUID_packGUID` — the loop of the reader undoes that of the writer.
* `unpackGUID_eq_none`  — it fails when there are fewer bytes than the mask announces.
* `exists_guid`         — what a mask announces, without zeros, is the encoding of a guid.
-/

namespace SkyfireBG

/-- The loop of `appendPackGUID` from byte `i` on, as the mask and the bytes.  A guid has eight
bytes, so it ends before `fuel` does. -/
def packGUID : Nat → Nat → Nat → Nat × List UInt8
  | 0, _, _ => (0, [])
  | fuel + 1, i, guid =>
    if guid = 0 then (0, [])
    else
      let (mark, bytes) := packGUID fuel (i + 1) (guid >>> 8)
      if guid % 256 ≠ 0 then (mark ||| 1 <<< i, UInt8.ofNat (guid % 256) :: bytes)
      else (mark, bytes)

def appendPackGUID (guid : UInt64) : List UInt8 :=
  let (mark, bytes) := packGUID 8 0 guid.toNat
  UInt8.ofNat mark :: bytes

/-- The loop of `readPackGUID` over the bytes of the guid from `i` on. -/
def unpackGUID (guidmark : Nat) : Nat → Nat → Nat → List UInt8 → Option (Nat × List UInt8)
  | 0, _, guid, bytes => some (guid, bytes)
  | fuel + 1, i, guid, bytes =>
    if guidmark.testBit i then
      match bytes with
      | [] => none
      | bit :: bytes => unpackGUID guidmark fuel (i + 1) (guid ||| bit.toNat <<< (i * 8)) bytes
    else unpackGUID guidmark fuel (i + 1) guid bytes

theorem packGUID_zero (fuel i : Nat) : packGUID fuel i 0 = (0, []) := by
  cases fuel <;> rfl

/-- The mask has only bits from `i` on, one for each byte of the guid. -/
theorem testBit_packGUID_lt (fuel guid : Nat) {i k : Nat} (hk : k < i) :
    (packGUID fuel i guid).1.testBit k = false := by
  induction fuel generalizing i guid with
  | zero => exact Nat.zero_testBit k
  | succ fuel ih =>
    have hih := ih (guid >>> 8) (Nat.lt_succ_of_lt hk)
    rw [packGUID]
    split
    · exact Nat.zero_testBit k
    · simp only
      split
      · have hbit : (1 <<< i).testBit k = false := by
          rw [Nat.testBit_shiftLeft, decide_eq_false (by omega), Bool.false_and]
        simp [hih, hbit]
      · exact hih

theorem packGUID_lt (fuel i guid : Nat) : (packGUID fuel i guid).1 < 2 ^ (i + fuel) := by
  induction fuel generalizing i guid with
  | zero => exact Nat.two_pow_pos i
  | succ fuel ih =>
    have hih := ih (i + 1) (guid >>> 8)
    rw [show i + 1 + fuel = i + (fuel + 1) by omega] at hih
    rw [packGUID]
    split
    · exact Nat.two_pow_pos _
    · simp only
      split
      · refine Nat.or_lt_two_pow hih ?_
        rw [Nat.shiftLeft_eq, Nat.one_mul]
        exact Nat.pow_lt_pow_right (by omega) (by omega)
      · exact hih

theorem or_byte {guid bit i : Nat} (h : guid < 2 ^ (i * 8)) :
    guid ||| bit <<< (i * 8) = guid + bit * 2 ^ (i * 8) := by
  rw [Nat.or_comm, ← Nat.shiftLeft_add_eq_or_of_lt h, Nat.shiftLeft_eq, Nat.add_comm]

theorem unpackGUID_clear {guidmark i : Nat} (h : guidmark.testBit i = false) (fuel acc : Nat)
    (bytes : List UInt8) :
    unpackGUID guidmark (fuel + 1) i acc bytes = unpackGUID guidmark fuel (i + 1) acc bytes := by
  simp [unpackGUID, h]

theorem unpackGUID_set {guidmark i : Nat} (h : guidmark.testBit i = true) (fuel acc : Nat)
    (bit : UInt8) (bytes : List UInt8) :
    unpackGUID guidmark (fuel + 1) i acc (bit :: bytes) =
      unpackGUID guidmark fuel (i + 1) (acc ||| bit.toNat <<< (i * 8)) bytes := by
  simp [unpackGUID, h]

/-- The loop of `readPackGUID` finds what the loop of `appendPackGUID` wrote, when the mask has
the same bits from `i` on. -/
theorem unpackGUID_packGUID {guidmark : Nat} (fuel i guid acc : Nat) (rest : List UInt8)
    (hguid : guid < 256 ^ fuel) (hacc : acc < 2 ^ (i * 8))
    (hmark : ∀ k, i ≤ k → guidmark.testBit k = (packGUID fuel i guid).1.testBit k) :
    unpackGUID guidmark fuel i acc ((packGUID fuel i guid).2 ++ rest) =
      some (acc + guid * 2 ^ (i * 8), rest) := by
  induction fuel generalizing i guid acc with
  | zero =>
    have h0 : guid = 0 := by omega
    subst h0
    simp [packGUID, unpackGUID]
  | succ fuel ih =>
    have hshift : guid >>> 8 = guid / 256 := by rw [Nat.shiftRight_eq_div_pow]
    have hnext : guid >>> 8 < 256 ^ fuel := by
      rw [hshift]
      rw [Nat.pow_succ] at hguid
      omega
    have hpow : 2 ^ ((i + 1) * 8) = 256 * 2 ^ (i * 8) := by
      rw [show (i + 1) * 8 = i * 8 + 8 by omega, Nat.pow_add]
      omega
    have hlow := testBit_packGUID_lt fuel (guid >>> 8) (Nat.lt_succ_self i)
    have hsplit : guid * 2 ^ (i * 8) =
        guid % 256 * 2 ^ (i * 8) + guid >>> 8 * 2 ^ ((i + 1) * 8) := by
      rw [hshift, hpow, ← Nat.mul_assoc, ← Nat.add_mul]
      congr 1
      omega
    by_cases h0 : guid = 0
    · subst h0
      have hbit : guidmark.testBit i = false := by simpa [packGUID] using hmark i (Nat.le_refl i)
      have hrest := ih (i + 1) 0 acc
        (Nat.pow_pos (by omega)) (by omega) fun k hk => by
          simpa [packGUID, packGUID_zero] using hmark k (by omega)
      rw [unpackGUID_clear hbit]
      simpa [packGUID, packGUID_zero] using hrest
    · by_cases hbyte : guid % 256 = 0
      · have hpack : packGUID (fuel + 1) i guid = packGUID fuel (i + 1) (guid >>> 8) := by
          rw [packGUID, if_neg h0]
          simp [hbyte]
        rw [hpack] at hmark ⊢
        rw [unpackGUID_clear ((hmark i (Nat.le_refl i)).trans hlow), hsplit, hbyte]
        have hrest := ih (i + 1) (guid >>> 8) acc hnext (by omega) fun k hk => hmark k (by omega)
        simpa using hrest
      · have hpack : packGUID (fuel + 1) i guid =
            ((packGUID fuel (i + 1) (guid >>> 8)).1 ||| 1 <<< i,
              UInt8.ofNat (guid % 256) :: (packGUID fuel (i + 1) (guid >>> 8)).2) := by
          rw [packGUID, if_neg h0]
          simp [hbyte]
        rw [hpack] at hmark ⊢
        have hbit : guidmark.testBit i = true := by
          rw [hmark i (Nat.le_refl i)]
          simp
        have hval : (UInt8.ofNat (guid % 256)).toNat = guid % 256 := by
          rw [UInt8.toNat_ofNat']
          omega
        have hle : guid % 256 * 2 ^ (i * 8) ≤ 255 * 2 ^ (i * 8) := Nat.mul_le_mul_right _ (by omega)
        rw [List.cons_append, unpackGUID_set hbit, hval, or_byte hacc,
          ih _ _ _ hnext (by omega) fun k hk => ?_, hsplit, Nat.add_assoc]
        rw [hmark k (by omega), Nat.testBit_or, Nat.testBit_shiftLeft]
        have hne : (2 ^ 0).testBit (k - i) = false := Nat.testBit_two_pow_of_ne (by omega)
        rw [Nat.pow_zero] at hne
        simp [hne]

theorem unpackGUID_appendPackGUID (guid : UInt64) (rest : List UInt8) :
    ∃ mark bytes, appendPackGUID guid = mark :: bytes ∧
      unpackGUID mark.toNat 8 0 0 (bytes ++ rest) = some (guid.toNat, rest) := by
  have hmark : (UInt8.ofNat (packGUID 8 0 guid.toNat).1).toNat = (packGUID 8 0 guid.toNat).1 := by
    rw [UInt8.toNat_ofNat']
    exact Nat.mod_eq_of_lt (packGUID_lt 8 0 _)
  have hread := unpackGUID_packGUID 8 0 guid.toNat 0 rest guid.toNat_lt (by omega) fun _ _ => rfl
  refine ⟨UInt8.ofNat (packGUID 8 0 guid.toNat).1, (packGUID 8 0 guid.toNat).2, rfl, ?_⟩
  rw [hmark, hread]
  simp

/-- How many bytes follow for the bits of the mask from `i` on. -/
def announced (mark : Nat) : Nat → Nat → Nat
  | 0, _ => 0
  | fuel + 1, i => (if mark.testBit i then 1 else 0) + announced mark fuel (i + 1)

theorem unpackGUID_eq_none {mark fuel i acc : Nat} {bytes : List UInt8}
    (h : bytes.length < announced mark fuel i) : unpackGUID mark fuel i acc bytes = none := by
  induction fuel generalizing i acc bytes with
  | zero => cases h
  | succ fuel ih =>
    rw [announced] at h
    by_cases hbit : mark.testBit i = true
    · rw [if_pos hbit] at h
      cases bytes with
      | nil => simp [unpackGUID, hbit]
      | cons bit bytes =>
        rw [unpackGUID_set hbit]
        rw [List.length_cons] at h
        exact ih (by omega)
    · rw [Bool.not_eq_true] at hbit
      rw [unpackGUID_clear hbit]
      simp only [hbit, Bool.false_eq_true, if_false, Nat.zero_add] at h
      exact ih h

/-- A mask, and as many bytes as it announces. -/
def PackedGuid (enc : List UInt8) : Prop :=
  ∃ mark bytes, enc = mark :: bytes ∧ bytes.length = announced mark.toNat 8 0

/-- None of the bytes that the mask announces is zero. -/
def CanonicalGuid (enc : List UInt8) : Prop :=
  ∃ mark bytes, enc = mark :: bytes ∧ bytes.length = announced mark.toNat 8 0 ∧ ∀ x ∈ bytes, x ≠ 0

theorem exists_packGUID {mark fuel i : Nat} {bytes : List UInt8} (hmark : mark < 2 ^ (i + fuel))
    (hlen : bytes.length = announced mark fuel i) (hne : ∀ x ∈ bytes, x ≠ 0) :
    ∃ guid, guid < 256 ^ fuel ∧ (packGUID fuel i guid).2 = bytes ∧
      ∀ k, i ≤ k → mark.testBit k = (packGUID fuel i guid).1.testBit k := by
  induction fuel generalizing i bytes with
  | zero =>
    refine ⟨0, by omega, (List.length_eq_zero_iff.mp hlen).symm, fun k hk => ?_⟩
    rw [packGUID, Nat.zero_testBit]
    exact Nat.testBit_lt_two_pow (Nat.lt_of_lt_of_le hmark (Nat.pow_le_pow_right (by omega) hk))
  | succ fuel ih =>
    rw [announced] at hlen
    have hmark' : mark < 2 ^ (i + 1 + fuel) := by rwa [show i + 1 + fuel = i + (fuel + 1) by omega]
    by_cases hbit : mark.testBit i = true
    · -- a byte that is not zero
      rw [if_pos hbit] at hlen
      obtain ⟨x, bytes, rfl⟩ : ∃ x bs, bytes = x :: bs :=
        List.exists_cons_of_length_pos (by omega)
      obtain ⟨hx, hne⟩ := List.forall_mem_cons.mp hne
      rw [List.length_cons] at hlen
      obtain ⟨guid, hlt, hbytes, htest⟩ := ih hmark' (by omega) hne
      have hpos : x.toNat ≠ 0 := fun h => hx (UInt8.toNat_inj.mp h)
      have hxlt := x.toNat_lt
      have hlow : (x.toNat + 256 * guid) % 256 = x.toNat := by omega
      have hhigh : (x.toNat + 256 * guid) >>> 8 = guid := by
        rw [Nat.shiftRight_eq_div_pow]
        omega
      refine ⟨x.toNat + 256 * guid, by rw [Nat.pow_succ]; omega, ?_, fun k hk => ?_⟩
      · rw [packGUID, if_neg (by omega), hhigh, hlow]
        simp [hpos, hbytes]
      · rw [packGUID, if_neg (by omega), hhigh, hlow]
        simp only [ne_eq, hpos, not_false_eq_true, if_true, Nat.testBit_or]
        rcases Nat.eq_or_lt_of_le hk with rfl | hlt
        · simp [hbit]
        · rw [htest k hlt, Nat.one_shiftLeft, Nat.testBit_two_pow_of_ne (by omega), Bool.or_false]
    · -- a byte that is zero
      rw [Bool.not_eq_true] at hbit
      simp only [hbit, Bool.false_eq_true, if_false, Nat.zero_add] at hlen
      obtain ⟨guid, hlt, hbytes, htest⟩ := ih hmark' hlen hne
      have hhigh : (256 * guid) >>> 8 = guid := by
        rw [Nat.shiftRight_eq_div_pow]
        omega
      have hpack : packGUID (fuel + 1) i (256 * guid) = packGUID fuel (i + 1) guid := by
        by_cases h0 : guid = 0
        · rw [h0, Nat.mul_zero, packGUID_zero, packGUID_zero]
        · rw [packGUID, if_neg (by omega), hhigh]
          simp
      refine ⟨256 * guid, by rw [Nat.pow_succ]; omega, by rw [hpack, hbytes], fun k hk => ?_⟩
      rw [hpack]
      rcases Nat.eq_or_lt_of_le hk with rfl | hlt
      · rw [hbit, testBit_packGUID_lt fuel guid (Nat.lt_succ_self _)]
      · exact htest k hlt

theorem exists_guid {enc : List UInt8} (h : CanonicalGuid enc) :
    ∃ guid, appendPackGUID guid = enc := by
  obtain ⟨mark, bytes, rfl, hlen, hne⟩ := h
  obtain ⟨guid, hlt, hbytes, htest⟩ := exists_packGUID mark.toNat_lt hlen hne
  have hmark : (packGUID 8 0 guid).1 = mark.toNat :=
    Nat.eq_of_testBit_eq fun k => (htest k (Nat.zero_le k)).symm
  refine ⟨UInt64.ofNat guid, ?_⟩
  have hpack : packGUID 8 0 guid = (mark.toNat, bytes) := Prod.ext hmark hbytes
  rw [appendPackGUID, UInt64.toNat_ofNat_of_lt' hlt, hpack]
  simp only [UInt8.ofNat_toNat]

end SkyfireBG
