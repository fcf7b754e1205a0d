import SkyfireBG.Cryptography.BigNumber

/-!
# SkyfireBG.Cryptography.Srp6

The numbers of the logon: `B` in the answer to the challenge, the secret `S` from which the session
key `K` is made, and the comparison of the proof `M`.  The digest of SHA-1 is a parameter.

* `big_number_codec` — when each of them is sent, split or compared as the number that it is.
-/

namespace SkyfireBG

open BigNumber

namespace Srp6

/-- `B = ((v * 3) + g.ModExp(b, N)) % N` -/
def challengeB (N g v b : Nat) : Nat := (v * 3 + g ^ b % N) % N

/-- `S = (A * (v.ModExp(u, N))).ModExp(b, N)` -/
def secretS (N A v u b : Nat) : Nat := (A * (v ^ u % N)) ^ b % N

/-- `len` bytes of the array of a number: `append(x.AsByteArray(len), len)`, and `memcpy`. -/
def copyBytes (x len : Nat) : Option (List UInt8) :=
  if len ≤ (asByteArray x len true).length then some ((asByteArray x len true).take len) else none

/-- `t1[i] = t[i * 2 + k]` -/
def half (t : List UInt8) (k : Nat) : List UInt8 := (List.range 16).map fun i => t.getD (i * 2 + k) 0

/-- `vK[i * 2]` of the first bytes, `vK[i * 2 + 1]` of the second ones. -/
def interleave : List UInt8 → List UInt8 → List UInt8
  | x :: xs, y :: ys => x :: y :: interleave xs ys
  | _, _ => []

/-- `memcmp(a, b, n)` of arrays, `none` when it reads behind one of them. -/
def memcmp (a b : List UInt8) (n : Nat) : Option Bool :=
  if n ≤ a.length ∧ n ≤ b.length then some (a.take n == b.take n) else none

/-- `M.SetBinary(sha.GetDigest(), 20)` and `!memcmp(M.AsByteArray(), lp.M1, 20)` -/
def proofMatches (digest M1 : List UInt8) : Option Bool := do
  let M ← setBinary digest 20
  memcmp (asByteArray M 0 true) M1 20

theorem copyBytes_of_lt {x len : Nat} (h : x < 256 ^ len) :
    copyBytes x len = some (asByteArray x len true) := by
  have hlen := length_asByteArray h true
  rw [copyBytes, if_pos (Nat.le_of_eq hlen.symm), List.take_of_length_le (Nat.le_of_eq hlen)]

theorem challengeB_lt {N : Nat} (h : 0 < N) (g v b : Nat) : challengeB N g v b < N := Nat.mod_lt _ h

theorem secretS_lt {N : Nat} (h : 0 < N) (A v u b : Nat) : secretS N A v u b < N := Nat.mod_lt _ h

theorem interleave_range {n : Nat} {t : List UInt8} (h : t.length = n * 2) :
    interleave ((List.range n).map fun i => t.getD (i * 2) 0)
      ((List.range n).map fun i => t.getD (i * 2 + 1) 0) = t := by
  induction n generalizing t with
  | zero =>
    rw [Nat.zero_mul] at h
    rw [List.length_eq_zero_iff.mp h]
    rfl
  | succ n ih =>
    obtain ⟨x, t, rfl⟩ := List.exists_cons_of_length_pos (show 0 < t.length by omega)
    rw [List.length_cons] at h
    obtain ⟨y, t, rfl⟩ := List.exists_cons_of_length_pos (show 0 < t.length by omega)
    rw [List.length_cons] at h
    have hnext := ih (t := t) (by omega)
    simp only [List.range_succ_eq_map, List.map_cons, List.map_map, Function.comp_def,
      Nat.succ_mul, Nat.zero_mul, interleave]
    exact congrArg (fun t => x :: y :: t) hnext

theorem interleave_half {t : List UInt8} (h : t.length = 32) :
    interleave (half t 0) (half t 1) = t := interleave_range (n := 16) h

theorem numBytes_digest {bytes : List UInt8} {k : Nat} (h : bytes.length = k + 1) :
    numBytes (ofLittleEndian bytes) = k + 1 ↔ bytes.getLast? ≠ some 0 := by
  have hle := numBytes_le_iff.mpr (h ▸ ofLittleEndian_lt bytes)
  obtain ⟨front, x, rfl⟩ : ∃ front x, bytes = front ++ [x] :=
    ⟨_, _, (List.dropLast_append_getLast (List.ne_nil_of_length_eq_add_one h)).symm⟩
  have hfront : front.length = k := by simpa using h
  rw [List.getLast?_concat, Ne, Option.some_inj]
  rw [ofLittleEndian_concat, hfront] at hle ⊢
  by_cases hx : x = 0
  · have hlow : numBytes (ofLittleEndian front + 256 ^ k * x.toNat) ≤ k := by
      rw [numBytes_le_iff, hx]
      exact hfront ▸ ofLittleEndian_lt front
    exact ⟨fun heq => absurd hlow (by omega), fun hne => absurd hx hne⟩
  · have hpos : 0 < x.toNat := Nat.pos_of_ne_zero fun h0 => hx (UInt8.toNat_inj.mp h0)
    have hbig : 256 ^ k ≤ 256 ^ k * x.toNat := Nat.le_mul_of_pos_right _ hpos
    have hnot : ¬numBytes (ofLittleEndian front + 256 ^ k * x.toNat) ≤ k := by
      rw [numBytes_le_iff]
      omega
    exact ⟨fun _ => hx, fun _ => by omega⟩

theorem copyBytes_iff {x : Nat} (h : x < 256 ^ 32) :
    (∃ t, copyBytes x 32 = some t ∧ ofLittleEndian t = x) ↔ x = 0 ∨ numBytes x = 32 := by
  rw [← shift_eq_iff h, copyBytes_of_lt h]
  constructor
  · rintro ⟨t, ht, hx⟩
    rwa [← Option.some.inj ht, ofLittleEndian_asByteArray h] at hx
  · exact fun hx => ⟨_, rfl, (ofLittleEndian_asByteArray h).trans hx⟩

theorem proofMatches_ne_none_iff {digest M1 : List UInt8} (hdigest : digest.length = 20)
    (hM1 : M1.length = 20) : proofMatches digest M1 ≠ none ↔ digest.getLast? ≠ some 0 := by
  have hle := numBytes_le_iff.mpr (hdigest ▸ ofLittleEndian_lt digest)
  have hset := setBinary_of_length hdigest (by omega)
  have hcmp : proofMatches digest M1 = memcmp (asByteArray (ofLittleEndian digest) 0 true) M1 20 := by
    rw [proofMatches, hset]
    rfl
  rw [← numBytes_digest hdigest, hcmp, memcmp, length_asByteArray_zero, hM1]
  by_cases hfull : numBytes (ofLittleEndian digest) = 20
  · rw [if_pos (by omega)]
    exact ⟨fun _ => hfull, fun _ => Option.some_ne_none _⟩
  · rw [if_neg (by omega)]
    exact ⟨fun hne => absurd rfl hne, fun heq => absurd heq hfull⟩

/-- The codec gives a number back, the 32 bytes of `B` and the two halves of those of `S` are the
server's numbers, and the comparison of the proof reads only what is there, exactly when the number
has no leading zero byte in its width (or is zero, for the codec). -/
theorem big_number_codec (N : Nat) (hN : 0 < N) (hlt : N < 256 ^ 32) :
    (∀ x m, m < 1000 → x < 256 ^ m →
      ((setBinary (asByteArray x m true) m = some x ∧ asByteArray x m false = bigEndian m x) ↔
        x = 0 ∨ numBytes x = m)) ∧
    (∀ g v b,
      ((∃ t, copyBytes (challengeB N g v b) 32 = some t ∧ ofLittleEndian t = challengeB N g v b) ↔
        challengeB N g v b = 0 ∨ numBytes (challengeB N g v b) = 32)) ∧
    (∀ A v u b,
      ((∃ t, copyBytes (secretS N A v u b) 32 = some t ∧
        ofLittleEndian (interleave (half t 0) (half t 1)) = secretS N A v u b) ↔
        secretS N A v u b = 0 ∨ numBytes (secretS N A v u b) = 32)) ∧
    (∀ digest M1 : List UInt8, digest.length = 20 → M1.length = 20 →
      (proofMatches digest M1 ≠ none ↔ digest.getLast? ≠ some 0)) := by
  refine ⟨fun x m hm hx => codec_iff (Nat.le_of_lt hm) hx, fun g v b => ?_,
    fun A v u b => ?_, fun digest M1 => proofMatches_ne_none_iff⟩
  · exact copyBytes_iff ((challengeB_lt hN g v b).trans hlt)
  · have hS := (secretS_lt hN A v u b).trans hlt
    rw [← copyBytes_iff hS, copyBytes_of_lt hS]
    constructor
    · rintro ⟨t, ht, hval⟩
      refine ⟨t, ht, ?_⟩
      rwa [interleave_half] at hval
      rw [← Option.some.inj ht]
      exact length_asByteArray hS true
    · rintro ⟨t, ht, hval⟩
      refine ⟨t, ht, ?_⟩
      rwa [interleave_half]
      rw [← Option.some.inj ht]
      exact length_asByteArray hS true

/-- A number of two bytes, numbers of 32 bytes, and a digest that does not end in a zero. -/
theorem big_number_codec_at :
    (setBinary (asByteArray 607 2 true) 2 = some 607 ∧ asByteArray 607 2 false = [2, 95]) ∧
    (∃ t, copyBytes (challengeB (256 ^ 32 - 1) 7 (256 ^ 32 / 4) 1) 32 = some t ∧
      ofLittleEndian t = challengeB (256 ^ 32 - 1) 7 (256 ^ 32 / 4) 1) ∧
    (∃ t, copyBytes (secretS (256 ^ 32 - 1) (256 ^ 32 / 4) 1 1 1) 32 = some t ∧
      ofLittleEndian (interleave (half t 0) (half t 1)) =
        secretS (256 ^ 32 - 1) (256 ^ 32 / 4) 1 1 1) ∧
    proofMatches (List.replicate 20 5) (List.replicate 20 5) ≠ none := by
  obtain ⟨hcodec, hB, hS, hM⟩ := big_number_codec (256 ^ 32 - 1) (by omega) (by omega)
  exact ⟨(hcodec 607 2 (by omega) (by omega)).mpr (.inr (by decide +kernel)),
    (hB 7 (256 ^ 32 / 4) 1).mpr (.inr (by decide +kernel)),
    (hS (256 ^ 32 / 4) 1 1 1).mpr (.inr (by decide +kernel)),
    (hM _ _ rfl rfl).mpr (by decide)⟩

/-- The number `1` in two bytes is read back as `256`, its big-endian bytes are those of `256`, and a
proof that ends in a zero is compared with an array of 19 bytes. -/
theorem short_number :
    setBinary (asByteArray 1 2 true) 2 = some 256 ∧ asByteArray 1 2 false = [1, 0] ∧
      bigEndian 2 1 = [0, 1] ∧
      proofMatches (List.replicate 19 5 ++ [0]) (List.replicate 19 5 ++ [0]) = none := by
  decide +kernel

end Srp6

end SkyfireBG
