import Mathlib.Algebra.Order.Field.Rat
import Mathlib.Order.Lattice.Nat

/-!
# SkyfireBG.Utf8.Codec

What the server uses of the library `utf8`.  A range of octets is the list of them; an exception is
the error that it is thrown for.
-/

namespace SkyfireBG

inductive UtfError where
  | notEnoughRoom
  | invalidLead
  | incompleteSequence
  | overlongSequence
  | invalidCodePoint
  | invalidUtf16
deriving DecidableEq, Repr

namespace Utf8

def LEAD_SURROGATE_MIN : Nat := 0xd800
def LEAD_SURROGATE_MAX : Nat := 0xdbff
def TRAIL_SURROGATE_MIN : Nat := 0xdc00
def TRAIL_SURROGATE_MAX : Nat := 0xdfff
def LEAD_OFFSET : Nat := LEAD_SURROGATE_MIN - (0x10000 >>> 10)
def CODE_POINT_MAX : Nat := 0x0010ffff

def isTrail (oc : UInt8) : Bool := oc.toNat >>> 6 == 0x2

def isLeadSurrogate (cp : Nat) : Bool := LEAD_SURROGATE_MIN ≤ cp && cp ≤ LEAD_SURROGATE_MAX
def isTrailSurrogate (cp : Nat) : Bool := TRAIL_SURROGATE_MIN ≤ cp && cp ≤ TRAIL_SURROGATE_MAX
def isSurrogate (cp : Nat) : Bool := LEAD_SURROGATE_MIN ≤ cp && cp ≤ TRAIL_SURROGATE_MAX

def isCodePointValid (cp : Nat) : Bool :=
  cp ≤ CODE_POINT_MAX && !isSurrogate cp && cp != 0xfffe && cp != 0xffff

def sequenceLength (lead : UInt8) : Nat :=
  if lead.toNat < 0x80 then 1
  else if lead.toNat >>> 5 = 0x6 then 2
  else if lead.toNat >>> 4 = 0xe then 3
  else if lead.toNat >>> 3 = 0x1e then 4
  else 0

def isOverlongSequence (cp length : Nat) : Bool :=
  if cp < 0x80 then length != 1
  else if cp < 0x800 then length != 2
  else if cp < 0x10000 then length != 3
  else false

/-! The code point of a sequence of one to four octets and the octets behind it. -/

def getSequence1 : List UInt8 → Except UtfError (Nat × List UInt8)
  | [] => .error .notEnoughRoom
  | lead :: rest => .ok (lead.toNat, rest)

def getSequence2 : List UInt8 → Except UtfError (Nat × List UInt8)
  | lead :: t :: rest =>
    if isTrail t then
      .ok (((lead.toNat <<< 6) &&& 0x7ff) + (t.toNat &&& 0x3f), rest)
    else .error .incompleteSequence
  | _ => .error .notEnoughRoom

def getSequence3 : List UInt8 → Except UtfError (Nat × List UInt8)
  | lead :: t :: more =>
    if isTrail t then
      match more with
      | [] => .error .notEnoughRoom
      | u :: rest =>
        if isTrail u then
          .ok (((lead.toNat <<< 12) &&& 0xffff) + ((t.toNat <<< 6) &&& 0xfff) +
            (u.toNat &&& 0x3f), rest)
        else .error .incompleteSequence
    else .error .incompleteSequence
  | _ => .error .notEnoughRoom

def getSequence4 : List UInt8 → Except UtfError (Nat × List UInt8)
  | lead :: t :: more =>
    if isTrail t then
      match more with
      | [] => .error .notEnoughRoom
      | u :: more =>
        if isTrail u then
          match more with
          | [] => .error .notEnoughRoom
          | v :: rest =>
            if isTrail v then
              .ok (((lead.toNat <<< 18) &&& 0x1fffff) + ((t.toNat <<< 12) &&& 0x3ffff) +
                ((u.toNat <<< 6) &&& 0xfff) + (v.toNat &&& 0x3f), rest)
            else .error .incompleteSequence
        else .error .incompleteSequence
    else .error .incompleteSequence
  | _ => .error .notEnoughRoom

def getSequence : Nat → List UInt8 → Except UtfError (Nat × List UInt8)
  | 1 => getSequence1
  | 2 => getSequence2
  | 3 => getSequence3
  | _ => getSequence4

/-- `next`, which throws what `validate_next` returns.  It is not called at the end of a range. -/
def next (octets : List UInt8) : Except UtfError (Nat × List UInt8) :=
  match octets with
  | [] => .error .notEnoughRoom
  | lead :: _ =>
    let length := sequenceLength lead
    if length = 0 then .error .invalidLead
    else
      match getSequence length octets with
      | .error e => .error e
      | .ok (cp, rest) =>
        if isCodePointValid cp then
          if isOverlongSequence cp length then .error .overlongSequence else .ok (cp, rest)
        else .error .invalidCodePoint

/-- The loop of `distance`.  A round takes an octet at least, so `fuel` is the number of octets. -/
def distanceLoop : Nat → List UInt8 → Except UtfError Nat
  | _, [] => .ok 0
  | 0, _ :: _ => .error .notEnoughRoom
  | fuel + 1, octets =>
    match next octets with
    | .error e => .error e
    | .ok (_, rest) => (distanceLoop fuel rest).map (· + 1)

def distance (octets : List UInt8) : Except UtfError Nat := distanceLoop octets.length octets

/-- The units that `utf8to16` writes for a code point. -/
def units (cp : Nat) : List Nat :=
  if cp > 0xffff then
    [((cp >>> 10) + LEAD_OFFSET) % 2 ^ 16, ((cp &&& 0x3ff) + TRAIL_SURROGATE_MIN) % 2 ^ 16]
  else [cp % 2 ^ 16]

def utf8to16Loop : Nat → List UInt8 → Except UtfError (List Nat)
  | _, [] => .ok []
  | 0, _ :: _ => .error .notEnoughRoom
  | fuel + 1, octets =>
    match next octets with
    | .error e => .error e
    | .ok (cp, rest) => (utf8to16Loop fuel rest).map (units cp ++ ·)

def utf8to16 (octets : List UInt8) : Except UtfError (List Nat) := utf8to16Loop octets.length octets

/-- The octets that `append` writes for a code point. -/
def encode (cp : Nat) : List UInt8 :=
  if cp < 0x80 then [UInt8.ofNat cp]
  else if cp < 0x800 then [UInt8.ofNat ((cp >>> 6) ||| 0xc0), UInt8.ofNat ((cp &&& 0x3f) ||| 0x80)]
  else if cp < 0x10000 then
    [UInt8.ofNat ((cp >>> 12) ||| 0xe0), UInt8.ofNat (((cp >>> 6) &&& 0x3f) ||| 0x80),
      UInt8.ofNat ((cp &&& 0x3f) ||| 0x80)]
  else
    [UInt8.ofNat ((cp >>> 18) ||| 0xf0), UInt8.ofNat (((cp >>> 12) &&& 0x3f) ||| 0x80),
      UInt8.ofNat (((cp >>> 6) &&& 0x3f) ||| 0x80), UInt8.ofNat ((cp &&& 0x3f) ||| 0x80)]

def append (cp : Nat) : Except UtfError (List UInt8) :=
  if isCodePointValid cp then .ok (encode cp) else .error .invalidCodePoint

/-- `0x10000 - (LEAD_SURROGATE_MIN << 10) - TRAIL_SURROGATE_MIN`, modulo 2^32. -/
def SURROGATE_OFFSET : Nat := 0xfca02400

example : SURROGATE_OFFSET + (LEAD_SURROGATE_MIN <<< 10) + TRAIL_SURROGATE_MIN =
    0x10000 + 2 ^ 32 := by decide

def joinSurrogates (cp trail : Nat) : Nat :=
  ((cp <<< 10) + trail + SURROGATE_OFFSET) % 2 ^ 32

/-- Appends a code point and goes on with `tail`. -/
def appendThen (cp : Nat) (tail : Except UtfError (List UInt8)) : Except UtfError (List UInt8) :=
  match append cp with
  | .error e => .error e
  | .ok out => tail.map (out ++ ·)

def utf16to8 : List Nat → Except UtfError (List UInt8)
  | [] => .ok []
  | cp :: rest =>
    if isLeadSurrogate cp then
      match rest with
      | [] => .error .invalidUtf16
      | trail :: rest =>
        if isTrailSurrogate trail then appendThen (joinSurrogates cp trail) (utf16to8 rest)
        else .error .invalidUtf16
    else if isTrailSurrogate cp then .error .invalidUtf16
    else appendThen cp (utf16to8 rest)

end Utf8

/-!
## The codec

Decoding is the inverse of encoding.
-/

namespace Utf8

variable {cp : Nat} {octets rest : List UInt8} {cs : List Nat}

theorem isTrail_iff {oc : UInt8} : isTrail oc = true ↔ oc.toNat / 64 = 2 := by
  simp [isTrail, Nat.shiftRight_eq_div_pow]

theorem and_3f (n : Nat) : n &&& 0x3f = n % 64 := Nat.and_two_pow_sub_one_eq_mod n 6
theorem and_fff (n : Nat) : n &&& 0xfff = n % 4096 := Nat.and_two_pow_sub_one_eq_mod n 12
theorem and_7ff (n : Nat) : n &&& 0x7ff = n % 2048 := Nat.and_two_pow_sub_one_eq_mod n 11
theorem and_ffff (n : Nat) : n &&& 0xffff = n % 65536 := Nat.and_two_pow_sub_one_eq_mod n 16
theorem and_3ffff (n : Nat) : n &&& 0x3ffff = n % 262144 := Nat.and_two_pow_sub_one_eq_mod n 18
theorem and_1fffff (n : Nat) : n &&& 0x1fffff = n % 2097152 := Nat.and_two_pow_sub_one_eq_mod n 21

theorem or_mark (k mark : Nat) {n : Nat} (h : n < 2 ^ k) : n ||| 2 ^ k * mark = 2 ^ k * mark + n := by
  rw [Nat.or_comm, Nat.two_pow_add_eq_or_of_lt h]

theorem or_80 {n : Nat} (h : n < 64) : n ||| 0x80 = 0x80 + n := or_mark 6 2 h
theorem or_c0 {n : Nat} (h : n < 32) : n ||| 0xc0 = 0xc0 + n := or_mark 5 6 h
theorem or_e0 {n : Nat} (h : n < 16) : n ||| 0xe0 = 0xe0 + n := or_mark 4 14 h
theorem or_f0 {n : Nat} (h : n < 8) : n ||| 0xf0 = 0xf0 + n := or_mark 3 30 h

theorem ofNat_eq {n : Nat} {oc : UInt8} (h : n = oc.toNat) : UInt8.ofNat n = oc := by
  rw [h, UInt8.ofNat_toNat]

theorem toNat_ofNat {n : Nat} (h : n < 256) : (UInt8.ofNat n).toNat = n := by
  rw [UInt8.toNat_ofNat']
  omega

def trailOctet (n : Nat) : UInt8 := UInt8.ofNat (0x80 + n % 64)

theorem toNat_trailOctet (n : Nat) : (trailOctet n).toNat = 0x80 + n % 64 :=
  toNat_ofNat (by omega)

theorem isTrail_trailOctet (n : Nat) : isTrail (trailOctet n) = true := by
  rw [isTrail_iff, toNat_trailOctet]
  omega

theorem encode_eq (h : cp ≤ CODE_POINT_MAX) : encode cp =
    if cp < 0x80 then [UInt8.ofNat cp]
    else if cp < 0x800 then [UInt8.ofNat (0xc0 + cp / 64), trailOctet cp]
    else if cp < 0x10000 then
      [UInt8.ofNat (0xe0 + cp / 4096), trailOctet (cp / 64), trailOctet cp]
    else
      [UInt8.ofNat (0xf0 + cp / 262144), trailOctet (cp / 4096), trailOctet (cp / 64),
        trailOctet cp] := by
  have hmax : CODE_POINT_MAX = 1114111 := rfl
  have ht : ∀ n, UInt8.ofNat ((n &&& 0x3f) ||| 0x80) = trailOctet n := by
    intro n
    rw [and_3f, or_80 (Nat.mod_lt _ (by omega))]
    rfl
  rw [encode]
  simp only [ht, Nat.shiftRight_eq_div_pow, Nat.reducePow]
  split
  · rfl
  · split
    · rw [or_c0 (by omega)]
    · split
      · rw [or_e0 (by omega)]
      · rw [or_f0 (by omega)]

theorem isCodePointValid_le (h : isCodePointValid cp = true) : cp ≤ CODE_POINT_MAX := by
  simp only [isCodePointValid, Bool.and_eq_true, decide_eq_true_eq] at h
  exact h.1.1.1

theorem sequenceLength_eq (oc : UInt8) : sequenceLength oc =
    if oc.toNat < 128 then 1 else if oc.toNat / 32 = 6 then 2
    else if oc.toNat / 16 = 14 then 3 else if oc.toNat / 8 = 30 then 4 else 0 := by
  simp only [sequenceLength, Nat.shiftRight_eq_div_pow, Nat.reducePow]

theorem getSequence_four : getSequence 4 = getSequence4 := by simp [getSequence]

section Sequences

variable {lead t u v : UInt8}

theorem getSequence2_ok (lead : UInt8) (rest : List UInt8) (ht : isTrail t = true) : getSequence2 (lead :: t :: rest) =
    .ok (lead.toNat * 64 % 2048 + t.toNat % 64, rest) := by
  simp only [getSequence2, ht, if_true, and_7ff, and_3f, Nat.shiftLeft_eq, Nat.reducePow]

theorem getSequence3_ok (lead : UInt8) (rest : List UInt8) (ht : isTrail t = true) (hu : isTrail u = true) :
    getSequence3 (lead :: t :: u :: rest) =
      .ok (lead.toNat * 4096 % 65536 + t.toNat * 64 % 4096 + u.toNat % 64, rest) := by
  simp only [getSequence3, ht, hu, if_true, and_ffff, and_fff, and_3f, Nat.shiftLeft_eq,
    Nat.reducePow]

theorem getSequence4_ok (lead : UInt8) (rest : List UInt8) (ht : isTrail t = true) (hu : isTrail u = true) (hv : isTrail v = true) :
    getSequence4 (lead :: t :: u :: v :: rest) =
      .ok (lead.toNat * 262144 % 2097152 + t.toNat * 4096 % 262144 + u.toNat * 64 % 4096 +
        v.toNat % 64, rest) := by
  simp only [getSequence4, ht, hu, hv, if_true, and_1fffff, and_3ffff, and_fff, and_3f,
    Nat.shiftLeft_eq, Nat.reducePow]

theorem getSequence2_eq_ok (h : getSequence2 octets = .ok (cp, rest)) :
    ∃ lead t, octets = lead :: t :: rest ∧ isTrail t = true := by
  cases octets with
  | nil => cases h
  | cons lead more =>
    cases more with
    | nil => cases h
    | cons t rest' =>
      rw [getSequence2] at h
      split at h
      next ht =>
        cases h
        exact ⟨lead, t, rfl, ht⟩
      · cases h

theorem getSequence3_eq_ok (h : getSequence3 octets = .ok (cp, rest)) :
    ∃ lead t u, octets = lead :: t :: u :: rest ∧ isTrail t = true ∧ isTrail u = true := by
  match octets with
  | [] => cases h
  | [lead] => cases h
  | lead :: t :: more =>
    by_cases ht : isTrail t = true
    swap
    · simp [getSequence3, ht] at h
    simp only [getSequence3, ht, if_true] at h
    cases more with
    | nil => cases h
    | cons u rest' =>
      by_cases hu : isTrail u = true
      swap
      · simp [hu] at h
      simp only [hu, if_true] at h
      cases h
      exact ⟨lead, t, u, rfl, ht, hu⟩

theorem getSequence4_eq_ok (h : getSequence4 octets = .ok (cp, rest)) :
    ∃ lead t u v, octets = lead :: t :: u :: v :: rest ∧ isTrail t = true ∧ isTrail u = true ∧
      isTrail v = true := by
  match octets with
  | [] => cases h
  | [lead] => cases h
  | lead :: t :: more =>
    by_cases ht : isTrail t = true
    swap
    · simp [getSequence4, ht] at h
    simp only [getSequence4, ht, if_true] at h
    cases more with
    | nil => cases h
    | cons u more =>
      by_cases hu : isTrail u = true
      swap
      · simp [hu] at h
      simp only [hu, if_true] at h
      cases more with
      | nil => cases h
      | cons v rest' =>
        by_cases hv : isTrail v = true
        swap
        · simp [hv] at h
        simp only [hv, if_true] at h
        cases h
        exact ⟨lead, t, u, v, rfl, ht, hu, hv⟩

theorem next_ok {n : Nat} {more : List UInt8} (hlen : sequenceLength lead = n) (hn : n ≠ 0)
    (hget : getSequence n (lead :: more) = .ok (cp, rest)) (h : isCodePointValid cp = true)
    (hlong : isOverlongSequence cp n = false) : next (lead :: more) = .ok (cp, rest) := by
  simp only [next, hlen, if_neg hn, hget, h, hlong, if_true, Bool.false_eq_true, if_false]

theorem next_eq_ok (h : next octets = .ok (cp, rest)) : ∃ lead more, octets = lead :: more ∧
    sequenceLength lead ≠ 0 ∧ getSequence (sequenceLength lead) octets = .ok (cp, rest) ∧
    isCodePointValid cp = true ∧ isOverlongSequence cp (sequenceLength lead) = false := by
  cases octets with
  | nil => cases h
  | cons lead more =>
    simp only [next] at h
    split at h
    · cases h
    next hne =>
      split at h
      · cases h
      next cp' rest' hget =>
        split at h
        next hvalid =>
          split at h
          · cases h
          next hlong =>
            cases h
            exact ⟨lead, more, rfl, hne, hget, hvalid, by simpa using hlong⟩
        · cases h

end Sequences

theorem next_encode (h : isCodePointValid cp = true) :
    next (encode cp ++ rest) = .ok (cp, rest) := by
  have hle := isCodePointValid_le h
  have hmax : CODE_POINT_MAX = 1114111 := rfl
  rw [encode_eq hle]
  by_cases h1 : cp < 0x80
  · rw [if_pos h1]
    have hlead : (UInt8.ofNat cp).toNat = cp := toNat_ofNat (by omega)
    have hlen : sequenceLength (UInt8.ofNat cp) = 1 := by
      rw [sequenceLength_eq, hlead, if_pos h1]
    refine next_ok hlen (by decide) ?_ h (by simp [isOverlongSequence, h1])
    rw [getSequence, getSequence1, hlead]
    rfl
  rw [if_neg h1]
  by_cases h2 : cp < 0x800
  · rw [if_pos h2]
    have hlead : (UInt8.ofNat (0xc0 + cp / 64)).toNat = 0xc0 + cp / 64 := toNat_ofNat (by omega)
    have hlen : sequenceLength (UInt8.ofNat (0xc0 + cp / 64)) = 2 := by
      rw [sequenceLength_eq, hlead, if_neg (by omega), if_pos (by omega)]
    have hcp : (0xc0 + cp / 64) * 64 % 2048 + (0x80 + cp % 64) % 64 = cp := by omega
    refine next_ok hlen (by decide) ?_ h (by simp [isOverlongSequence, h1, h2])
    have hget := getSequence2_ok (UInt8.ofNat (0xc0 + cp / 64)) rest
      (isTrail_trailOctet cp)
    rwa [hlead, toNat_trailOctet, hcp] at hget
  rw [if_neg h2]
  by_cases h3 : cp < 0x10000
  · rw [if_pos h3]
    have hlead : (UInt8.ofNat (0xe0 + cp / 4096)).toNat = 0xe0 + cp / 4096 := toNat_ofNat (by omega)
    have hlen : sequenceLength (UInt8.ofNat (0xe0 + cp / 4096)) = 3 := by
      rw [sequenceLength_eq, hlead, if_neg (by omega), if_neg (by omega), if_pos (by omega)]
    have hcp : (0xe0 + cp / 4096) * 4096 % 65536 + (0x80 + cp / 64 % 64) * 64 % 4096 +
        (0x80 + cp % 64) % 64 = cp := by omega
    refine next_ok hlen (by decide) ?_ h (by simp [isOverlongSequence, h1, h2])
    have hget := getSequence3_ok (UInt8.ofNat (0xe0 + cp / 4096)) rest
      (isTrail_trailOctet (cp / 64)) (isTrail_trailOctet cp)
    rwa [hlead, toNat_trailOctet, toNat_trailOctet, hcp] at hget
  rw [if_neg h3]
  have hlead : (UInt8.ofNat (0xf0 + cp / 262144)).toNat = 0xf0 + cp / 262144 := toNat_ofNat (by omega)
  have hlen : sequenceLength (UInt8.ofNat (0xf0 + cp / 262144)) = 4 := by
    rw [sequenceLength_eq, hlead, if_neg (by omega), if_neg (by omega), if_neg (by omega),
      if_pos (by omega)]
  have hcp : (0xf0 + cp / 262144) * 262144 % 2097152 + (0x80 + cp / 4096 % 64) * 4096 % 262144 +
      (0x80 + cp / 64 % 64) * 64 % 4096 + (0x80 + cp % 64) % 64 = cp := by omega
  refine next_ok hlen (by decide) ?_ h (by simp [isOverlongSequence, h1, h2, h3])
  have hget := getSequence4_ok (UInt8.ofNat (0xf0 + cp / 262144)) rest
    (isTrail_trailOctet (cp / 4096)) (isTrail_trailOctet (cp / 64)) (isTrail_trailOctet cp)
  rwa [hlead, toNat_trailOctet, toNat_trailOctet, toNat_trailOctet, hcp] at hget

theorem trailOctet_eq {oc : UInt8} {n : Nat} (h : isTrail oc = true) (hn : n % 64 = oc.toNat % 64) :
    trailOctet n = oc := by
  rw [isTrail_iff] at h
  exact ofNat_eq (by omega)

theorem encode_of_next (h : next octets = .ok (cp, rest)) :
    isCodePointValid cp = true ∧ octets = encode cp ++ rest := by
  obtain ⟨lead, more, rfl, hne, hget, hvalid, hlong⟩ := next_eq_ok h
  have hle := isCodePointValid_le hvalid
  have hlt := lead.toNat_lt
  refine ⟨hvalid, ?_⟩
  rw [encode_eq hle]
  rw [sequenceLength_eq] at hne hget hlong
  by_cases h1 : lead.toNat < 128
  · rw [if_pos h1] at hget
    cases hget
    rw [if_pos h1, UInt8.ofNat_toNat]
    rfl
  rw [if_neg h1] at hne hget hlong
  by_cases h2 : lead.toNat / 32 = 6
  · rw [if_pos h2] at hget hlong
    obtain ⟨lead', t, heq, ht⟩ := getSequence2_eq_ok hget
    cases heq
    rw [getSequence, getSequence2_ok _ _ ht] at hget
    have ht' := isTrail_iff.mp ht
    obtain ⟨hcp, -⟩ := Prod.mk.inj (Except.ok.inj hget)
    have hlo : ¬cp < 0x80 := fun hc => by simp [isOverlongSequence, hc] at hlong
    rw [if_neg hlo, if_pos (by omega), ofNat_eq (by omega : 0xc0 + cp / 64 = lead.toNat),
      trailOctet_eq ht (by omega)]
    rfl
  rw [if_neg h2] at hne hget hlong
  by_cases h3 : lead.toNat / 16 = 14
  · rw [if_pos h3] at hget hlong
    obtain ⟨lead', t, u, heq, ht, hu⟩ := getSequence3_eq_ok hget
    cases heq
    rw [getSequence, getSequence3_ok _ _ ht hu] at hget
    have ht' := isTrail_iff.mp ht
    have hu' := isTrail_iff.mp hu
    obtain ⟨hcp, -⟩ := Prod.mk.inj (Except.ok.inj hget)
    have hlo : ¬cp < 0x800 := fun hc => by
      by_cases hc' : cp < 0x80 <;> simp [isOverlongSequence, hc, hc'] at hlong
    rw [if_neg (by omega), if_neg hlo, if_pos (by omega),
      ofNat_eq (by omega : 0xe0 + cp / 4096 = lead.toNat), trailOctet_eq ht (by omega),
      trailOctet_eq hu (by omega)]
    rfl
  rw [if_neg h3] at hne hget hlong
  by_cases h4 : lead.toNat / 8 = 30
  · rw [if_pos h4] at hget hlong
    obtain ⟨lead', t, u, v, heq, ht, hu, hv⟩ := getSequence4_eq_ok hget
    cases heq
    rw [getSequence_four, getSequence4_ok _ _ ht hu hv] at hget
    have ht' := isTrail_iff.mp ht
    have hu' := isTrail_iff.mp hu
    have hv' := isTrail_iff.mp hv
    obtain ⟨hcp, -⟩ := Prod.mk.inj (Except.ok.inj hget)
    have hlo : ¬cp < 0x10000 := fun hc => by
      by_cases hc' : cp < 0x80 <;> by_cases hc'' : cp < 0x800 <;>
        simp [isOverlongSequence, hc, hc', hc''] at hlong
    rw [if_neg (by omega), if_neg (by omega), if_neg hlo,
      ofNat_eq (by omega : 0xf0 + cp / 262144 = lead.toNat), trailOctet_eq ht (by omega),
      trailOctet_eq hu (by omega), trailOctet_eq hv (by omega)]
    rfl
  · exact absurd (if_neg h4) hne

/-! ## Ranges -/

structure Encodes (octets : List UInt8) (cs : List Nat) : Prop where
  valid : ∀ c ∈ cs, isCodePointValid c = true
  octets : octets = cs.flatMap encode

theorem encode_ne_nil (cp : Nat) : encode cp ≠ [] := by
  rw [encode]
  split
  · exact List.cons_ne_nil _ _
  · split
    · exact List.cons_ne_nil _ _
    · split <;> exact List.cons_ne_nil _ _

theorem Encodes.nil : Encodes [] [] := ⟨by simp, rfl⟩

theorem Encodes.cons (h : isCodePointValid cp = true) (hs : Encodes rest cs) :
    Encodes (encode cp ++ rest) (cp :: cs) where
  valid := by
    intro c hc
    rcases List.mem_cons.mp hc with rfl | hc
    · exact h
    · exact hs.valid c hc
  octets := by rw [hs.octets, List.flatMap_cons]

theorem Encodes.of_cons (h : Encodes octets (cp :: cs)) : isCodePointValid cp = true ∧
    ∃ rest, octets = encode cp ++ rest ∧ Encodes rest cs :=
  ⟨h.valid cp List.mem_cons_self, _, by rw [h.octets, List.flatMap_cons],
    fun c hc => h.valid c (List.mem_cons_of_mem cp hc), rfl⟩

theorem Encodes.round (h : Encodes octets (cp :: cs)) : ∃ lead more rest, octets = lead :: more ∧
    next octets = .ok (cp, rest) ∧ Encodes rest cs ∧ rest.length < octets.length := by
  obtain ⟨hvalid, rest, rfl, hs⟩ := h.of_cons
  obtain ⟨lead, more, hcons⟩ := List.exists_cons_of_ne_nil (encode_ne_nil cp)
  refine ⟨lead, more ++ rest, rest, by rw [hcons]; rfl, next_encode hvalid, hs, ?_⟩
  rw [hcons, List.length_append, List.length_cons]
  omega

theorem distanceLoop_encodes {fuel : Nat} (h : Encodes octets cs) (hf : octets.length ≤ fuel) :
    distanceLoop fuel octets = .ok cs.length := by
  induction cs generalizing octets fuel with
  | nil =>
    obtain rfl : octets = [] := h.octets
    rw [distanceLoop]
    rfl
  | cons cp cs ih =>
    obtain ⟨lead, more, rest, rfl, hnext, hs, hlt⟩ := h.round
    cases fuel with
    | zero => cases hf
    | succ fuel =>
      rw [distanceLoop, hnext]
      simp only
      rw [ih hs (by omega)]
      · rfl
      · exact List.cons_ne_nil _ _

theorem encodes_of_distanceLoop {fuel n : Nat} (h : distanceLoop fuel octets = .ok n) :
    ∃ cs, Encodes octets cs ∧ cs.length = n := by
  induction fuel generalizing octets n with
  | zero =>
    cases octets with
    | nil =>
      cases h
      exact ⟨[], .nil, rfl⟩
    | cons => cases h
  | succ fuel ih =>
    cases octets with
    | nil =>
      cases h
      exact ⟨[], .nil, rfl⟩
    | cons lead more =>
      rw [distanceLoop] at h
      swap
      · exact List.cons_ne_nil _ _
      split at h
      · cases h
      next cp rest hnext =>
        cases hd : distanceLoop fuel rest with
        | error e =>
          rw [hd] at h
          cases h
        | ok m =>
          rw [hd] at h
          cases h
          obtain ⟨hvalid, heq⟩ := encode_of_next hnext
          obtain ⟨cs, hcs, rfl⟩ := ih hd
          exact ⟨cp :: cs, heq ▸ hcs.cons hvalid, rfl⟩

/-- `distance` counts the code points of a valid range and throws otherwise. -/
theorem distance_eq_ok {n : Nat} : distance octets = .ok n ↔ ∃ cs, Encodes octets cs ∧ cs.length = n := by
  constructor
  · exact encodes_of_distanceLoop
  · rintro ⟨cs, hcs, rfl⟩
    exact distanceLoop_encodes hcs (Nat.le_refl _)

theorem distance_error (h : ∀ cs, ¬ Encodes octets cs) : ∃ e, distance octets = .error e := by
  cases hd : distance octets with
  | error e => exact ⟨e, rfl⟩
  | ok n =>
    obtain ⟨cs, hcs, -⟩ := distance_eq_ok.mp hd
    exact absurd hcs (h cs)

theorem utf8to16Loop_encodes {fuel : Nat} (h : Encodes octets cs) (hf : octets.length ≤ fuel) :
    utf8to16Loop fuel octets = .ok (cs.flatMap units) := by
  induction cs generalizing octets fuel with
  | nil =>
    obtain rfl : octets = [] := h.octets
    rw [utf8to16Loop]
    rfl
  | cons cp cs ih =>
    obtain ⟨lead, more, rest, rfl, hnext, hs, hlt⟩ := h.round
    cases fuel with
    | zero => cases hf
    | succ fuel =>
      rw [utf8to16Loop, hnext]
      simp only
      rw [ih hs (by omega)]
      · rfl
      · exact List.cons_ne_nil _ _

theorem utf8to16_encodes (h : Encodes octets cs) : utf8to16 octets = .ok (cs.flatMap units) :=
  utf8to16Loop_encodes h (Nat.le_refl _)

theorem Encodes.unique {cs' : List Nat} (h : Encodes octets cs) (h' : Encodes octets cs') :
    cs = cs' := by
  induction cs generalizing octets cs' with
  | nil =>
    obtain rfl : octets = [] := h.octets
    cases cs' with
    | nil => rfl
    | cons c cs' =>
      obtain ⟨lead, more, rest, heq, -⟩ := h'.round
      cases heq
  | cons cp cs ih =>
    obtain ⟨lead, more, rest, rfl, hnext, hs, -⟩ := h.round
    cases cs' with
    | nil => cases h'.octets
    | cons cp' cs' =>
      obtain ⟨_, _, rest', -, hnext', hs', -⟩ := h'.round
      obtain ⟨rfl, rfl⟩ := Prod.mk.inj (Except.ok.inj (hnext.symm.trans hnext'))
      rw [ih hs hs']

theorem isLeadSurrogate_iff : isLeadSurrogate cp = true ↔ 55296 ≤ cp ∧ cp ≤ 56319 := by
  rw [isLeadSurrogate, Bool.and_eq_true, decide_eq_true_iff, decide_eq_true_iff]
  rfl

theorem isTrailSurrogate_iff : isTrailSurrogate cp = true ↔ 56320 ≤ cp ∧ cp ≤ 57343 := by
  rw [isTrailSurrogate, Bool.and_eq_true, decide_eq_true_iff, decide_eq_true_iff]
  rfl

theorem isSurrogate_iff : isSurrogate cp = true ↔ 55296 ≤ cp ∧ cp ≤ 57343 := by
  rw [isSurrogate, Bool.and_eq_true, decide_eq_true_iff, decide_eq_true_iff]
  rfl

theorem appendThen_ok {tail : Except UtfError (List UInt8)} (h : isCodePointValid cp = true) :
    appendThen cp tail = tail.map (encode cp ++ ·) := by
  rw [appendThen, append, if_pos h]

theorem joinSurrogates_units (h : isCodePointValid cp = true) (hbig : cp > 0xffff) :
    ∃ lead trail, units cp = [lead, trail] ∧ isLeadSurrogate lead = true ∧
      isTrailSurrogate trail = true ∧ joinSurrogates lead trail = cp := by
  have hle := isCodePointValid_le h
  have hmax : CODE_POINT_MAX = 1114111 := rfl
  have hoff : LEAD_OFFSET = 55232 := rfl
  have hlead : (cp >>> 10 + LEAD_OFFSET) % 2 ^ 16 = cp / 1024 + 55232 := by
    rw [Nat.shiftRight_eq_div_pow, hoff]
    omega
  have htrail : ((cp &&& 0x3ff) + TRAIL_SURROGATE_MIN) % 2 ^ 16 = cp % 1024 + 56320 := by
    rw [Nat.and_two_pow_sub_one_eq_mod cp 10, TRAIL_SURROGATE_MIN]
    omega
  refine ⟨cp / 1024 + 55232, cp % 1024 + 56320, ?_, ?_, ?_, ?_⟩
  · rw [units, if_pos hbig, hlead, htrail]
  · rw [isLeadSurrogate_iff]
    omega
  · rw [isTrailSurrogate_iff]
    omega
  · simp only [joinSurrogates, SURROGATE_OFFSET, Nat.shiftLeft_eq]
    omega

theorem units_small (h : isCodePointValid cp = true) (hsmall : cp ≤ 0xffff) :
    units cp = [cp] ∧ isLeadSurrogate cp = false ∧ isTrailSurrogate cp = false := by
  have hsur : ¬isSurrogate cp = true := by
    simp only [isCodePointValid, Bool.and_eq_true, Bool.not_eq_true'] at h
    rw [h.1.1.2]
    exact Bool.false_ne_true
  rw [isSurrogate_iff] at hsur
  refine ⟨?_, ?_, ?_⟩
  · rw [units, if_neg (by omega), Nat.mod_eq_of_lt (by omega)]
  · rw [← Bool.not_eq_true, isLeadSurrogate_iff]
    omega
  · rw [← Bool.not_eq_true, isTrailSurrogate_iff]
    omega

theorem utf16to8_small {rest : List Nat} (h : isCodePointValid cp = true) (hsmall : cp ≤ 0xffff) :
    utf16to8 (units cp ++ rest) = (utf16to8 rest).map (encode cp ++ ·) := by
  obtain ⟨hunits, hlead, htrail⟩ := units_small h hsmall
  rw [hunits, List.singleton_append, utf16to8.eq_def]
  simp only [hlead, htrail, Bool.false_eq_true, if_false, appendThen_ok h]

theorem utf16to8_big {rest : List Nat} (h : isCodePointValid cp = true) (hbig : cp > 0xffff) :
    utf16to8 (units cp ++ rest) = (utf16to8 rest).map (encode cp ++ ·) := by
  obtain ⟨lead, trail, hunits, hlead, htrail, hjoin⟩ := joinSurrogates_units h hbig
  rw [hunits, List.cons_append, List.singleton_append, utf16to8.eq_def]
  simp only [hlead, htrail, if_true, hjoin, appendThen_ok h]

theorem utf16to8_encode (h : ∀ c ∈ cs, isCodePointValid c = true) :
    utf16to8 (cs.flatMap units) = .ok (cs.flatMap encode) := by
  induction cs with
  | nil => rfl
  | cons cp cs ih =>
    have hcp := h cp List.mem_cons_self
    have hrest := ih fun c hc => h c (List.mem_cons_of_mem cp hc)
    rw [List.flatMap_cons, List.flatMap_cons]
    by_cases hsmall : cp ≤ 0xffff
    · rw [utf16to8_small hcp hsmall, hrest]
      rfl
    · rw [utf16to8_big hcp (by omega), hrest]
      rfl

end Utf8

end SkyfireBG
