import SkyfireBG.Lib.Byte
import SkyfireBG.Packets.PackGuid

/-!
# SkyfireBG.Packets.ByteBuffer

`ByteBuffer`: bytes with a position for reading and one for writing.  A `size_t` has `w` bits, and
the sums of the checks are taken modulo `2 ^ w`.

* `guarded_readAt_iff`     — when the check of a read keeps it inside the storage.
* `packed_guid_round_trip` — a packed guid is read back from any buffer.
* `append_ok`              — what a buffer is after bytes were appended.
-/

namespace SkyfireBG

inductive ByteBufferError where
  /-- `ByteBufferPositionException`, with its four arguments in the order of the calls. -/
  | position (add : Bool) (pos value size : Nat)
  | source (pos size value : Nat)
  /-- `ASSERT(size() < 10000000)` -/
  | assertion
  /-- Memory behind the storage is read or written. -/
  | outside
deriving DecidableEq, Repr

structure ByteBuffer where
  rpos : Nat := 0
  wpos : Nat := 0
  storage : List UInt8 := []
deriving DecidableEq, Repr

/-- A sum of type `size_t`. -/
def sizeT (w n : Nat) : Nat := n % 2 ^ w

theorem sizeT_of_lt {w n : Nat} (h : n < 2 ^ w) : sizeT w n = n := Nat.mod_eq_of_lt h

namespace ByteBuffer

section Operations

variable (w : Nat) (b : ByteBuffer)

def size : Nat := b.storage.length

def rest : List UInt8 := b.storage.drop b.rpos

def check (pos len : Nat) : Except ByteBufferError Unit :=
  if sizeT w (pos + len) > b.size then .error (.position false pos len b.size) else .ok ()

def bytesAt (pos len : Nat) : Except ByteBufferError (List UInt8) :=
  if pos + len ≤ b.size then .ok ((b.storage.drop pos).take len) else .error .outside

/-- `read<T>(pos)` of a number of `len` bytes. -/
def readAt (pos len : Nat) : Except ByteBufferError Nat := do
  b.check w pos len
  let bytes ← b.bytesAt pos len
  .ok (ofLittleEndian bytes)

/-- `read<T>()` -/
def read (len : Nat) : Except ByteBufferError (Nat × ByteBuffer) := do
  let val ← b.readAt w b.rpos len
  .ok (val, { b with rpos := sizeT w (b.rpos + len) })

/-- `read(dest, len)` -/
def readBytes (len : Nat) : Except ByteBufferError (List UInt8 × ByteBuffer) := do
  b.check w b.rpos len
  let bytes ← b.bytesAt b.rpos len
  .ok (bytes, { b with rpos := sizeT w (b.rpos + len) })

def read_skip (skip : Nat) : Except ByteBufferError ByteBuffer := do
  b.check w b.rpos skip
  .ok { b with rpos := sizeT w (b.rpos + skip) }

/-- The storage with `bytes` copied to `pos`. -/
def copyTo (storage : List UInt8) (pos : Nat) (bytes : List UInt8) : Option (List UInt8) :=
  if pos + bytes.length ≤ storage.length then
    some (storage.take pos ++ bytes ++ storage.drop (pos + bytes.length))
  else none

/-- `append(src, cnt)` -/
def append (bytes : List UInt8) : Except ByteBufferError ByteBuffer :=
  if bytes.length = 0 then .error (.source b.wpos b.size 0)
  else if b.size < 10000000 then
    let newSize := sizeT w (b.wpos + bytes.length)
    let storage :=
      if b.size < newSize then b.storage ++ List.replicate (newSize - b.size) 0 else b.storage
    match copyTo storage b.wpos bytes with
    | none => .error .outside
    | some storage => .ok { b with wpos := newSize, storage := storage }
  else .error .assertion

def appendPackGUID (guid : UInt64) : Except ByteBufferError ByteBuffer :=
  b.append w (SkyfireBG.appendPackGUID guid)

end Operations

/-- The loop of `readPackGUID` from byte `i` on. -/
def readGuidLoop (w guidmark : Nat) :
    Nat → Nat → Nat → ByteBuffer → Except ByteBufferError (Nat × ByteBuffer)
  | 0, _, guid, b => .ok (guid, b)
  | fuel + 1, i, guid, b =>
    if guidmark.testBit i then do
      b.check w b.rpos 1
      let (bit, b) ← b.read w 1
      readGuidLoop w guidmark fuel (i + 1) (guid ||| bit <<< (i * 8)) b
    else readGuidLoop w guidmark fuel (i + 1) guid b

def readPackGUID (w : Nat) (b : ByteBuffer) : Except ByteBufferError (UInt64 × ByteBuffer) := do
  b.check w b.rpos 1
  let (guidmark, b) ← b.read w 1
  let (guid, b) ← readGuidLoop w guidmark 8 0 0 b
  .ok (UInt64.ofNat guid, b)

section Reads

variable {w : Nat} {b : ByteBuffer} {pos len : Nat}

theorem check_ok (h : pos + len ≤ b.size) (hsize : b.size < 2 ^ w) : b.check w pos len = .ok () := by
  rw [check, sizeT_of_lt (Nat.lt_of_le_of_lt h hsize), if_neg (Nat.not_lt.mpr h)]

theorem check_error (h : b.size < pos + len) (hlt : pos + len < 2 ^ w) :
    b.check w pos len = .error (.position false pos len b.size) := by
  rw [check, sizeT_of_lt hlt, if_pos h]

theorem readAt_ok (h : pos + len ≤ b.size) (hsize : b.size < 2 ^ w) :
    b.readAt w pos len = .ok (ofLittleEndian ((b.storage.drop pos).take len)) := by
  rw [readAt, check_ok h hsize, bytesAt, if_pos h]
  rfl

theorem read_ok (h : b.rpos + len ≤ b.size) (hsize : b.size < 2 ^ w) :
    b.read w len = .ok (ofLittleEndian (b.rest.take len), { b with rpos := b.rpos + len }) := by
  rw [read, readAt_ok h hsize, sizeT_of_lt (Nat.lt_of_le_of_lt h hsize)]
  rfl

theorem readBytes_ok (h : b.rpos + len ≤ b.size) (hsize : b.size < 2 ^ w) :
    b.readBytes w len = .ok (b.rest.take len, { b with rpos := b.rpos + len }) := by
  rw [readBytes, check_ok h hsize, bytesAt, if_pos h, sizeT_of_lt (Nat.lt_of_le_of_lt h hsize)]
  rfl

theorem length_of_rest {bytes tail : List UInt8} (hpos : b.rpos ≤ b.size)
    (h : b.rest = bytes ++ tail) : b.rpos + bytes.length + tail.length = b.size := by
  have hlen := congrArg List.length h
  rw [rest, List.length_drop, List.length_append] at hlen
  rw [size] at hpos ⊢
  omega

theorem rest_advance {bytes tail : List UInt8} (h : b.rest = bytes ++ tail) :
    ({ b with rpos := b.rpos + bytes.length } : ByteBuffer).rest = tail := by
  have hdrop : b.storage.drop (b.rpos + bytes.length) = b.rest.drop bytes.length := by
    rw [rest, List.drop_drop]
  rw [rest, hdrop, h, List.drop_left]

theorem rest_cons {x : UInt8} {tail : List UInt8} (hpos : b.rpos ≤ b.size) (h : b.rest = x :: tail) :
    b.rpos + 1 + tail.length = b.size ∧
      ({ b with rpos := b.rpos + 1 } : ByteBuffer).rest = tail := by
  rw [← List.singleton_append] at h
  exact ⟨length_of_rest hpos h, rest_advance h⟩

theorem read_one {x : UInt8} {tail : List UInt8} (hsize : b.size < 2 ^ w) (hpos : b.rpos ≤ b.size)
    (h : b.rest = x :: tail) :
    b.read w 1 = .ok (x.toNat, { b with rpos := b.rpos + 1 }) := by
  have hlen := (rest_cons hpos h).1
  rw [read_ok (by omega) hsize, h]
  simp [ofLittleEndian]

theorem check_end (hsize : b.size + 1 < 2 ^ w) (hpos : b.rpos ≤ b.size) (h : b.rest = []) :
    b.check w b.rpos 1 = .error (.position false b.size 1 b.size) := by
  have hlen : b.rpos = b.size := by
    rw [rest, List.drop_eq_nil_iff] at h
    exact Nat.le_antisymm hpos h
  rw [hlen]
  exact check_error (by omega) hsize

end Reads

/-- Reading `len` bytes from `pos` on throws, or stays within `size()`. -/
def Guarded {α : Type} (b : ByteBuffer) (pos len : Nat) (r : Except ByteBufferError α) : Prop :=
  r = .error (.position false pos len b.size) ∨ (∃ a, r = .ok a) ∧ pos + len ≤ b.size

/-- The sum of the check does not wrap, or wraps to a number that is still too large. -/
def SumFits (w : Nat) (b : ByteBuffer) (pos len : Nat) : Prop :=
  pos + len < 2 ^ w ∨ b.size < sizeT w (pos + len)

section Bounds

variable {w : Nat} {b : ByteBuffer} {pos len : Nat}

theorem guarded_iff {α : Type} {r : Except ByteBufferError α} (hsize : b.size < 2 ^ w)
    (hbad : b.size < sizeT w (pos + len) → r = .error (.position false pos len b.size))
    (hno : ¬b.size < sizeT w (pos + len) → r ≠ .error (.position false pos len b.size))
    (hok : pos + len ≤ b.size → ∃ a, r = .ok a) :
    Guarded b pos len r ↔ SumFits w b pos len := by
  by_cases hthrow : b.size < sizeT w (pos + len)
  · exact ⟨fun _ => .inr hthrow, fun _ => .inl (hbad hthrow)⟩
  · constructor
    · rintro (herr | ⟨-, hle⟩)
      · exact absurd herr (hno hthrow)
      · exact .inl (Nat.lt_of_le_of_lt hle hsize)
    · rintro (hlt | hwrap)
      · rw [sizeT_of_lt hlt] at hthrow
        exact .inr ⟨hok (by omega), by omega⟩
      · exact absurd hwrap hthrow

theorem check_of_lt (h : b.size < sizeT w (pos + len)) :
    b.check w pos len = .error (.position false pos len b.size) := if_pos h

theorem check_of_not_lt (h : ¬b.size < sizeT w (pos + len)) : b.check w pos len = .ok () := if_neg h

theorem bytesAt_ne (pos' len' : Nat) :
    b.bytesAt pos len ≠ .error (.position false pos' len' b.size) := by
  intro h
  rw [bytesAt] at h
  split at h <;> cases h

theorem guarded_bytes_iff {α : Type} (f : List UInt8 → α) (hsize : b.size < 2 ^ w) :
    Guarded b pos len (do
      b.check w pos len
      let bytes ← b.bytesAt pos len
      .ok (f bytes)) ↔ SumFits w b pos len := by
  refine guarded_iff hsize (fun h => ?_) (fun h herr => ?_) fun h => ?_
  · rw [check_of_lt h]
    rfl
  · rw [check_of_not_lt h] at herr
    cases hbytes : b.bytesAt pos len with
    | ok bytes => simp [hbytes, bind, Except.bind] at herr
    | error e =>
      simp only [hbytes, bind, Except.bind, Except.error.injEq] at herr
      exact bytesAt_ne pos len (hbytes.trans (by rw [herr]))
  · rw [check_ok h hsize, bytesAt, if_pos h]
    exact ⟨_, rfl⟩

theorem guarded_readAt_iff (hsize : b.size < 2 ^ w) :
    Guarded b pos len (b.readAt w pos len) ↔ SumFits w b pos len :=
  guarded_bytes_iff ofLittleEndian hsize

theorem guarded_readBytes_iff (hsize : b.size < 2 ^ w) :
    Guarded b b.rpos len (b.readBytes w len) ↔ SumFits w b b.rpos len :=
  guarded_bytes_iff (fun bytes => (bytes, { b with rpos := sizeT w (b.rpos + len) })) hsize

theorem guarded_read_iff (hsize : b.size < 2 ^ w) :
    Guarded b b.rpos len (b.read w len) ↔ SumFits w b b.rpos len := by
  rw [← guarded_bytes_iff (fun bytes =>
    (ofLittleEndian bytes, { b with rpos := sizeT w (b.rpos + len) })) hsize, read, readAt]
  cases b.check w b.rpos len with
  | error e => rfl
  | ok checked => cases b.bytesAt b.rpos len <;> rfl

theorem guarded_read_skip_iff (hsize : b.size < 2 ^ w) :
    Guarded b b.rpos len (b.read_skip w len) ↔ SumFits w b b.rpos len := by
  refine guarded_iff hsize (fun h => ?_) (fun h herr => ?_) fun h => ?_
  · rw [read_skip, check_of_lt h]
    rfl
  · rw [read_skip, check_of_not_lt h] at herr
    cases herr
  · rw [read_skip, check_ok h hsize]
    exact ⟨_, rfl⟩

end Bounds

section PackGuid

variable {w mark fuel i acc guid : Nat} {b : ByteBuffer} {tail : List UInt8}

/-- The loop reads what `unpackGUID` reads of the bytes that are left. -/
theorem readGuidLoop_eq (hsize : b.size + 1 < 2 ^ w) (hpos : b.rpos ≤ b.size) :
    readGuidLoop w mark fuel i acc b =
      (unpackGUID mark fuel i acc b.rest).elim (.error (.position false b.size 1 b.size))
        fun r => .ok (r.1, { b with rpos := b.size - r.2.length }) := by
  induction fuel generalizing i acc b with
  | zero =>
    rw [readGuidLoop, unpackGUID, Option.elim, rest, List.length_drop, ← size,
      Nat.sub_sub_self hpos]
  | succ fuel ih =>
    rw [readGuidLoop]
    by_cases hbit : mark.testBit i = true
    · rw [if_pos hbit]
      cases hrest : b.rest with
      | nil =>
        rw [check_end hsize hpos hrest]
        simp [unpackGUID, hbit, bind, Except.bind]
      | cons x xs =>
        obtain ⟨hlen, hdrop⟩ := rest_cons hpos hrest
        rw [check_ok (by omega) (by omega), read_one (by omega) hpos hrest, unpackGUID_set hbit,
          ← hdrop]
        exact ih hsize (by simp only [size] at hlen ⊢; omega)
    · rw [if_neg hbit]
      rw [Bool.not_eq_true] at hbit
      rw [unpackGUID_clear hbit]
      exact ih hsize hpos

theorem readPackGUID_cons {x : UInt8} {bytes : List UInt8} (hsize : b.size + 1 < 2 ^ w)
    (hpos : b.rpos ≤ b.size) (h : b.rest = x :: bytes) :
    b.readPackGUID w =
      (unpackGUID x.toNat 8 0 0 bytes).elim (.error (.position false b.size 1 b.size))
        fun r => .ok (UInt64.ofNat r.1, { b with rpos := b.size - r.2.length }) := by
  obtain ⟨hlen, hdrop⟩ := rest_cons hpos h
  have hsize' : ({ b with rpos := b.rpos + 1 } : ByteBuffer).size + 1 < 2 ^ w := hsize
  rw [readPackGUID, check_ok (by omega) (by omega), read_one (by omega) hpos h]
  simp only [bind, Except.bind]
  rw [readGuidLoop_eq hsize' (by simp only [size] at hlen ⊢; omega), hdrop]
  cases unpackGUID x.toNat 8 0 0 bytes <;> rfl

theorem readPackGUID_ok {guid : UInt64} (hsize : b.size + 1 < 2 ^ w) (hpos : b.rpos ≤ b.size)
    (h : b.rest = SkyfireBG.appendPackGUID guid ++ tail) :
    b.readPackGUID w =
      .ok (guid, { b with rpos := b.rpos + (SkyfireBG.appendPackGUID guid).length }) := by
  obtain ⟨mark, bytes, henc, hread⟩ := unpackGUID_appendPackGUID guid tail
  rw [henc] at h ⊢
  have hlen := length_of_rest hpos h
  rw [readPackGUID_cons hsize hpos h]
  refine (congrArg (Option.elim · _ _) hread).trans ?_
  rw [Option.elim, UInt64.ofNat_toNat, ← hlen, Nat.add_sub_cancel]

theorem readPackGUID_error {enc : List UInt8} {k : Nat} (henc : PackedGuid enc)
    (hsize : b.size + 1 < 2 ^ w) (hpos : b.rpos ≤ b.size) (hk : k < enc.length)
    (h : b.rest = enc.take k) :
    b.readPackGUID w = .error (.position false b.size 1 b.size) := by
  obtain ⟨mark, bytes, rfl, hannounced⟩ := henc
  cases k with
  | zero =>
    rw [readPackGUID, check_end hsize hpos h]
    rfl
  | succ k =>
    rw [List.take_succ_cons] at h
    rw [List.length_cons] at hk
    have hshort : (bytes.take k).length < announced mark.toNat 8 0 := by
      rw [List.length_take, ← hannounced]
      omega
    rw [readPackGUID_cons hsize hpos h, unpackGUID_eq_none hshort]
    rfl

end PackGuid

/-- `b'` is `b` with `bytes` written at its writing position, over what was there or behind it. -/
structure Appended (w : Nat) (b : ByteBuffer) (bytes : List UInt8) (b' : ByteBuffer) : Prop where
  ne_nil : bytes ≠ []
  before : b.size < 10000000
  rpos_eq : b'.rpos = b.rpos
  wpos_eq : b'.wpos = b.wpos + bytes.length
  inside : b'.wpos ≤ b'.size
  written : ∃ tail, b'.storage.drop b.wpos = bytes ++ tail
  size_lt : b'.size < 2 ^ w
  at_end : b.wpos = b.size → b'.storage = b.storage ++ bytes

theorem copyTo_eq_some {storage storage' bytes : List UInt8} {pos : Nat}
    (h : copyTo storage pos bytes = some storage') :
    pos + bytes.length ≤ storage.length ∧
      storage' = storage.take pos ++ bytes ++ storage.drop (pos + bytes.length) := by
  rw [copyTo] at h
  split at h
  next hle => exact ⟨hle, (Option.some.inj h).symm⟩
  · cases h

theorem append_ok {w : Nat} {b b' : ByteBuffer} {bytes : List UInt8} (hsize : b.size < 2 ^ w)
    (h : b.append w bytes = .ok b') : Appended w b bytes b' := by
  rw [append] at h
  split at h
  · cases h
  next hne =>
  split at h
  next hbefore =>
    simp only at h
    generalize hgrown : (if b.size < sizeT w (b.wpos + bytes.length) then
      b.storage ++ List.replicate (sizeT w (b.wpos + bytes.length) - b.size) 0
      else b.storage) = grown at h
    split at h
    · cases h
    next storage hcopy =>
    cases h
    obtain ⟨hle, rfl⟩ := copyTo_eq_some hcopy
    have hmod : sizeT w (b.wpos + bytes.length) < 2 ^ w := Nat.mod_lt _ (Nat.two_pow_pos w)
    have hmodle : sizeT w (b.wpos + bytes.length) ≤ b.wpos + bytes.length := Nat.mod_le _ _
    -- what was copied fits, so that the sum did not wrap
    have hlen : grown.length = max b.size (sizeT w (b.wpos + bytes.length)) := by
      rw [← hgrown]
      split
      next hlt =>
        rw [List.length_append, List.length_replicate, ← size]
        omega
      next hlt =>
        rw [← size]
        omega
    have hsum : sizeT w (b.wpos + bytes.length) = b.wpos + bytes.length := by
      by_cases hfits : b.wpos + bytes.length < 2 ^ w
      · exact sizeT_of_lt hfits
      · omega
    have hnew : (grown.take b.wpos ++ bytes ++ grown.drop (b.wpos + bytes.length)).length =
        grown.length := by
      simp only [List.length_append, List.length_take, List.length_drop]
      omega
    refine ⟨fun h => hne (by rw [h]; rfl), hbefore, rfl, hsum, ?_, ?_, ?_, fun hend => ?_⟩
    · rw [size, hnew, hsum]
      exact hle
    · refine ⟨grown.drop (b.wpos + bytes.length), ?_⟩
      rw [List.append_assoc]
      exact List.drop_left' (by rw [List.length_take]; omega)
    · rw [size, hnew, hlen]
      omega
    · have hgrow : grown = b.storage ++ List.replicate bytes.length 0 := by
        rw [← hgrown, hsum, hend, if_pos (by omega), Nat.add_sub_cancel_left]
      rw [hgrow, hend, size, List.take_left, List.drop_eq_nil_of_le (by simp), List.append_nil]
  next => cases h

end ByteBuffer

end SkyfireBG
