import SkyfireBG.Lib.Byte

/-!
# SkyfireBG.Lib.Wire

Records that are read from a string of bytes field by field, blocks of fields under a condition on
the fields read before.

* `WireReader` — reads into a record, or fails when the bytes do not suffice.
* `Reads`      — a reader reads what a writer wrote, and leaves what follows.
* `Keeps`      — a reader leaves a part of the record alone.
-/

namespace SkyfireBG

variable {σ α : Type}

abbrev WireReader (σ : Type) := σ → List UInt8 → Option (σ × List UInt8)

namespace WireReader

def all : List (WireReader σ) → WireReader σ
  | [], m, bytes => some (m, bytes)
  | r :: rs, m, bytes =>
    match r m bytes with
    | none => none
    | some (m, bytes) => all rs m bytes

def when (c : σ → Bool) (r : WireReader σ) : WireReader σ := fun m bytes =>
  if c m then r m bytes else some (m, bytes)

/-- A number of `len` bytes, the lowest first. -/
def number (len : Nat) (put : σ → Nat → σ) : WireReader σ := fun m bytes =>
  if bytes.length < len then none
  else some (put m (ofLittleEndian (bytes.take len)), bytes.drop len)

end WireReader

/-- In a record that agrees with `x` as `P` says, the reader finds what was written of `x`. -/
def Reads (P : σ → σ → Prop) (r : WireReader σ) (write : σ → List UInt8) (onto : σ → σ → σ) :
    Prop :=
  ∀ x m rest, P x m → r m (write x ++ rest) = some (onto x m, rest)

namespace Reads

variable {P Q : σ → σ → Prop} {r : WireReader σ} {rs : List (WireReader σ)}
  {write write' : σ → List UInt8} {onto onto' : σ → σ → σ}

theorem cons (h : Reads P r write onto) (hP : ∀ x m, P x m → Q x (onto x m))
    (hs : Reads Q (.all rs) write' onto') :
    Reads P (.all (r :: rs)) (fun x => write x ++ write' x) (fun x m => onto' x (onto x m)) := by
  intro x m rest hx
  rw [WireReader.all, List.append_assoc, h x m _ hx]
  exact hs x (onto x m) rest (hP x m hx)

theorem keep (h : Reads P r write onto) (hP : ∀ x m, P x m → P x (onto x m))
    (hs : Reads P (.all rs) write' onto') :
    Reads P (.all (r :: rs)) (fun x => write x ++ write' x) (fun x m => onto' x (onto x m)) :=
  h.cons hP hs

theorem one (h : Reads P r write onto) : Reads P (.all [r]) write onto := by
  intro x m rest hx
  rw [WireReader.all, h x m rest hx]
  rfl

theorem when {c : σ → Bool} (hc : ∀ x m, P x m → c m = c x) (h : Reads P r write onto) :
    Reads P (.when c r) (fun x => if c x then write x else [])
      (fun x m => if c x then onto x m else m) := by
  intro x m rest hx
  simp only [WireReader.when, hc x m hx]
  by_cases hcx : c x = true
  · simp only [if_pos hcx]
    exact h x m rest hx
  · simp only [if_neg hcx, List.nil_append]

theorem number {get : σ → Nat} (len : Nat) (put : σ → Nat → σ) (hget : ∀ x, get x < 256 ^ len) :
    Reads P (.number len put) (fun x => littleEndian len (get x))
      (fun x m => put m (get x)) := by
  intro x m rest _
  have hlen : ¬(littleEndian len (get x) ++ rest).length < len := by
    rw [List.length_append, length_littleEndian]
    omega
  rw [WireReader.number, if_neg hlen, List.take_left' (length_littleEndian len (get x)),
    List.drop_left' (length_littleEndian len (get x)), ofLittleEndian_littleEndian (hget x)]

end Reads

/-- What `view` sees of the record is not changed by the reader. -/
def Keeps (view : σ → α) (r : WireReader σ) : Prop :=
  ∀ m bytes m' rest, r m bytes = some (m', rest) → view m' = view m

namespace Keeps

variable {view : σ → α} {r : WireReader σ} {rs : List (WireReader σ)}

theorem view_eq (view : σ → α) {m m' : σ} {bytes rest : List UInt8}
    (hr : r m bytes = some (m', rest)) (h : Keeps view r) : view m' = view m :=
  h m bytes m' rest hr

theorem nil : Keeps view (.all []) := by
  intro m bytes m' rest hr
  cases hr
  rfl

theorem cons (h : Keeps view r) (hs : Keeps view (.all rs)) : Keeps view (.all (r :: rs)) := by
  intro m bytes m' rest hr
  rw [WireReader.all] at hr
  split at hr
  · cases hr
  next m₁ bytes₁ h₁ => exact (hs m₁ bytes₁ m' rest hr).trans (h m bytes m₁ bytes₁ h₁)

theorem when {c : σ → Bool} (h : Keeps view r) : Keeps view (.when c r) := by
  intro m bytes m' rest hr
  rw [WireReader.when] at hr
  split at hr
  · exact h m bytes m' rest hr
  · cases hr
    rfl

theorem number {len : Nat} {put : σ → Nat → σ} (h : ∀ m n, view (put m n) = view m) :
    Keeps view (.number len put) := by
  intro m bytes m' rest hr
  rw [WireReader.number] at hr
  split at hr
  · cases hr
  · cases hr
    exact h _ _

end Keeps

end SkyfireBG
