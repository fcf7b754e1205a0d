import SkyfireBG.Utf8.Codec

/-!
# SkyfireBG.Util.Utf

`Utf8toWStr` and `utf8truncate`.  Both make room for one unit a code point, and `utf8to16` writes
two for a code point above U+FFFF.

* `length_units`         — how many units are written.
* `utf8toWStr_encodes`, `utf8toWString_encodes`, `utf8truncate_small` — the conversions of valid text.
* `wide_conversion_fits` — when they do what they are for.
-/

namespace SkyfireBG

open Utf8

/-- `wstr` is the memory from the pointer on; `written` counts the units that `utf8to16` wrote. -/
structure WideBuffer where
  ret : Bool
  wstr : Nat → Nat
  wsize : Nat
  written : Nat

/-- The units `us` are stored from the pointer on. -/
def store (us : List Nat) (wstr : Nat → Nat) : Nat → Nat := fun i => us.getD i (wstr i)

def wideFailure (wstr : Nat → Nat) (wsize : Nat) : WideBuffer where
  ret := false
  wstr := if wsize > 0 then Function.update wstr 0 0 else wstr
  wsize := 0
  written := 0

/-- `Utf8toWStr` into a buffer of `wsize` units and a terminator. -/
def utf8toWStr (utf8str : List UInt8) (wstr : Nat → Nat) (wsize : Nat) : WideBuffer :=
  match distance utf8str with
  | .error _ => wideFailure wstr wsize
  | .ok len =>
    if len > wsize then wideFailure wstr wsize
    else
      match utf8to16 utf8str with
      -- not reached: `distance` has read the whole range
      | .error _ => wideFailure wstr len
      | .ok us => ⟨true, Function.update (store us wstr) len 0, len, us.length⟩

/-- `wstr` is the string; `written` counts the units that went to its first unit and on. -/
structure WideString where
  ret : Bool
  wstr : List Nat
  written : Nat

/-- `Utf8toWStr` into a string. -/
def utf8toWString (utf8str : List UInt8) (wstr : List Nat) : WideString :=
  match distance utf8str with
  | .error _ => ⟨false, [], 0⟩
  | .ok len =>
    if len = 0 then ⟨true, wstr, 0⟩
    else
      match utf8to16 utf8str with
      | .error _ => ⟨false, [], 0⟩
      -- the string holds `len` units, the others are behind it
      | .ok us => ⟨true, us.take len, us.length⟩

/-- `written` units went to the string `wstr` of `size` units. -/
structure Truncated where
  utf8str : List UInt8
  written : Nat
  size : Nat

def utf8truncate (utf8str : List UInt8) (len : Nat) : Truncated :=
  match distance utf8str with
  | .error _ => ⟨[], 0, 0⟩
  | .ok wlen =>
    if wlen ≤ len then ⟨utf8str, 0, 0⟩
    else
      match utf8to16 utf8str with
      | .error _ => ⟨[], 0, wlen⟩
      | .ok us =>
        match utf16to8 ((us.take wlen).take len) with
        | .error _ => ⟨[], us.length, wlen⟩
        | .ok out => ⟨out, us.length, wlen⟩

variable {octets : List UInt8} {cs : List Nat}

theorem length_units_cp (cp : Nat) : (units cp).length = if cp > 0xffff then 2 else 1 := by
  rw [units]
  split <;> rfl

theorem length_units (cs : List Nat) :
    (cs.flatMap units).length = cs.length + cs.countP (· > 0xffff) := by
  induction cs with
  | nil => rfl
  | cons cp cs ih =>
    rw [List.flatMap_cons, List.length_append, ih, length_units_cp, List.length_cons,
      List.countP_cons]
    by_cases hbig : cp > 0xffff
    · simp only [hbig, if_true, decide_true]
      omega
    · simp only [hbig, if_false, decide_false, Bool.false_eq_true]
      omega

theorem length_units_le_iff : (cs.flatMap units).length ≤ cs.length ↔ ∀ c ∈ cs, c ≤ 0xffff := by
  have hcount : cs.countP (· > 0xffff) = 0 ↔ ∀ c ∈ cs, c ≤ 0xffff := by
    simp only [List.countP_eq_zero, decide_eq_true_eq, gt_iff_lt, Nat.not_lt]
  rw [← hcount, length_units]
  omega

theorem length_units_eq (h : ∀ c ∈ cs, c ≤ 0xffff) : (cs.flatMap units).length = cs.length := by
  have hle := length_units_le_iff.mpr h
  have hge := length_units cs
  omega

theorem Utf8.Encodes.small (h : Encodes octets cs) (hsmall : ∀ c ∈ cs, c ≤ 0xffff) :
    cs.flatMap units = cs := by
  have hcp : ∀ c ∈ cs, units c = [c] := fun c hc => (units_small (h.valid c hc) (hsmall c hc)).1
  clear h hsmall
  induction cs with
  | nil => rfl
  | cons cp cs ih =>
    rw [List.flatMap_cons, hcp cp List.mem_cons_self,
      ih fun c hc => hcp c (List.mem_cons_of_mem cp hc)]
    rfl

theorem utf8toWStr_encodes {wstr : Nat → Nat} {wsize : Nat} (h : Encodes octets cs) :
    utf8toWStr octets wstr wsize =
      if cs.length > wsize then wideFailure wstr wsize
      else ⟨true, Function.update (store (cs.flatMap units) wstr) cs.length 0, cs.length,
        (cs.flatMap units).length⟩ := by
  rw [utf8toWStr, distance_eq_ok.mpr ⟨cs, h, rfl⟩, utf8to16_encodes h]

theorem utf8toWStr_invalid {wstr : Nat → Nat} {wsize : Nat} (h : ∀ cs, ¬ Encodes octets cs) :
    utf8toWStr octets wstr wsize = wideFailure wstr wsize := by
  obtain ⟨e, he⟩ := distance_error h
  rw [utf8toWStr, he]

theorem utf8toWString_encodes {wstr : List Nat} (h : Encodes octets cs) :
    utf8toWString octets wstr =
      if cs.length = 0 then ⟨true, wstr, 0⟩
      else ⟨true, (cs.flatMap units).take cs.length, (cs.flatMap units).length⟩ := by
  rw [utf8toWString, distance_eq_ok.mpr ⟨cs, h, rfl⟩, utf8to16_encodes h]

theorem utf8toWString_invalid {wstr : List Nat} (h : ∀ cs, ¬ Encodes octets cs) :
    utf8toWString octets wstr = ⟨false, [], 0⟩ := by
  obtain ⟨e, he⟩ := distance_error h
  rw [utf8toWString, he]

theorem utf8truncate_short {len : Nat} (h : Encodes octets cs) (hle : cs.length ≤ len) :
    utf8truncate octets len = ⟨octets, 0, 0⟩ := by
  rw [utf8truncate, distance_eq_ok.mpr ⟨cs, h, rfl⟩]
  exact if_pos hle

theorem utf8truncate_long {len : Nat} (h : Encodes octets cs) (hlt : len < cs.length) :
    (utf8truncate octets len).written = (cs.flatMap units).length ∧
      (utf8truncate octets len).size = cs.length := by
  rw [utf8truncate, distance_eq_ok.mpr ⟨cs, h, rfl⟩]
  simp only [Nat.not_le.mpr hlt, if_false, utf8to16_encodes h]
  split <;> exact ⟨rfl, rfl⟩

theorem utf8truncate_small {len : Nat} (h : Encodes octets cs) (hlt : len < cs.length)
    (hsmall : ∀ c ∈ cs, c ≤ 0xffff) :
    (utf8truncate octets len).utf8str = (cs.take len).flatMap encode := by
  have htake : ((cs.flatMap units).take cs.length).take len = (cs.take len).flatMap units := by
    have htaken : Encodes ((cs.take len).flatMap encode) (cs.take len) :=
      ⟨fun c hc => h.valid c (List.mem_of_mem_take hc), rfl⟩
    have hkept : (cs.take len).flatMap units = cs.take len :=
      htaken.small fun c hc => hsmall c (List.mem_of_mem_take hc)
    rw [h.small hsmall, List.take_length, hkept]
  have hback : utf16to8 ((cs.take len).flatMap units) = .ok ((cs.take len).flatMap encode) :=
    utf16to8_encode fun c hc => h.valid c (List.mem_of_mem_take hc)
  rw [utf8truncate, distance_eq_ok.mpr ⟨cs, h, rfl⟩]
  simp only [Nat.not_le.mpr hlt, if_false, utf8to16_encodes h, htake, hback]

def WideBuffer.Exact (r : WideBuffer) (octets : List UInt8) (capacity : Nat) : Prop :=
  (r.ret = false ∧ r.wsize = 0 ∧ (0 < capacity → r.wstr 0 = 0)) ∨
    ∃ cs, Encodes octets cs ∧ r.ret = true ∧ r.written ≤ capacity ∧
      (List.range r.wsize).map r.wstr = cs.flatMap units

def WideString.Exact (r : WideString) (octets : List UInt8) : Prop :=
  (r.ret = false ∧ r.wstr = []) ∨
    ∃ cs, Encodes octets cs ∧ r.ret = true ∧ r.written ≤ r.wstr.length ∧ r.wstr = cs.flatMap units

/-- The first `len` of the code points `cs`, and no unit outside the string in between. -/
def Truncated.Exact (r : Truncated) (cs : List Nat) (len : Nat) : Prop :=
  r.utf8str = (cs.take len).flatMap encode ∧ r.written ≤ r.size

theorem wideFailure_exact (wstr : Nat → Nat) (wsize : Nat) :
    (wideFailure wstr wsize).Exact octets wsize := by
  refine .inl ⟨rfl, rfl, fun hpos => ?_⟩
  simp only [wideFailure, gt_iff_lt, hpos, if_true, Function.update_self]

theorem range_map_store (us : List Nat) (wstr : Nat → Nat) :
    (List.range us.length).map (Function.update (store us wstr) us.length 0) = us := by
  apply List.ext_getElem
  · simp
  · intro i h1 h2
    have hne : i ≠ us.length := by omega
    simp [store, Function.update_of_ne hne, h2]

theorem utf8toWStr_exact_iff {wstr : Nat → Nat} {wsize : Nat} (h : Encodes octets cs) :
    (utf8toWStr octets wstr wsize).Exact octets wsize ↔
      wsize < cs.length ∨ ∀ c ∈ cs, c ≤ 0xffff := by
  rw [utf8toWStr_encodes h]
  by_cases hlt : cs.length > wsize
  · rw [if_pos hlt]
    exact ⟨fun _ => .inl hlt, fun _ => wideFailure_exact wstr wsize⟩
  rw [if_neg hlt]
  constructor
  · rintro (⟨hret, -⟩ | ⟨cs', h', -, -, hmem⟩)
    · cases hret
    · -- the length that is handed back counts the code points
      rw [← h.unique h'] at hmem
      have hlen := congrArg List.length hmem
      rw [List.length_map, List.length_range] at hlen
      exact .inr (length_units_le_iff.mp (Nat.le_of_eq hlen.symm))
  · rintro (hcap | hsmall)
    · exact absurd hcap hlt
    · have hlen := length_units_eq hsmall
      refine .inr ⟨cs, h, rfl, ?_, ?_⟩
      · show (cs.flatMap units).length ≤ wsize
        omega
      · show (List.range cs.length).map _ = _
        rw [← hlen]
        exact range_map_store _ wstr

theorem utf8toWString_exact_iff {wstr : List Nat} (h : Encodes octets cs) :
    (utf8toWString octets wstr).Exact octets ↔
      (cs = [] → wstr = []) ∧ ∀ c ∈ cs, c ≤ 0xffff := by
  rw [utf8toWString_encodes h]
  cases cs with
  | nil =>
    constructor
    · rintro (⟨hret, -⟩ | ⟨cs', h', -, -, hstr⟩)
      · cases hret
      · rw [← h.unique h'] at hstr
        exact ⟨fun _ => hstr, by simp⟩
    · rintro ⟨hstr, -⟩
      exact .inr ⟨[], h, rfl, Nat.zero_le _, hstr rfl⟩
  | cons cp cs =>
    rw [if_neg (by simp)]
    constructor
    · rintro (⟨hret, -⟩ | ⟨cs', h', -, hroom, -⟩)
      · cases hret
      · refine ⟨fun hnil => absurd hnil (List.cons_ne_nil _ _), length_units_le_iff.mp ?_⟩
        exact Nat.le_trans hroom (List.length_take_le _ _)
    · rintro ⟨-, hsmall⟩
      have hlen := length_units_eq hsmall
      have htake : ((cp :: cs).flatMap units).take (cp :: cs).length = (cp :: cs).flatMap units := by
        rw [← hlen, List.take_length]
      refine .inr ⟨cp :: cs, h, rfl, ?_, htake⟩
      show _ ≤ (List.take _ _).length
      exact Nat.le_of_eq (congrArg List.length htake.symm)

theorem utf8truncate_exact_iff {len : Nat} (h : Encodes octets cs) :
    (utf8truncate octets len).Exact cs len ↔ cs.length ≤ len ∨ ∀ c ∈ cs, c ≤ 0xffff := by
  by_cases hle : cs.length ≤ len
  · rw [utf8truncate_short h hle, Truncated.Exact, List.take_of_length_le hle]
    exact ⟨fun _ => .inl hle, fun _ => ⟨h.octets, Nat.le_refl _⟩⟩
  have hlt : len < cs.length := Nat.lt_of_not_le hle
  obtain ⟨hwritten, hsize⟩ := utf8truncate_long h hlt
  rw [Truncated.Exact, hwritten, hsize, length_units_le_iff]
  constructor
  · exact fun hr => .inr hr.2
  · rintro (hc | hsmall)
    · exact absurd hc hle
    · exact ⟨utf8truncate_small h hlt hsmall, hsmall⟩

/-- The conversions are exact on text without code points above U+FFFF, save that the string keeps
its content on empty text; on text that is refused they leave nothing. -/
theorem wide_conversion_fits (octets : List UInt8) :
    (∀ wstr wsize, (utf8toWStr octets wstr wsize).Exact octets wsize ↔
      ∀ cs, Encodes octets cs → wsize < cs.length ∨ ∀ c ∈ cs, c ≤ 0xffff) ∧
    (∀ wstr, (utf8toWString octets wstr).Exact octets ↔
      (octets = [] → wstr = []) ∧ ∀ cs, Encodes octets cs → ∀ c ∈ cs, c ≤ 0xffff) ∧
    (∀ cs len, Encodes octets cs →
      ((utf8truncate octets len).Exact cs len ↔ cs.length ≤ len ∨ ∀ c ∈ cs, c ≤ 0xffff)) := by
  refine ⟨fun wstr wsize => ?_, fun wstr => ?_, fun cs len h => utf8truncate_exact_iff h⟩
  · by_cases hvalid : ∃ cs, Encodes octets cs
    · obtain ⟨cs, h⟩ := hvalid
      rw [utf8toWStr_exact_iff h]
      exact ⟨fun hc cs' h' => h.unique h' ▸ hc, fun hc => hc cs h⟩
    · have hinv : ∀ cs, ¬Encodes octets cs := not_exists.mp hvalid
      rw [utf8toWStr_invalid hinv]
      exact ⟨fun _ cs h => absurd h (hinv cs), fun _ => wideFailure_exact wstr wsize⟩
  · by_cases hvalid : ∃ cs, Encodes octets cs
    · obtain ⟨cs, h⟩ := hvalid
      have hnil : cs = [] ↔ octets = [] := by
        constructor
        · rintro rfl
          exact h.octets
        · rintro rfl
          exact h.unique .nil
      rw [utf8toWString_exact_iff h, hnil]
      exact ⟨fun hc => ⟨hc.1, fun cs' h' => h.unique h' ▸ hc.2⟩, fun hc => ⟨hc.1, hc.2 cs h⟩⟩
    · have hinv : ∀ cs, ¬Encodes octets cs := not_exists.mp hvalid
      rw [utf8toWString_invalid hinv]
      refine ⟨fun _ => ⟨?_, fun cs h => absurd h (hinv cs)⟩, fun _ => .inl ⟨rfl, rfl⟩⟩
      rintro rfl
      exact absurd .nil (hinv [])

/-- U+10000 fills a buffer of one unit twice. -/
theorem wide_conversion_overrun :
    ¬(utf8toWStr [0xf0, 0x90, 0x80, 0x80] (fun _ => 0) 1).Exact [0xf0, 0x90, 0x80, 0x80] 1 ∧
      ¬(utf8toWString [0xf0, 0x90, 0x80, 0x80] []).Exact [0xf0, 0x90, 0x80, 0x80] ∧
      (utf8toWString [0xf0, 0x90, 0x80, 0x80] []).written = 2 ∧
      (utf8toWString [0xf0, 0x90, 0x80, 0x80] []).wstr.length = 1 := by
  have h : Encodes [0xf0, 0x90, 0x80, 0x80] [0x10000] := ⟨by decide, by decide⟩
  have hbig : ¬∀ c ∈ [0x10000], c ≤ 0xffff := by decide
  refine ⟨?_, ?_, by decide, by decide⟩
  · rw [utf8toWStr_exact_iff h]
    exact fun hc => hc.elim (by decide) hbig
  · rw [utf8toWString_exact_iff h]
    exact fun hc => hbig hc.2

end SkyfireBG
