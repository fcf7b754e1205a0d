import Mathlib.Algebra.Order.Field.Rat
import Mathlib.Data.Nat.ModEq
import Mathlib.Order.Lattice.Nat

/-!
# SkyfireBG.Lib.Ring

A counter that runs modulo `n`: `window n a k` lists the `k` values from `a` on.

* `window_succ`, `tail_window` — the window grows at its end and shrinks at its front.
* `window_nodup`               — no value comes twice in a window no longer than the counter.
* `window_wrap`                — where a later value is smaller, the counter passed from `n - 1` to
  `0` in between.
-/

namespace SkyfireBG

def window (n a k : Nat) : List Nat := (List.range k).map (fun i => (a + i) % n)

variable {n a k : Nat}

@[simp] theorem getElem_window {i : Nat} (h : i < (window n a k).length) :
    (window n a k)[i] = (a + i) % n := by simp [window]

theorem window_succ : window n a (k + 1) = window n a k ++ [(a + k) % n] := by
  simp [window, List.range_succ]

theorem tail_window : (window n a (k + 1)).tail = window n (a + 1) k := by
  simp only [window, List.range_succ_eq_map, List.map_cons, List.tail_cons, List.map_map]
  apply List.map_congr_left
  intro i _
  show (a + (i + 1)) % n = (a + 1 + i) % n
  rw [Nat.add_assoc a 1 i, Nat.add_comm 1 i]

theorem head_window : (window n a (k + 1)).head? = some (a % n) := by
  simp [window, List.range_succ_eq_map]

theorem mod_inj_of_close {i j : Nat} (hi : i < n) (hj : j < n) (h : (a + i) % n = (a + j) % n) :
    i = j := by
  have hmod : i ≡ j [MOD n] := Nat.ModEq.add_left_cancel' a h
  rwa [Nat.ModEq, Nat.mod_eq_of_lt hi, Nat.mod_eq_of_lt hj] at hmod

theorem window_nodup (h : k ≤ n) : (window n a k).Nodup := by
  refine List.Nodup.map_on ?_ List.nodup_range
  intro i hi j hj he
  have hi := List.mem_range.mp hi
  have hj := List.mem_range.mp hj
  exact mod_inj_of_close (by omega) (by omega) he

theorem mod_add_start (i : Nat) : (a + i) % n = (a % n + i) % n := by
  rw [Nat.mod_add_mod]

theorem window_wrap {i j : Nat} (hij : i < j) (hj : j < n) (h : (a + j) % n < (a + i) % n) :
    ∃ w, i ≤ w ∧ w < j ∧ (a + (w + 1)) % n = 0 := by
  have hb := Nat.mod_lt a (show 0 < n by omega)
  -- the place where the counter is `n - 1`
  refine ⟨n - 1 - a % n, ?_⟩
  rw [mod_add_start i, mod_add_start j] at h
  rw [mod_add_start (n - 1 - a % n + 1)]
  generalize a % n = b at hb h ⊢
  have hzero : (b + (n - 1 - b + 1)) % n = 0 := by
    rw [show b + (n - 1 - b + 1) = n by omega, Nat.mod_self]
  by_cases hbi : b + i < n
  · by_cases hbj : b + j < n
    · rw [Nat.mod_eq_of_lt hbi, Nat.mod_eq_of_lt hbj] at h
      omega
    · exact ⟨by omega, by omega, hzero⟩
  · have h1 : (b + i) % n = b + i - n := by
      rw [Nat.mod_eq_sub_mod (by omega), Nat.mod_eq_of_lt (by omega)]
    have h2 : (b + j) % n = b + j - n := by
      rw [Nat.mod_eq_sub_mod (by omega), Nat.mod_eq_of_lt (by omega)]
    omega

end SkyfireBG

/-!
## Going around

A walk around a circle of `n` positions, upwards or downwards, one position a move.
-/

namespace SkyfireBG

variable {n i₀ k : Nat} {next : Bool}

/-- The position after `k` moves from `i₀`. -/
def cyclePos (n i₀ : Nat) (next : Bool) (k : Nat) : Nat :=
  if next then (i₀ + k) % n else (i₀ + (n - k)) % n

theorem cyclePos_lt (hn : 0 < n) (i₀ : Nat) (next : Bool) (k : Nat) : cyclePos n i₀ next k < n := by
  rw [cyclePos]
  split <;> exact Nat.mod_lt _ hn

theorem cyclePos_zero (hi : i₀ < n) : cyclePos n i₀ next 0 = i₀ := by
  rw [cyclePos]
  split
  · exact Nat.mod_eq_of_lt hi
  · rw [Nat.sub_zero, Nat.add_mod_right, Nat.mod_eq_of_lt hi]

theorem cyclePos_succ (hi : i₀ < n) (hk : k < n) :
    (if next then (if cyclePos n i₀ next k + 1 = n then 0 else cyclePos n i₀ next k + 1)
      else (if cyclePos n i₀ next k = 0 then n else cyclePos n i₀ next k) - 1) =
      cyclePos n i₀ next (k + 1) := by
  have hlt := cyclePos_lt (Nat.zero_lt_of_lt hi) i₀ next k
  cases next with
  | true =>
    simp only [cyclePos, if_true] at hlt ⊢
    have hstep : (i₀ + (k + 1)) % n = ((i₀ + k) % n + 1) % n := by
      rw [← Nat.add_assoc, Nat.mod_add_mod]
    rw [hstep]
    split
    next hlast => rw [hlast, Nat.mod_self]
    next hne => exact (Nat.mod_eq_of_lt (by omega)).symm
  | false =>
    simp only [cyclePos, Bool.false_eq_true, if_false] at hlt ⊢
    have hsum : i₀ + (n - k) = i₀ + (n - (k + 1)) + 1 := by omega
    rw [hsum, Nat.add_mod (i₀ + (n - (k + 1)))] at hlt ⊢
    generalize hm : (i₀ + (n - (k + 1))) % n = m at hlt ⊢
    have hm' : m < n := hm ▸ Nat.mod_lt _ (Nat.zero_lt_of_lt hi)
    by_cases hn : n = 1
    · have h0 : m = 0 := by omega
      simp [hn, h0]
    · rw [Nat.mod_eq_of_lt (by omega : 1 < n)]
      by_cases hlast : m + 1 = n
      · rw [hlast, Nat.mod_self, if_pos rfl]
        omega
      · rw [Nat.mod_eq_of_lt (by omega), if_neg (by omega)]
        omega

theorem cyclePos_eq_iff (hi : i₀ < n) (hk : k ≤ n) :
    cyclePos n i₀ next k = i₀ ↔ k = 0 ∨ k = n := by
  rw [cyclePos]
  split
  · rcases Nat.lt_or_ge (i₀ + k) n with hlt | hge
    · rw [Nat.mod_eq_of_lt hlt]
      omega
    · rw [Nat.mod_eq_sub_mod hge, Nat.mod_eq_of_lt (by omega)]
      omega
  · rcases Nat.lt_or_ge (i₀ + (n - k)) n with hlt | hge
    · rw [Nat.mod_eq_of_lt hlt]
      omega
    · rw [Nat.mod_eq_sub_mod hge]
      rcases Nat.lt_or_ge (i₀ + (n - k) - n) n with hlt | hge'
      · rw [Nat.mod_eq_of_lt hlt]
        omega
      · omega

theorem exists_cyclePos (next : Bool) {j : Nat} (hi : i₀ < n) (hj : j < n) :
    ∃ k < n, cyclePos n i₀ next k = j := by
  cases next with
  | true =>
    refine ⟨(j + (n - i₀)) % n, Nat.mod_lt _ (Nat.zero_lt_of_lt hi), ?_⟩
    simp only [cyclePos, if_true]
    rw [Nat.add_mod_mod, show i₀ + (j + (n - i₀)) = j + n by omega, Nat.add_mod_right,
      Nat.mod_eq_of_lt hj]
  | false =>
    simp only [cyclePos, Bool.false_eq_true, if_false]
    rcases Nat.lt_or_ge i₀ j with hlt | hge
    · refine ⟨n - (j - i₀), by omega, ?_⟩
      rw [show i₀ + (n - (n - (j - i₀))) = j by omega, Nat.mod_eq_of_lt hj]
    · refine ⟨i₀ - j, by omega, ?_⟩
      rw [show i₀ + (n - (i₀ - j)) = j + n by omega, Nat.add_mod_right, Nat.mod_eq_of_lt hj]

end SkyfireBG
