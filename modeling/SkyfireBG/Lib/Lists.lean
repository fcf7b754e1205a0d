import Mathlib.Algebra.Order.Field.Rat
import Mathlib.Order.Lattice.Nat

/-!
# SkyfireBG.Lib.Lists

The search for a pattern in a string and the replacement of a part, as `std::string` has them.

* `findIn_eq_none` — a pattern that is not found is in the string nowhere.
* `findIn_append`  — what no place of the first part begins is found in the second.
-/

namespace SkyfireBG

variable {α : Type} {pat str pre post : List α} {c : α} {i pos : Nat}

/-- `replace` of as many characters as `len` says, from `pos` on. -/
def replaceAt (str : List α) (pos len : Nat) (new : List α) : List α :=
  str.take pos ++ new ++ str.drop (pos + len)

theorem replaceAt_append {mid new : List α} :
    replaceAt (pre ++ mid ++ post) pre.length mid.length new = pre ++ new ++ post := by
  rw [replaceAt, List.append_assoc pre mid, List.take_left, ← List.append_assoc,
    ← List.length_append, List.drop_left]

variable [DecidableEq α]

def findIn (pat : List α) : List α → Option Nat
  | [] => if pat = [] then some 0 else none
  | x :: str => if pat.isPrefixOf (x :: str) then some 0 else (findIn pat str).map (· + 1)

/-- `find`: the first place from `pos` on. -/
def findFrom (str pat : List α) (pos : Nat) : Option Nat :=
  if pos ≤ str.length then (findIn pat (str.drop pos)).map (· + pos) else none

theorem findIn_begins (h : pat <+: str) : findIn pat str = some 0 := by
  cases str with
  | nil => exact if_pos (List.prefix_nil.mp h)
  | cons x str => exact if_pos (List.isPrefixOf_iff_prefix.mpr h)

theorem findIn_cons_of_not {x : α} (h : ¬ pat <+: x :: str) :
    findIn pat (x :: str) = (findIn pat str).map (· + 1) :=
  if_neg fun hp => h (List.isPrefixOf_iff_prefix.mp hp)

theorem findIn_eq_none : findIn pat str = none ↔ ¬ pat <:+: str := by
  induction str with
  | nil => simp [findIn]
  | cons x str ih =>
    by_cases hp : pat <+: x :: str
    · rw [findIn_begins hp]
      exact iff_of_false nofun (not_not.mpr hp.isInfix)
    · rw [findIn_cons_of_not hp, Option.map_eq_none_iff, ih, List.infix_cons_iff, not_or]
      exact (and_iff_right hp).symm

theorem findIn_char (h : c ∉ pre) : findIn [c] (pre ++ c :: post) = some pre.length := by
  induction pre with
  | nil => exact findIn_begins (by simp)
  | cons x pre ih =>
    obtain ⟨hx, hpre⟩ := not_or.mp (mt List.mem_cons.mpr h)
    rw [List.cons_append, findIn_cons_of_not (by simpa using hx), ih hpre]
    rfl

theorem findIn_char_none (h : c ∉ str) : findIn [c] str = none := by
  rw [findIn_eq_none, List.singleton_infix_iff]
  exact h

theorem findFrom_append : findFrom (pre ++ str) pat pre.length =
    (findIn pat str).map (· + pre.length) := by
  rw [findFrom, if_pos (by simp), List.drop_left]

theorem findIn_of_last {p : List α} (h : c ∉ pre ++ p) :
    findIn (p ++ [c]) (pre ++ p ++ c :: post) = some pre.length := by
  induction pre with
  | nil =>
    refine findIn_begins ⟨post, ?_⟩
    rw [List.append_assoc, List.nil_append, List.singleton_append]
  | cons x pre ih =>
    have hno : ¬ p ++ [c] <+: x :: pre ++ p ++ c :: post := by
      intro hp
      have hshort : p ++ [c] <+: x :: pre ++ p := by
        refine List.prefix_of_prefix_length_le hp (List.prefix_append _ _) ?_
        simp only [List.length_append, List.length_cons, List.length_nil]
        omega
      exact h (hshort.subset (by simp))
    rw [List.cons_append, List.cons_append] at hno ⊢
    rw [findIn_cons_of_not hno, ih fun hc => h (List.mem_cons_of_mem x hc)]
    rfl

theorem findIn_append (h : ∀ j < pre.length, ¬ pat <+: (pre ++ str).drop j) :
    findIn pat (pre ++ str) = (findIn pat str).map (· + pre.length) := by
  induction pre with
  | nil => simp
  | cons x pre ih =>
    have hno : ¬ pat <+: x :: (pre ++ str) := h 0 (Nat.succ_pos _)
    rw [List.cons_append, findIn_cons_of_not hno,
      ih fun j hj => h (j + 1) (Nat.succ_lt_succ hj), Option.map_map]
    rfl

theorem eq_of_append_cons {p v k l : List α} (h : p ++ c :: k = v ++ c :: l) (hp : c ∉ p)
    (hv : c ∉ v) : p = v := by
  have hfirst : findIn [c] (p ++ c :: k) = some p.length := findIn_char hp
  have hlen : some p.length = some v.length := by
    rw [← hfirst, h, findIn_char hv]
  exact List.append_inj_left h (Option.some.inj hlen)

end SkyfireBG

/-!
## Ascending lists

The elements of a finite set of numbers in ascending order, as an ordered set is iterated.
-/

namespace SkyfireBG

variable {l : Finset Nat} {x : Nat}

def ascending (l : Finset Nat) : List Nat := (List.range (l.sup id + 1)).filter (· ∈ l)

theorem mem_ascending : x ∈ ascending l ↔ x ∈ l := by
  rw [ascending, List.mem_filter, List.mem_range, decide_eq_true_iff]
  exact and_iff_right_of_imp fun hx => Nat.lt_succ_of_le (Finset.le_sup (f := id) hx)

theorem length_ascending : (ascending l).length = l.card := by
  have hset : (ascending l).toFinset = l := by
    ext x
    rw [List.mem_toFinset, mem_ascending]
  have hnodup : (ascending l).Nodup := List.nodup_range.filter _
  rw [← List.toFinset_card_of_nodup hnodup, hset]

theorem getD_ascending_mem {i d : Nat} (h : i < l.card) : (ascending l).getD i d ∈ l := by
  have hlen : i < (ascending l).length := by rwa [length_ascending]
  rw [List.getD_eq_getElem?_getD, List.getElem?_eq_getElem hlen, Option.getD_some]
  exact mem_ascending.mp (List.getElem_mem hlen)

end SkyfireBG

/-!
## Slots in use

Lists with places: what is left of a list when the element at one place is replaced or taken out,
and what happens to the keys of the elements.
-/

namespace SkyfireBG

variable {α β : Type} {l : List α} {a b x : α} {k : Nat} {f : α → Option β}

theorem mem_set_or (h : x ∈ l.set k b) : x = b ∨ x ∈ l.eraseIdx k := by
  induction l generalizing k with
  | nil => cases h
  | cons y ys ih =>
    cases k with
    | zero => exact List.mem_cons.mp h
    | succ k =>
      rcases List.mem_cons.mp h with rfl | h
      · exact .inr (.head _)
      · exact (ih h).imp id (.tail _)

theorem mem_eraseIdx_or (ha : l[k]? = some a) (h : x ∈ l) : x = a ∨ x ∈ l.eraseIdx k := by
  induction l generalizing k with
  | nil => cases h
  | cons y ys ih =>
    cases k with
    | zero =>
      cases ha
      exact List.mem_cons.mp h
    | succ k =>
      rcases List.mem_cons.mp h with rfl | h
      · exact .inr (.head _)
      · exact (ih ha h).imp id (.tail _)

theorem mem_set_of_mem_eraseIdx (h : x ∈ l.eraseIdx k) : x ∈ l.set k b := by
  induction l generalizing k with
  | nil => cases h
  | cons y ys ih =>
    cases k with
    | zero => exact .tail _ h
    | succ k =>
      rcases List.mem_cons.mp h with rfl | h
      · exact .head _
      · exact .tail _ (ih h)

theorem mem_set_self (ha : l[k]? = some a) : b ∈ l.set k b := by
  induction l generalizing k with
  | nil => cases ha
  | cons y ys ih =>
    cases k with
    | zero => exact .head _
    | succ k => exact .tail _ (ih ha)

theorem filterMap_set (ha : l[k]? = some a) (hf : f b = f a) :
    (l.set k b).filterMap f = l.filterMap f := by
  induction l generalizing k with
  | nil => cases ha
  | cons y ys ih =>
    cases k with
    | zero =>
      cases ha
      simp only [List.set_cons_zero, List.filterMap_cons, hf]
    | succ k => simp only [List.set_cons_succ, List.filterMap_cons, ih ha]

/-- Where the keys are distinct, no other element has the key of the one at `k`. -/
theorem key_ne_of_mem_eraseIdx {i j : β} (hd : (l.filterMap f).Nodup) (ha : l[k]? = some a)
    (hx : x ∈ l.eraseIdx k) (hi : f a = some i) (hj : f x = some j) : j ≠ i := by
  induction l generalizing k with
  | nil => cases ha
  | cons y ys ih =>
    cases k with
    | zero =>
      cases ha
      rw [List.filterMap_cons_some hi] at hd
      rintro rfl
      exact (List.nodup_cons.mp hd).1 (List.mem_filterMap.mpr ⟨x, hx, hj⟩)
    | succ k =>
      have htail : (ys.filterMap f).Nodup :=
        hd.sublist ((List.sublist_cons_self y ys).filterMap f)
      rcases List.mem_cons.mp hx with rfl | hx
      · rw [List.filterMap_cons_some hj] at hd
        rintro rfl
        have hmem : a ∈ ys := List.mem_of_getElem? ha
        exact (List.nodup_cons.mp hd).1 (List.mem_filterMap.mpr ⟨a, hmem, hi⟩)
      · exact ih htail ha hx

theorem filterMap_sublist {g : α → Option β} (h : ∀ x, g x = none ∨ g x = f x) :
    List.Sublist (l.filterMap g) (l.filterMap f) := by
  induction l with
  | nil => exact .slnil
  | cons y ys ih =>
    rcases h y with hy | hy
    · rw [List.filterMap_cons_none hy]
      cases hf : f y with
      | none => rw [List.filterMap_cons_none hf]; exact ih
      | some b => rw [List.filterMap_cons_some hf]; exact ih.cons b
    · cases hf : f y with
      | none => rw [List.filterMap_cons_none hf, List.filterMap_cons_none (hy.trans hf)]; exact ih
      | some b =>
        rw [List.filterMap_cons_some hf, List.filterMap_cons_some (hy.trans hf)]
        exact ih.cons_cons b

end SkyfireBG
