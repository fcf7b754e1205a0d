import Mathlib.Algebra.Order.Field.Rat
import Mathlib.Order.Lattice.Nat

/-!
# SkyfireBG.Lib.OrdMap

Finite maps kept as a list of entries in ascending key order, the iteration order of an ordered
tree map.  The order is a field of the structure, so every value is a map.

* `find?_set_same`, `find?_set_ne`, `find?_erase_same`, `find?_erase_ne` — read over write.
* `countP_set_of_some`, `countP_set_of_none`, `countP_erase` — how the number of entries with a
  given property of the value moves.
* `find?_sweep` — what a loop over the entries leaves in another map.
-/

namespace SkyfireBG

variable {κ ν : Type} [LinearOrder κ]

structure OrdMap (κ ν : Type) [LinearOrder κ] where
  entries : List (κ × ν)
  sorted : entries.Pairwise (fun a b => a.1 < b.1)

namespace OrdMap

def empty : OrdMap κ ν := ⟨[], .nil⟩

instance : EmptyCollection (OrdMap κ ν) := ⟨empty⟩

instance : Inhabited (OrdMap κ ν) := ⟨empty⟩

theorem eq_empty {m : OrdMap κ ν} (h : m.entries = []) : m = ∅ := by
  cases m
  cases h
  rfl

def findList (k : κ) : List (κ × ν) → Option ν
  | [] => none
  | (a, b) :: r => if a = k then some b else findList k r

def setList (k : κ) (v : ν) : List (κ × ν) → List (κ × ν)
  | [] => [(k, v)]
  | (a, b) :: r =>
    if k < a then (k, v) :: (a, b) :: r
    else if a = k then (k, v) :: r
    else (a, b) :: setList k v r

def eraseList (k : κ) (l : List (κ × ν)) : List (κ × ν) := l.filter (fun e => e.1 ≠ k)

theorem mem_setList {k : κ} {v : ν} {l : List (κ × ν)} {e : κ × ν} (h : e ∈ setList k v l) :
    e = (k, v) ∨ e ∈ l := by
  induction l with
  | nil => simpa [setList] using h
  | cons x r ih =>
    simp only [setList] at h
    split at h
    · simpa using h
    · split at h
      · rcases List.mem_cons.mp h with h | h
        · exact .inl h
        · exact .inr (.tail _ h)
      · rcases List.mem_cons.mp h with h | h
        · exact .inr (h ▸ .head _)
        · exact (ih h).imp id (.tail _)

theorem setList_sorted {k : κ} {v : ν} {l : List (κ × ν)}
    (h : l.Pairwise (fun a b => a.1 < b.1)) : (setList k v l).Pairwise (fun a b => a.1 < b.1) := by
  induction l with
  | nil => simp [setList]
  | cons x r ih =>
    have hr := List.pairwise_cons.mp h
    simp only [setList]
    split
    · rename_i hk
      refine List.pairwise_cons.mpr ⟨fun e he => ?_, h⟩
      rcases List.mem_cons.mp he with rfl | he
      · exact hk
      · exact hk.trans (hr.1 e he)
    · split
      · rename_i hx
        exact List.pairwise_cons.mpr ⟨fun e he => hx ▸ hr.1 e he, hr.2⟩
      · rename_i hk hx
        refine List.pairwise_cons.mpr ⟨fun e he => ?_, ih hr.2⟩
        rcases mem_setList he with rfl | he
        · exact lt_of_le_of_ne (not_lt.mp hk) hx
        · exact hr.1 e he

/-- The value stored under `k`. -/
def find? (m : OrdMap κ ν) (k : κ) : Option ν := findList k m.entries

/-- Store `v` under `k`, replacing what was there. -/
def set (m : OrdMap κ ν) (k : κ) (v : ν) : OrdMap κ ν :=
  ⟨setList k v m.entries, setList_sorted m.sorted⟩

def erase (m : OrdMap κ ν) (k : κ) : OrdMap κ ν :=
  ⟨eraseList k m.entries, m.sorted.filter _⟩

def size (m : OrdMap κ ν) : Nat := m.entries.length

/-- The number of entries whose value satisfies `p`. -/
def countP (m : OrdMap κ ν) (p : ν → Bool) : Nat := m.entries.countP (fun e => p e.2)

variable {k k' : κ} {v w : ν} {m : OrdMap κ ν}

@[simp] theorem find?_empty : (∅ : OrdMap κ ν).find? k = none := rfl

@[simp] theorem countP_empty {p : ν → Bool} : (∅ : OrdMap κ ν).countP p = 0 := rfl

@[simp] theorem size_empty : (∅ : OrdMap κ ν).size = 0 := rfl

theorem findList_setList_same {l : List (κ × ν)} : findList k (setList k v l) = some v := by
  induction l with
  | nil => simp [setList, findList]
  | cons x r ih =>
    simp only [setList]
    split
    · simp [findList]
    · split
      · simp [findList]
      · rename_i hx
        simp [findList, hx, ih]

theorem findList_setList_ne {l : List (κ × ν)} (h : k' ≠ k) :
    findList k' (setList k v l) = findList k' l := by
  induction l with
  | nil => simp [setList, findList, h.symm]
  | cons x r ih =>
    simp only [setList]
    split
    · simp [findList, h.symm]
    · split
      · rename_i hx
        simp [findList, hx, h.symm]
      · simp [findList, ih]

@[simp] theorem find?_set_same : (m.set k v).find? k = some v := findList_setList_same

theorem find?_set_ne (h : k' ≠ k) : (m.set k v).find? k' = m.find? k' := findList_setList_ne h

theorem findList_eq_some {l : List (κ × ν)} (h : l.Pairwise (fun a b => a.1 < b.1)) :
    findList k l = some v ↔ (k, v) ∈ l := by
  induction l with
  | nil => simp [findList]
  | cons x r ih =>
    obtain ⟨a, b⟩ := x
    have hr := List.pairwise_cons.mp h
    simp only [findList]
    split
    · rename_i hx
      subst hx
      refine ⟨fun hb => by simp_all, fun hm => ?_⟩
      rcases List.mem_cons.mp hm with hm | hm
      · cases hm; rfl
      · exact absurd (hr.1 _ hm) (lt_irrefl _)
    · rename_i hx
      rw [ih hr.2]
      refine ⟨.tail _, fun hm => ?_⟩
      rcases List.mem_cons.mp hm with hm | hm
      · cases hm; exact absurd rfl hx
      · exact hm

theorem find?_eq_some : m.find? k = some v ↔ (k, v) ∈ m.entries := findList_eq_some m.sorted

theorem find?_eq_none : m.find? k = none ↔ ∀ v, (k, v) ∉ m.entries := by
  refine ⟨fun h v hm => ?_, fun h => ?_⟩
  · rw [find?_eq_some.mpr hm] at h; cases h
  · cases hf : m.find? k with
    | none => rfl
    | some v => exact absurd (find?_eq_some.mp hf) (h v)

@[simp] theorem find?_erase_same : (m.erase k).find? k = none := by
  rw [find?_eq_none]
  intro v hm
  simp [erase, eraseList] at hm

theorem find?_erase_ne (h : k' ≠ k) : (m.erase k).find? k' = m.find? k' := by
  have key : ∀ v, (m.erase k).find? k' = some v ↔ m.find? k' = some v := by
    intro v
    rw [find?_eq_some, find?_eq_some]
    simp [erase, eraseList, h]
  cases hf : m.find? k' with
  | none =>
    cases he : (m.erase k).find? k' with
    | none => rfl
    | some v => rw [(key v).mp he] at hf; cases hf
  | some v => exact (key v).mpr hf

theorem find?_set : (m.set k v).find? k' = if k' = k then some v else m.find? k' := by
  split
  · rename_i h
    rw [h, find?_set_same]
  · rename_i h
    exact find?_set_ne h

theorem find?_set_eq_some {v' : ν} : (m.set k v).find? k' = some v' ↔
    k' = k ∧ v' = v ∨ k' ≠ k ∧ m.find? k' = some v' := by
  rw [find?_set]
  split_ifs with h <;> simp [h, eq_comm]

theorem find?_erase : (m.erase k).find? k' = if k' = k then none else m.find? k' := by
  split
  · rename_i h
    rw [h, find?_erase_same]
  · rename_i h
    exact find?_erase_ne h

theorem find?_foldl_set {ks : List κ} {m : OrdMap κ ν} :
    (ks.foldl (fun m k => m.set k v) m).find? k' = if k' ∈ ks then some v else m.find? k' := by
  induction ks generalizing m with
  | nil => simp
  | cons k ks ih =>
    rw [List.foldl_cons, ih, find?_set]
    by_cases h : k' = k <;> by_cases h' : k' ∈ ks <;> simp [h, h']

/-- Keep the entries that satisfy `p`. -/
def filter (m : OrdMap κ ν) (p : κ → ν → Bool) : OrdMap κ ν :=
  ⟨m.entries.filter (fun e => p e.1 e.2), m.sorted.filter _⟩

/-- Change the value under `k`, if there is one. -/
def update (m : OrdMap κ ν) (k : κ) (f : ν → ν) : OrdMap κ ν :=
  match m.find? k with
  | none => m
  | some v => m.set k (f v)

/-- Store `v` under `k` unless the key is taken. -/
def insertNew (m : OrdMap κ ν) (k : κ) (v : ν) : OrdMap κ ν :=
  match m.find? k with
  | none => m.set k v
  | some _ => m

theorem find?_filter {p : κ → ν → Bool} :
    (m.filter p).find? k = some v ↔ m.find? k = some v ∧ p k v = true := by
  rw [find?_eq_some, find?_eq_some]
  simp only [filter, List.mem_filter]

theorem find?_update {f : ν → ν} :
    (m.update k f).find? k' = if k' = k then (m.find? k).map f else m.find? k' := by
  simp only [update]
  split
  · rename_i h
    split
    · rename_i hk
      rw [hk, h]
      rfl
    · rfl
  · rename_i w h
    rw [find?_set, h]
    rfl

theorem find?_insertNew : (m.insertNew k v).find? k' =
    if k' = k then some ((m.find? k).getD v) else m.find? k' := by
  simp only [insertNew]
  split
  · rename_i h
    rw [find?_set, h]
    rfl
  · rename_i w h
    split
    · rename_i hk
      rw [hk, h]
      rfl
    · rfl

/-- The sum of `f` over the values. -/
def sum (m : OrdMap κ ν) (f : ν → Nat) : Nat := (m.entries.map (fun e => f e.2)).sum

variable {f : ν → Nat}

@[simp] theorem sum_empty : (∅ : OrdMap κ ν).sum f = 0 := rfl

theorem sum_setList_of_some {l : List (κ × ν)} (h : l.Pairwise (fun a b => a.1 < b.1))
    (hf : findList k l = some w) :
    ((setList k v l).map (fun e => f e.2)).sum + f w =
      (l.map (fun e => f e.2)).sum + f v := by
  induction l with
  | nil => simp [findList] at hf
  | cons x r ih =>
    obtain ⟨a, b⟩ := x
    have hr := List.pairwise_cons.mp h
    simp only [findList] at hf
    simp only [setList]
    split at hf
    · rename_i hx
      cases hf
      subst hx
      simp only [lt_irrefl, if_false, if_true, List.map_cons, List.sum_cons]
      omega
    · rename_i hx
      have hlt : a < k := hr.1 _ ((findList_eq_some hr.2).mp hf)
      simp only [not_lt.mpr hlt.le, if_false, hx, List.map_cons, List.sum_cons]
      have := ih hr.2 hf
      omega

theorem sum_set_of_some (hf : m.find? k = some w) :
    (m.set k v).sum f + f w = m.sum f + f v :=
  sum_setList_of_some m.sorted hf

theorem sum_setList_of_none {l : List (κ × ν)} (hf : findList k l = none) :
    ((setList k v l).map (fun e => f e.2)).sum = (l.map (fun e => f e.2)).sum + f v := by
  induction l with
  | nil => simp [setList]
  | cons x r ih =>
    obtain ⟨a, b⟩ := x
    simp only [findList] at hf
    simp only [setList]
    split at hf
    · cases hf
    · rename_i hx
      split
      · simp only [List.map_cons, List.sum_cons]
        omega
      · simp only [List.map_cons, List.sum_cons, ih hf]
        omega

theorem sum_set_of_none (hf : m.find? k = none) : (m.set k v).sum f = m.sum f + f v :=
  sum_setList_of_none hf

theorem countP_eq_sum {p : ν → Bool} : m.countP p = m.sum fun v => if p v then 1 else 0 := by
  rw [countP, sum]
  induction m.entries with
  | nil => rfl
  | cons x r ih => rw [List.countP_cons, List.map_cons, List.sum_cons, ih, Nat.add_comm]

theorem countP_set_of_some {p : ν → Bool} (hf : m.find? k = some w) :
    (m.set k v).countP p + (if p w then 1 else 0) = m.countP p + (if p v then 1 else 0) := by
  rw [countP_eq_sum, countP_eq_sum]
  exact sum_set_of_some hf

theorem countP_set_of_none {p : ν → Bool} (hf : m.find? k = none) :
    (m.set k v).countP p = m.countP p + (if p v then 1 else 0) := by
  rw [countP_eq_sum, countP_eq_sum]
  exact sum_set_of_none hf

theorem countP_eraseList {p : ν → Bool} {l : List (κ × ν)}
    (h : l.Pairwise (fun a b => a.1 < b.1)) (hf : findList k l = some w) :
    (eraseList k l).countP (fun e => p e.2) + (if p w then 1 else 0) =
      l.countP (fun e => p e.2) := by
  simp only [eraseList]
  induction l with
  | nil => simp [findList] at hf
  | cons x r ih =>
    obtain ⟨a, b⟩ := x
    have hr := List.pairwise_cons.mp h
    simp only [findList] at hf
    split at hf
    · rename_i hx
      cases hf
      subst hx
      have hrest : r.filter (fun e => e.1 ≠ a) = r :=
        List.filter_eq_self.mpr (fun e he => by simpa using (hr.1 e he).ne')
      rw [List.filter_cons_of_neg (by simp), hrest, List.countP_cons]
    · rename_i hx
      have := ih hr.2 hf
      simp only [List.filter_cons, ne_eq, hx, not_false_eq_true, decide_true, if_true,
        List.countP_cons] at this ⊢
      omega

theorem countP_erase {p : ν → Bool} (hf : m.find? k = some w) :
    (m.erase k).countP p + (if p w then 1 else 0) = m.countP p :=
  countP_eraseList m.sorted hf

theorem size_eq_countP : m.size = m.countP (fun _ => true) := by
  simp [size, countP]

theorem size_set_of_none (hf : m.find? k = none) : (m.set k v).size = m.size + 1 := by
  simp only [size_eq_countP, countP_set_of_none hf, if_true]

/-- Some entry violates `p` exactly when fewer entries satisfy it than there are. -/
theorem countP_lt_size {p : ν → Bool} :
    m.countP p < m.size ↔ ∃ k v, m.find? k = some v ∧ p v = false := by
  have hne : m.countP p = m.size ↔ ∀ e ∈ m.entries, p e.2 = true := by
    simp only [countP, size, List.countP_eq_length]
  have hle : m.countP p ≤ m.size := List.countP_le_length
  constructor
  · intro h
    have hn : ¬ ∀ e ∈ m.entries, p e.2 = true := fun hc => absurd (hne.mpr hc) (by omega)
    push Not at hn
    obtain ⟨e, he, hp⟩ := hn
    exact ⟨e.1, e.2, find?_eq_some.mpr he, by simpa using hp⟩
  · rintro ⟨k, v, hf, hp⟩
    refine Nat.lt_of_le_of_ne hle (fun hc => ?_)
    have := hne.mp hc _ (find?_eq_some.mp hf)
    simp [hp] at this

theorem countP_or {p q : ν → Bool} (h : ∀ v, p v = true → q v = false) :
    m.countP (fun v => p v || q v) = m.countP p + m.countP q := by
  simp only [countP]
  induction m.entries with
  | nil => rfl
  | cons x r ih =>
    simp only [List.countP_cons, ih]
    cases hp : p x.2 with
    | false => simp; omega
    | true => simp [h _ hp]; omega

theorem countP_mono {p q : ν → Bool} (h : ∀ v, p v = true → q v = true) :
    m.countP p ≤ m.countP q :=
  List.countP_mono_left (fun e _ => h e.2)

/-- Where `p` is the narrower property, as many entries satisfy it as satisfy `q` exactly when
every entry with `q` has `p`. -/
theorem countP_le_iff {p q : ν → Bool} (h : ∀ v, p v = true → q v = true) :
    m.countP q ≤ m.countP p ↔ ∀ k v, m.find? k = some v → q v = true → p v = true := by
  have hsplit : m.countP q = m.countP p + m.countP (fun v => q v && !p v) := by
    rw [← countP_or (fun v hp => by simp [hp])]
    congr 1
    funext v
    cases hp : p v with
    | false => simp
    | true => simp [h v hp]
  rw [hsplit]
  constructor
  · intro hle k v hf hq
    have h0 : m.countP (fun v => q v && !p v) = 0 := by omega
    have := List.countP_eq_zero.mp h0 (k, v) (find?_eq_some.mp hf)
    simpa [hq] using this
  · intro hall
    have h0 : m.countP (fun v => q v && !p v) = 0 := by
      refine List.countP_eq_zero.mpr (fun e he => ?_)
      have := hall e.1 e.2 (find?_eq_some.mpr he)
      cases hq : q e.2 <;> simp_all
    omega

theorem countP_le_size {p : ν → Bool} : m.countP p ≤ m.size := List.countP_le_length

/-! ## Keys -/

def mapValues (f : ν → ν) (m : OrdMap κ ν) : OrdMap κ ν :=
  ⟨m.entries.map fun e => (e.1, f e.2), List.pairwise_map.mpr m.sorted⟩

def keys (m : OrdMap κ ν) : List κ := m.entries.map Prod.fst

theorem mem_keys_iff : k ∈ m.keys ↔ ∃ v, (k, v) ∈ m.entries := by
  simp [keys]

theorem keys_nodup : m.keys.Nodup :=
  List.pairwise_map.mpr (m.sorted.imp fun h => h.ne)

@[simp] theorem keys_mapValues {f : ν → ν} : (m.mapValues f).keys = m.keys := by
  simp [keys, mapValues]

theorem find?_mapValues {f : ν → ν} : (m.mapValues f).find? k = (m.find? k).map f := by
  obtain ⟨l, hl⟩ := m
  change findList k (l.map _) = (findList k l).map f
  clear hl
  induction l with
  | nil => rfl
  | cons x r ih =>
    simp only [List.map_cons, findList]
    split
    · rfl
    · exact ih

def filterMap {μ : Type} (f : κ → ν → Option μ) (m : OrdMap κ ν) : OrdMap κ μ :=
  ⟨m.entries.filterMap fun e => (f e.1 e.2).map (e.1, ·), by
    refine List.Pairwise.filterMap _ (fun a a' hlt b hb b' hb' => ?_) m.sorted
    obtain ⟨v, -, rfl⟩ := Option.map_eq_some_iff.mp hb
    obtain ⟨v', -, rfl⟩ := Option.map_eq_some_iff.mp hb'
    exact hlt⟩

theorem find?_filterMap {μ : Type} {f : κ → ν → Option μ} :
    (m.filterMap f).find? k = (m.find? k).bind (f k) := by
  obtain ⟨l, hl⟩ := m
  change findList k (l.filterMap _) = (findList k l).bind (f k)
  induction l with
  | nil => rfl
  | cons x r ih =>
    have hr := List.pairwise_cons.mp hl
    have hgone : x.1 = k → findList k r = none := by
      intro hx
      cases hf : findList k r with
      | none => rfl
      | some v => exact absurd (hr.1 _ ((findList_eq_some hr.2).mp hf)) (hx ▸ lt_irrefl _)
    rw [List.filterMap_cons]
    simp only [findList]
    cases hv : f x.1 x.2 with
    | none =>
      simp only [Option.map_none]
      rw [ih hr.2]
      by_cases hx : x.1 = k
      · rw [if_pos hx, hgone hx, Option.bind_some, ← hx, hv, Option.bind_none]
      · rw [if_neg hx]
    | some v =>
      simp only [Option.map_some, findList]
      by_cases hx : x.1 = k
      · rw [if_pos hx, if_pos hx, Option.bind_some, ← hx, hv]
      · rw [if_neg hx, if_neg hx, ih hr.2]

theorem countP_eq_of_find? {μ : Type} {t : OrdMap κ μ} {p : ν → Bool} {q : μ → Bool}
    (h : ∀ k, (m.find? k).map p = (t.find? k).map q) : m.countP p = t.countP q := by
  have hmem : ∀ {ρ : Type} (s : OrdMap κ ρ) (f : ρ → Bool) (k : κ) (b : Bool),
      (k, b) ∈ s.entries.map (fun e => (e.1, f e.2)) ↔ (s.find? k).map f = some b := by
    intro ρ s f k b
    simp only [List.mem_map, Prod.mk.injEq, Prod.exists, Option.map_eq_some_iff, find?_eq_some]
    constructor
    · rintro ⟨k', v, hin, rfl, hv⟩
      exact ⟨v, hin, hv⟩
    · rintro ⟨v, hin, hv⟩
      exact ⟨k, v, hin, rfl, hv⟩
  have hnodup : ∀ {ρ : Type} (s : OrdMap κ ρ) (f : ρ → Bool),
      (s.entries.map (fun e => (e.1, f e.2))).Nodup := by
    intro ρ s f
    refine List.pairwise_map.mpr (s.sorted.imp ?_)
    intro a b hlt he
    exact hlt.ne (Prod.mk.inj he).1
  have hperm : (m.entries.map (fun e => (e.1, p e.2))).Perm (t.entries.map (fun e => (e.1, q e.2))) := by
    refine (List.perm_ext_iff_of_nodup (hnodup m p) (hnodup t q)).mpr ?_
    rintro ⟨k, b⟩
    rw [hmem, hmem, h]
  have hcount := hperm.countP_eq Prod.snd
  rwa [List.countP_map, List.countP_map] at hcount

theorem keys_setList_of_some {l : List (κ × ν)} (h : l.Pairwise (fun a b => a.1 < b.1))
    (hf : findList k l = some w) : (setList k v l).map Prod.fst = l.map Prod.fst := by
  induction l with
  | nil => cases hf
  | cons x r ih =>
    obtain ⟨a, b⟩ := x
    have hr := List.pairwise_cons.mp h
    simp only [findList] at hf
    simp only [setList]
    split at hf
    · rename_i hx
      subst hx
      simp
    · rename_i hx
      have hlt : a < k := hr.1 _ ((findList_eq_some hr.2).mp hf)
      simp [not_lt.mpr hlt.le, hx, ih hr.2 hf]

theorem keys_set_of_some (hf : m.find? k = some w) : (m.set k v).keys = m.keys :=
  keys_setList_of_some m.sorted hf

theorem length_keys : m.keys.length = m.size := List.length_map ..

theorem size_le_of_keys {m : OrdMap Nat ν} {n : Nat}
    (h : ∀ k v, m.find? k = some v → 0 < k ∧ k ≤ n) : m.size ≤ n := by
  have hsub : m.keys ⊆ List.range' 1 n := by
    intro k hk
    obtain ⟨v, hv⟩ := mem_keys_iff.mp hk
    obtain ⟨hpos, hle⟩ := h k v (find?_eq_some.mpr hv)
    rw [List.mem_range'_1]
    omega
  have hlen := (List.subperm_of_subset m.keys_nodup hsub).length_le
  rwa [length_keys, List.length_range'] at hlen

theorem size_le_of_keys_lt {m : OrdMap Nat ν} {n : Nat} (h : ∀ k v, m.find? k = some v → k < n) :
    m.size ≤ n := by
  have hsub : m.keys ⊆ List.range n := by
    intro k hk
    obtain ⟨v, hv⟩ := mem_keys_iff.mp hk
    exact List.mem_range.mpr (h k v (find?_eq_some.mpr hv))
  have hlen := (List.subperm_of_subset m.keys_nodup hsub).length_le
  rwa [length_keys, List.length_range] at hlen

theorem setList_of_greater {l : List (κ × ν)} (h : ∀ e ∈ l, e.1 < k) :
    setList k v l = l ++ [(k, v)] := by
  induction l with
  | nil => rfl
  | cons x r ih =>
    obtain ⟨hx, hr⟩ := List.forall_mem_cons.mp h
    rw [setList, if_neg hx.asymm, if_neg hx.ne, ih hr, List.cons_append]

theorem entries_insertNew_of_greater (h : ∀ e ∈ m.entries, e.1 < k) :
    (m.insertNew k v).entries = m.entries ++ [(k, v)] := by
  have hnone : m.find? k = none := find?_eq_none.mpr fun w hw => lt_irrefl _ (h _ hw)
  rw [insertNew, hnone]
  exact setList_of_greater h

theorem eq_of_entries {m t : OrdMap κ ν} (h : m.entries = t.entries) : m = t := by
  cases m
  cases t
  cases h
  rfl

theorem foldl_insertNew_entries :
    m.entries.foldl (fun m e => m.insertNew e.1 e.2) (∅ : OrdMap κ ν) = m := by
  have key : ∀ (l : List (κ × ν)) (t : OrdMap κ ν),
      (t.entries ++ l).Pairwise (fun a b => a.1 < b.1) →
      (l.foldl (fun m e => m.insertNew e.1 e.2) t).entries = t.entries ++ l := by
    intro l
    induction l with
    | nil =>
      intro t _
      rw [List.foldl_nil, List.append_nil]
    | cons x r ih =>
      intro t hsorted
      have hbefore : ∀ e ∈ t.entries, e.1 < x.1 := fun e he =>
        (List.pairwise_append.mp hsorted).2.2 e he x (.head _)
      have hentries := entries_insertNew_of_greater (v := x.2) hbefore
      rw [List.foldl_cons, ih _ (by rw [hentries, List.append_assoc]; exact hsorted), hentries,
        List.append_assoc]
      rfl
  exact eq_of_entries (key m.entries ∅ m.sorted)

section Sweep

variable {μ : Type} {t : OrdMap κ μ}

/-- Go through the entries of `m` in order and change `t` at each. -/
def sweep (m : OrdMap κ ν) (g : OrdMap κ μ → κ → ν → OrdMap κ μ) (t : OrdMap κ μ) : OrdMap κ μ :=
  m.entries.foldl (fun t e => g t e.1 e.2) t

theorem find?_sweep {g : OrdMap κ μ → κ → ν → OrdMap κ μ} {G : κ → ν → Option μ → Option μ}
    (hsame : ∀ k v, m.find? k = some v → ∀ t, (g t k v).find? k = G k v (t.find? k))
    (hne : ∀ k v, m.find? k = some v → ∀ t k', k' ≠ k → (g t k v).find? k' = t.find? k') :
    (m.sweep g t).find? k = (m.find? k).elim (t.find? k) (G k · (t.find? k)) := by
  obtain ⟨l, hl⟩ := m
  have hs : ∀ e ∈ l, ∀ t, (g t e.1 e.2).find? e.1 = G e.1 e.2 (t.find? e.1) := fun e he =>
    hsame e.1 e.2 ((findList_eq_some hl).mpr he)
  have hn : ∀ e ∈ l, ∀ t k', k' ≠ e.1 → (g t e.1 e.2).find? k' = t.find? k' := fun e he =>
    hne e.1 e.2 ((findList_eq_some hl).mpr he)
  change (l.foldl _ t).find? k = (findList k l).elim _ _
  clear hsame hne
  induction l generalizing t with
  | nil => rfl
  | cons x r ih =>
    have hr := List.pairwise_cons.mp hl
    rw [List.foldl_cons, ih hr.2 (fun e he => hs e (.tail _ he)) (fun e he => hn e (.tail _ he))]
    simp only [findList]
    by_cases hx : x.1 = k
    · have hnone : findList k r = none := by
        cases hf : findList k r with
        | none => rfl
        | some v => exact absurd (hr.1 _ ((findList_eq_some hr.2).mp hf)) (hx ▸ lt_irrefl _)
      rw [hnone, if_pos hx]
      exact hx ▸ hs x (.head _) t
    · rw [if_neg hx, hn x (.head _) t k (Ne.symm hx)]

end Sweep

end OrdMap

end SkyfireBG
