import Mathlib.Algebra.Order.Field.Rat
import Mathlib.Dynamics.PeriodicPts.Defs
import Mathlib.Order.Lattice.Nat

/-!
# SkyfireBG.Lib.Chase

Links of a partial function, followed from one point: the cycle that they may lead to, the link that
closes it, and what is left of the function when such links are cut.

* `closingLink_eq_some` — what a walk that remembers where it was finds.
* `breakCycles_spec`    — which links are cut by one walk after the other.
-/

namespace SkyfireBG

variable {α : Type}

/-- `n` links from `x`. -/
def follow (f : α → Option α) (n : Nat) (x : α) : Option α := (·.bind f)^[n] (some x)

/-- The links lead back to `x`. -/
def OnCycle (f : α → Option α) (x : α) : Prop := ∃ n, 0 < n ∧ follow f n x = some x

def LeadsTo (f : α → Option α) (x y : α) : Prop := ∃ n, follow f n x = some y

/-- The link from `x` to `y` closes the cycle that `i` leads to: `y` is where it is first met. -/
structure Closes (f : α → Option α) (i x y : α) : Prop where
  link : f x = some y
  cycle : OnCycle f x
  first : ∃ k, follow f k i = some y ∧ ∀ j < k, ∀ z, follow f j i = some z → ¬ OnCycle f z

section

variable {f f' : α → Option α} {i x y z : α} {m n : Nat}

@[simp] theorem follow_zero : follow f 0 x = some x := rfl

theorem follow_succ : follow f (n + 1) x = (follow f n x).bind f :=
  Function.iterate_succ_apply' _ _ _

theorem follow_succ' (h : f x = some y) : follow f (n + 1) x = follow f n y := by
  unfold follow
  rw [Function.iterate_succ_apply]
  simp [h]

theorem follow_none (h : f x = none) : follow f (n + 1) x = none := by
  induction n with
  | zero => simp [follow_succ, h]
  | succ n ih => rw [follow_succ, ih, Option.bind_none]

theorem follow_add (h : follow f m x = some y) : follow f (m + n) x = follow f n y := by
  induction n with
  | zero => rw [Nat.add_zero, h, follow_zero]
  | succ n ih => rw [← Nat.add_assoc, follow_succ, ih, follow_succ]

/-- What has ended does not go on. -/
theorem follow_ended (h : follow f m x = none) (hle : m ≤ n) : follow f n x = none := by
  induction n, hle using Nat.le_induction with
  | base => exact h
  | succ n _ ih => rw [follow_succ, ih, Option.bind_none]

theorem LeadsTo.refl : LeadsTo f x x := ⟨0, rfl⟩

theorem LeadsTo.trans (h : LeadsTo f x y) (h' : LeadsTo f y z) : LeadsTo f x z := by
  obtain ⟨m, hm⟩ := h
  obtain ⟨n, hn⟩ := h'
  exact ⟨m + n, by rw [follow_add hm, hn]⟩

theorem LeadsTo.link (h : f x = some y) : LeadsTo f x y := ⟨1, by rw [follow_succ' h, follow_zero]⟩

theorem OnCycle.next (hx : OnCycle f x) (h : f x = some y) : OnCycle f y ∧ LeadsTo f y x := by
  obtain ⟨n, hn, hx⟩ := hx
  obtain ⟨m, rfl⟩ := Nat.exists_eq_add_of_lt hn
  rw [Nat.zero_add, follow_succ' h] at hx
  refine ⟨⟨m + 1, Nat.succ_pos m, ?_⟩, m, hx⟩
  rw [follow_succ, hx, Option.bind_some, h]

/-- What a point of a cycle leads to is on the cycle and leads back. -/
theorem OnCycle.leads (hx : OnCycle f x) (h : LeadsTo f x y) : OnCycle f y ∧ LeadsTo f y x := by
  obtain ⟨n, hn⟩ := h
  induction n generalizing y with
  | zero =>
    cases hn
    exact ⟨hx, .refl⟩
  | succ n ih =>
    rw [follow_succ] at hn
    obtain ⟨z, hz, hy⟩ := Option.bind_eq_some_iff.mp hn
    obtain ⟨hcycle, hback⟩ := ih hz
    obtain ⟨hcycle', hback'⟩ := hcycle.next hy
    exact ⟨hcycle', hback'.trans hback⟩

theorem OnCycle.prev (hy : OnCycle f y) : ∃ x, f x = some y ∧ OnCycle f x := by
  obtain ⟨n, hn, hback⟩ := hy
  obtain ⟨m, rfl⟩ := Nat.exists_eq_add_of_lt hn
  rw [Nat.zero_add, follow_succ] at hback
  obtain ⟨x, hx, hlink⟩ := Option.bind_eq_some_iff.mp hback
  exact ⟨x, hlink, (OnCycle.leads ⟨m + 1, Nat.succ_pos m, by rw [follow_succ, hx,
    Option.bind_some, hlink]⟩ ⟨m, hx⟩).1⟩

/-- On a cycle a point is linked to by one point only. -/
theorem OnCycle.prev_unique (hx : OnCycle f x) (hz : OnCycle f z) (h : f x = some y)
    (h' : f z = some y) : x = z := by
  obtain ⟨m, hm, hx⟩ := hx
  obtain ⟨n, hn, hz⟩ := hz
  have hx' : Function.IsPeriodicPt (fun o : Option α => o.bind f) m (some x) := hx
  have hz' : Function.IsPeriodicPt (fun o : Option α => o.bind f) n (some z) := hz
  exact Option.some_injective _ (hx'.eq_of_apply_eq hz' hm hn (by simp [h, h']))

theorem OnCycle.goes_on (hx : OnCycle f x) : follow f n x ≠ none := by
  intro hnone
  obtain ⟨m, hm, hx⟩ := hx
  have hmany : ∀ k, follow f (m * k) x = some x := by
    intro k
    induction k with
    | zero => rfl
    | succ k ih => rw [Nat.mul_succ, follow_add ih, hx]
  have hle : n ≤ m * n := Nat.le_mul_of_pos_left n hm
  have := follow_ended hnone hle
  rw [hmany] at this
  cases this

theorem Closes.on_cycle (h : Closes f i x y) : OnCycle f y := (h.cycle.next h.link).1

theorem Closes.leads (h : Closes f i x y) : LeadsTo f i x := by
  obtain ⟨k, hk, _⟩ := h.first
  exact LeadsTo.trans ⟨k, hk⟩ (h.cycle.next h.link).2

theorem Closes.goes_on (h : Closes f i x y) : follow f n i ≠ none := by
  intro hnone
  obtain ⟨k, hk, _⟩ := h.first
  have hended := follow_ended hnone (Nat.le_add_left n k)
  rw [follow_add hk] at hended
  exact h.on_cycle.goes_on hended

/-- A point leads to one cycle, and one link closes it. -/
theorem Closes.unique {x' y' : α} (h : Closes f i x y) (h' : Closes f i x' y') :
    x = x' ∧ y = y' := by
  obtain ⟨k, hk, hfirst⟩ := h.first
  obtain ⟨k', hk', hfirst'⟩ := h'.first
  have hkk : k = k' := by
    rcases Nat.lt_trichotomy k k' with hlt | heq | hlt
    · exact absurd h.on_cycle (hfirst' k hlt y hk)
    · exact heq
    · exact absurd h'.on_cycle (hfirst k' hlt y' hk')
  subst hkk
  cases hk.symm.trans hk'
  exact ⟨h.cycle.prev_unique h'.cycle h.link h'.link, rfl⟩

/-- A point that leads to a cycle has a link that closes it. -/
theorem exists_closes (hi : LeadsTo f i x) (hx : OnCycle f x) :
    ∃ a b, Closes f i a b ∧ LeadsTo f x a := by
  classical
  have hex : ∃ k, ∃ y, follow f k i = some y ∧ OnCycle f y := by
    obtain ⟨n, hn⟩ := hi
    exact ⟨n, x, hn, hx⟩
  obtain ⟨y, hy, hcycle⟩ := Nat.find_spec hex
  obtain ⟨a, hlink, ha⟩ := hcycle.prev
  refine ⟨a, y, ⟨hlink, ha, Nat.find hex, hy, fun j hj z hz hon => ?_⟩, ?_⟩
  · exact Nat.find_min hex hj ⟨z, hz, hon⟩
  · obtain ⟨n, hn⟩ := hi
    have hle : Nat.find hex ≤ n := Nat.find_min' hex ⟨x, hn, hx⟩
    obtain ⟨d, rfl⟩ := Nat.exists_eq_add_of_le hle
    rw [follow_add hy] at hn
    exact (hcycle.leads ⟨d, hn⟩).2.trans (ha.next hlink).2

end

section

variable {f : α → Option α} {i x y : α} {m n : Nat} {checked : List α}

/-- The points met on the way to `x`, the last one first. -/
structure Trail (f : α → Option α) (i : α) (checked : List α) (x : α) : Prop where
  met : ∀ j ≤ checked.length, follow f j i = (x :: checked).reverse[j]?
  nodup : (x :: checked).Nodup

theorem Trail.start : Trail f i [] i :=
  ⟨fun j hj => by cases Nat.le_zero.mp hj; rfl, List.nodup_singleton i⟩

theorem Trail.here (h : Trail f i checked x) : follow f checked.length i = some x := by
  rw [h.met _ (Nat.le_refl _), List.reverse_cons, List.getElem?_append_right (by simp)]
  simp

theorem Trail.mem (h : Trail f i checked x) :
    y ∈ x :: checked ↔ ∃ j ≤ checked.length, follow f j i = some y := by
  rw [← List.mem_reverse, List.mem_iff_getElem?]
  constructor
  · rintro ⟨j, hj⟩
    have hlt := (List.getElem?_eq_some_iff.mp hj).1
    rw [List.length_reverse, List.length_cons] at hlt
    exact ⟨j, Nat.le_of_lt_succ hlt, (h.met j (Nat.le_of_lt_succ hlt)).trans hj⟩
  · rintro ⟨j, hj, hy⟩
    exact ⟨j, (h.met j hj).symm.trans hy⟩

theorem Trail.inj (h : Trail f i checked x) (hm : m ≤ checked.length) (hn : n ≤ checked.length)
    (heq : follow f m i = follow f n i) : m = n := by
  rw [h.met m hm, h.met n hn] at heq
  refine (List.getElem?_inj ?_ (List.nodup_reverse.mpr h.nodup)).mp heq
  simpa using Nat.lt_succ_of_le hm

theorem Trail.next (h : Trail f i checked x) (hlink : f x = some y) (hy : y ∉ x :: checked) :
    Trail f i (x :: checked) y where
  met := by
    intro j hj
    rw [List.length_cons] at hj
    rcases Nat.lt_or_eq_of_le hj with hlt | rfl
    · rw [h.met j (Nat.le_of_lt_succ hlt), List.reverse_cons (a := y),
        List.getElem?_append_left (by simpa using hlt)]
    · rw [follow_succ, h.here, Option.bind_some, hlink, List.reverse_cons (a := y),
        List.getElem?_append_right (by simp)]
      simp
  nodup := List.nodup_cons.mpr ⟨hy, h.nodup⟩

/-- A link back to a point of the trail closes a cycle. -/
theorem Trail.closes (h : Trail f i checked x) (hlink : f x = some y) (hy : y ∈ x :: checked) :
    Closes f i x y := by
  obtain ⟨j, hj, hfollow⟩ := h.mem.mp hy
  obtain ⟨d, hd⟩ := Nat.exists_eq_add_of_le hj
  have hx : follow f d y = some x := by
    rw [← follow_add hfollow, ← hd, h.here]
  have hcycle : OnCycle f x := by
    refine (OnCycle.leads (x := y) ⟨d + 1, Nat.succ_pos d, ?_⟩ ⟨d, hx⟩).1
    rw [follow_succ, hx, Option.bind_some, hlink]
  refine ⟨hlink, hcycle, j, hfollow, fun k hk z hz hon => ?_⟩
  -- What follows a point before `y` stays behind it on the trail.
  have hlater : ∀ n, ∃ t, k < t ∧ t ≤ checked.length ∧ follow f (n + 1) z = follow f t i := by
    intro n
    induction n with
    | zero =>
      refine ⟨k + 1, Nat.lt_succ_self k, by omega, ?_⟩
      rw [follow_succ, follow_succ, hz, follow_zero]
    | succ n ih =>
      obtain ⟨t, hkt, ht, heq⟩ := ih
      rcases Nat.lt_or_eq_of_le ht with hlt | rfl
      · exact ⟨t + 1, by omega, hlt, by rw [follow_succ, heq, follow_succ]⟩
      · exact ⟨j, hk, hj, by rw [follow_succ, heq, h.here, Option.bind_some, hlink, hfollow]⟩
  obtain ⟨n, hn, hback⟩ := hon
  obtain ⟨m, rfl⟩ := Nat.exists_eq_add_of_lt hn
  obtain ⟨t, hkt, ht, heq⟩ := hlater m
  rw [Nat.zero_add] at hback
  have := h.inj (Nat.le_trans (Nat.le_of_lt hkt) ht) ht (by rw [hz, ← heq, hback])
  omega

end

section

variable [DecidableEq α] {f f' : α → Option α} {i x y a b : α} {fuel m n : Nat}
  {checked is : List α} {S : List α} {cut : List (α × α)}

/-- Follow the links and remember where they led, up to one that leads to a point met before. -/
def closingLink (f : α → Option α) : Nat → List α → α → Option (α × α)
  | 0, _, _ => none
  | fuel + 1, checked, x =>
    match f x with
    | none => none
    | some y => if y ∈ x :: checked then some (x, y) else closingLink f fuel (x :: checked) y

theorem Trail.closingLink (h : Trail f i checked x)
    (hsome : closingLink f fuel checked x = some (a, b)) : Closes f i a b := by
  induction fuel generalizing checked x with
  | zero => cases hsome
  | succ fuel ih =>
    unfold SkyfireBG.closingLink at hsome
    cases hlink : f x with
    | none => simp [hlink] at hsome
    | some y =>
      simp only [hlink] at hsome
      by_cases hy : y ∈ x :: checked
      · rw [if_pos hy] at hsome
        cases hsome
        exact h.closes hlink hy
      · rw [if_neg hy] at hsome
        exact ih (h.next hlink hy) hsome

/-- A walk that finds nothing comes to an end, when there are more rounds than points with a
link. -/
theorem closingLink_none (hS : ∀ x y, f x = some y → x ∈ S) (hnodup : checked.Nodup)
    (hsub : ∀ z ∈ checked, z ∈ S) (hx : x ∉ checked) (hfuel : S.length < fuel + checked.length)
    (hnone : closingLink f fuel checked x = none) : ∃ n, follow f n x = none := by
  induction fuel generalizing checked x with
  | zero =>
    have hle := hnodup.length_le_of_subset hsub
    omega
  | succ fuel ih =>
    unfold closingLink at hnone
    cases hlink : f x with
    | none => exact ⟨1, follow_none hlink⟩
    | some y =>
      simp only [hlink] at hnone
      by_cases hy : y ∈ x :: checked
      · rw [if_pos hy] at hnone
        cases hnone
      · rw [if_neg hy] at hnone
        obtain ⟨n, hn⟩ := ih (List.nodup_cons.mpr ⟨hx, hnodup⟩) (fun z hz => by
          rcases List.mem_cons.mp hz with rfl | hz
          · exact hS z y hlink
          · exact hsub z hz) hy (by rw [List.length_cons]; omega) hnone
        exact ⟨n + 1, by rw [follow_succ' hlink, hn]⟩

theorem closingLink_eq_some (hS : ∀ x y, f x = some y → x ∈ S) (hfuel : S.length < fuel) :
    closingLink f fuel [] i = some (a, b) ↔ Closes f i a b := by
  refine ⟨Trail.start.closingLink, fun h => ?_⟩
  cases hlink : closingLink f fuel [] i with
  | none =>
    obtain ⟨n, hn⟩ := closingLink_none hS List.nodup_nil (fun _ hz => by cases hz)
      List.not_mem_nil (by simpa using hfuel) hlink
    exact absurd hn h.goes_on
  | some ab =>
    obtain ⟨rfl, rfl⟩ := (Trail.start.closingLink hlink).unique h
    rfl

theorem closingLink_congr (h : ∀ z, LeadsTo f x z → f' z = f z) :
    closingLink f' fuel checked x = closingLink f fuel checked x := by
  induction fuel generalizing checked x with
  | zero => rfl
  | succ fuel ih =>
    unfold closingLink
    rw [h x .refl]
    cases hlink : f x with
    | none => rfl
    | some y =>
      dsimp only
      rw [ih fun z hz => h z ((LeadsTo.link hlink).trans hz)]

/-! ## One walk after the other -/

def breakCycle (fuel : Nat) (r : (α → Option α) × List (α × α)) (i : α) :
    (α → Option α) × List (α × α) :=
  match closingLink r.1 fuel [] i with
  | none => r
  | some (x, y) => (Function.update r.1 x none, r.2 ++ [(x, y)])

def breakCycles (f : α → Option α) (fuel : Nat) (is : List α) : (α → Option α) × List (α × α) :=
  is.foldl (breakCycle fuel) (f, [])

def Broken (f : α → Option α) (is : List α) (x y : α) : Prop :=
  ∃ pre i post, is = pre ++ i :: post ∧ Closes f i x y ∧ ∀ j ∈ pre, ¬ LeadsTo f j x

/-- What is left of `f` when the links in `cut` are cut, which are the broken ones. -/
structure Cuts (f : α → Option α) (is : List α) (f' : α → Option α) (cut : List (α × α)) : Prop where
  left : ∀ x, f' x = if x ∈ cut.map Prod.fst then none else f x
  broken : ∀ x y, (x, y) ∈ cut ↔ Broken f is x y
  nodup : (cut.map Prod.fst).Nodup

omit [DecidableEq α] in
omit [DecidableEq α] in
theorem Broken.exists_leads (h : Broken f is x y) : OnCycle f x ∧ ∃ j ∈ is, LeadsTo f j x := by
  obtain ⟨pre, j, post, rfl, hcloses, _⟩ := h
  exact ⟨hcloses.cycle, j, List.mem_append_right _ List.mem_cons_self, hcloses.leads⟩

omit [DecidableEq α] in
theorem Broken.append (h : Broken f is x y) : Broken f (is ++ [i]) x y := by
  obtain ⟨pre, j, post, rfl, hcloses, hpre⟩ := h
  exact ⟨pre, j, post ++ [i], by simp, hcloses, hpre⟩

theorem breakCycles_append : breakCycles f fuel (is ++ [i]) =
    breakCycle fuel (breakCycles f fuel is) i := by
  unfold breakCycles
  rw [List.foldl_append, List.foldl_cons, List.foldl_nil]

theorem broken_range {f : Nat → Option Nat} {n x y : Nat} : Broken f (List.range n) x y ↔
    ∃ i < n, Closes f i x y ∧ ∀ j < i, ¬ LeadsTo f j x := by
  constructor
  · rintro ⟨pre, i, post, heq, hcloses, hpre⟩
    have hlen : pre.length < n := by
      have := congrArg List.length heq
      simp only [List.length_range, List.length_append, List.length_cons] at this
      omega
    have hi : i = pre.length := by
      have hget : (List.range n)[pre.length]? = some i := by rw [heq]; simp
      rw [List.getElem?_range hlen] at hget
      exact (Option.some_injective _ hget).symm
    refine ⟨i, hi ▸ hlen, hcloses, fun j hj => hpre j ?_⟩
    have htake : pre = (List.range n).take pre.length := by rw [heq]; simp
    rw [htake, List.take_range, List.mem_range]
    omega
  · rintro ⟨i, hi, hcloses, hfirst⟩
    refine ⟨List.range i, i, (List.range n).drop (i + 1), ?_, hcloses, fun j hj => ?_⟩
    · have hdrop : (List.range n).drop i = i :: (List.range n).drop (i + 1) := by
        rw [List.drop_eq_getElem_cons (by rwa [List.length_range]), List.getElem_range]
      rw [← hdrop, ← Nat.min_eq_left (Nat.le_of_lt hi), ← List.take_range,
        Nat.min_eq_left (Nat.le_of_lt hi), List.take_append_drop]
    · exact hfirst j (List.mem_range.mp hj)

omit [DecidableEq α] in
theorem broken_append : Broken f (is ++ [i]) x y ↔
    Broken f is x y ∨ (Closes f i x y ∧ ∀ j ∈ is, ¬ LeadsTo f j x) := by
  constructor
  · rintro ⟨pre, j, post, heq, hcloses, hpre⟩
    rcases List.eq_nil_or_concat post with rfl | ⟨post', k, rfl⟩
    · obtain ⟨rfl, hi⟩ := List.append_inj' heq rfl
      cases hi
      exact .inr ⟨hcloses, hpre⟩
    · rw [List.concat_eq_append, ← List.cons_append, ← List.append_assoc] at heq
      obtain ⟨rfl, _⟩ := List.append_inj' heq rfl
      exact .inl ⟨pre, j, post', rfl, hcloses, hpre⟩
  · rintro (h | ⟨hcloses, hpre⟩)
    · exact h.append
    · exact ⟨is, i, [], rfl, hcloses, hpre⟩

omit [DecidableEq α] in
/-- Every cycle that one of the points leads to has a link that is cut. -/
theorem exists_broken (hx : OnCycle f x) (h : ∃ j ∈ is, LeadsTo f j x) :
    ∃ a b, Broken f is a b ∧ LeadsTo f x a := by
  classical
  obtain ⟨j, hj, hleads⟩ := h
  obtain ⟨i, hi⟩ : ∃ i, is.find? (fun j => decide (LeadsTo f j x)) = some i := by
    refine Option.isSome_iff_exists.mp (List.find?_isSome.mpr ⟨j, hj, ?_⟩)
    exact decide_eq_true hleads
  obtain ⟨hdec, pre, post, heq, hpre⟩ := List.find?_eq_some_iff_append.mp hi
  obtain ⟨a, b, hcloses, ha⟩ := exists_closes (of_decide_eq_true hdec) hx
  refine ⟨a, b, ⟨pre, i, post, heq, hcloses, fun j hj hja => ?_⟩, ha⟩
  have hnot := hpre j hj
  simp only [Bool.not_eq_true', decide_eq_false_iff_not] at hnot
  exact hnot (hja.trans (hx.leads ha).2)

omit [DecidableEq α] in
/-- When links are cut, a path stops or goes where it went. -/
theorem follow_cut (h : ∀ x, f' x = none ∨ f' x = f x) :
    follow f' n i = none ∨ follow f' n i = follow f n i := by
  induction n with
  | zero => exact .inr rfl
  | succ n ih =>
    rw [follow_succ, follow_succ]
    rcases ih with hnone | heq
    · exact .inl (by rw [hnone, Option.bind_none])
    · rw [heq]
      cases follow f n i with
      | none => exact .inl rfl
      | some x => exact h x

theorem Cuts.none_or (h : Cuts f is f' cut) (x : α) : f' x = none ∨ f' x = f x := by
  rw [h.left]
  split
  · exact .inl rfl
  · exact .inr rfl

theorem Cuts.mem_fst (h : Cuts f is f' cut) :
    x ∈ cut.map Prod.fst ↔ ∃ y, Broken f is x y := by
  simp only [List.mem_map, Prod.exists, exists_and_right, exists_eq_right, h.broken]

/-- A further walk cuts one more link, or there is none to cut. -/
theorem Cuts.step (h : Cuts f is f' cut) (hS : ∀ x y, f x = some y → x ∈ S)
    (hfuel : S.length < fuel) :
    match closingLink f' fuel [] i with
    | none => Cuts f (is ++ [i]) f' cut
    | some (x, y) => Cuts f (is ++ [i]) (Function.update f' x none) (cut ++ [(x, y)]) := by
  have hS' : ∀ x y, f' x = some y → x ∈ S := by
    intro x y hxy
    rcases h.none_or x with hnone | heq
    · rw [hnone] at hxy
      cases hxy
    · exact hS x y (heq ▸ hxy)
  have hends : (∃ n, follow f' n i = none) → closingLink f' fuel [] i = none := by
    rintro ⟨n, hn⟩
    cases hlink : closingLink f' fuel [] i with
    | none => rfl
    | some xy =>
      exact absurd hn ((closingLink_eq_some hS' hfuel).mp hlink).goes_on
  -- A point before this one leads to the same cycle, or this is the first, or there is no cycle.
  by_cases hcycle : ∃ x y, Closes f i x y
  · obtain ⟨x, y, hcloses⟩ := hcycle
    by_cases hbefore : ∃ j ∈ is, LeadsTo f j x
    · obtain ⟨a, b, hbroken, ha⟩ := exists_broken hcloses.cycle hbefore
      obtain ⟨n, hn⟩ := hcloses.leads.trans ha
      have hcut : f' a = none := by
        rw [h.left, if_pos (h.mem_fst.mpr ⟨b, hbroken⟩)]
      have hnone : ∃ n, follow f' n i = none := by
        rcases follow_cut (n := n) (i := i) h.none_or with hnone | heq
        · exact ⟨n, hnone⟩
        · exact ⟨n + 1, by rw [follow_succ, heq, hn, Option.bind_some, hcut]⟩
      rw [hends hnone]
      refine ⟨h.left, fun x' y' => ?_, h.nodup⟩
      rw [h.broken, broken_append]
      refine ⟨.inl, fun hor => hor.resolve_right ?_⟩
      rintro ⟨hcloses', hnot⟩
      obtain ⟨rfl, rfl⟩ := hcloses.unique hcloses'
      obtain ⟨j, hj, hleads⟩ := hbefore
      exact hnot j hj hleads
    · have hfree : ∀ z, LeadsTo f i z → f' z = f z := by
        intro z hz
        rw [h.left, if_neg]
        intro hmem
        obtain ⟨w, hbroken⟩ := h.mem_fst.mp hmem
        obtain ⟨hzcycle, j, hj, hjz⟩ := hbroken.exists_leads
        obtain ⟨a, b, hcloses', ha⟩ := exists_closes hz hzcycle
        obtain ⟨rfl, rfl⟩ := hcloses.unique hcloses'
        exact hbefore ⟨j, hj, hjz.trans ha⟩
      have hfound : closingLink f' fuel [] i = some (x, y) := by
        rw [closingLink_congr hfree]
        exact (closingLink_eq_some hS hfuel).mpr hcloses
      have hnew : x ∉ cut.map Prod.fst := by
        intro hmem
        obtain ⟨w, hbroken⟩ := h.mem_fst.mp hmem
        exact hbefore hbroken.exists_leads.2
      rw [hfound]
      refine ⟨fun z => ?_, fun x' y' => ?_, ?_⟩
      · by_cases hz : z = x
        · subst hz
          simp
        · rw [Function.update_of_ne hz, h.left]
          exact if_congr (by simp [hz]) rfl rfl
      · rw [List.mem_append, h.broken, broken_append, List.mem_singleton]
        refine or_congr_right ⟨fun heq => ?_, fun hcloses' => ?_⟩
        · cases heq
          exact ⟨hcloses, fun j hj hleads => hbefore ⟨j, hj, hleads⟩⟩
        · obtain ⟨rfl, rfl⟩ := hcloses.unique hcloses'.1
          rfl
      · rw [List.map_append, List.nodup_append]
        refine ⟨h.nodup, List.nodup_singleton _, ?_⟩
        rintro a ha b hb rfl
        rw [List.mem_singleton.mp hb] at ha
        exact hnew ha
  · have hnone : ∃ n, follow f' n i = none := by
      have hwhole : ∃ n, follow f n i = none := by
        cases hlink : closingLink f fuel [] i with
        | none =>
          exact closingLink_none hS List.nodup_nil (fun _ hz => by cases hz) List.not_mem_nil
            (by simpa using hfuel) hlink
        | some xy =>
          exact absurd ⟨xy.1, xy.2, (closingLink_eq_some hS hfuel).mp hlink⟩ hcycle
      obtain ⟨n, hn⟩ := hwhole
      refine ⟨n, ?_⟩
      rcases follow_cut (n := n) (i := i) h.none_or with hnone | heq
      · exact hnone
      · rw [heq, hn]
    rw [hends hnone]
    refine ⟨h.left, fun x' y' => ?_, h.nodup⟩
    rw [h.broken, broken_append]
    exact ⟨.inl, fun hor => hor.resolve_right fun hcloses => hcycle ⟨x', y', hcloses.1⟩⟩

theorem breakCycles_spec (hS : ∀ x y, f x = some y → x ∈ S) (hfuel : S.length < fuel)
    (is : List α) : Cuts f is (breakCycles f fuel is).1 (breakCycles f fuel is).2 := by
  induction is using List.reverseRecOn with
  | nil =>
    refine ⟨fun x => rfl, fun x y => ⟨fun h => (List.not_mem_nil h).elim, ?_⟩, List.nodup_nil⟩
    rintro ⟨pre, i, post, heq, _⟩
    exact absurd heq.symm (by simp)
  | append_singleton is i ih =>
    have hstep := ih.step (i := i) hS hfuel
    rw [breakCycles_append, breakCycle]
    cases hlink : closingLink (breakCycles f fuel is).1 fuel [] i with
    | none =>
      rw [hlink] at hstep
      exact hstep
    | some xy =>
      rw [hlink] at hstep
      exact hstep

end

end SkyfireBG
