import SkyfireBG.Inventory.Change
import SkyfireBG.Inventory.Exchange

/-!
# SkyfireBG.Inventory.Removed

`DestroyItemCount` takes exactly its count, as long as it need not take a bag that is worn.

* `Holdings.Reduced` — what a payment leaves of an inventory: the same bags, and in each position
  what was there, or less of it, or nothing.
* `removed_destroyItemCount` — the payment.
-/

namespace SkyfireBG

namespace Holdings

variable {P : Type} {e : ItemStores} {w w' w'' : Holdings P} {p : P} {pos pos' : Pos} {g : Nat}
  {entry count : Nat}

structure Reduced (w w' : Holdings P) (p : P) : Prop where
  bags : ∀ b, w'.getBagByPos p b = w.getBagByPos p b
  size : ∀ b g, w.getBagByPos p b = some g → w'.getBagSize g = w.getBagSize g
  seen : ∀ pos g, w'.view p pos = some g → w.view p pos = some g ∧
    (w'.item g).proto = (w.item g).proto ∧ (w'.item g).count ≤ (w.item g).count

theorem Reduced.refl : Reduced w w p :=
  ⟨fun _ => rfl, fun _ _ _ => rfl, fun _ _ h => ⟨h, rfl, Nat.le_refl _⟩⟩

theorem Reduced.trans (h : Reduced w w' p) (h' : Reduced w' w'' p) : Reduced w w'' p where
  bags := fun b => (h'.bags b).trans (h.bags b)
  size := fun b g hb => (h'.size b g ((h.bags b).trans hb)).trans (h.size b g hb)
  seen := fun pos g hg => by
    obtain ⟨hmid, hproto', hcount'⟩ := h'.seen pos g hg
    obtain ⟨hold, hproto, hcount⟩ := h.seen pos g hmid
    exact ⟨hold, hproto'.trans hproto, Nat.le_trans hcount' hcount⟩

theorem usable_congr (hbags : ∀ b, w'.getBagByPos p b = w.getBagByPos p b)
    (hsize : ∀ b g, w.getBagByPos p b = some g → w'.getBagSize g = w.getBagSize g) :
    w'.Usable p pos ↔ w.Usable p pos := by
  simp only [Usable, hbags]
  by_cases hc : pos.1 = INVENTORY_SLOT_BAG_0
  · rw [if_pos hc, if_pos hc]
  · rw [if_neg hc, if_neg hc]
    constructor
    · rintro ⟨b, hb, hlt⟩
      exact ⟨b, hb, hsize _ _ hb ▸ hlt⟩
    · rintro ⟨b, hb, hlt⟩
      exact ⟨b, hb, (hsize _ _ hb).symm ▸ hlt⟩

theorem Reduced.usable (h : Reduced w w' p) : w'.Usable p pos ↔ w.Usable p pos :=
  usable_congr h.bags h.size

theorem Reduced.getItemByPos_eq (h : Reduced w w' p) (hview : w'.view p pos = w.view p pos) :
    w'.getItemByPos p pos = w.getItemByPos p pos := by
  by_cases huse : w.Usable p pos
  · rw [huse.getItemByPos_eq, (h.usable.mpr huse).getItemByPos_eq, hview]
  · have hnone : ∀ {x : Holdings P}, ¬ x.Usable p pos → x.getItemByPos p pos = none := by
      intro x hx
      refine Option.eq_none_iff_forall_not_mem.mpr fun g hg => hx (usable_of_getItemByPos hg)
    rw [hnone huse, hnone fun h' => huse (h.usable.mp h')]

def paying (w : Holdings P) (p : P) (entry : Nat) (pos : Pos) : Nat :=
  (w.paysWith p entry pos).elim 0 fun g => (w.item g).count

/-- What the player carries of an entry, outside the slots of his bags and out of trade. -/
def loose (w : Holdings P) (p : P) (entry : Nat) : Nat :=
  (loosePositions.map (w.paying p entry)).sum

theorem paysWith_some (h : w.paysWith p entry pos = some g) :
    w.getItemByPos p pos = some g ∧ (w.item g).entry = entry ∧ (w.item g).inTrade = false := by
  obtain ⟨hg, hand⟩ := Option.filter_eq_some_iff.mp h
  simpa using And.intro hg hand

theorem paysWith_congr (hpos : w'.getItemByPos p pos = w.getItemByPos p pos)
    (hitem : ∀ g, w.getItemByPos p pos = some g → w'.item g = w.item g) :
    w'.paying p entry pos = w.paying p entry pos := by
  unfold paying paysWith
  rw [hpos]
  cases hg : w.getItemByPos p pos with
  | none => rfl
  | some g =>
    rw [Option.filter_some, Option.filter_some, hitem g hg]
    split_ifs
    · exact congrArg Item.count (hitem g hg)
    · rfl

theorem sum_changed {l : List Pos} {f f' : Pos → Nat} (hl : l.Nodup) (hpos : pos ∈ l)
    (h : ∀ pos' ∈ l, pos' ≠ pos → f' pos' = f pos') :
    (l.map f').sum + f pos = (l.map f).sum + f' pos := by
  induction l with
  | nil => cases hpos
  | cons x l ih =>
    obtain ⟨hx, hl⟩ := List.nodup_cons.mp hl
    simp only [List.map_cons, List.sum_cons]
    rcases List.mem_cons.mp hpos with rfl | hmem
    · have hrest : l.map f' = l.map f := List.map_congr_left fun pos' hmem =>
        h pos' (.tail _ hmem) fun heq => hx (heq ▸ hmem)
      rw [hrest]
      omega
    · have hne : x ≠ pos := fun heq => hx (heq ▸ hmem)
      have hrest := ih hl hmem fun pos' hmem => h pos' (.tail _ hmem)
      rw [h x (.head _) hne]
      omega

/-- `k` items of the entry are gone, of those that pay. -/
structure Removed (e : ItemStores) (p : P) (entry k : Nat) (w w' : Holdings P) : Prop where
  sound : Sound e w'
  reduced : Reduced w w' p
  total : ∀ x, w'.total p x + (if x = entry then k else 0) = w.total p x
  loose : ∀ x, w'.loose p x + (if x = entry then k else 0) = w.loose p x

theorem Removed.refl (hw : Sound e w) : Removed e p entry 0 w w where
  sound := hw
  reduced := .refl
  total := by simp
  loose := by simp

theorem Removed.trans {k k' : Nat} (h : Removed e p entry k w w')
    (h' : Removed e p entry k' w' w'') : Removed e p entry (k + k') w w'' where
  sound := h'.sound
  reduced := h.reduced.trans h'.reduced
  total := fun x => by
    rw [← h.total x, ← h'.total x]
    split_ifs <;> omega
  loose := fun x => by
    rw [← h.loose x, ← h'.loose x]
    split_ifs <;> omega

theorem isNotEmptyBag_plain (hw : Sound e w) (hg : w.getItemByPos p pos = some g)
    (hplain : isBagPos pos = false) : w.isNotEmptyBag g = false := by
  have huse := usable_of_getItemByPos hg
  have hheld := held_of_view (view_of_getItemByPos hg)
  rw [isNotEmptyBag, Bool.and_eq_false_iff]
  right
  rw [Bool.not_eq_false']
  refine List.all_eq_true.mpr fun j _ => ?_
  rw [Option.isNone_iff_eq_none]
  refine Option.eq_none_iff_forall_not_mem.mpr fun x hx => ?_
  obtain ⟨-, -, q, s, hs, hb⟩ := hw.shown g j x hx
  exact placeOf_ne_bag (q := q) huse.exists hplain hs (hw.single _ _ g hheld hb)

theorem destroyItem_plain [DecidableEq P] (hw : Sound e w) (hg : w.getItemByPos p pos = some g)
    (hplain : isBagPos pos = false) : w.destroyItem p pos = w.clear (w.placeOf p pos) := by
  simp [destroyItem, hg, isNotEmptyBag_plain hw hg hplain]

theorem getItemByPos_paying (h : w.paysWith p entry pos = some g) : w.paying p x pos =
    if x = entry then (w.item g).count else 0 := by
  obtain ⟨hg, hentry, htrade⟩ := paysWith_some h
  rw [paying, paysWith, hg, Option.filter_some, hentry, htrade]
  by_cases hx : x = entry
  · simp [hx]
  · simp [hx, Ne.symm hx]

theorem Removed.at {k : Nat} (hw' : Sound e w') (hred : Reduced w w' p)
    (hpos : pos ∈ loosePositions)
    (hview : ∀ pos', pos' ≠ pos → w'.view p pos' = w.view p pos')
    (hitem : ∀ pos' g, pos' ≠ pos → w.view p pos' = some g → w'.item g = w.item g)
    (hpays : ∀ x, w'.paying p x pos + (if x = entry then k else 0) = w.paying p x pos)
    (htotal : ∀ x, w'.total p x + (if x = entry then k else 0) = w.total p x) :
    Removed e p entry k w w' ∧ ∀ x pos', pos' ≠ pos → w'.paying p x pos' = w.paying p x pos' := by
  have hother : ∀ x pos', pos' ≠ pos → w'.paying p x pos' = w.paying p x pos' := by
    intro x pos' hne
    refine paysWith_congr (hred.getItemByPos_eq (hview pos' hne)) fun g hg => ?_
    exact hitem pos' g hne (view_of_getItemByPos hg)
  refine ⟨⟨hw', hred, htotal, fun x => ?_⟩, hother⟩
  have hsum := sum_changed loosePositions_nodup hpos fun pos' _ hne => hother x pos' hne
  have hx := hpays x
  unfold Holdings.loose
  omega

variable {h n : Nat}

theorem setCount_proto : ((w.setCount g n).item h).proto = (w.item h).proto := by
  by_cases hh : h = g
  · rw [hh, setCount, setItem_same]
  · rw [setCount, setItem_ne hh]

theorem setCount_le (hn : n ≤ (w.item g).count) :
    ((w.setCount g n).item h).count ≤ (w.item h).count := by
  by_cases hh : h = g
  · rw [hh, setCount, setItem_same]
    exact hn
  · rw [setCount, setItem_ne hh]

theorem setCount_bag (b : Nat) : (w.setCount g n).getBagByPos p b = w.getBagByPos p b :=
  bags_congr (fun _ _ _ => rfl) fun _ _ _ _ => setCount_proto

theorem setCount_size (b : Nat) : (w.setCount g n).getBagSize b = w.getBagSize b := by
  rw [getBagSize, getBagSize, setCount_proto]

theorem setCount_view : (w.setCount g n).view p = w.view p := by
  funext pos
  simp only [view, setCount_bag, setCount_size]
  rfl

variable [DecidableEq P]

theorem reduced_clear_of_view (hw : Sound e w) (hseen : w.view p pos = some g)
    (hplain : isBagPos pos = false) :
    Sound e (w.clear (w.placeOf p pos)) ∧ Reduced w (w.clear (w.placeOf p pos)) p ∧
      (w.clear (w.placeOf p pos)).view p = Function.update (w.view p) pos none ∧
      ∀ x, (w.clear (w.placeOf p pos)).total p x +
        (if x = (w.item g).entry then (w.item g).count else 0) = w.total p x := by
  have hex := exists_of_view hw hseen
  have ha : w.Assigned (w.clear (w.placeOf p pos)) p pos none := ⟨rfl, fun _ _ _ => rfl⟩
  have hw' := hw.clear ha hex hplain fun pl h hh =>
    let hkept := hw.keepable (Storage.held_of_clear hh).2
    ⟨hkept.known, hkept.pos, hkept.le, hkept.fresh⟩
  have hview := ha.view_eq hw.single hex hplain
  refine ⟨hw', ⟨fun b => ha.bags hex hplain, fun _ _ _ => rfl, fun pos' h hh => ?_⟩, hview,
    fun x => ?_⟩
  · rw [hview] at hh
    exact ⟨(Storage.held_of_clear hh).2, rfl, Nat.le_refl _⟩
  · have htotal : (w.clear (w.placeOf p pos)).total p x + w.entryCount x none g = w.total p x :=
      total_clear hw hw' ha hex hplain (held_of_view hseen) fun _ _ _ => rfl
    rw [entryCount_none] at htotal
    simpa only [eq_comm] using htotal

theorem reduced_clear (hw : Sound e w) (hget : w.getItemByPos p pos = some g)
    (hplain : isBagPos pos = false) :
    Sound e (w.clear (w.placeOf p pos)) ∧ Reduced w (w.clear (w.placeOf p pos)) p ∧
      (w.clear (w.placeOf p pos)).view p = Function.update (w.view p) pos none ∧
      ∀ x, (w.clear (w.placeOf p pos)).total p x +
        (if x = (w.item g).entry then (w.item g).count else 0) = w.total p x :=
  reduced_clear_of_view hw (view_of_getItemByPos hget) hplain

theorem removed_clear (hw : Sound e w) (hg : w.paysWith p entry pos = some g)
    (hpos : pos ∈ loosePositions) :
    Removed e p entry (w.item g).count w (w.clear (w.placeOf p pos)) ∧
      ∀ x pos', pos' ≠ pos →
        (w.clear (w.placeOf p pos)).paying p x pos' = w.paying p x pos' := by
  obtain ⟨hget, hentry, -⟩ := paysWith_some hg
  obtain ⟨hw', hred, hview, htotal⟩ := reduced_clear hw hget (loosePositions_plain hpos)
  rw [hentry] at htotal
  refine Removed.at hw' hred hpos (fun pos' hne => ?_) (fun _ _ _ _ => rfl) (fun x => ?_) htotal
  · rw [hview, Function.update_of_ne hne]
  · have hnone : (w.clear (w.placeOf p pos)).getItemByPos p pos = none := by
      rw [(hred.usable.mpr (usable_of_getItemByPos hget)).getItemByPos_eq, hview,
        Function.update_self]
    rw [getItemByPos_paying hg, paying, paysWith, hnone]
    simp

omit [DecidableEq P] in
theorem removed_setCount (hw : Sound e w) (hg : w.paysWith p entry pos = some g)
    (hpos : pos ∈ loosePositions) {k : Nat} (hk : k < (w.item g).count) :
    Removed e p entry k w (w.setCount g ((w.item g).count - k)) ∧
      ∀ x pos', pos' ≠ pos →
        (w.setCount g ((w.item g).count - k)).paying p x pos' = w.paying p x pos' := by
  obtain ⟨hget, hentry, htrade⟩ := paysWith_some hg
  have huse := usable_of_getItemByPos hget
  have hseen := view_of_getItemByPos hget
  have hnew : ((w.setCount g ((w.item g).count - k)).item g).entry = entry ∧
      ((w.setCount g ((w.item g).count - k)).item g).count = (w.item g).count - k := by
    rw [setCount, setItem_same]
    exact ⟨hentry, rfl⟩
  have hw' : Sound e (w.setCount g ((w.item g).count - k)) := by
    refine hw.reitem rfl (Nat.le_refl _) (fun _ _ _ => setCount_proto) (fun pl h hh => ?_)
    refine ⟨?_, Nat.le_trans (setCount_le (Nat.sub_le _ _)) (hw.counted pl h hh).2⟩
    by_cases hhg : h = g
    · rw [hhg, setCount, setItem_same]
      exact Nat.sub_pos_of_lt hk
    · rw [setCount, setItem_ne hhg]
      exact (hw.counted pl h hh).1
  have hred : Reduced w (w.setCount g ((w.item g).count - k)) p := by
    refine ⟨setCount_bag, fun _ _ _ => setCount_size _, fun pos' h hh => ?_⟩
    rw [setCount_view] at hh
    exact ⟨hh, setCount_proto, setCount_le (Nat.sub_le _ _)⟩
  refine Removed.at hw' hred hpos (fun pos' _ => by rw [setCount_view]) (fun pos' h hne hh => ?_)
    (fun x => ?_) (fun x => ?_)
  · refine setItem_ne fun heq => hne ?_
    rw [heq] at hh
    exact (view_single hw hh hseen).2
  · have hpays : (w.setCount g ((w.item g).count - k)).paysWith p entry pos = some g := by
      rw [paysWith, hred.getItemByPos_eq (by rw [setCount_view]), hget, Option.filter_some, if_pos]
      rw [setCount, setItem_same, Bool.and_eq_true, beq_iff_eq, Bool.not_eq_true']
      exact ⟨hentry, htrade⟩
    rw [getItemByPos_paying hg, getItemByPos_paying hpays, setCount, setItem_same]
    by_cases hx : x = entry
    · rw [if_pos hx, if_pos hx, if_pos hx]
      exact Nat.sub_add_cancel (Nat.le_of_lt hk)
    · rw [if_neg hx, if_neg hx, if_neg hx]
  · have htotal : (w.setCount g ((w.item g).count - k)).total p x + w.entryCount x none g =
        w.total p x + (w.setCount g ((w.item g).count - k)).entryCount x none g :=
      total_reweigh hw hw' setCount_view hseen fun h hh => setItem_ne hh
    rw [entryCount_none, entryCount_none, hentry, hnew.1, hnew.2] at htotal
    by_cases hx : x = entry
    · rw [if_pos hx]
      rw [if_pos hx.symm, if_pos hx.symm] at htotal
      omega
    · rw [if_neg (Ne.symm hx), if_neg (Ne.symm hx), Nat.add_zero, Nat.add_zero] at htotal
      rw [if_neg hx, Nat.add_zero, htotal]

theorem destroyAt_done {bank : Bool} {s : Destruction P} (h : s.done = true) (l : List Pos) :
    l.foldl (destroyAt p entry count bank) s = s := by
  induction l with
  | nil => rfl
  | cons pos l ih =>
    rw [List.foldl_cons, show destroyAt p entry count bank s pos = s from if_pos h]
    exact ih

theorem removed_loop {l : List Pos} (hl : l.Nodup) (hmem : ∀ pos ∈ l, pos ∈ loosePositions)
    {rem : Nat} (hrem : rem < count) (hw : Sound e w)
    (henough : count ≤ rem + (l.map (w.paying p entry)).sum)
    (hlt : rem + (l.map (w.paying p entry)).sum < 2 ^ 32) {s : Destruction P}
    (hs : l.foldl (destroyAt p entry count false) { holdings := w, remcount := rem } = s) :
    s.done = true ∧ Removed e p entry (count - rem) w s.holdings := by
  induction l generalizing w rem with
  | nil =>
    simp only [List.map_nil, List.sum_nil] at henough
    omega
  | cons pos l ih =>
    obtain ⟨hnot, hl⟩ := List.nodup_cons.mp hl
    have hpos := hmem pos (.head _)
    have hmem' : ∀ pos ∈ l, pos ∈ loosePositions := fun pos' h => hmem pos' (.tail _ h)
    rw [List.map_cons, List.sum_cons] at henough hlt
    rw [List.foldl_cons] at hs
    cases hpays : w.paysWith p entry pos with
    | none =>
      have hstep : destroyAt p entry count false { holdings := w, remcount := rem } pos =
          { holdings := w, remcount := rem } := by
        simp [destroyAt, hpays]
      have hzero : w.paying p entry pos = 0 := by rw [paying, hpays]; rfl
      rw [hstep] at hs
      exact ih hl hmem' hrem hw (by omega) (by omega) hs
    | some g =>
      have hn : w.paying p entry pos = (w.item g).count := by rw [paying, hpays]; rfl
      have hget := (paysWith_some hpays).1
      have hsum : uint32 ((w.item g).count + rem) = (w.item g).count + rem :=
        Nat.mod_eq_of_lt (by omega)
      by_cases hfits : (w.item g).count + rem ≤ count
      · obtain ⟨hremoved, hother⟩ := removed_clear hw hpays hpos
        have hstep : destroyAt p entry count false { holdings := w, remcount := rem } pos =
            { holdings := w.clear (w.placeOf p pos), remcount := rem + (w.item g).count
              done := decide (count ≤ rem + (w.item g).count) } := by
          simp [destroyAt, hpays, hsum, hfits, Nat.add_comm rem,
            destroyItem_plain hw hget (loosePositions_plain hpos)]
        rw [hstep] at hs
        by_cases hdone : count ≤ rem + (w.item g).count
        · rw [decide_eq_true hdone, destroyAt_done rfl] at hs
          have hk : count - rem = (w.item g).count := by omega
          subst hs
          exact ⟨rfl, hk ▸ hremoved⟩
        · rw [decide_eq_false hdone] at hs
          have hrest : (l.map ((w.clear (w.placeOf p pos)).paying p entry)).sum =
              (l.map (w.paying p entry)).sum := by
            refine congrArg List.sum (List.map_congr_left fun pos' h => hother entry pos' ?_)
            exact fun heq => hnot (heq ▸ h)
          obtain ⟨hend, hlater⟩ :=
            ih hl hmem' (Nat.lt_of_not_le hdone) hremoved.sound (by omega) (by omega) hs
          have hk : count - rem = (w.item g).count + (count - (rem + (w.item g).count)) := by omega
          exact ⟨hend, hk ▸ hremoved.trans hlater⟩
      · obtain ⟨hremoved, -⟩ :=
          removed_setCount hw hpays hpos (show count - rem < (w.item g).count by omega)
        have hleft : uint32 ((w.item g).count + rem - count) =
            (w.item g).count - (count - rem) := by
          rw [uint32, Nat.mod_eq_of_lt (by omega)]
          omega
        have hstep : destroyAt p entry count false { holdings := w, remcount := rem } pos =
            { holdings := w.setCount g ((w.item g).count - (count - rem)), remcount := rem
              done := true } := by
          simp [destroyAt, hpays, hsum, hfits, hleft]
        rw [hstep, destroyAt_done rfl] at hs
        subst hs
        exact ⟨rfl, hremoved⟩

theorem destroyItemCount_zero (hcount : ∀ pos g, w.paysWith p entry pos = some g →
    0 < (w.item g).count ∧ (w.item g).count < 2 ^ 32) : w.destroyItemCount p entry 0 = w := by
  have hloop : ∀ (bank : Bool) (l : List Pos) (s : Destruction P),
      s.holdings = w ∧ s.remcount = 0 →
      (l.foldl (destroyAt p entry 0 bank) s).holdings = w ∧
        (l.foldl (destroyAt p entry 0 bank) s).remcount = 0 := by
    intro bank l
    induction l with
    | nil => exact fun _ hs => hs
    | cons pos l ih =>
      intro s hs
      refine ih _ ?_
      unfold destroyAt
      by_cases hdone : s.done
      · rwa [if_pos hdone]
      · rw [if_neg hdone, hs.1]
        cases hpays : w.paysWith p entry pos with
        | none => exact hs
        | some g =>
          obtain ⟨hpos, hlt⟩ := hcount pos g hpays
          have hn : uint32 (w.item g).count = (w.item g).count := Nat.mod_eq_of_lt hlt
          have hsame : w.setCount g (w.item g).count = w := by
            rw [setCount, setItem, Function.update_eq_self]
          cases bank <;> simp [hs.1, hs.2, hn, Nat.ne_of_gt hpos, hsame]
  exact (hloop true _ _ (hloop false _ _ (hloop false _ _ ⟨rfl, rfl⟩))).1

/-- Where the player carries enough, `DestroyItemCount` takes exactly the count. -/
theorem removed_destroyItemCount (hw : Sound e w)
    (hitems : ∀ pos g, w.view p pos = some g → (w.item g).count < 2 ^ 32)
    (hlt : w.loose p entry < 2 ^ 32) (henough : count ≤ w.loose p entry) :
    Removed e p entry count w (w.destroyItemCount p entry count) := by
  by_cases hzero : count = 0
  · subst hzero
    rw [destroyItemCount_zero fun pos g hpays => ?_]
    · exact .refl hw
    · have hseen := view_of_getItemByPos (paysWith_some hpays).1
      exact ⟨(hw.counted _ g (held_of_view hseen)).1, hitems pos g hseen⟩
  · set s := loosePositions.foldl (destroyAt p entry count false) { holdings := w } with hs
    have hloop : s.done = true ∧ Removed e p entry (count - 0) w s.holdings :=
      removed_loop loosePositions_nodup (fun _ h => h) (Nat.pos_of_ne_zero hzero) hw
        (by rwa [Nat.zero_add]) (by rwa [Nat.zero_add]) hs.symm
    simp only [destroyItemCount]
    rw [← hs, destroyAt_done hloop.1, destroyAt_done hloop.1]
    exact hloop.2

end Holdings

end SkyfireBG
