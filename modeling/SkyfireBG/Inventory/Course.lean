import SkyfireBG.Inventory.CanStore

/-!
# SkyfireBG.Inventory.Course

`CanStoreItem` searches along a course that does not depend on how many items are left to place.

* `Course.run`         — the looks of a course are taken in order, until the count is used up.
* `searchInventory_eq` — the search is the run of its course.
* `run_enough`         — where the course has room for all, all of it is placed.
* `run_short`          — where it has not, the room is filled, and the course comes to its end.
-/

namespace SkyfireBG

/-- One look of a search: at a position with so much space, or at the count after a pass. -/
inductive Look where
  | offer (pos : Pos) (space : Nat)
  | check
deriving DecidableEq, Repr

/-- What a search looks at, and the error it ends with, if the count is not used up before.  `stop`
also says if the rest is counted then. -/
structure Course where
  looks : List Look := []
  stop : Option (InventoryResult × Bool) := none

def Look.take (plan : Plan) : Look → Search
  | .offer pos space =>
    if plan.contains pos then .ok plan
    else if (plan.push pos space).count = 0 then .error { res := .ok, plan := plan.push pos space }
    else .ok (plan.push pos space)
  | .check => if plan.count = 0 then .error { res := .ok, plan := plan } else .ok plan

theorem Look.take_check {plan : Plan} : Look.check.take plan =
    if plan.count = 0 then .error { res := .ok, plan := plan } else .ok plan := rfl

theorem Look.take_offer {plan : Plan} {pos : Pos} {space : Nat} :
    (Look.offer pos space).take plan =
      if plan.contains pos then .ok plan
      else if (plan.push pos space).count = 0 then
        .error { res := .ok, plan := plan.push pos space }
      else .ok (plan.push pos space) := rfl

namespace Course

def fail (res : InventoryResult) (counted : Bool) : Course := { stop := some (res, counted) }

def finishRun (stop : Option (InventoryResult × Bool)) (plan : Plan) : Search :=
  match stop with
  | none => .ok plan
  | some (res, counted) => .error { res := res, plan := plan, counted := counted }

def run (c : Course) (plan : Plan) : Search :=
  c.looks.foldlM Look.take plan >>= finishRun c.stop

def andThen (c d : Course) : Course :=
  if c.stop.isSome then c else { looks := c.looks ++ d.looks, stop := d.stop }

/-- To run a course and then another is to run the one they make up. -/
theorem run_andThen (c d : Course) (plan : Plan) : (c.andThen d).run plan = c.run plan >>= d.run := by
  unfold andThen run
  cases hstop : c.stop with
  | none =>
    simp only [Option.isSome_none, Bool.false_eq_true, if_false, List.foldlM_append, bind_assoc]
    rfl
  | some stop =>
    simp only [Option.isSome_some, if_true, hstop]
    cases c.looks.foldlM Look.take plan <;> rfl

@[simp] theorem run_looks (looks : List Look) (plan : Plan) :
    ({ looks := looks } : Course).run plan = looks.foldlM Look.take plan := by
  unfold run
  cases looks.foldlM Look.take plan <;> rfl

end Course

namespace Holdings

variable {P : Type} (w : Holdings P) (p : P)

section Courses

variable (bag slot : Nat) (proto : ItemTemplate) (pItem : Option Nat)

def loopLooks (bag : Nat) (merge : Bool) (skip : Nat → Bool) (slots : List Nat) : List Look :=
  slots.filterMap (fun j => if skip j then none
    else (w.needSpace p (bag, j) proto merge pItem).map (Look.offer (bag, j))) ++ [.check]

/-- What `CanStoreItem_InSpecificSlot` tests. -/
def slotTest (pos : Pos) (swap : Bool) : InventoryResult :=
  if w.movesFullBag pItem && !isBagPos pos then .canOnlyDoWithEmptyBags
  else match (if swap then none else w.itemBeside p pos pItem) with
    | none =>
      if pos.1 = INVENTORY_SLOT_BAG_0 then
        if KEYRING_SLOT_START ≤ pos.2 ∧ pos.2 < KEYRING_SLOT_START + getMaxKeyringSize ∧
            hasMask proto.bagFamily BAG_FAMILY_MASK_KEYS = false then .itemDoesntGoIntoBag
        else if CURRENCYTOKEN_SLOT_START ≤ pos.2 ∧ pos.2 < CURRENCYTOKEN_SLOT_END ∧
            hasMask proto.bagFamily BAG_FAMILY_MASK_CURRENCY_TOKENS = false then .itemDoesntGoIntoBag
        else if (BUYBACK_SLOT_START ≤ pos.2 ∧ pos.2 < BUYBACK_SLOT_END) ∨ PLAYER_SLOT_END ≤ pos.2 then
          .itemDoesntGoIntoBag
        else .ok
      else match w.getBagByPos p pos.1 with
        | none => .itemDoesntGoIntoBag
        | some pBag =>
          if w.getBagSize pBag ≤ pos.2 then .itemDoesntGoIntoBag
          else if !itemCanGoIntoBag proto (w.item pBag).proto then .itemDoesntGoIntoBag
          else .ok
    | some pItem2 => (w.item pItem2).canBeMergedPartlyWith proto

/-- The space that `CanStoreItem_InSpecificSlot` finds then. -/
def slotSpace (pos : Pos) (swap : Bool) : Nat :=
  match (if swap then none else w.itemBeside p pos pItem) with
  | none => proto.getMaxStackSize
  | some pItem2 => proto.getMaxStackSize - (w.item pItem2).count

/-- What `CanStoreItem_InBag` tests before its loop. -/
def bagTest (b : Nat) (nonSpecialized : Bool) (skipBag : Nat) : InventoryResult :=
  if b = skipBag then .itemDoesntGoIntoBag
  else match w.getBagByPos p b with
    | none => .itemDoesntGoIntoBag
    | some pBag =>
      if some pBag = pItem then .itemDoesntGoIntoBag
      else if w.movesFullBag pItem then .canOnlyDoWithEmptyBags
      else if nonSpecialized != (w.item pBag).proto.isPlainContainer then .itemDoesntGoIntoBag
      else if !itemCanGoIntoBag proto (w.item pBag).proto then .itemDoesntGoIntoBag
      else .ok

def bagLooks (b : Nat) (merge : Bool) (skipSlot : Nat) : List Look :=
  w.loopLooks p proto pItem b merge (fun j => j == skipSlot)
    (List.range ((w.getBagByPos p b).elim 0 w.getBagSize))

def specificCourse (swap : Bool) : Course :=
  if w.slotTest p proto pItem (bag, slot) swap ≠ .ok then
    .fail (w.slotTest p proto pItem (bag, slot) swap) true
  else { looks := [.offer (bag, slot) (w.slotSpace p proto pItem (bag, slot) swap), .check] }

def slotsCourse (slotBegin slotEnd : Nat) (merge : Bool) : Course :=
  if w.movesFullBag pItem then .fail .canOnlyDoWithEmptyBags true
  else { looks := w.loopLooks p proto pItem INVENTORY_SLOT_BAG_0 merge
          (fun j => INVENTORY_SLOT_BAG_0 == bag && j == slot) (slotRange slotBegin slotEnd) }

def bagsCourse (bagSlots : List Nat) (merge nonSpecialized : Bool) : Course :=
  { looks := bagSlots.flatMap fun b =>
      if w.bagTest p proto pItem b nonSpecialized bag = .ok then w.bagLooks p proto pItem b merge slot
      else [] }

def requestedBagCourse (merge : Bool) : Course :=
  if w.bagTest p proto pItem bag false NULL_BAG = .ok ∨
      w.bagTest p proto pItem bag true NULL_BAG = .ok then
    { looks := w.bagLooks p proto pItem bag merge slot }
  else .fail (w.bagTest p proto pItem bag true NULL_BAG) true

def mergeInSlotsCourse : Course :=
  (w.slotsCourse p bag slot proto pItem KEYRING_SLOT_START CURRENCYTOKEN_SLOT_END true).andThen
    (w.slotsCourse p bag slot proto pItem INVENTORY_SLOT_ITEM_START INVENTORY_SLOT_ITEM_END true)

def requestedSpecialCourse : Course :=
  if hasMask proto.bagFamily BAG_FAMILY_MASK_KEYS then
    (w.slotsCourse p bag slot proto pItem KEYRING_SLOT_START
      (KEYRING_SLOT_START + getMaxKeyringSize) false).andThen
      (w.slotsCourse p bag slot proto pItem CURRENCYTOKEN_SLOT_START CURRENCYTOKEN_SLOT_END false)
  else if hasMask proto.bagFamily BAG_FAMILY_MASK_CURRENCY_TOKENS then
    w.slotsCourse p bag slot proto pItem CURRENCYTOKEN_SLOT_START CURRENCYTOKEN_SLOT_END false
  else {}

def specificBagCourse : Course :=
  if bag = INVENTORY_SLOT_BAG_0 then
    (if proto.stackable ≠ 1 then w.mergeInSlotsCourse p bag slot proto pItem else {}).andThen <|
      (w.requestedSpecialCourse p bag slot proto pItem).andThen <|
      w.slotsCourse p bag slot proto pItem INVENTORY_SLOT_ITEM_START INVENTORY_SLOT_ITEM_END false
  else
    (if proto.stackable ≠ 1 then w.requestedBagCourse p bag slot proto pItem true else {}).andThen
      (w.requestedBagCourse p bag slot proto pItem false)

def mergeStacksCourse : Course :=
  (w.mergeInSlotsCourse p bag slot proto pItem).andThen <|
    (if proto.bagFamily ≠ 0 then w.bagsCourse p bag slot proto pItem inventoryBags true false
      else {}).andThen <|
    w.bagsCourse p bag slot proto pItem inventoryBags true true

def specialSlotsCourse : Course :=
  if hasMask proto.bagFamily BAG_FAMILY_MASK_KEYS then
    w.slotsCourse p bag slot proto pItem KEYRING_SLOT_START (KEYRING_SLOT_START + getMaxKeyringSize)
      false
  else if hasMask proto.bagFamily BAG_FAMILY_MASK_CURRENCY_TOKENS then
    w.slotsCourse p bag slot proto pItem CURRENCYTOKEN_SLOT_START CURRENCYTOKEN_SLOT_END false
  else {}

def specialBagsCourse : Course :=
  (w.specialSlotsCourse p bag slot proto pItem).andThen
    (w.bagsCourse p bag slot proto pItem inventoryBags false false)

def freeSlotsCourse : Course :=
  if w.movesFullBag pItem then .fail .nonemptyBagOverOtherBag false
  else
    (w.slotsCourse p bag slot proto pItem INVENTORY_SLOT_ITEM_START INVENTORY_SLOT_ITEM_END
      false).andThen <|
    (w.bagsCourse p bag slot proto pItem inventoryBags false true).andThen (.fail .inventoryFull true)

/-- The course of `CanStoreItem`. -/
def searchCourse (swap : Bool) : Course :=
  (if bag ≠ NULL_BAG ∧ slot ≠ NULL_SLOT then w.specificCourse p bag slot proto pItem swap
    else {}).andThen <|
  (if bag ≠ NULL_BAG then w.specificBagCourse p bag slot proto pItem else {}).andThen <|
  (if proto.stackable ≠ 1 then w.mergeStacksCourse p bag slot proto pItem else {}).andThen <|
  (if proto.bagFamily ≠ 0 then w.specialBagsCourse p bag slot proto pItem else {}).andThen <|
  w.freeSlotsCourse p bag slot proto pItem

end Courses

/-! ## The search is the run of its course -/

section Refinement

variable {w} {p} {bag slot b : Nat} {proto : ItemTemplate} {pItem : Option Nat} {plan : Plan}
  {merge nonSpecialized swap : Bool} {skip : Nat → Bool} {skipPos pos : Pos}

theorem foldlM_check : [Look.check].foldlM Look.take plan = Look.check.take plan := by
  rw [List.foldlM_cons, Look.take_check]
  split_ifs <;> rfl

theorem orReturn_ok : orReturn (.ok, plan) = Look.check.take plan := by
  simp [orReturn, Look.take_check]

theorem orContinue_ok : orContinue (.ok, plan) = Look.check.take plan := by
  simp [orContinue, Look.take_check]

/-- The loop over the slots of a bag takes the looks of its slots. -/
theorem loop_eq (slots : List Nat) :
    Look.check.take (w.storeLoop p bag proto merge pItem skip slots plan) =
      (w.loopLooks p proto pItem bag merge skip slots).foldlM Look.take plan := by
  unfold loopLooks
  induction slots generalizing plan with
  | nil => exact foldlM_check.symm
  | cons j slots ih =>
    unfold storeLoop
    rw [List.filterMap_cons]
    by_cases hskip : skip j
    · rw [if_pos hskip]
      simp only [hskip, if_true]
      exact ih
    rw [if_neg hskip]
    simp only [hskip, Bool.false_eq_true, if_false]
    cases hspace : w.needSpace p (bag, j) proto merge pItem with
    | none => exact ih
    | some space =>
      simp only [Option.map_some, List.cons_append, List.foldlM_cons, Look.take_offer]
      by_cases hin : plan.contains (bag, j)
      · rw [if_pos hin, if_pos hin]
        exact ih
      · rw [if_neg hin, if_neg hin]
        by_cases hdone : (plan.push (bag, j) space).count = 0
        · rw [if_pos hdone, if_pos hdone, Look.take_check, if_pos hdone]
          rfl
        · rw [if_neg hdone, if_neg hdone]
          exact ih

/-- The search of one position is a run. -/
theorem inSpecificSlot_eq :
    orReturn (w.canStoreItem_InSpecificSlot p (bag, slot) plan proto swap pItem) =
      (w.specificCourse p bag slot proto pItem swap).run plan := by
  have hoffer : ∀ space, orReturn (.ok, if plan.contains (bag, slot) then plan
      else plan.push (bag, slot) space) =
        [Look.offer (bag, slot) space, .check].foldlM Look.take plan := by
    intro space
    rw [orReturn_ok, List.foldlM_cons, Look.take_offer]
    split_ifs with hin hdone
    · exact foldlM_check.symm
    · rw [Look.take_check, if_pos hdone]
      rfl
    · exact foldlM_check.symm
  have hresult : w.canStoreItem_InSpecificSlot p (bag, slot) plan proto swap pItem =
      (w.slotTest p proto pItem (bag, slot) swap,
        if w.slotTest p proto pItem (bag, slot) swap = .ok then
          if plan.contains (bag, slot) then plan
          else plan.push (bag, slot) (w.slotSpace p proto pItem (bag, slot) swap)
        else plan) := by
    unfold canStoreItem_InSpecificSlot slotTest slotSpace
    dsimp only
    generalize (if swap then none else w.itemBeside p (bag, slot) pItem) = beside
    by_cases hfull : (w.movesFullBag pItem && !isBagPos (bag, slot)) = true
    · simp [hfull]
    rw [if_neg hfull, if_neg hfull]
    cases beside with
    | none =>
      by_cases hc : bag = INVENTORY_SLOT_BAG_0
      · simp only [if_pos hc]
        split_ifs <;> simp_all
      · simp only [if_neg hc]
        cases w.getBagByPos p bag with
        | none => simp
        | some pBag =>
          dsimp only
          split_ifs <;> simp_all
    | some pItem2 =>
      dsimp only
      split_ifs <;> simp_all
  rw [hresult]
  unfold specificCourse
  by_cases htest : w.slotTest p proto pItem (bag, slot) swap = .ok
  · rw [if_pos htest, htest, hoffer, if_neg (not_not.mpr rfl), Course.run_looks]
  · rw [if_neg htest, if_pos htest, orReturn, if_pos htest]
    rfl

theorem inSlots_eq {slotBegin slotEnd : Nat} :
    w.inSlots p bag slot proto pItem slotBegin slotEnd merge plan =
      (w.slotsCourse p bag slot proto pItem slotBegin slotEnd merge).run plan := by
  unfold inSlots canStoreItem_InInventorySlots slotsCourse
  by_cases hfull : w.movesFullBag pItem
  · rw [if_pos hfull, if_pos hfull]
    rfl
  · rw [if_neg hfull, if_neg hfull, orReturn_ok, loop_eq, Course.run_looks]

/-- A bag that fails its test is not looked at. -/
theorem inBag_eq : w.canStoreItem_InBag p b plan proto merge nonSpecialized pItem skipPos =
    (w.bagTest p proto pItem b nonSpecialized skipPos.1,
      if w.bagTest p proto pItem b nonSpecialized skipPos.1 = .ok then
        w.storeLoop p b proto merge pItem (fun j => j == skipPos.2)
          (List.range ((w.getBagByPos p b).elim 0 w.getBagSize)) plan
      else plan) := by
  unfold canStoreItem_InBag bagTest
  by_cases hskip : b = skipPos.1
  · simp [hskip]
  rw [if_neg hskip, if_neg hskip]
  cases w.getBagByPos p b with
  | none => simp
  | some pBag =>
    dsimp only
    split_ifs <;> simp_all

/-- Bags that fail their tests are skipped. -/
theorem inBags_eq {bagSlots : List Nat} :
    w.inBags p bagSlots plan proto merge nonSpecialized pItem (bag, slot) =
      (w.bagsCourse p bag slot proto pItem bagSlots merge nonSpecialized).run plan := by
  unfold inBags bagsCourse
  rw [Course.run_looks]
  induction bagSlots generalizing plan with
  | nil => rfl
  | cons b bagSlots ih =>
    rw [List.foldlM_cons, List.flatMap_cons, List.foldlM_append, inBag_eq]
    by_cases htest : w.bagTest p proto pItem b nonSpecialized bag = .ok
    · rw [if_pos htest, htest, if_pos rfl, orContinue_ok, loop_eq]
      exact congrArg _ (funext fun _ => ih)
    · rw [if_neg htest, if_neg htest, orContinue, if_neg fun hand => htest hand.1]
      exact ih

theorem inRequestedBag_eq : orReturn (w.inRequestedBag p bag slot plan proto merge pItem) =
    (w.requestedBagCourse p bag slot proto pItem merge).run plan := by
  unfold inRequestedBag requestedBagCourse
  simp only [inBag_eq]
  by_cases hspecial : w.bagTest p proto pItem bag false NULL_BAG = .ok
  · rw [if_neg (not_not.mpr hspecial), if_pos hspecial, if_pos (.inl hspecial), hspecial, orReturn_ok,
      loop_eq, Course.run_looks]
    rfl
  rw [if_pos hspecial]
  by_cases hplain : w.bagTest p proto pItem bag true NULL_BAG = .ok
  · rw [if_pos hplain, if_pos (.inr hplain), hplain, orReturn_ok, loop_eq, Course.run_looks]
    rfl
  · rw [if_neg hplain, if_neg fun hor => hor.elim hspecial hplain, orReturn, if_pos hplain]
    rfl

theorem bind_run {s : Search} {f : Plan → Search} {c d : Course} (hs : s = c.run plan)
    (hf : ∀ plan, f plan = d.run plan) : s >>= f = (c.andThen d).run plan := by
  rw [Course.run_andThen, hs, funext hf]

theorem pass_run {c : Prop} [Decidable c] {s : Search} {f : Plan → Search} {course d : Course}
    (hs : s = course.run plan) (hf : ∀ plan, f plan = d.run plan) :
    (if c then s >>= f else Except.ok plan >>= f) =
      ((if c then course else {}).andThen d).run plan := by
  split_ifs
  · exact bind_run hs hf
  · exact bind_run rfl hf

theorem mergeInSlots_eq : w.mergeInSlots p bag slot proto pItem plan =
    (w.mergeInSlotsCourse p bag slot proto pItem).run plan :=
  bind_run inSlots_eq fun _ => inSlots_eq

theorem inRequestedSpecialSlots_eq : w.inRequestedSpecialSlots p bag slot proto pItem plan =
    (w.requestedSpecialCourse p bag slot proto pItem).run plan := by
  unfold inRequestedSpecialSlots requestedSpecialCourse
  split_ifs
  · exact bind_run inSlots_eq fun _ => inSlots_eq
  · exact inSlots_eq
  · rfl

theorem inSpecificBag_eq : w.inSpecificBag p bag slot proto pItem plan =
    (w.specificBagCourse p bag slot proto pItem).run plan := by
  unfold inSpecificBag specificBagCourse
  by_cases hbag : bag = INVENTORY_SLOT_BAG_0
  · rw [if_pos hbag, if_pos hbag]
    exact pass_run mergeInSlots_eq fun _ => bind_run inRequestedSpecialSlots_eq fun _ => inSlots_eq
  · rw [if_neg hbag, if_neg hbag]
    exact pass_run inRequestedBag_eq fun _ => inRequestedBag_eq

theorem mergeStacks_eq : w.mergeStacks p bag slot proto pItem plan =
    (w.mergeStacksCourse p bag slot proto pItem).run plan :=
  bind_run mergeInSlots_eq fun _ => pass_run inBags_eq fun _ => inBags_eq

theorem inSpecialBags_eq : w.inSpecialBags p bag slot proto pItem plan =
    (w.specialBagsCourse p bag slot proto pItem).run plan := by
  have hslots : w.inSpecialSlots p bag slot proto pItem plan =
      (w.specialSlotsCourse p bag slot proto pItem).run plan := by
    unfold inSpecialSlots specialSlotsCourse
    split_ifs
    · exact inSlots_eq
    · exact inSlots_eq
    · rfl
  exact bind_run hslots fun _ => inBags_eq

theorem inFreeSlots_eq : w.inFreeSlots p bag slot proto pItem plan =
    (w.freeSlotsCourse p bag slot proto pItem).run plan := by
  unfold inFreeSlots freeSlotsCourse
  split_ifs
  · rfl
  · exact bind_run inSlots_eq fun _ => bind_run inBags_eq fun _ => rfl

/-- The whole search, from the requested position to the free slots, is the run of its course. -/
theorem searchInventory_eq : w.searchInventory p bag slot proto pItem swap plan =
    (w.searchCourse p bag slot proto pItem swap).run plan :=
  pass_run inSpecificSlot_eq fun _ => pass_run inSpecificBag_eq fun _ =>
    pass_run mergeStacks_eq fun _ => pass_run inSpecialBags_eq fun _ => inFreeSlots_eq

end Refinement

end Holdings

def Plan.placed (plan : Plan) : Nat := (plan.dest.map ItemPosCount.count).sum

/-- The space in the positions that are looked at, apart from those already taken. -/
def roomOf : List Pos → List Look → Nat
  | _, [] => 0
  | taken, .check :: looks => roomOf taken looks
  | taken, .offer pos space :: looks =>
    if pos ∈ taken then roomOf taken looks else space + roomOf (taken ++ [pos]) looks

def searchPlan : Search → Plan
  | .ok plan => plan
  | .error ended => ended.plan

section Room

variable {plan : Plan} {pos : Pos} {space : Nat} {looks : List Look} {c d : Course}

theorem Plan.contains_iff : plan.contains pos = true ↔ pos ∈ plan.dest.map ItemPosCount.pos := by
  simp [Plan.contains]

theorem Plan.push_total :
    (plan.push pos space).placed + (plan.push pos space).count = plan.placed + plan.count := by
  simp only [Plan.placed, Plan.push, List.map_append, List.sum_append, List.map_cons, List.map_nil,
    List.sum_cons, List.sum_nil]
  omega

/-- A look places of the count what it takes off it. -/
theorem take_total (look : Look) (plan : Plan) : (searchPlan (look.take plan)).placed +
    (searchPlan (look.take plan)).count = plan.placed + plan.count := by
  cases look with
  | offer pos space =>
    rw [Look.take_offer]
    split_ifs
    · rfl
    · exact Plan.push_total
    · exact Plan.push_total
  | check =>
    rw [Look.take_check]
    split_ifs <;> rfl

theorem looks_total (looks : List Look) (plan : Plan) :
    (searchPlan (looks.foldlM Look.take plan)).placed +
      (searchPlan (looks.foldlM Look.take plan)).count = plan.placed + plan.count := by
  induction looks generalizing plan with
  | nil => rfl
  | cons look looks ih =>
    rw [List.foldlM_cons]
    have htake := take_total look plan
    cases htaken : look.take plan with
    | error ended =>
      rw [htaken] at htake
      exact htake
    | ok plan' =>
      rw [htaken] at htake
      exact (ih plan').trans htake

/-- What a search has placed and what is left make up what was asked for. -/
theorem Course.run_total (c : Course) (plan : Plan) :
    (searchPlan (c.run plan)).placed + (searchPlan (c.run plan)).count = plan.placed + plan.count := by
  have htotal := looks_total c.looks plan
  unfold Course.run
  cases hlooks : c.looks.foldlM Look.take plan with
  | error ended =>
    rw [hlooks] at htotal
    exact htotal
  | ok plan' =>
    rw [hlooks] at htotal
    refine Eq.trans ?_ htotal
    cases hstop : c.stop with
    | none => rfl
    | some stop => rfl

/-- Looks with room for all end the search with success; others place all they have room for. -/
theorem looks_room (looks : List Look) (hlive : 0 < plan.count) :
    (plan.count ≤ roomOf (plan.dest.map ItemPosCount.pos) looks ∧ ∃ plan',
      looks.foldlM Look.take plan = .error { res := .ok, plan := plan' } ∧ plan'.count = 0) ∨
    (roomOf (plan.dest.map ItemPosCount.pos) looks < plan.count ∧ ∃ plan',
      looks.foldlM Look.take plan = .ok plan' ∧
        plan'.count + roomOf (plan.dest.map ItemPosCount.pos) looks = plan.count) := by
  induction looks generalizing plan with
  | nil => exact .inr ⟨hlive, plan, rfl, rfl⟩
  | cons look looks ih =>
    rw [List.foldlM_cons]
    cases look with
    | check =>
      rw [Look.take_check, if_neg (Nat.ne_of_gt hlive)]
      exact ih hlive
    | offer pos space =>
      rw [Look.take_offer, roomOf]
      by_cases hin : plan.contains pos
      · rw [if_pos hin, if_pos (Plan.contains_iff.mp hin)]
        exact ih hlive
      rw [if_neg hin, if_neg fun hmem => hin (Plan.contains_iff.mpr hmem)]
      have hcount : (plan.push pos space).count = plan.count - min space plan.count := rfl
      have hdest : plan.dest.map ItemPosCount.pos ++ [pos] =
          (plan.push pos space).dest.map ItemPosCount.pos := by
        simp [Plan.push]
      by_cases hdone : (plan.push pos space).count = 0
      · rw [if_pos hdone]
        exact .inl ⟨by omega, _, rfl, hdone⟩
      · rw [if_neg hdone, hdest]
        rcases ih (Nat.pos_of_ne_zero hdone) with ⟨hle, hend⟩ | ⟨hlt, plan', hend, hleft⟩
        · exact .inl ⟨by omega, hend⟩
        · exact .inr ⟨by omega, plan', hend, by omega⟩

def Course.room (c : Course) (dest : List ItemPosCount) : Nat :=
  roomOf (dest.map ItemPosCount.pos) c.looks

/-- A course with room for all places all. -/
theorem Course.run_enough (hlive : 0 < plan.count) (hle : plan.count ≤ c.room plan.dest) :
    ∃ plan', c.run plan = .error { res := .ok, plan := plan' } ∧ plan'.count = 0 := by
  rcases looks_room c.looks hlive with ⟨-, plan', hend, hzero⟩ | ⟨hlt, -⟩
  · refine ⟨plan', ?_, hzero⟩
    rw [Course.run, hend]
    rfl
  · exact absurd hle (Nat.not_le.mpr hlt)

/-- A course without is gone through to its end. -/
theorem Course.run_short (hlt : c.room plan.dest < plan.count) :
    ∃ plan', c.run plan = Course.finishRun c.stop plan' ∧
      plan'.count + c.room plan.dest = plan.count := by
  rcases looks_room c.looks (Nat.zero_lt_of_lt hlt) with ⟨hle, -⟩ | ⟨-, plan', hend, hleft⟩
  · exact absurd hlt (Nat.not_lt.mpr hle)
  · refine ⟨plan', ?_, hleft⟩
    rw [Course.run, hend]
    rfl

theorem looks_zero (looks : List Look) (hzero : plan.count = 0) : ∃ plan', plan'.count = 0 ∧
    (looks.foldlM Look.take plan = .error { res := .ok, plan := plan' } ∨
      looks.foldlM Look.take plan = .ok plan') := by
  induction looks with
  | nil => exact ⟨plan, hzero, .inr rfl⟩
  | cons look looks ih =>
    rw [List.foldlM_cons]
    cases look with
    | check =>
      rw [Look.take_check, if_pos hzero]
      exact ⟨plan, hzero, .inl rfl⟩
    | offer pos space =>
      rw [Look.take_offer]
      by_cases hin : plan.contains pos
      · rw [if_pos hin]
        exact ih
      · have hdone : (plan.push pos space).count = 0 := by
          simp [Plan.push, hzero]
        rw [if_neg hin, if_pos hdone]
        exact ⟨_, hdone, .inl rfl⟩

/-- What a search leaves over is what its course has no room for. -/
theorem Course.run_left (c : Course) (plan : Plan) :
    ∃ plan', plan'.count = plan.count - c.room plan.dest ∧
      ((c.run plan = .error { res := .ok, plan := plan' } ∧ plan.count ≤ c.room plan.dest) ∨
        (c.run plan = Course.finishRun c.stop plan' ∧
          (0 < plan.count → c.room plan.dest < plan.count))) := by
  rcases Nat.eq_zero_or_pos plan.count with hzero | hlive
  · obtain ⟨plan', hleft, hend⟩ := looks_zero c.looks hzero
    refine ⟨plan', by omega, ?_⟩
    unfold Course.run
    rcases hend with hend | hend
    · exact .inl ⟨by rw [hend]; rfl, by omega⟩
    · exact .inr ⟨by rw [hend]; rfl, fun hlive => absurd hlive (by omega)⟩
  rcases Nat.lt_or_ge (c.room plan.dest) plan.count with hlt | hle
  · obtain ⟨plan', hend, hleft⟩ := run_short hlt
    exact ⟨plan', by omega, .inr ⟨hend, fun _ => hlt⟩⟩
  · obtain ⟨plan', hend, hleft⟩ := run_enough hlive hle
    exact ⟨plan', by omega, .inl ⟨hend, hle⟩⟩

/-! ## The end of the course -/

def Course.Counted (c : Course) : Prop :=
  ∀ res counted, c.stop = some (res, counted) → res ≠ .ok ∧ counted = true

theorem Course.Counted.onlyLooks (looks : List Look) : ({ looks := looks } : Course).Counted :=
  fun _ _ h => nomatch h

theorem Course.Counted.fail {res : InventoryResult} (h : res ≠ .ok) :
    (Course.fail res true).Counted := by
  intro res' counted heq
  cases heq
  exact ⟨h, rfl⟩

theorem Course.Counted.andThen (hc : c.Counted) (hd : d.Counted) : (c.andThen d).Counted := by
  unfold Course.andThen
  split_ifs
  · exact hc
  · exact hd

theorem Course.Counted.ite {b : Prop} [Decidable b] (hc : b → c.Counted) :
    (if b then c else {} : Course).Counted := by
  split_ifs with hb
  · exact hc hb
  · exact .onlyLooks []

@[simp] theorem Course.fail_andThen {res : InventoryResult} {counted : Bool} :
    (Course.fail res counted).andThen d = .fail res counted := rfl

@[simp] theorem Course.empty_andThen : ({} : Course).andThen d = d := rfl

theorem Course.andThen_stop (h : d.stop.isSome = true) : (c.andThen d).stop.isSome = true := by
  unfold Course.andThen
  split_ifs with hc
  · exact hc
  · exact h

end Room

namespace Holdings

variable {P : Type} {w : Holdings P} {p : P} {bag slot : Nat} {proto : ItemTemplate}
  {pItem : Option Nat} {merge swap : Bool}

theorem specificCourse_counted : (w.specificCourse p bag slot proto pItem swap).Counted := by
  unfold specificCourse
  split_ifs with htest
  · exact .fail htest
  · exact .onlyLooks _

theorem slotsCourse_counted {slotBegin slotEnd : Nat} :
    (w.slotsCourse p bag slot proto pItem slotBegin slotEnd merge).Counted := by
  unfold slotsCourse
  split_ifs
  · exact .fail fun h => nomatch h
  · exact .onlyLooks _

theorem requestedBagCourse_counted :
    (w.requestedBagCourse p bag slot proto pItem merge).Counted := by
  unfold requestedBagCourse
  split_ifs with htest
  · exact .onlyLooks _
  · exact .fail fun hok => htest (.inr hok)

theorem mergeInSlotsCourse_counted : (w.mergeInSlotsCourse p bag slot proto pItem).Counted :=
  slotsCourse_counted.andThen slotsCourse_counted

theorem specificBagCourse_counted : (w.specificBagCourse p bag slot proto pItem).Counted := by
  have hspecial : (w.requestedSpecialCourse p bag slot proto pItem).Counted := by
    unfold requestedSpecialCourse
    split_ifs
    · exact slotsCourse_counted.andThen slotsCourse_counted
    · exact slotsCourse_counted
    · exact .onlyLooks []
  unfold specificBagCourse
  split_ifs
  · exact mergeInSlotsCourse_counted.andThen (hspecial.andThen slotsCourse_counted)
  · exact (Course.Counted.onlyLooks []).andThen (hspecial.andThen slotsCourse_counted)
  · exact requestedBagCourse_counted.andThen requestedBagCourse_counted
  · exact (Course.Counted.onlyLooks []).andThen requestedBagCourse_counted

theorem bagsCourse_counted {bagSlots : List Nat} {nonSpecialized : Bool} :
    (w.bagsCourse p bag slot proto pItem bagSlots merge nonSpecialized).Counted := .onlyLooks _

theorem mergeStacksCourse_counted : (w.mergeStacksCourse p bag slot proto pItem).Counted :=
  mergeInSlotsCourse_counted.andThen ((Course.Counted.ite fun _ => bagsCourse_counted).andThen
    bagsCourse_counted)

theorem specialBagsCourse_counted : (w.specialBagsCourse p bag slot proto pItem).Counted := by
  have hspecial : (w.specialSlotsCourse p bag slot proto pItem).Counted := by
    unfold specialSlotsCourse
    split_ifs
    · exact slotsCourse_counted
    · exact slotsCourse_counted
    · exact .onlyLooks []
  exact hspecial.andThen bagsCourse_counted

theorem searchCourse_isSome : (w.searchCourse p bag slot proto pItem swap).stop.isSome = true := by
  have hfree : (w.freeSlotsCourse p bag slot proto pItem).stop.isSome = true := by
    unfold freeSlotsCourse
    split_ifs
    · rfl
    · exact Course.andThen_stop (Course.andThen_stop rfl)
  exact Course.andThen_stop (Course.andThen_stop (Course.andThen_stop (Course.andThen_stop hfree)))

/-- Unless a bag that holds items is moved, every end of the search counts what is left. -/
theorem searchCourse_counted (hfull : w.movesFullBag pItem = false) :
    (w.searchCourse p bag slot proto pItem swap).Counted := by
  have hfree : (w.freeSlotsCourse p bag slot proto pItem).Counted := by
    unfold freeSlotsCourse
    rw [hfull, if_neg Bool.false_ne_true]
    exact slotsCourse_counted.andThen (bagsCourse_counted.andThen (.fail fun h => nomatch h))
  exact (Course.Counted.ite fun _ => specificCourse_counted).andThen
    ((Course.Counted.ite fun _ => specificBagCourse_counted).andThen
      ((Course.Counted.ite fun _ => mergeStacksCourse_counted).andThen
        ((Course.Counted.ite fun _ => specialBagsCourse_counted).andThen hfree)))

section FullBag

variable (hfull : w.movesFullBag pItem = true)

include hfull

theorem slotsCourse_full {slotBegin slotEnd : Nat} :
    w.slotsCourse p bag slot proto pItem slotBegin slotEnd merge =
      .fail .canOnlyDoWithEmptyBags true := if_pos hfull

theorem bagTest_full {b skipBag : Nat} {nonSpecialized : Bool} :
    w.bagTest p proto pItem b nonSpecialized skipBag ≠ .ok := by
  unfold bagTest
  by_cases hskip : b = skipBag
  · rw [if_pos hskip]
    exact fun h => nomatch h
  rw [if_neg hskip]
  cases w.getBagByPos p b with
  | none => exact fun h => nomatch h
  | some pBag =>
    dsimp only
    split_ifs <;> exact fun h => nomatch h

theorem bagsCourse_full {bagSlots : List Nat} {nonSpecialized : Bool} :
    w.bagsCourse p bag slot proto pItem bagSlots merge nonSpecialized = {} := by
  simp [bagsCourse, bagTest_full hfull]

theorem requestedBagCourse_full : w.requestedBagCourse p bag slot proto pItem merge =
    .fail (w.bagTest p proto pItem bag true NULL_BAG) true :=
  if_neg fun hor => hor.elim (bagTest_full hfull) (bagTest_full hfull)

theorem specialBagsCourse_full :
    w.specialBagsCourse p bag slot proto pItem = .fail .canOnlyDoWithEmptyBags true ∨
      w.specialBagsCourse p bag slot proto pItem = {} := by
  unfold specialBagsCourse specialSlotsCourse
  rw [bagsCourse_full hfull]
  split_ifs
  · exact .inl (by rw [slotsCourse_full hfull, Course.fail_andThen])
  · exact .inl (by rw [slotsCourse_full hfull, Course.fail_andThen])
  · exact .inr rfl

theorem specificBagCourse_full : ∃ res, res ≠ .ok ∧
    w.specificBagCourse p bag slot proto pItem = .fail res true := by
  unfold specificBagCourse
  split_ifs with hbag hstack hstack
  · refine ⟨.canOnlyDoWithEmptyBags, fun h => (nomatch h), ?_⟩
    simp [mergeInSlotsCourse, slotsCourse_full hfull]
  · refine ⟨.canOnlyDoWithEmptyBags, fun h => (nomatch h), ?_⟩
    unfold requestedSpecialCourse
    split_ifs <;> simp [slotsCourse_full hfull]
  · rw [requestedBagCourse_full hfull, Course.fail_andThen]
    exact ⟨_, bagTest_full hfull, rfl⟩
  · rw [requestedBagCourse_full hfull, Course.empty_andThen]
    exact ⟨_, bagTest_full hfull, rfl⟩

end FullBag

/-- A search that does not use the count up ends with an error; the rest is counted then, or nothing
was looked at. -/
theorem searchCourse_stop : ∃ res counted,
    (w.searchCourse p bag slot proto pItem swap).stop = some (res, counted) ∧ res ≠ .ok ∧
      (counted = true ∨ (w.searchCourse p bag slot proto pItem swap).looks = []) := by
  have hcounted : (w.searchCourse p bag slot proto pItem swap).Counted → ∃ res counted,
      (w.searchCourse p bag slot proto pItem swap).stop = some (res, counted) ∧ res ≠ .ok ∧
        (counted = true ∨ (w.searchCourse p bag slot proto pItem swap).looks = []) := by
    intro h
    obtain ⟨⟨res, counted⟩, hstop⟩ := Option.isSome_iff_exists.mp searchCourse_isSome
    obtain ⟨hres, htrue⟩ := h res counted hstop
    exact ⟨res, counted, hstop, hres, .inl htrue⟩
  cases hfull : w.movesFullBag pItem with
  | false => exact hcounted (searchCourse_counted hfull)
  | true =>
    by_cases hbag : bag = NULL_BAG
    · -- only the passes over free slots are left, if the item is a plain bag
      have hfree : w.freeSlotsCourse p bag slot proto pItem =
          .fail .nonemptyBagOverOtherBag false := if_pos hfull
      have hfew : ∃ res counted, res ≠ .ok ∧ w.searchCourse p bag slot proto pItem swap =
          .fail res counted := by
        unfold searchCourse
        rw [hfree, if_neg fun hand => hand.1 hbag, if_neg (not_not.mpr hbag)]
        simp only [Course.empty_andThen]
        by_cases hstack : proto.stackable ≠ 1
        · refine ⟨.canOnlyDoWithEmptyBags, true, fun h => (nomatch h), ?_⟩
          simp [hstack, mergeStacksCourse, mergeInSlotsCourse, slotsCourse_full hfull]
        rw [if_neg hstack, Course.empty_andThen]
        split_ifs
        · have hspecial : w.specialBagsCourse p bag slot proto pItem =
              .fail .canOnlyDoWithEmptyBags true ∨ w.specialBagsCourse p bag slot proto pItem = {} :=
            specialBagsCourse_full hfull
          rcases hspecial with heq | heq
          · rw [heq]
            exact ⟨.canOnlyDoWithEmptyBags, true, fun h => (nomatch h), rfl⟩
          · rw [heq]
            exact ⟨.nonemptyBagOverOtherBag, false, fun h => (nomatch h), rfl⟩
        · exact ⟨.nonemptyBagOverOtherBag, false, fun h => (nomatch h), rfl⟩
      obtain ⟨res, counted, hres, heq⟩ := hfew
      rw [heq]
      exact ⟨res, counted, rfl, hres, .inr rfl⟩
    · have hspecific : ∃ res, res ≠ .ok ∧
          w.specificBagCourse p bag slot proto pItem = .fail res true := specificBagCourse_full hfull
      obtain ⟨res, hres, heq⟩ := hspecific
      refine hcounted ?_
      unfold searchCourse
      rw [if_pos (show bag ≠ NULL_BAG from hbag), heq, Course.fail_andThen]
      exact (Course.Counted.ite fun _ => specificCourse_counted).andThen (.fail hres)

end Holdings

end SkyfireBG
