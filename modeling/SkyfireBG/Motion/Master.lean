import SkyfireBG.Lib.Triple

/-!
# SkyfireBG.Motion.Master

The movement generators of a unit.  A program here may fail where the source leaves its array,
follows a null pointer or stops at an assertion.

The methods of a generator may call back: `call` stands for what `Initialize`, `Finalize`, `Reset`
and `Update` of a generator do to the motion master of their unit.
-/

namespace SkyfireBG

/-- `si_idleMovement`, or one that was made with `new`. -/
inductive MovementGenerator where
  | idle
  | made (id : Nat)
deriving DecidableEq, Repr

/-- Below `MAX_MOTION_SLOT`. -/
abbrev MovementSlot : Type := Fin 3

def MOTION_SLOT_IDLE : MovementSlot := 0

inductive MotionFault where
  | outside
  | null
  | assert
  -- the bound on nested calls in this model was reached
  | rounds
deriving DecidableEq, Repr

structure MotionMaster where
  impl : MovementSlot → Option MovementGenerator
  top : Int
  needInit : MovementSlot → Bool
  expList : Option (List MovementGenerator)
  update : Bool
  reset : Bool
  -- the history: how many generators were made, how often a generator was called,
  made : Nat
  rounds : Nat
  -- the slots whose generator was initialized while it was on top,
  inited : MovementSlot → Bool
  finalized : List MovementGenerator
  deleted : List MovementGenerator
  -- the generators that are being finalized, the ones that wait for a slot to be released,
  dying : List MovementGenerator
  replacing : List (MovementSlot × MovementGenerator)
  -- and whether each operation so far was started where it may be
  met : Bool

abbrev Motion : Type → Type := EStateM MotionFault MotionMaster

namespace MotionMaster

def new : MotionMaster where
  impl _ := none
  top := -1
  needInit _ := true
  expList := none
  update := false
  reset := false
  made := 0
  rounds := 0
  inited _ := false
  finalized := []
  deleted := []
  dying := []
  replacing := []
  met := true

def slotAt (i : Int) : Motion MovementSlot :=
  if h : 0 ≤ i ∧ i < 3 then pure ⟨i.toNat, by omega⟩ else throw .outside

def topSlot : Motion MovementSlot := do slotAt (← get).top

def topGenerator : Motion (Option MovementGenerator) := do
  let i ← topSlot
  return (← get).impl i

def empty (s : MotionMaster) : Bool := s.top < 0

def size (s : MotionMaster) : Int := s.top + 1

def decTop (s : MotionMaster) : MotionMaster := { s with top := s.top - 1 }

/-- `while (!top()) --_top`.  The array is left before the rounds are used up. -/
def lowerTopLoop : Nat → Motion Unit
  | 0 => throw .outside
  | n + 1 => do
    match ← topGenerator with
    | some _ => pure ()
    | none => do
      modify decTop
      lowerTopLoop n

def lowerTop : Motion Unit := lowerTopLoop 4

def clearSlot (i : MovementSlot) (s : MotionMaster) : MotionMaster :=
  { s with impl := Function.update s.impl i none }

def pop : Motion Unit := do
  let i ← topSlot
  modify (clearSlot i)
  lowerTop

def takeNew (s : MotionMaster) : MotionMaster := { s with made := s.made + 1 }

def newGenerator : Motion MovementGenerator := do
  let s ← get
  modify takeNew
  return .made s.made

def beginFinalize (g : MovementGenerator) (s : MotionMaster) : MotionMaster :=
  { s with finalized := g :: s.finalized, dying := g :: s.dying }

def endFinalize (g : MovementGenerator) (s : MotionMaster) : MotionMaster :=
  { s with dying := s.dying.tail, deleted := g :: s.deleted }

def directDelete (call : Motion Unit) : Option MovementGenerator → Motion Unit
  | none => throw .null
  | some .idle => pure ()
  | some (.made id) => do
    modify (beginFinalize (.made id))
    call
    modify (endFinalize (.made id))

def pushExpired (g : MovementGenerator) (s : MotionMaster) : MotionMaster :=
  { s with expList := some (s.expList.getD [] ++ [g]) }

def delayedDelete : Option MovementGenerator → Motion Unit
  | none => throw .null
  | some .idle => pure ()
  | some (.made id) => modify (pushExpired (.made id))

def markInited (i : MovementSlot) (s : MotionMaster) : MotionMaster :=
  { s with inited := Function.update s.inited i (s.top == i.val || s.inited i) }

/-- `Initialize` of the generator in slot `i`. -/
def initializeSlot (call : Motion Unit) (i : MovementSlot) : Motion Unit := do
  modify (markInited i)
  call

def setNeedInit (b : Bool) (i : MovementSlot) (s : MotionMaster) : MotionMaster :=
  { s with needInit := Function.update s.needInit i b }

def initTop (call : Motion Unit) : Motion Unit := do
  let i ← topSlot
  match (← get).impl i with
  | none => throw .null
  | some _ => do
    initializeSlot call i
    let j ← topSlot
    modify (setNeedInit false j)

/-- `Reset` or `Update` of the generator on top. -/
def callTop (call : Motion Unit) : Motion Unit := do
  match ← topGenerator with
  | none => throw .null
  | some _ => call

/-- The end of `DirectClean`. -/
def settleTop (call : Motion Unit) (reset : Bool) : Motion Unit := do
  let i ← topSlot
  let s ← get
  if s.needInit i then initTop call
  else if reset then callTop call
  else pure ()

def beginReplace (m : MovementGenerator) (slot : MovementSlot) (s : MotionMaster) : MotionMaster :=
  { clearSlot slot s with replacing := (slot, m) :: s.replacing }

def endReplace (s : MotionMaster) : MotionMaster := { s with replacing := s.replacing.tail }

def deleteReplaced (call : Motion Unit) (slot : MovementSlot) (curr : MovementGenerator) :
    Motion Unit := do
  let s ← get
  if s.top = slot.val ∧ s.update then delayedDelete (some curr) else directDelete call (some curr)

def raiseTop (slot : MovementSlot) (s : MotionMaster) : MotionMaster := { s with top := slot.val }

/-- The first part of `Mutate`, which empties the slot. -/
def releaseSlot (call : Motion Unit) (m : MovementGenerator) (slot : MovementSlot) :
    Motion Unit := do
  let s ← get
  match s.impl slot with
  | some curr => do
    modify (beginReplace m slot)
    deleteReplaced call slot curr
    modify endReplace
  | none => if s.top < slot.val then modify (raiseTop slot) else pure ()

def putSlot (m : MovementGenerator) (slot : MovementSlot) (s : MotionMaster) : MotionMaster :=
  { s with
    impl := Function.update s.impl slot (some m)
    needInit := Function.update s.needInit slot (decide (s.top > slot.val))
    inited := Function.update s.inited slot false }

/-- The second part of `Mutate`. -/
def fillSlot (call : Motion Unit) (m : MovementGenerator) (slot : MovementSlot) : Motion Unit := do
  let s ← get
  modify (putSlot m slot)
  if s.top > slot.val then pure () else initializeSlot call slot

def mutate (call : Motion Unit) (m : MovementGenerator) (slot : MovementSlot) : Motion Unit := do
  releaseSlot call m slot
  fillSlot call m slot

/-- `if (curr) Delete(curr)` -/
def unlessNull (delete : Option MovementGenerator → Motion Unit) :
    Option MovementGenerator → Motion Unit
  | none => pure ()
  | some g => delete (some g)

/-- The loops of `Initialize`, `DirectClean` and `DelayedClean`, which end at `keep` slots. -/
def popAll (delete : Option MovementGenerator → Motion Unit) (keep : Int) : Nat → Motion Unit
  | 0 => throw .rounds
  | n + 1 => do
    let s ← get
    if s.size > keep then do
      let curr ← topGenerator
      pop
      unlessNull delete curr
      popAll delete keep n
    else pure ()

/-- `selects`: the generator that the factory has for the owner is not the idle one. -/
def initDefault (call : Motion Unit) (selects : Bool) : Motion Unit := do
  if selects then do
    let g ← newGenerator
    mutate call g MOTION_SLOT_IDLE
  else mutate call .idle MOTION_SLOT_IDLE

/-- `Initialize` of the motion master. -/
def initializeStack (n : Nat) (call : Motion Unit) (selects : Bool) : Motion Unit := do
  popAll (directDelete call) 0 n
  initDefault call selects

def directClean (n : Nat) (call : Motion Unit) (reset : Bool) : Motion Unit := do
  popAll (directDelete call) 1 n
  settleTop call reset

def delayedClean (n : Nat) : Motion Unit := popAll delayedDelete 1 n

/-- The first part of `DirectExpire` and `DelayedExpire`. -/
def popOne (delete : Option MovementGenerator → Motion Unit) : Motion Unit := do
  let s ← get
  if s.size > 1 then do
    let curr ← topGenerator
    pop
    delete curr
  else pure ()

/-- The end of `DirectExpire` and `UpdateMotion`. -/
def settleStack (n : Nat) (call : Motion Unit) (reset selects : Bool) : Motion Unit := do
  let s ← get
  if s.empty then initializeStack n call selects else settleTop call reset

def directExpire (n : Nat) (call : Motion Unit) (reset selects : Bool) : Motion Unit := do
  popOne (directDelete call)
  lowerTop
  settleStack n call reset selects

def delayedExpire : Motion Unit := do
  popOne delayedDelete
  lowerTop

def setReset (reset : Bool) (s : MotionMaster) : MotionMaster := { s with reset := reset }

def clear (n : Nat) (call : Motion Unit) (reset : Bool) : Motion Unit := do
  let s ← get
  if s.update then do
    modify (setReset reset)
    delayedClean n
  else directClean n call reset

def movementExpired (n : Nat) (call : Motion Unit) (reset selects : Bool) : Motion Unit := do
  let s ← get
  if s.update then do
    modify (setReset reset)
    delayedExpire
  else directExpire n call reset selects

def moveIdle (call : Motion Unit) : Motion Unit := do
  let s ← get
  if s.empty then mutate call .idle MOTION_SLOT_IDLE
  else do
    let curr ← topGenerator
    if curr = some .idle then pure () else mutate call .idle MOTION_SLOT_IDLE

inductive Op where
  /-- one of the `Move` functions that make a generator -/
  | mutate (slot : MovementSlot)
  | moveIdle
  | movementExpired (reset selects : Bool)
  | clear (reset : Bool)
  | initializeStack (selects : Bool)
deriving DecidableEq, Repr

def replaced (s : MotionMaster) : List MovementSlot := s.replacing.map Prod.fst

def allowed (s : MotionMaster) : Op → Bool
  | .mutate slot => slot ∉ s.replaced
  | .moveIdle => MOTION_SLOT_IDLE ∉ s.replaced
  | .movementExpired _ _ =>
    (s.top == 0 && s.replaced.isEmpty) ||
      [(0 : MovementSlot), 1, 2].any fun j =>
        (s.impl j).isSome && decide ((j.val : Int) < s.top) && s.replaced.all (· < j)
  | .clear _ => s.replaced.isEmpty && (s.impl MOTION_SLOT_IDLE).isSome
  | .initializeStack _ => s.empty

def start (op : Op) (s : MotionMaster) : MotionMaster := { s with met := s.met && s.allowed op }

def setUpdate (b : Bool) (s : MotionMaster) : MotionMaster := { s with update := b }

def setExpired (l : Option (List MovementGenerator)) (s : MotionMaster) : MotionMaster :=
  { s with expList := l }

/-- The loop over the list, which is given up at its end; here each entry is given up in turn.
Nothing is pushed meanwhile. -/
def deleteAll (call : Motion Unit) : List MovementGenerator → Motion Unit
  | [] => pure ()
  | mg :: mgs => do
    modify (setExpired (some mgs))
    directDelete call (some mg)
    deleteAll call mgs

/-- The end of `UpdateMotion`. -/
def deleteExpired (n : Nat) (call : Motion Unit) (selects : Bool) : Motion Unit := do
  let s ← get
  match s.expList with
  | none => pure ()
  | some mgs => do
    deleteAll call mgs
    modify (setExpired none)
    let s ← get
    settleStack n call s.reset selects
    modify (setReset false)

/-- `MovementExpired`, if `Update` of the generator on top returned false. -/
def expireUnless (n : Nat) (call : Motion Unit) (goesOn selects : Bool) : Motion Unit :=
  if goesOn then pure ()
  else do
    modify (start (.movementExpired true selects))
    movementExpired n call true selects

/-- `held`: the owner is rooted or stunned; `goesOn` is what `Update` of the generator returns. -/
def updateMotion (n : Nat) (call : Motion Unit) (held goesOn selects : Bool) : Motion Unit := do
  let s ← get
  if held then pure ()
  else if s.empty then throw .assert
  else do
    modify (setUpdate true)
    callTop call
    modify (setUpdate false)
    expireUnless n call goesOn selects
    deleteExpired n call selects

def Op.run (n : Nat) (call : Motion Unit) : Op → Motion Unit
  | .mutate slot => do
    let g ← newGenerator
    MotionMaster.mutate call g slot
  | .moveIdle => MotionMaster.moveIdle call
  | .movementExpired reset selects => MotionMaster.movementExpired n call reset selects
  | .clear reset => MotionMaster.clear n call reset
  | .initializeStack selects => MotionMaster.initializeStack n call selects

def countRound (s : MotionMaster) : MotionMaster := { s with rounds := s.rounds + 1 }

/-- A generator that is called does what `plan` has for this call. -/
def answer (plan : Nat → List Op) (perform : Op → Motion Unit) : Motion Unit := do
  let s ← get
  modify countRound
  (plan s.rounds).forM perform

/-- An operation, with calls nested below `n`. -/
def perform (plan : Nat → List Op) : Nat → Op → Motion Unit
  | 0, _ => throw .rounds
  | n + 1, op => do
    modify (start op)
    op.run (n + 4) (answer plan (perform plan n))

/-- The unit updates its motion master; everything else may also be done by a generator. -/
inductive Command where
  | op (o : Op)
  | updateMotion (held goesOn selects : Bool)
deriving DecidableEq, Repr

def allowedUpdate (held : Bool) (s : MotionMaster) : Bool := held || !s.empty

def startUpdate (held : Bool) (s : MotionMaster) : MotionMaster :=
  { s with met := s.met && s.allowedUpdate held }

def Command.run (plan : Nat → List Op) (n : Nat) : Command → Motion Unit
  | .op o => perform plan n o
  | .updateMotion held goesOn selects => do
    modify (startUpdate held)
    MotionMaster.updateMotion (n + 4) (answer plan (perform plan n)) held goesOn selects

def runAll (plan : Nat → List Op) (n : Nat) (cmds : List Command) : Motion Unit :=
  cmds.forM (Command.run plan n)

end MotionMaster

/-!
## The invariant

What holds of a motion master at each point where a generator may call back.
-/

namespace MotionMaster

variable {s s' s'' : MotionMaster} {i j slot : MovementSlot} {g m : MovementGenerator}
  {extra : List MovementGenerator}

def Occupied (s : MotionMaster) (i : MovementSlot) : Prop := s.impl i ≠ none ∨ i ∈ s.replaced

structure Shape (s : MotionMaster) : Prop where
  low : -1 ≤ s.top
  bound : ∀ i, s.Occupied i → (i.val : Int) ≤ s.top
  atTop : 0 ≤ s.top → ∃ i : MovementSlot, (i.val : Int) = s.top ∧ s.Occupied i
  free : ∀ i ∈ s.replaced, s.impl i = none
  static : ∀ i, s.impl i = some .idle → i = MOTION_SLOT_IDLE
  ready : ∀ i, s.impl i ≠ none → s.needInit i = false → s.inited i = true

def slotCount (impl : MovementSlot → Option MovementGenerator) (g : MovementGenerator) : Nat :=
  [impl 0, impl 1, impl 2].count (some g)

/-- `extra` are the generators that the running function holds. -/
structure Accounted (extra : List MovementGenerator) (s : MotionMaster) : Prop where
  once : ∀ k, slotCount s.impl (.made k) + (s.expList.getD []).count (.made k) +
    (s.replacing.map Prod.snd).count (.made k) + s.dying.count (.made k) + s.deleted.count (.made k) +
    extra.count (.made k) = if k < s.made then 1 else 0
  finalized : ∀ g, s.finalized.count g = s.deleted.count g + s.dying.count g
  static : .idle ∉ s.finalized

structure Good (s : MotionMaster) : Prop where
  shape : s.Shape
  accounted : s.Accounted []

def TopReal (s : MotionMaster) : Prop := ∃ i : MovementSlot, (i.val : Int) = s.top ∧ s.impl i ≠ none

/-- The generator on top is initialized, or the update that is running will see to it. -/
def Due (s : MotionMaster) : Prop :=
  (∀ i : MovementSlot, (i.val : Int) = s.top → s.inited i = true) ∨
    (s.update = true ∧ s.expList ≠ none)

structure Frame (s s' : MotionMaster) : Prop where
  replacing : s'.replacing = s.replacing
  dying : s'.dying = s.dying
  update : s'.update = s.update
  expList : s.update = false → s'.expList = s.expList
  real : s.TopReal → s'.TopReal
  idle : s.impl MOTION_SLOT_IDLE ≠ none → s'.impl MOTION_SLOT_IDLE ≠ none

namespace Frame

theorem refl (s : MotionMaster) : Frame s s := ⟨rfl, rfl, rfl, fun _ => rfl, id, id⟩

theorem trans (h : Frame s s') (h' : Frame s' s'') : Frame s s'' where
  replacing := h'.replacing.trans h.replacing
  dying := h'.dying.trans h.dying
  update := h'.update.trans h.update
  expList := fun hu => (h'.expList (h.update.trans hu)).trans (h.expList hu)
  real := h'.real ∘ h.real
  idle := h'.idle ∘ h.idle

theorem replaced (h : Frame s s') : s'.replaced = s.replaced := congrArg (List.map Prod.fst) h.replacing

theorem of_eq (himpl : s'.impl = s.impl) (htop : s'.top = s.top) (hrep : s'.replacing = s.replacing)
    (hdying : s'.dying = s.dying) (hupdate : s'.update = s.update)
    (hexp : s.update = false → s'.expList = s.expList) : Frame s s' where
  replacing := hrep
  dying := hdying
  update := hupdate
  expList := hexp
  real := by
    rintro ⟨i, hi, hne⟩
    exact ⟨i, by rw [htop, hi], by rw [himpl]; exact hne⟩
  idle := by
    rw [himpl]
    exact id

end Frame

theorem Occupied.congr (himpl : s'.impl = s.impl) (hrep : s'.replacing = s.replacing) :
    s'.Occupied i ↔ s.Occupied i := by
  rw [Occupied, Occupied, himpl, replaced, replaced, hrep]

theorem Shape.congr (h : s.Shape) (himpl : s'.impl = s.impl) (htop : s'.top = s.top)
    (hneed : s'.needInit = s.needInit) (hin : s'.inited = s.inited)
    (hrep : s'.replacing = s.replacing) : s'.Shape where
  low := by
    rw [htop]
    exact h.low
  bound := by
    intro i hi
    rw [htop]
    exact h.bound i ((Occupied.congr himpl hrep).mp hi)
  atTop := by
    rw [htop]
    intro ht
    obtain ⟨i, hi, ho⟩ := h.atTop ht
    exact ⟨i, hi, (Occupied.congr himpl hrep).mpr ho⟩
  free := by
    rw [himpl, replaced, hrep]
    exact h.free
  static := by
    rw [himpl]
    exact h.static
  ready := by
    rw [himpl, hneed, hin]
    exact h.ready

theorem Due.congr (h : s.Due) (htop : s'.top = s.top) (hin : s'.inited = s.inited)
    (hupdate : s'.update = s.update) (hexp : s.expList ≠ none → s'.expList ≠ none) : s'.Due := by
  rcases h with h | ⟨hu, he⟩
  · left
    rw [htop, hin]
    exact h
  · exact .inr ⟨hupdate.trans hu, hexp he⟩

theorem Shape.top_le (h : s.Shape) : s.top ≤ 2 := by
  by_cases ht : 0 ≤ s.top
  · obtain ⟨i, hi, -⟩ := h.atTop ht
    omega
  · omega

theorem Shape.nonneg (h : s.Shape) (hi : s.Occupied i) : 0 ≤ s.top := by
  have := h.bound i hi
  omega

theorem TopReal.occupied (h : s.TopReal) : ∃ i : MovementSlot, (i.val : Int) = s.top ∧ s.Occupied i := by
  obtain ⟨i, hi, hne⟩ := h
  exact ⟨i, hi, .inl hne⟩

theorem TopReal.nonneg (h : s.TopReal) : 0 ≤ s.top := by
  obtain ⟨i, hi, -⟩ := h
  omega

theorem TopReal.not_empty (h : s.TopReal) : s.empty = false := by
  have := h.nonneg
  simp only [empty, decide_eq_false_iff_not]
  omega

theorem Shape.topReal (h : s.Shape) (ht : 0 ≤ s.top)
    (hrep : ∀ i ∈ s.replaced, (i.val : Int) < s.top) : s.TopReal := by
  obtain ⟨i, hi, ho⟩ := h.atTop ht
  refine ⟨i, hi, ?_⟩
  rcases ho with hne | hin
  · exact hne
  · have := hrep i hin
    omega

def CanPop (s : MotionMaster) : Prop :=
  ∃ j : MovementSlot, s.impl j ≠ none ∧ (j.val : Int) < s.top ∧ ∀ i ∈ s.replaced, i < j

theorem CanPop.topReal (h : s.CanPop) (hs : s.Shape) : s.TopReal := by
  obtain ⟨j, -, hlt, hrep⟩ := h
  refine hs.topReal (by omega) fun i hi => ?_
  have hij : i.val < j.val := hrep i hi
  omega

theorem slotCount_update (impl : MovementSlot → Option MovementGenerator) (i : MovementSlot)
    (v : Option MovementGenerator) (g : MovementGenerator) :
    slotCount (Function.update impl i v) g + (if impl i = some g then 1 else 0) =
      slotCount impl g + if v = some g then 1 else 0 := by
  have hb : ∀ a : Option MovementGenerator, (a == some g) = decide (a = some g) :=
    fun a => beq_eq_decide a (some g)
  have hi : ∀ i : MovementSlot, i = 0 ∨ i = 1 ∨ i = 2 := by decide
  rcases hi i with rfl | rfl | rfl <;>
    · simp only [slotCount, List.count_cons, List.count_nil, Function.update, hb, decide_eq_true_eq]
      simp
      omega

theorem Accounted.congr (h : s.Accounted extra) (himpl : s'.impl = s.impl)
    (hexp : s'.expList = s.expList) (hrep : s'.replacing = s.replacing) (hdying : s'.dying = s.dying)
    (hdel : s'.deleted = s.deleted) (hfin : s'.finalized = s.finalized) (hmade : s'.made = s.made) :
    s'.Accounted extra where
  once := by
    rw [himpl, hexp, hrep, hdying, hdel, hmade]
    exact h.once
  finalized := by
    rw [hdying, hdel, hfin]
    exact h.finalized
  static := by
    rw [hfin]
    exact h.static

theorem Accounted.of_idle (h : s.Accounted [.idle]) : s.Accounted [] :=
  ⟨fun k => by simpa using h.once k, h.finalized, h.static⟩

theorem Accounted.to_idle (h : s.Accounted []) : s.Accounted [.idle] :=
  ⟨fun k => by simpa using h.once k, h.finalized, h.static⟩

end MotionMaster

end SkyfireBG
