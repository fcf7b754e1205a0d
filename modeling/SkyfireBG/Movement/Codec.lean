import SkyfireBG.Lib.Wire
import SkyfireBG.Packets.PackGuid

/-!
# SkyfireBG.Movement.Codec

`MovementInfo`, how the session writes it and reads it.  Floats are words of 32 bits.
-/

namespace SkyfireBG

def MOVEMENTFLAG_FORWARD : UInt32 := 0x00000001
def MOVEMENTFLAG_BACKWARD : UInt32 := 0x00000002
def MOVEMENTFLAG_STRAFE_LEFT : UInt32 := 0x00000004
def MOVEMENTFLAG_STRAFE_RIGHT : UInt32 := 0x00000008
def MOVEMENTFLAG_LEFT : UInt32 := 0x00000010
def MOVEMENTFLAG_RIGHT : UInt32 := 0x00000020
def MOVEMENTFLAG_PITCH_UP : UInt32 := 0x00000040
def MOVEMENTFLAG_PITCH_DOWN : UInt32 := 0x00000080
def MOVEMENTFLAG_ONTRANSPORT : UInt32 := 0x00000200
def MOVEMENTFLAG_ROOT : UInt32 := 0x00000800
def MOVEMENTFLAG_JUMPING : UInt32 := 0x00001000
def MOVEMENTFLAG_SWIMMING : UInt32 := 0x00200000
def MOVEMENTFLAG_ASCENDING : UInt32 := 0x00400000
def MOVEMENTFLAG_DESCENDING : UInt32 := 0x00800000
def MOVEMENTFLAG_FLYING : UInt32 := 0x02000000
def MOVEMENTFLAG_SPLINE_ELEVATION : UInt32 := 0x04000000
def MOVEMENTFLAG_HOVER : UInt32 := 0x40000000

def MOVEMENTFLAG2_ALWAYS_ALLOW_PITCHING : UInt16 := 0x0020
def MOVEMENTFLAG2_INTERPOLATED_MOVEMENT : UInt16 := 0x0400
def MOVEMENTFLAG2_INTERPOLATED_TURNING : UInt16 := 0x0800

structure MovementInfo.Position where
  m_positionX : UInt32 := 0
  m_positionY : UInt32 := 0
  m_positionZ : UInt32 := 0
  orientation : UInt32 := 0
deriving DecidableEq, Repr

structure MovementInfo where
  guid : UInt64 := 0
  flags : UInt32 := 0
  flags2 : UInt16 := 0
  pos : MovementInfo.Position := {}
  time : UInt32 := 0
  t_guid : UInt64 := 0
  t_pos : MovementInfo.Position := {}
  t_time : UInt32 := 0
  t_time2 : UInt32 := 0
  /-- The byte of the signed number; -1 at first. -/
  t_seat : UInt8 := 255
  pitch : UInt32 := 0
  fallTime : UInt32 := 0
  j_zspeed : UInt32 := 0
  j_sinAngle : UInt32 := 0
  j_cosAngle : UInt32 := 0
  j_xyspeed : UInt32 := 0
  splineElevation : UInt32 := 0
deriving DecidableEq, Repr

def readPackGUID {σ : Type} (put : σ → UInt64 → σ) : WireReader σ := fun m bytes =>
  match bytes with
  | [] => none
  | guidmark :: bytes =>
    match unpackGUID guidmark.toNat 8 0 0 bytes with
    | none => none
    | some (guid, bytes) => some (put m (UInt64.ofNat guid), bytes)

/-! ## Fields -/

section Fields

variable {σ : Type}

def nextUInt8 (put : σ → UInt8 → σ) : WireReader σ := .number 1 fun m n => put m (UInt8.ofNat n)
def nextUInt16 (put : σ → UInt16 → σ) : WireReader σ := .number 2 fun m n => put m (UInt16.ofNat n)
def nextUInt32 (put : σ → UInt32 → σ) : WireReader σ := .number 4 fun m n => put m (UInt32.ofNat n)

end Fields

def writeUInt8 (x : UInt8) : List UInt8 := littleEndian 1 x.toNat
def writeUInt16 (x : UInt16) : List UInt8 := littleEndian 2 x.toNat
def writeUInt32 (x : UInt32) : List UInt8 := littleEndian 4 x.toNat

namespace MovementInfo

variable (mi : MovementInfo)

def hasMovementFlag (flag : UInt32) : Bool := mi.flags &&& flag != 0
def hasExtraMovementFlag (flag : UInt16) : Bool := mi.flags2 &&& flag != 0

def hasPitch : Bool :=
  mi.hasMovementFlag (MOVEMENTFLAG_SWIMMING ||| MOVEMENTFLAG_FLYING) ||
    mi.hasExtraMovementFlag MOVEMENTFLAG2_ALWAYS_ALLOW_PITCHING

/-- `>> PositionXYZOStream()`, which sets the position when all four words are read. -/
def readPos : WireReader MovementInfo := .all [
  nextUInt32 fun m x => { m with pos.m_positionX := x },
  nextUInt32 fun m y => { m with pos.m_positionY := y },
  nextUInt32 fun m z => { m with pos.m_positionZ := z },
  nextUInt32 fun m o => { m with pos.orientation := o }]

def readTPos : WireReader MovementInfo := .all [
  nextUInt32 fun m x => { m with t_pos.m_positionX := x },
  nextUInt32 fun m y => { m with t_pos.m_positionY := y },
  nextUInt32 fun m z => { m with t_pos.m_positionZ := z },
  nextUInt32 fun m o => { m with t_pos.orientation := o }]

def readTransport : WireReader MovementInfo := .all [
  readPackGUID fun m guid => { m with t_guid := guid },
  readTPos,
  nextUInt32 fun m t => { m with t_time := t },
  nextUInt8 fun m seat => { m with t_seat := seat },
  .when (hasExtraMovementFlag · MOVEMENTFLAG2_INTERPOLATED_MOVEMENT)
    (nextUInt32 fun m t => { m with t_time2 := t })]

def readFall : WireReader MovementInfo := .all [
  nextUInt32 fun m t => { m with fallTime := t },
  nextUInt32 fun m v => { m with j_zspeed := v },
  .when (hasMovementFlag · MOVEMENTFLAG_JUMPING) (.all [
    nextUInt32 fun m v => { m with j_sinAngle := v },
    nextUInt32 fun m v => { m with j_cosAngle := v },
    nextUInt32 fun m v => { m with j_xyspeed := v }])]

/-- The reads of `ReadMovementInfo`. -/
def readFields : WireReader MovementInfo := .all [
  nextUInt32 fun m f => { m with flags := f },
  nextUInt16 fun m f => { m with flags2 := f },
  nextUInt32 fun m t => { m with time := t },
  readPos,
  .when (hasMovementFlag · MOVEMENTFLAG_ONTRANSPORT) readTransport,
  .when hasPitch (nextUInt32 fun m p => { m with pitch := p }),
  .when (hasExtraMovementFlag · MOVEMENTFLAG2_INTERPOLATED_TURNING) readFall,
  .when (hasMovementFlag · MOVEMENTFLAG_SPLINE_ELEVATION)
    (nextUInt32 fun m e => { m with splineElevation := e })]

def hasFlag (flags flag : UInt32) : Bool := flags &&& flag != 0

/-- When both flags are set, `drop` is cleared. -/
def clearBoth (a b drop flags : UInt32) : UInt32 :=
  if hasFlag flags a && hasFlag flags b then flags &&& ~~~drop else flags

/-- What `ReadMovementInfo` does to the flags at its end. -/
def sanitise (flags : UInt32) : UInt32 :=
  let flags := if hasFlag flags MOVEMENTFLAG_ROOT then flags &&& ~~~MOVEMENTFLAG_ROOT else flags
  let flags := clearBoth MOVEMENTFLAG_HOVER MOVEMENTFLAG_JUMPING MOVEMENTFLAG_JUMPING flags
  let flags := clearBoth MOVEMENTFLAG_ASCENDING MOVEMENTFLAG_DESCENDING
    (MOVEMENTFLAG_ASCENDING ||| MOVEMENTFLAG_DESCENDING) flags
  let flags := clearBoth MOVEMENTFLAG_LEFT MOVEMENTFLAG_RIGHT
    (MOVEMENTFLAG_LEFT ||| MOVEMENTFLAG_RIGHT) flags
  let flags := clearBoth MOVEMENTFLAG_STRAFE_LEFT MOVEMENTFLAG_STRAFE_RIGHT
    (MOVEMENTFLAG_STRAFE_LEFT ||| MOVEMENTFLAG_STRAFE_RIGHT) flags
  let flags := clearBoth MOVEMENTFLAG_PITCH_UP MOVEMENTFLAG_PITCH_DOWN
    (MOVEMENTFLAG_PITCH_UP ||| MOVEMENTFLAG_PITCH_DOWN) flags
  clearBoth MOVEMENTFLAG_FORWARD MOVEMENTFLAG_BACKWARD
    (MOVEMENTFLAG_FORWARD ||| MOVEMENTFLAG_BACKWARD) flags

def sanitised : MovementInfo := { mi with flags := sanitise mi.flags }

/-- `none` is an exception of the buffer. -/
def readMovementInfo : WireReader MovementInfo := fun m bytes =>
  (readFields m bytes).map fun (m, bytes) => (m.sanitised, bytes)

def readMover : WireReader MovementInfo :=
  .all [readPackGUID fun m guid => { m with guid := guid }, readMovementInfo]

def writePos (p : Position) : List UInt8 :=
  writeUInt32 p.m_positionX ++ (writeUInt32 p.m_positionY ++
    (writeUInt32 p.m_positionZ ++ writeUInt32 p.orientation))

def writeTransport : List UInt8 :=
  appendPackGUID mi.t_guid ++ (writePos mi.t_pos ++ (writeUInt32 mi.t_time ++
    (writeUInt8 mi.t_seat ++
      if mi.hasExtraMovementFlag MOVEMENTFLAG2_INTERPOLATED_MOVEMENT then writeUInt32 mi.t_time2
      else [])))

def writeFall : List UInt8 :=
  writeUInt32 mi.fallTime ++ (writeUInt32 mi.j_zspeed ++
    if mi.hasMovementFlag MOVEMENTFLAG_JUMPING then
      writeUInt32 mi.j_sinAngle ++ (writeUInt32 mi.j_cosAngle ++ writeUInt32 mi.j_xyspeed)
    else [])

/-- What `WriteMovementInfo` writes after the guid. -/
def writeFields : List UInt8 :=
  writeUInt32 mi.flags ++ (writeUInt16 mi.flags2 ++ (writeUInt32 mi.time ++ (writePos mi.pos ++
    ((if mi.hasMovementFlag MOVEMENTFLAG_ONTRANSPORT then mi.writeTransport else []) ++
    ((if mi.hasPitch then writeUInt32 mi.pitch else []) ++
    ((if mi.hasExtraMovementFlag MOVEMENTFLAG2_INTERPOLATED_TURNING then mi.writeFall else []) ++
    if mi.hasMovementFlag MOVEMENTFLAG_SPLINE_ELEVATION then writeUInt32 mi.splineElevation
    else []))))))

def writeMovementInfo : List UInt8 := appendPackGUID mi.guid ++ mi.writeFields

end MovementInfo

/-!
## The codec

What is read of a `MovementInfo` that was written.
-/

theorem reads_packGUID {σ : Type} {P : σ → σ → Prop} {put : σ → UInt64 → σ} (get : σ → UInt64) :
    Reads P (readPackGUID put) (fun x => appendPackGUID (get x)) (fun x m => put m (get x)) := by
  intro x m rest _
  obtain ⟨mark, bytes, henc, hread⟩ := unpackGUID_appendPackGUID (get x) rest
  simp only [henc, readPackGUID, List.cons_append, hread, UInt64.ofNat_toNat]

namespace MovementInfo

/-! ## The flags -/

def contradictory : List (UInt32 × UInt32) := [
  (MOVEMENTFLAG_FORWARD, MOVEMENTFLAG_BACKWARD), (MOVEMENTFLAG_LEFT, MOVEMENTFLAG_RIGHT),
  (MOVEMENTFLAG_STRAFE_LEFT, MOVEMENTFLAG_STRAFE_RIGHT),
  (MOVEMENTFLAG_PITCH_UP, MOVEMENTFLAG_PITCH_DOWN),
  (MOVEMENTFLAG_ASCENDING, MOVEMENTFLAG_DESCENDING), (MOVEMENTFLAG_HOVER, MOVEMENTFLAG_JUMPING)]

def clearable : UInt32 :=
  MOVEMENTFLAG_ROOT ||| MOVEMENTFLAG_JUMPING ||| MOVEMENTFLAG_ASCENDING |||
    MOVEMENTFLAG_DESCENDING ||| MOVEMENTFLAG_LEFT ||| MOVEMENTFLAG_RIGHT |||
    MOVEMENTFLAG_STRAFE_LEFT ||| MOVEMENTFLAG_STRAFE_RIGHT ||| MOVEMENTFLAG_PITCH_UP |||
    MOVEMENTFLAG_PITCH_DOWN ||| MOVEMENTFLAG_FORWARD ||| MOVEMENTFLAG_BACKWARD

def NotBoth (p : UInt32 × UInt32) (flags : UInt32) : Prop :=
  (hasFlag flags p.1 && hasFlag flags p.2) = false

structure Clean (flags : UInt32) : Prop where
  root : hasFlag flags MOVEMENTFLAG_ROOT = false
  pairs : ∀ p ∈ contradictory, NotBoth p flags

/-- `flags'` is `flags` less some bits that may be cleared. -/
structure Cleared (flags flags' : UInt32) : Prop where
  sub : flags' &&& flags = flags'
  kept : flags' &&& ~~~clearable = flags &&& ~~~clearable

variable {f g h a b drop : UInt32} {p : UInt32 × UInt32}

theorem Cleared.refl (f : UInt32) : Cleared f f := ⟨UInt32.and_self, rfl⟩

theorem Cleared.trans (hfg : Cleared f g) (hgh : Cleared g h) : Cleared f h where
  sub := by rw [← hgh.sub, UInt32.and_assoc, hfg.sub]
  kept := hgh.kept.trans hfg.kept

theorem cleared_drop (hd : ~~~drop &&& ~~~clearable = ~~~clearable) (f : UInt32) :
    Cleared f (f &&& ~~~drop) where
  sub := by rw [UInt32.and_comm, ← UInt32.and_assoc, UInt32.and_self]
  kept := by rw [UInt32.and_assoc, hd]

theorem cleared_clearBoth (hd : ~~~drop &&& ~~~clearable = ~~~clearable) (f : UInt32) :
    Cleared f (clearBoth a b drop f) := by
  rw [clearBoth]
  split
  · exact cleared_drop hd f
  · exact Cleared.refl f

theorem hasFlag_eq_false : hasFlag f a = false ↔ f &&& a = 0 := by
  simp [hasFlag]

theorem hasFlag_sub (hsub : g &&& f = g) (hf : hasFlag f a = false) : hasFlag g a = false := by
  rw [hasFlag_eq_false] at hf ⊢
  rw [← hsub, UInt32.and_assoc, hf, UInt32.and_zero]

theorem hasFlag_drop (hd : drop &&& b = b) (f : UInt32) : hasFlag (f &&& ~~~drop) b = false := by
  rw [hasFlag_eq_false, ← hd, ← UInt32.and_assoc, UInt32.and_assoc f, UInt32.not_and_self,
    UInt32.and_zero, UInt32.zero_and]

theorem Cleared.notBoth (hc : Cleared f g) (hf : NotBoth p f) : NotBoth p g := by
  rw [NotBoth, Bool.and_eq_false_iff] at hf ⊢
  exact hf.imp (hasFlag_sub hc.sub) (hasFlag_sub hc.sub)

theorem notBoth_clearBoth (hd : drop &&& b = b) (f : UInt32) :
    NotBoth (a, b) (clearBoth a b drop f) := by
  rw [clearBoth]
  split
  · rw [NotBoth, Bool.and_eq_false_iff]
    exact .inr (hasFlag_drop hd f)
  next hne => exact Bool.eq_false_iff.mpr hne

theorem clearBoth_of_notBoth (hf : NotBoth (a, b) f) : clearBoth a b drop f = f := by
  rw [clearBoth, if_neg (Bool.eq_false_iff.mp hf)]

/-- The flags after the test for `ROOT`. -/
def unrooted (flags : UInt32) : UInt32 :=
  if hasFlag flags MOVEMENTFLAG_ROOT then flags &&& ~~~MOVEMENTFLAG_ROOT else flags

theorem cleared_unrooted (f : UInt32) : Cleared f (unrooted f) := by
  rw [unrooted]
  split
  · exact cleared_drop (by decide) f
  · exact Cleared.refl f

theorem hasFlag_unrooted (f : UInt32) : hasFlag (unrooted f) MOVEMENTFLAG_ROOT = false := by
  rw [unrooted]
  split
  · exact hasFlag_drop (by decide) f
  next hne => exact Bool.eq_false_iff.mpr hne

/-- What `sanitise` clears, and that each pair stays clear in the steps after its own. -/
theorem sanitise_spec (f : UInt32) : Cleared f (sanitise f) ∧ Clean (sanitise f) := by
  have h₀ := cleared_unrooted f
  have h₁ : ∀ g, Cleared g
      (clearBoth MOVEMENTFLAG_HOVER MOVEMENTFLAG_JUMPING MOVEMENTFLAG_JUMPING g) :=
    cleared_clearBoth (by decide)
  have h₂ : ∀ g, Cleared g (clearBoth MOVEMENTFLAG_ASCENDING MOVEMENTFLAG_DESCENDING
      (MOVEMENTFLAG_ASCENDING ||| MOVEMENTFLAG_DESCENDING) g) := cleared_clearBoth (by decide)
  have h₃ : ∀ g, Cleared g (clearBoth MOVEMENTFLAG_LEFT MOVEMENTFLAG_RIGHT
      (MOVEMENTFLAG_LEFT ||| MOVEMENTFLAG_RIGHT) g) := cleared_clearBoth (by decide)
  have h₄ : ∀ g, Cleared g (clearBoth MOVEMENTFLAG_STRAFE_LEFT MOVEMENTFLAG_STRAFE_RIGHT
      (MOVEMENTFLAG_STRAFE_LEFT ||| MOVEMENTFLAG_STRAFE_RIGHT) g) := cleared_clearBoth (by decide)
  have h₅ : ∀ g, Cleared g (clearBoth MOVEMENTFLAG_PITCH_UP MOVEMENTFLAG_PITCH_DOWN
      (MOVEMENTFLAG_PITCH_UP ||| MOVEMENTFLAG_PITCH_DOWN) g) := cleared_clearBoth (by decide)
  have h₆ : ∀ g, Cleared g (clearBoth MOVEMENTFLAG_FORWARD MOVEMENTFLAG_BACKWARD
      (MOVEMENTFLAG_FORWARD ||| MOVEMENTFLAG_BACKWARD) g) := cleared_clearBoth (by decide)
  -- what follows each step
  have t₅ := fun g => h₆ g
  have t₄ := fun g => (h₅ g).trans (t₅ _)
  have t₃ := fun g => (h₄ g).trans (t₄ _)
  have t₂ := fun g => (h₃ g).trans (t₃ _)
  have t₁ := fun g => (h₂ g).trans (t₂ _)
  have t₀ := fun g => (h₁ g).trans (t₁ _)
  have hall := h₀.trans (t₀ _)
  refine ⟨hall, ⟨hasFlag_sub (t₀ _).sub (hasFlag_unrooted f), fun p hp => ?_⟩⟩
  simp only [contradictory, List.mem_cons, List.not_mem_nil, or_false] at hp
  rcases hp with rfl | rfl | rfl | rfl | rfl | rfl
  · exact notBoth_clearBoth (by decide) _
  · exact (t₃ _).notBoth (notBoth_clearBoth (by decide) _)
  · exact (t₄ _).notBoth (notBoth_clearBoth (by decide) _)
  · exact (t₅ _).notBoth (notBoth_clearBoth (by decide) _)
  · exact (t₂ _).notBoth (notBoth_clearBoth (by decide) _)
  · exact (t₁ _).notBoth (notBoth_clearBoth (by decide) _)

theorem sanitise_of_clean (hf : Clean f) : sanitise f = f := by
  have hp := hf.pairs
  simp only [contradictory, List.forall_mem_cons] at hp
  obtain ⟨hmove, hturn, hstrafe, hpitch, hascend, hhover, -⟩ := hp
  rw [sanitise, hf.root]
  simp only [Bool.false_eq_true, if_false]
  rw [clearBoth_of_notBoth hhover, clearBoth_of_notBoth hascend, clearBoth_of_notBoth hturn,
    clearBoth_of_notBoth hstrafe, clearBoth_of_notBoth hpitch, clearBoth_of_notBoth hmove]

/-! ## The round trip -/

section Fields

variable {σ : Type} {P : σ → σ → Prop}

theorem reads_uint8 {put : σ → UInt8 → σ} (get : σ → UInt8) :
    Reads P (nextUInt8 put) (fun x => writeUInt8 (get x)) (fun x m => put m (get x)) := by
  have hread := Reads.number (P := P) 1 (fun m n => put m (UInt8.ofNat n))
    fun x => (get x).toNat_lt
  simpa only [nextUInt8, writeUInt8, UInt8.ofNat_toNat] using hread

theorem reads_uint16 {put : σ → UInt16 → σ} (get : σ → UInt16) :
    Reads P (nextUInt16 put) (fun x => writeUInt16 (get x)) (fun x m => put m (get x)) := by
  have hread := Reads.number (P := P) 2 (fun m n => put m (UInt16.ofNat n))
    fun x => (get x).toNat_lt
  simpa only [nextUInt16, writeUInt16, UInt16.ofNat_toNat] using hread

theorem reads_uint32 {put : σ → UInt32 → σ} (get : σ → UInt32) :
    Reads P (nextUInt32 put) (fun x => writeUInt32 (get x)) (fun x m => put m (get x)) := by
  have hread := Reads.number (P := P) 4 (fun m n => put m (UInt32.ofNat n))
    fun x => (get x).toNat_lt
  simpa only [nextUInt32, writeUInt32, UInt32.ofNat_toNat] using hread

end Fields

def SameFlags (x m : MovementInfo) : Prop := m.flags = x.flags ∧ m.flags2 = x.flags2

def ontoTransport (x m : MovementInfo) : MovementInfo :=
  let m := { m with t_guid := x.t_guid, t_pos := x.t_pos, t_time := x.t_time, t_seat := x.t_seat }
  if x.hasExtraMovementFlag MOVEMENTFLAG2_INTERPOLATED_MOVEMENT then { m with t_time2 := x.t_time2 }
  else m

def ontoFall (x m : MovementInfo) : MovementInfo :=
  let m := { m with fallTime := x.fallTime, j_zspeed := x.j_zspeed }
  if x.hasMovementFlag MOVEMENTFLAG_JUMPING then
    { m with j_sinAngle := x.j_sinAngle, j_cosAngle := x.j_cosAngle, j_xyspeed := x.j_xyspeed }
  else m

/-- The blocks of `x` that its flags select, over `m`. -/
def ontoBlocks (x m : MovementInfo) : MovementInfo :=
  let m := if x.hasMovementFlag MOVEMENTFLAG_ONTRANSPORT then x.ontoTransport m else m
  let m := if x.hasPitch then { m with pitch := x.pitch } else m
  let m := if x.hasExtraMovementFlag MOVEMENTFLAG2_INTERPOLATED_TURNING then x.ontoFall m else m
  if x.hasMovementFlag MOVEMENTFLAG_SPLINE_ELEVATION then
    { m with splineElevation := x.splineElevation }
  else m

def ontoFields (x m : MovementInfo) : MovementInfo :=
  x.ontoBlocks { m with flags := x.flags, flags2 := x.flags2, time := x.time, pos := x.pos }

/-- What is read of `x` over `m`. -/
def onto (x m : MovementInfo) : MovementInfo := x.ontoFields { m with guid := x.guid }

theorem ontoTransport_self (x : MovementInfo) : x.ontoTransport x = x := ite_self x

theorem ontoFall_self (x : MovementInfo) : x.ontoFall x = x := ite_self x

theorem onto_self (x : MovementInfo) : x.onto x = x := by
  have hfields : x.onto x = x.ontoBlocks x := rfl
  rw [hfields]
  simp only [ontoBlocks, ontoTransport_self, ontoFall_self, ite_self]

theorem reads_pos :
    Reads SameFlags readPos (fun x => writePos x.pos) (fun x m => { m with pos := x.pos }) := by
  have h : Reads SameFlags readPos _ _ :=
    .keep (reads_uint32 fun x => x.pos.m_positionX) (fun _ _ h => h) <|
    .keep (reads_uint32 fun x => x.pos.m_positionY) (fun _ _ h => h) <|
    .keep (reads_uint32 fun x => x.pos.m_positionZ) (fun _ _ h => h) <|
    .one (reads_uint32 fun x => x.pos.orientation)
  exact h

theorem reads_tPos :
    Reads SameFlags readTPos (fun x => writePos x.t_pos)
      (fun x m => { m with t_pos := x.t_pos }) := by
  have h : Reads SameFlags readTPos _ _ :=
    .keep (reads_uint32 fun x => x.t_pos.m_positionX) (fun _ _ h => h) <|
    .keep (reads_uint32 fun x => x.t_pos.m_positionY) (fun _ _ h => h) <|
    .keep (reads_uint32 fun x => x.t_pos.m_positionZ) (fun _ _ h => h) <|
    .one (reads_uint32 fun x => x.t_pos.orientation)
  exact h

theorem SameFlags.hasMovementFlag {flag : UInt32} (x m : MovementInfo) (h : SameFlags x m) :
    m.hasMovementFlag flag = x.hasMovementFlag flag := by
  rw [MovementInfo.hasMovementFlag, h.1, MovementInfo.hasMovementFlag]

theorem SameFlags.hasExtraMovementFlag {flag : UInt16} (x m : MovementInfo) (h : SameFlags x m) :
    m.hasExtraMovementFlag flag = x.hasExtraMovementFlag flag := by
  rw [MovementInfo.hasExtraMovementFlag, h.2, MovementInfo.hasExtraMovementFlag]

theorem SameFlags.hasPitch (x m : MovementInfo) (h : SameFlags x m) : m.hasPitch = x.hasPitch := by
  rw [MovementInfo.hasPitch, h.hasMovementFlag, h.hasExtraMovementFlag, MovementInfo.hasPitch]

theorem reads_transport : Reads SameFlags readTransport writeTransport ontoTransport := by
  have h : Reads SameFlags readTransport _ _ :=
    .keep (reads_packGUID t_guid) (fun _ _ h => h) <|
    .keep reads_tPos (fun _ _ h => h) <|
    .keep (reads_uint32 t_time) (fun _ _ h => h) <|
    .keep (reads_uint8 t_seat) (fun _ _ h => h) <|
    .one ((reads_uint32 t_time2).when SameFlags.hasExtraMovementFlag)
  exact h

theorem reads_fall : Reads SameFlags readFall writeFall ontoFall := by
  have h : Reads SameFlags readFall _ _ :=
    .keep (reads_uint32 fallTime) (fun _ _ h => h) <|
    .keep (reads_uint32 j_zspeed) (fun _ _ h => h) <|
    .one <| .when SameFlags.hasMovementFlag <|
      .keep (reads_uint32 j_sinAngle) (fun _ _ h => h) <|
      .keep (reads_uint32 j_cosAngle) (fun _ _ h => h) <|
      .one (reads_uint32 j_xyspeed)
  exact h

theorem ontoTransport_flags {x m : MovementInfo} (h : SameFlags x m) :
    SameFlags x (x.ontoTransport m) := by
  rw [ontoTransport]
  split <;> exact h

theorem ontoFall_flags {x m : MovementInfo} (h : SameFlags x m) : SameFlags x (x.ontoFall m) := by
  rw [ontoFall]
  split <;> exact h

theorem sameFlags_when {c : MovementInfo → Bool} {f : MovementInfo → MovementInfo → MovementInfo}
    (ho : ∀ x m, SameFlags x m → SameFlags x (f x m)) (x m : MovementInfo)
    (h : SameFlags x m) : SameFlags x (if c x then f x m else m) := by
  split
  · exact ho x m h
  · exact h

theorem reads_fields : Reads (fun _ _ => True) readFields writeFields ontoFields := by
  have h : Reads (fun _ _ => True) readFields _ _ :=
    .cons (Q := fun x m => m.flags = x.flags) (reads_uint32 flags) (fun _ _ _ => rfl) <|
    .cons (Q := SameFlags) (reads_uint16 flags2) (fun _ _ h => ⟨h, rfl⟩) <|
    .keep (reads_uint32 time) (fun _ _ h => h) <|
    .keep reads_pos (fun _ _ h => h) <|
    .keep (reads_transport.when SameFlags.hasMovementFlag)
      (sameFlags_when fun _ _ => ontoTransport_flags) <|
    .keep ((reads_uint32 pitch).when SameFlags.hasPitch) (sameFlags_when fun _ _ h => h) <|
    .keep (reads_fall.when SameFlags.hasExtraMovementFlag)
      (sameFlags_when fun _ _ => ontoFall_flags) <|
    .one ((reads_uint32 splineElevation).when SameFlags.hasMovementFlag)
  exact h

theorem keeps_packGUID {σ α : Type} {view : σ → α} {put : σ → UInt64 → σ}
    (h : ∀ m g, view (put m g) = view m) : Keeps view (readPackGUID put) := by
  intro m bytes m' rest hr
  cases bytes with
  | nil => cases hr
  | cons guidmark bytes =>
    simp only [readPackGUID] at hr
    split at hr
    · cases hr
    · cases hr
      exact h _ _

def flagsRead (bytes : List UInt8) : UInt32 := UInt32.ofNat (ofLittleEndian (bytes.take 4))

theorem keeps_transport : Keeps flags readTransport :=
  .cons (keeps_packGUID fun _ _ => rfl) <|
  .cons (.cons (.number fun _ _ => rfl) <| .cons (.number fun _ _ => rfl) <|
    .cons (.number fun _ _ => rfl) <| .cons (.number fun _ _ => rfl) .nil) <|
  .cons (.number fun _ _ => rfl) <| .cons (.number fun _ _ => rfl) <|
  .cons (.when (.number fun _ _ => rfl)) .nil

theorem keeps_fall : Keeps flags readFall :=
  .cons (.number fun _ _ => rfl) <| .cons (.number fun _ _ => rfl) <|
  .cons (.when <| .cons (.number fun _ _ => rfl) <| .cons (.number fun _ _ => rfl) <|
    .cons (.number fun _ _ => rfl) .nil) .nil

theorem keeps_pos : Keeps flags readPos :=
  .cons (.number fun _ _ => rfl) <| .cons (.number fun _ _ => rfl) <|
  .cons (.number fun _ _ => rfl) <| .cons (.number fun _ _ => rfl) .nil

theorem flags_readFields {m m' : MovementInfo} {bytes rest : List UInt8}
    (h : readFields m bytes = some (m', rest)) : m'.flags = flagsRead bytes := by
  rw [readFields, WireReader.all] at h
  split at h
  · cases h
  next m₁ bytes₁ h₁ =>
    have hkept : m'.flags = m₁.flags :=
      Keeps.view_eq flags h <|
        .cons (.number fun _ _ => rfl) <| .cons (.number fun _ _ => rfl) <| .cons keeps_pos <|
        .cons (.when keeps_transport) <| .cons (.when (.number fun _ _ => rfl)) <|
        .cons (.when keeps_fall) <| .cons (.when (.number fun _ _ => rfl)) .nil
    rw [hkept]
    rw [nextUInt32, WireReader.number] at h₁
    split at h₁
    · cases h₁
    · cases h₁
      rfl

theorem readMovementInfo_eq_some {m m' : MovementInfo} {bytes rest : List UInt8}
    (h : readMovementInfo m bytes = some (m', rest)) :
    ∃ m₁, readFields m bytes = some (m₁, rest) ∧ m' = m₁.sanitised := by
  rw [readMovementInfo, Option.map_eq_some_iff] at h
  obtain ⟨⟨m₁, rest₁⟩, hfields, heq⟩ := h
  cases heq
  exact ⟨m₁, hfields, rfl⟩

theorem readMover_write (x m : MovementInfo) (rest : List UInt8) :
    readMover m (x.writeMovementInfo ++ rest) = some ((x.onto m).sanitised, rest) := by
  have hinfo : Reads (fun _ _ => True) readMovementInfo writeFields
      (fun x m => (x.ontoFields m).sanitised) := by
    intro x m rest _
    rw [readMovementInfo, reads_fields x m rest trivial]
    rfl
  have hmover : Reads (fun _ _ => True) readMover _ _ :=
    .keep (reads_packGUID guid) (fun _ _ h => h) (.one hinfo)
  exact hmover x m rest trivial

theorem flags_onto (x m : MovementInfo) : (x.onto m).flags = x.flags := by
  have h₀ : SameFlags x { m with
      guid := x.guid, flags := x.flags, flags2 := x.flags2, time := x.time, pos := x.pos } :=
    ⟨rfl, rfl⟩
  have h₁ := sameFlags_when (c := (hasMovementFlag · MOVEMENTFLAG_ONTRANSPORT))
    (fun _ _ => ontoTransport_flags) x _ h₀
  have h₂ := sameFlags_when (c := hasPitch) (f := fun x m => { m with pitch := x.pitch })
    (fun _ _ h => h) x _ h₁
  have h₃ := sameFlags_when (c := (hasExtraMovementFlag · MOVEMENTFLAG2_INTERPOLATED_TURNING))
    (fun _ _ => ontoFall_flags) x _ h₂
  exact (sameFlags_when (c := (hasMovementFlag · MOVEMENTFLAG_SPLINE_ELEVATION))
    (f := fun x m => { m with splineElevation := x.splineElevation }) (fun _ _ h => h) x _ h₃).1

theorem readMover_clean {x : MovementInfo} (hx : Clean x.flags) (m : MovementInfo)
    (rest : List UInt8) : readMover m (x.writeMovementInfo ++ rest) = some (x.onto m, rest) := by
  rw [readMover_write]
  have hsan : (x.onto m).sanitised = x.onto m := by
    rw [sanitised, flags_onto, sanitise_of_clean hx, ← flags_onto x m]
  rw [hsan]

/-- The round trip: what was written is read back with the flags sanitised and nothing else is
consumed.  Whatever is read has clean flags, of which only bits that may be were cleared, and comes
back as it is when it is relayed. -/
theorem movementInfo_codec :
    (∀ x m rest, readMover m (writeMovementInfo x ++ rest) = some ((x.onto m).sanitised, rest)) ∧
    (∀ m bytes m' rest, readMovementInfo m bytes = some (m', rest) →
      Clean m'.flags ∧ Cleared (flagsRead bytes) m'.flags ∧ m'.onto m' = m' ∧
      ∀ x rest', readMover x (m'.writeMovementInfo ++ rest') = some (m'.onto x, rest')) := by
  refine ⟨readMover_write, fun m bytes m' rest h => ?_⟩
  obtain ⟨m₁, hfields, rfl⟩ := readMovementInfo_eq_some h
  obtain ⟨hcleared, hclean⟩ := sanitise_spec m₁.flags
  rw [flags_readFields hfields] at hcleared
  refine ⟨hclean, ?_, onto_self _, fun x rest' => readMover_clean hclean x rest'⟩
  rw [sanitised, flags_readFields hfields]
  exact hcleared

end MovementInfo

end SkyfireBG
