import SkyfireBG.Lib.OrdMap
import SkyfireBG.Packets.ByteBuffer

/-!
# SkyfireBG.Packets.Stream

The stream operators of `ByteBuffer`: integers, strings, blocks of bytes, and the containers, which
are written as a count and their elements.

* `Carries`               — a reader finds what a writer wrote.
* `WireType.carries`      — by induction on the type, every reader does.
* `readAll_writeAll`      — so does every sequence of reads.
-/

namespace SkyfireBG

abbrev CString := { bytes : List UInt8 // 0 ∉ bytes }

namespace CString

def empty : CString := ⟨[], List.not_mem_nil⟩

/-- `value += c` -/
def push (value : CString) (c : UInt8) (h : c ≠ 0) : CString :=
  ⟨value.val ++ [c], fun hmem => (List.mem_append.mp hmem).elim value.property fun h0 =>
    h (List.mem_singleton.mp h0).symm⟩

end CString

inductive WireType : Type → Type 1 where
  | integer (bytes : Nat) : WireType (BitVec (8 * bytes))
  | string : WireType CString
  | vector {T : Type} (elem : WireType T) : WireType (List T)
  | list {T : Type} (elem : WireType T) : WireType (List T)
  | map {K V : Type} [LinearOrder K] (key : WireType K) (value : WireType V) :
      WireType (OrdMap K V)

namespace ByteBuffer

/-- `append<T>(value)` of an integer of `len` bytes. -/
def appendValue (w len : Nat) (value : Nat) (b : ByteBuffer) : Except ByteBufferError ByteBuffer :=
  b.append w (littleEndian len value)

/-- `operator<<` of a string. -/
def writeString (w : Nat) (value : CString) (b : ByteBuffer) : Except ByteBufferError ByteBuffer := do
  let b ← if value.val.length ≠ 0 then b.append w value.val else .ok b
  b.appendValue w 1 0

/-- `operator<<` of a container with `size` elements. -/
def writeSeq {α : Type} (w : Nat)
    (write : α → ByteBuffer → Except ByteBufferError ByteBuffer) (v : List α) (b : ByteBuffer) :
    Except ByteBufferError ByteBuffer := do
  let b ← b.appendValue w 4 (v.length % 2 ^ 32)
  v.foldlM (fun b i => write i b) b

/-- The loop of `operator>>` of a string.  Every turn moves `rpos` by one, so that the buffer ends
before `fuel` does. -/
def readString (w : Nat) : Nat → CString → ByteBuffer → Except ByteBufferError (CString × ByteBuffer)
  | 0, value, b => .ok (value, b)
  | fuel + 1, value, b =>
    if b.rpos < b.size then do
      let (c, b) ← b.read w 1
      if h : UInt8.ofNat c = 0 then .ok (value, b)
      else readString w fuel (value.push (UInt8.ofNat c) h) b
    else .ok (value, b)

/-- `while (size--)`: read an element and add it to the container. -/
def readTimes {α β : Type} (read : ByteBuffer → Except ByteBufferError (α × ByteBuffer))
    (add : β → α → β) : Nat → β → ByteBuffer → Except ByteBufferError (β × ByteBuffer)
  | 0, v, b => .ok (v, b)
  | size + 1, v, b => do
    let (t, b) ← read b
    readTimes read add size (add v t) b

/-- `operator>>` of a container. -/
def readSeq {α β : Type} (w : Nat) (read : ByteBuffer → Except ByteBufferError (α × ByteBuffer))
    (empty : β) (add : β → α → β) (b : ByteBuffer) : Except ByteBufferError (β × ByteBuffer) := do
  let (size, b) ← b.read w 4
  readTimes read add size empty b

def writePair {α β : Type} (write : α → ByteBuffer → Except ByteBufferError ByteBuffer)
    (write' : β → ByteBuffer → Except ByteBufferError ByteBuffer) (i : α × β) (b : ByteBuffer) :
    Except ByteBufferError ByteBuffer := do
  let b ← write i.1 b
  write' i.2 b

def readPair {α β : Type} (read : ByteBuffer → Except ByteBufferError (α × ByteBuffer))
    (read' : ByteBuffer → Except ByteBufferError (β × ByteBuffer)) (b : ByteBuffer) :
    Except ByteBufferError ((α × β) × ByteBuffer) := do
  let (k, b) ← read b
  let (v, b) ← read' b
  .ok ((k, v), b)

end ByteBuffer

namespace WireType

open ByteBuffer

/-- `operator<<` -/
def write (w : Nat) {T : Type} : WireType T → T → ByteBuffer → Except ByteBufferError ByteBuffer
  | integer bytes, value, b => b.appendValue w bytes value.toNat
  | string, value, b => writeString w value b
  | vector elem, v, b => writeSeq w (elem.write w) v b
  | list elem, v, b => writeSeq w (elem.write w) v b
  | map key value, m, b => writeSeq w (writePair (key.write w) (value.write w)) m.entries b

/-- `operator>>` -/
def read (w : Nat) {T : Type} : WireType T → ByteBuffer → Except ByteBufferError (T × ByteBuffer)
  | integer bytes, b => do
    let (value, b) ← b.read w bytes
    .ok (BitVec.ofNat _ value, b)
  | string, b => readString w (b.size - b.rpos) .empty b
  | vector elem, b => readSeq w (elem.read w) [] (fun v t => v ++ [t]) b
  | list elem, b => readSeq w (elem.read w) [] (fun v t => v ++ [t]) b
  | map key value, b =>
    readSeq w (readPair (key.read w) (value.read w)) ∅ (fun m e => m.insertNew e.1 e.2) b

end WireType

inductive WireItem : Type 1 where
  | value {T : Type} (type : WireType T) (value : T)
  | block (bytes : List UInt8)

inductive WireShape : Type 1 where
  | value {T : Type} (type : WireType T)
  | block (len : Nat)

def WireItem.shape : WireItem → WireShape
  | value type _ => .value type
  | block bytes => .block bytes.length

namespace ByteBuffer

def writeItem (w : Nat) : WireItem → ByteBuffer → Except ByteBufferError ByteBuffer
  | .value type value, b => type.write w value b
  | .block bytes, b => b.append w bytes

def readItem (w : Nat) (b : ByteBuffer) : WireShape → Except ByteBufferError (WireItem × ByteBuffer)
  | .value type =>
    match type.read w b with
    | .error e => .error e
    | .ok (value, b) => .ok (.value type value, b)
  | .block len =>
    match b.readBytes w len with
    | .error e => .error e
    | .ok (bytes, b) => .ok (.block bytes, b)

def writeAll (w : Nat) : List WireItem → ByteBuffer → Except ByteBufferError ByteBuffer
  | [], b => .ok b
  | item :: items, b => do
    let b ← writeItem w item b
    writeAll w items b

def readAll (w : Nat) :
    List WireShape → ByteBuffer → Except ByteBufferError (List WireItem × ByteBuffer)
  | [], b => .ok ([], b)
  | shape :: shapes, b =>
    match readItem w b shape with
    | .error e => .error e
    | .ok (item, b) =>
      match readAll w shapes b with
      | .error e => .error e
      | .ok (items, b) => .ok (item :: items, b)

structure AtEnd (w : Nat) (b : ByteBuffer) : Prop where
  wpos_eq : b.wpos = b.size
  size_lt : b.size < 2 ^ w

/-- `b'` is `b` with `bytes` behind its end. -/
structure Extends (w : Nat) (b : ByteBuffer) (bytes : List UInt8) (b' : ByteBuffer) : Prop where
  atEnd : AtEnd w b'
  storage_eq : b'.storage = b.storage ++ bytes
  rpos_eq : b'.rpos = b.rpos

/-- Where `bytes` are next, whatever follows, the reader takes them as `x`. -/
def Finds.{u} {α : Type u} (w : Nat) (read : ByteBuffer → Except ByteBufferError (α × ByteBuffer))
    (bytes : List UInt8) (x : α) : Prop :=
  ∀ c tail, c.size < 2 ^ w → c.rpos ≤ c.size → c.rest = bytes ++ tail →
    read c = .ok (x, { c with rpos := c.rpos + bytes.length })

structure Written (w : Nat) (b : ByteBuffer) (bytes : List UInt8) (b' : ByteBuffer) : Prop where
  ne_nil : bytes ≠ []
  before : b.size < 10000000
  extend : Extends w b bytes b'

def Carries {α : Type} (w : Nat) (write : α → ByteBuffer → Except ByteBufferError ByteBuffer)
    (read : ByteBuffer → Except ByteBufferError (α × ByteBuffer)) : Prop :=
  ∀ x b b', AtEnd w b → write x b = .ok b' →
    ∃ bytes, Written w b bytes b' ∧ Finds w read bytes x

section

variable {w : Nat} {b b₁ b' : ByteBuffer} {bytes bytes' : List UInt8} {α β γ : Type}

theorem Extends.refl (h : AtEnd w b) : Extends w b [] b := ⟨h, (List.append_nil _).symm, rfl⟩

theorem Extends.trans (h : Extends w b bytes b₁) (h' : Extends w b₁ bytes' b') :
    Extends w b (bytes ++ bytes') b' where
  atEnd := h'.atEnd
  storage_eq := by rw [h'.storage_eq, h.storage_eq, List.append_assoc]
  rpos_eq := h'.rpos_eq.trans h.rpos_eq

theorem Extends.size_eq (h : Extends w b bytes b') : b'.size = b.size + bytes.length := by
  rw [size, h.storage_eq, List.length_append]
  rfl

theorem Written.trans (h : Written w b bytes b₁) (h' : Extends w b₁ bytes' b') :
    Written w b (bytes ++ bytes') b' where
  ne_nil := List.append_ne_nil_of_left_ne_nil h.ne_nil _
  before := h.before
  extend := h.extend.trans h'

theorem Written.length_pos (h : Written w b bytes b') : 0 < bytes.length :=
  List.length_pos_iff.mpr h.ne_nil

theorem append_written (hb : AtEnd w b) (h : b.append w bytes = .ok b') : Written w b bytes b' := by
  have hdone := append_ok hb.size_lt h
  have hstorage := hdone.at_end hb.wpos_eq
  have hsize : b'.size = b.size + bytes.length := by
    rw [size, hstorage, List.length_append]
    rfl
  exact ⟨hdone.ne_nil, hdone.before,
    ⟨by rw [hdone.wpos_eq, hsize, hb.wpos_eq], hdone.size_lt⟩, hstorage, hdone.rpos_eq⟩

theorem bind_eq_ok {x : Except ByteBufferError α} {f : α → Except ByteBufferError β} {y : β}
    (h : x >>= f = .ok y) : ∃ a, x = .ok a ∧ f a = .ok y := by
  cases x with
  | error e => cases h
  | ok a => exact ⟨a, rfl, h⟩

theorem Finds.bind {read : ByteBuffer → Except ByteBufferError (α × ByteBuffer)}
    (next : α → ByteBuffer → Except ByteBufferError (β × ByteBuffer)) {x : α} {y : β}
    (h : Finds w read bytes x) (h' : Finds w (next x) bytes' y) :
    Finds w (fun c => read c >>= fun r => next r.1 r.2) (bytes ++ bytes') y := by
  intro c tail hsize hpos hrest
  rw [List.append_assoc] at hrest
  have hlen := length_of_rest hpos hrest
  have hnext := h' { c with rpos := c.rpos + bytes.length } tail hsize
    (by simp only [size] at hlen ⊢; omega) (rest_advance hrest)
  simp only [h c _ hsize hpos hrest]
  refine Eq.trans hnext ?_
  rw [List.length_append, Nat.add_assoc]

theorem Finds.map {read : ByteBuffer → Except ByteBufferError (α × ByteBuffer)} {x : α}
    (f : α → β) (h : Finds w read bytes x) :
    Finds w (fun c => read c >>= fun r => .ok (f r.1, r.2)) bytes (f x) := by
  intro c tail hsize hpos hrest
  simp only [h c tail hsize hpos hrest]
  rfl

theorem finds_value {len n : Nat} (h : n < 256 ^ len) :
    Finds w (fun c => c.read w len) (littleEndian len n) n := by
  intro c tail hsize hpos hrest
  have hlen := length_of_rest hpos hrest
  rw [length_littleEndian] at hlen ⊢
  simp only
  rw [read_ok (by omega) hsize, hrest, List.take_left' (length_littleEndian len n),
    ofLittleEndian_littleEndian h]

theorem finds_bytes : Finds w (fun c => c.readBytes w bytes.length) bytes bytes := by
  intro c tail hsize hpos hrest
  have hlen := length_of_rest hpos hrest
  simp only
  rw [readBytes_ok (by omega) hsize, hrest, List.take_left]

theorem carries_value (len : Nat) :
    Carries w (fun (value : BitVec (8 * len)) b => b.appendValue w len value.toNat)
      (fun b => b.read w len >>= fun r => .ok (BitVec.ofNat (8 * len) r.1, r.2)) := by
  intro x b b' hb h
  refine ⟨_, append_written hb h, ?_⟩
  have hlt : x.toNat < 256 ^ len := by
    have := x.isLt
    rwa [Nat.pow_mul] at this
  have hfinds := (finds_value (w := w) hlt).map (BitVec.ofNat (8 * len))
  rwa [BitVec.ofNat_toNat, BitVec.setWidth_eq] at hfinds

theorem readString_ok {s : List UInt8} (value : CString) (fuel : Nat) {c : ByteBuffer}
    {tail : List UInt8} (hs : 0 ∉ s) (hfuel : s.length < fuel) (hsize : c.size < 2 ^ w)
    (hpos : c.rpos ≤ c.size) (hrest : c.rest = s ++ 0 :: tail) :
    ∃ r : CString, r.val = value.val ++ s ∧
      readString w fuel value c = .ok (r, { c with rpos := c.rpos + (s.length + 1) }) := by
  induction s generalizing value fuel c with
  | nil =>
    obtain ⟨fuel, rfl⟩ : ∃ n, fuel = n + 1 := ⟨fuel - 1, by rw [List.length_nil] at hfuel; omega⟩
    have hlen := (rest_cons hpos hrest).1
    refine ⟨value, (List.append_nil _).symm, ?_⟩
    rw [readString, if_pos (by omega), read_one hsize hpos hrest]
    rfl
  | cons x s ih =>
    obtain ⟨fuel, rfl⟩ : ∃ n, fuel = n + 1 := ⟨fuel - 1, by rw [List.length_cons] at hfuel; omega⟩
    rw [List.length_cons] at hfuel
    have hx : x ≠ 0 := fun h => hs (h ▸ .head _)
    obtain ⟨hlen, hdrop⟩ := rest_cons hpos hrest
    have hsize' : ({ c with rpos := c.rpos + 1 } : ByteBuffer).size < 2 ^ w := hsize
    obtain ⟨r, hr, hread⟩ := ih (value.push x hx) fuel (fun h => hs (.tail _ h)) (by omega) hsize'
      (by simp only [size] at hlen ⊢; omega) hdrop
    refine ⟨r, by rw [hr, CString.push, List.append_assoc]; rfl, ?_⟩
    rw [readString, if_pos (by omega), read_one hsize hpos hrest]
    simp only [bind, Except.bind, UInt8.ofNat_toNat, dif_neg hx]
    rw [hread, List.length_cons,
      show c.rpos + (s.length + 1 + 1) = c.rpos + 1 + (s.length + 1) by omega]

theorem carries_string :
    Carries w (writeString w) (fun b => readString w (b.size - b.rpos) .empty b) := by
  intro x b b' hb h
  have hfinds : Finds w (fun b => readString w (b.size - b.rpos) .empty b) (x.val ++ [0]) x := by
    intro c tail hsize hpos hrest
    rw [List.append_assoc] at hrest
    have hlen := length_of_rest hpos hrest
    rw [List.length_append, List.length_singleton] at hlen
    obtain ⟨r, hr, hread⟩ := readString_ok .empty (c.size - c.rpos) x.property
      (by omega) hsize hpos hrest
    rw [show r = x from Subtype.ext hr] at hread
    refine hread.trans ?_
    rw [List.length_append, List.length_singleton]
  rw [writeString] at h
  by_cases hempty : x.val.length = 0
  · rw [if_neg (fun hne => hne hempty)] at h
    rw [List.length_eq_zero_iff.mp hempty] at hfinds
    exact ⟨[0], append_written hb h, hfinds⟩
  · rw [if_pos hempty] at h
    obtain ⟨b₁, hfirst, hzero⟩ := bind_eq_ok h
    have hwritten := append_written hb hfirst
    exact ⟨x.val ++ [0], hwritten.trans (append_written hwritten.extend.atEnd hzero).extend, hfinds⟩

variable {write : α → ByteBuffer → Except ByteBufferError ByteBuffer}
  {read : ByteBuffer → Except ByteBufferError (α × ByteBuffer)}
  {write' : β → ByteBuffer → Except ByteBufferError ByteBuffer}
  {read' : ByteBuffer → Except ByteBufferError (β × ByteBuffer)}

theorem Carries.pair (h : Carries w write read) (h' : Carries w write' read') :
    Carries w (writePair write write') (readPair read read') := by
  intro x b b' hb hwrite
  obtain ⟨b₁, hfirst, hsecond⟩ := bind_eq_ok hwrite
  obtain ⟨bytes, hwritten, hfinds⟩ := h x.1 b b₁ hb hfirst
  obtain ⟨bytes', hwritten', hfinds'⟩ := h' x.2 b₁ b' hwritten.extend.atEnd hsecond
  exact ⟨bytes ++ bytes', hwritten.trans hwritten'.extend,
    hfinds.bind (fun k c => read' c >>= fun r => .ok ((k, r.1), r.2))
      (hfinds'.map fun v => (x.1, v))⟩

/-- The elements, one after the other.  Each takes a byte or more, so that there are no more of them
than the buffer takes bytes. -/
theorem Carries.elems (h : Carries w write read) {xs : List α} (hb : AtEnd w b)
    (hwrite : xs.foldlM (fun b i => write i b) b = .ok b') :
    ∃ bytes, Extends w b bytes b' ∧ (xs ≠ [] → b.size + xs.length ≤ 10000000) ∧
      ∀ (add : γ → α → γ) (v : γ),
        Finds w (readTimes read add xs.length v) bytes (xs.foldl add v) := by
  induction xs generalizing b with
  | nil =>
    cases hwrite
    exact ⟨[], .refl hb, fun hne => absurd rfl hne, fun add v c tail _ _ _ => rfl⟩
  | cons x xs ih =>
    rw [List.foldlM_cons] at hwrite
    obtain ⟨b₁, hfirst, hothers⟩ := bind_eq_ok hwrite
    obtain ⟨bytes, hwritten, hfinds⟩ := h x b b₁ hb hfirst
    obtain ⟨bytes', hextend, hcount, hfinds'⟩ := ih hwritten.extend.atEnd hothers
    have hsize := hwritten.extend.size_eq
    have hpos := hwritten.length_pos
    have hbefore := hwritten.before
    refine ⟨bytes ++ bytes', hwritten.extend.trans hextend, fun _ => ?_, fun add v => ?_⟩
    · rw [List.length_cons]
      by_cases hxs : xs = []
      · rw [hxs, List.length_nil]
        omega
      · have := hcount hxs
        omega
    · exact hfinds.bind (fun t c => readTimes read add xs.length (add v t) c)
        (hfinds' add (add v x))

theorem Carries.seq (h : Carries w write read) (empty : γ) (add : γ → α → γ) {xs : List α}
    (hb : AtEnd w b) (hwrite : writeSeq w write xs b = .ok b') :
    ∃ bytes, Written w b bytes b' ∧
      Finds w (readSeq w read empty add) bytes (xs.foldl add empty) := by
  obtain ⟨b₁, hcount, helems⟩ := bind_eq_ok hwrite
  have hwritten := append_written hb hcount
  obtain ⟨bytes, hextend, hlen, hfinds⟩ := h.elems (γ := γ) hwritten.extend.atEnd helems
  refine ⟨_, hwritten.trans hextend, ?_⟩
  have hlt : xs.length < 2 ^ 32 := by
    by_cases hxs : xs = []
    · rw [hxs, List.length_nil]
      omega
    · have := hlen hxs
      omega
  rw [Nat.mod_eq_of_lt hlt]
  exact (finds_value (by omega)).bind (fun n c => readTimes read add n empty c)
    (hfinds add empty)

theorem foldl_push (xs v : List α) : xs.foldl (fun v t => v ++ [t]) v = v ++ xs := by
  induction xs generalizing v with
  | nil => rw [List.foldl_nil, List.append_nil]
  | cons x xs ih => rw [List.foldl_cons, ih, List.append_assoc, List.singleton_append]

theorem Carries.list (h : Carries w write read) :
    Carries w (writeSeq w write) (readSeq w read [] fun v t => v ++ [t]) := by
  intro xs b b' hb hwrite
  have hseq := h.seq [] (fun v t => v ++ [t]) hb hwrite
  rwa [foldl_push, List.nil_append] at hseq

end

end ByteBuffer

open ByteBuffer

theorem WireType.carries (w : Nat) {T : Type} (type : WireType T) :
    Carries w (type.write w) (type.read w) := by
  induction type with
  | integer bytes => exact carries_value bytes
  | string => exact carries_string
  | vector elem ih => exact ih.list
  | list elem ih => exact ih.list
  | map key value ihk ihv =>
    intro m b b' hb hwrite
    have hseq := (ihk.pair ihv).seq ∅ (fun m e => OrdMap.insertNew m e.1 e.2) hb hwrite
    rwa [OrdMap.foldl_insertNew_entries] at hseq

namespace ByteBuffer

variable {w : Nat} {b b' : ByteBuffer}

theorem readItem_writeItem {item : WireItem} (hb : AtEnd w b)
    (h : writeItem w item b = .ok b') :
    ∃ bytes, Written w b bytes b' ∧ Finds w (readItem w · item.shape) bytes item := by
  cases item with
  | value type value =>
    obtain ⟨bytes, hwritten, hfinds⟩ := type.carries w value b b' hb h
    refine ⟨bytes, hwritten, fun c tail hsize hpos hrest => ?_⟩
    simp only [WireItem.shape, readItem, hfinds c tail hsize hpos hrest]
  | block bytes =>
    refine ⟨bytes, append_written hb h, fun c tail hsize hpos hrest => ?_⟩
    simp only [WireItem.shape, readItem]
    have hread := finds_bytes c tail hsize hpos hrest
    simp only at hread
    rw [hread]

theorem readAll_writeAll {items : List WireItem} (hb : AtEnd w b)
    (h : writeAll w items b = .ok b') :
    ∃ bytes, Extends w b bytes b' ∧ Finds w (readAll w (items.map (·.shape))) bytes items := by
  induction items generalizing b with
  | nil =>
    cases h
    exact ⟨[], .refl hb, fun c tail _ _ _ => rfl⟩
  | cons item items ih =>
    obtain ⟨b₁, hfirst, hothers⟩ := bind_eq_ok h
    obtain ⟨bytes, hwritten, hfinds⟩ := readItem_writeItem hb hfirst
    obtain ⟨bytes', hextend, hfinds'⟩ := ih hwritten.extend.atEnd hothers
    refine ⟨bytes ++ bytes', hwritten.extend.trans hextend, fun c tail hsize hpos hrest => ?_⟩
    rw [List.append_assoc] at hrest
    have hlen := length_of_rest hpos hrest
    have hread := hfinds c _ hsize hpos hrest
    have hread' := hfinds' { c with rpos := c.rpos + bytes.length } tail hsize
      (by simp only [size] at hlen ⊢; omega) (rest_advance hrest)
    simp only at hread
    rw [List.map_cons, readAll, hread]
    simp only [hread', List.length_append, Nat.add_assoc]

end ByteBuffer

end SkyfireBG
