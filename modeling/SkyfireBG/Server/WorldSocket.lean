import Mathlib.Algebra.Order.Field.Rat
import Mathlib.Order.Lattice.Nat

/-!
# SkyfireBG.Server.WorldSocket

How `WorldSocket` cuts what it receives into packets: `handle_input_header`,
`handle_input_payload` and `handle_input_missing_data`.

The cipher and `ProcessIncoming` are parameters, on a state `σ` that they share: the key of the
cipher is set when a packet is processed.  A `Frame` is a packet together with the bytes it came
from; `frames` and `raw` record what was read and have no counterpart in the source.
-/

namespace SkyfireBG

abbrev Byte := UInt8

structure WorldPacket where
  opcode : Nat
  contents : List Byte
deriving DecidableEq, Repr

/-- `sizeof(ClientPktHeader)`: a `uint16` and a `uint32`, packed. -/
def CLIENT_PKT_HEADER_SIZE : Nat := 6

structure ClientPktHeader where
  size : Nat
  cmd : Nat
deriving DecidableEq, Repr

def ClientPktHeader.read (bytes : List Byte) : ClientPktHeader where
  size := (bytes.getD 0 0).toNat * 256 + (bytes.getD 1 0).toNat
  cmd := (bytes.getD 2 0).toNat + (bytes.getD 3 0).toNat * 256 +
    (bytes.getD 4 0).toNat * 256 ^ 2 + (bytes.getD 5 0).toNat * 256 ^ 3

/-- The sizes that `handle_input_header` lets through. -/
def ClientPktHeader.wellSized (h : ClientPktHeader) : Bool := !(h.size < 4 || h.size > 10240)

/-- The bytes of a packet as they came, its header when it was decrypted, and the packet. -/
structure Frame where
  raw : List Byte
  header : ClientPktHeader
  packet : WorldPacket
deriving DecidableEq, Repr

structure Frame.Cut (f : Frame) : Prop where
  raw : f.raw.length = CLIENT_PKT_HEADER_SIZE + f.packet.contents.length
  contents : f.packet.contents = f.raw.drop CLIENT_PKT_HEADER_SIZE
  size : f.packet.contents.length + 4 = f.header.size
  opcode : f.packet.opcode = f.header.cmd % 2 ^ 16
  sized : f.header.wellSized = true

/-- The packet that is being filled: `m_RecvWPct` with its size, `m_RecvPct` with what it has. -/
structure Incoming where
  header : ClientPktHeader
  size : Nat
  data : List Byte
deriving DecidableEq, Repr

structure WorldSocket (σ : Type) where
  header : List Byte := []
  incoming : Option Incoming := none
  session : σ
  /-- Input has been given up, with an `errno` that is not `EWOULDBLOCK`. -/
  rejected : Bool := false
  raw : List Byte := []
  /-- The packets that went to `ProcessIncoming`. -/
  frames : List Frame := []
deriving DecidableEq, Repr

namespace WorldSocket

variable {σ : Type} (decryptRecv : σ → List Byte → List Byte × σ)
  (processIncoming : σ → WorldPacket → Bool × σ) (s : WorldSocket σ)

def reject : WorldSocket σ := { s with rejected := true }

/-- `m_Header.copy`. -/
def copyHeader (bytes : List Byte) : WorldSocket σ :=
  { s with header := s.header ++ bytes, raw := s.raw ++ bytes }

/-- `m_RecvPct.copy`. -/
def copyData (p : Incoming) (bytes : List Byte) : WorldSocket σ :=
  { s with incoming := some { p with data := p.data ++ bytes }, raw := s.raw ++ bytes }

/-- `handle_input_header`.  The source decrypts in place; of `m_Header` only the length is used
from here on. -/
def handleInputHeader : WorldSocket σ :=
  let r := decryptRecv s.session s.header
  let header := ClientPktHeader.read r.1
  let s := { s with session := r.2 }
  if !header.wellSized then s.reject
  else { s with incoming := some { header := header, size := header.size - 4, data := [] } }

/-- `handle_input_payload`; a packet has the low half of `cmd` as its opcode. -/
def handleInputPayload (p : Incoming) : WorldSocket σ :=
  let packet : WorldPacket := { opcode := p.header.cmd % 2 ^ 16, contents := p.data }
  let r := processIncoming s.session packet
  { header := [], incoming := none, session := r.2, rejected := !r.1, raw := []
    frames := s.frames ++ [{ raw := s.raw, header := p.header, packet := packet }] }

/-- The payload part of the loop: the bytes left for the next round, or `none` for a return. -/
def inputData (buf : List Byte) : WorldSocket σ × Option (List Byte) :=
  match s.incoming with
  | none => (s.reject, none)
  | some p =>
    let toData := min (p.size - p.data.length) buf.length
    let p' : Incoming := { p with data := p.data ++ buf.take toData }
    let s' := if p.data.length < p.size then s.copyData p (buf.take toData) else s
    if p'.data.length < p.size then (s', none)
    else
      let s'' := s'.handleInputPayload processIncoming p'
      (s'', if s''.rejected then none else some (buf.drop toData))

def inputRound (buf : List Byte) : WorldSocket σ × Option (List Byte) :=
  if s.header.length < CLIENT_PKT_HEADER_SIZE then
    let toHeader := min (CLIENT_PKT_HEADER_SIZE - s.header.length) buf.length
    let s' := s.copyHeader (buf.take toHeader)
    if s'.header.length < CLIENT_PKT_HEADER_SIZE then (s', none)
    else
      let s'' := s'.handleInputHeader decryptRecv
      if s''.rejected then (s'', none) else s''.inputData processIncoming (buf.drop toHeader)
  else s.inputData processIncoming buf

/-- `while (message_block.length() > 0)`; each round but the first takes a byte at least. -/
def inputLoop : Nat → WorldSocket σ → List Byte → WorldSocket σ
  | 0, s, _ => s
  | fuel + 1, s, buf =>
    if buf.length = 0 then s
    else match s.inputRound decryptRecv processIncoming buf with
      | (s', none) => s'
      | (s', some rest) => inputLoop fuel s' rest

/-- `handle_input_missing_data` for a received block; there is none when input was given up. -/
def handleInputMissingData (buf : List Byte) : WorldSocket σ :=
  if s.rejected then s else s.inputLoop decryptRecv processIncoming (buf.length + 1) buf

/-! ## Byte by byte -/

def settle : WorldSocket σ :=
  match s.incoming with
  | some p => if p.data.length < p.size then s else s.handleInputPayload processIncoming p
  | none => s

def readByte (x : Byte) : WorldSocket σ :=
  if s.rejected then s
  else match s.incoming with
    | none =>
      if (s.copyHeader [x]).header.length < CLIENT_PKT_HEADER_SIZE then s.copyHeader [x]
      else ((s.copyHeader [x]).handleInputHeader decryptRecv).settle processIncoming
    | some p => (s.copyData p [x]).settle processIncoming

structure Ready : Prop where
  header : s.incoming = none → s.header.length < CLIENT_PKT_HEADER_SIZE
  full : s.incoming.isSome → CLIENT_PKT_HEADER_SIZE ≤ s.header.length
  data : ∀ p, s.incoming = some p → p.data.length < p.size

variable {decryptRecv processIncoming s} {p : Incoming} {xs ys buf rest : List Byte} {x : Byte}

@[simp] theorem copyHeader_header : (s.copyHeader xs).header = s.header ++ xs := rfl

@[simp] theorem copyHeader_incoming : (s.copyHeader xs).incoming = s.incoming := rfl

@[simp] theorem copyData_incoming :
    (s.copyData p xs).incoming = some { p with data := p.data ++ xs } := rfl

@[simp] theorem copyHeader_nil : s.copyHeader [] = s := by
  simp [copyHeader]

theorem copyHeader_append : (s.copyHeader xs).copyHeader ys = s.copyHeader (xs ++ ys) := by
  simp [copyHeader]

theorem copyData_append :
    (s.copyData p xs).copyData { p with data := p.data ++ xs } ys = s.copyData p (xs ++ ys) := by
  simp [copyData]

theorem copyData_nil (hp : s.incoming = some p) : s.copyData p [] = s := by
  cases s
  cases hp
  simp [copyData]

theorem handleInputHeader_cases :
    ((s.handleInputHeader decryptRecv).rejected = true ∧
      (s.handleInputHeader decryptRecv).incoming = s.incoming) ∨
    ∃ p, (s.handleInputHeader decryptRecv).incoming = some p ∧ p.data = [] ∧
      (s.handleInputHeader decryptRecv).rejected = s.rejected ∧
      (s.handleInputHeader decryptRecv).header = s.header := by
  unfold handleInputHeader
  simp only
  split
  · exact .inl ⟨rfl, rfl⟩
  · exact .inr ⟨_, rfl, rfl, rfl, rfl⟩

theorem foldl_rejected (h : s.rejected = true) :
    xs.foldl (readByte decryptRecv processIncoming) s = s := by
  induction xs with
  | nil => rfl
  | cons x xs ih => rw [List.foldl_cons, readByte, if_pos h, ih]

theorem foldl_header (hr : s.rejected = false) (hi : s.incoming = none)
    (hlt : (s.header ++ xs).length < CLIENT_PKT_HEADER_SIZE) :
    xs.foldl (readByte decryptRecv processIncoming) s = s.copyHeader xs := by
  induction xs generalizing s with
  | nil => rw [List.foldl_nil, copyHeader_nil]
  | cons x xs ih =>
    simp only [List.length_append, List.length_cons] at hlt
    have hx : s.readByte decryptRecv processIncoming x = s.copyHeader [x] := by
      simp only [readByte, hr, hi, Bool.false_eq_true, if_false]
      rw [if_pos]
      simp only [copyHeader_header, List.length_append, List.length_cons, List.length_nil]
      omega
    rw [List.foldl_cons, hx, ih (s := s.copyHeader [x]) hr hi, copyHeader_append,
      List.singleton_append]
    simp only [copyHeader_header, List.length_append, List.length_cons, List.length_nil]
    omega

theorem foldl_data (hr : s.rejected = false) (hp : s.incoming = some p)
    (hlt : (p.data ++ xs).length < p.size) :
    xs.foldl (readByte decryptRecv processIncoming) s = s.copyData p xs := by
  induction xs generalizing s p with
  | nil => rw [List.foldl_nil, copyData_nil hp]
  | cons x xs ih =>
    simp only [List.length_append, List.length_cons] at hlt
    have hx : s.readByte decryptRecv processIncoming x = s.copyData p [x] := by
      simp only [readByte, hr, hp, Bool.false_eq_true, if_false, settle, copyData_incoming]
      rw [if_pos]
      simp only [List.length_append, List.length_cons, List.length_nil]
      omega
    rw [List.foldl_cons, hx, ih (s := s.copyData p [x]) hr rfl, copyData_append,
      List.singleton_append]
    simp only [List.length_append, List.length_cons, List.length_nil]
    omega

theorem readByte_header (hr : s.rejected = false) (hi : s.incoming = none)
    (hlen : (s.header ++ [x]).length = CLIENT_PKT_HEADER_SIZE) :
    s.readByte decryptRecv processIncoming x =
      ((s.copyHeader [x]).handleInputHeader decryptRecv).settle processIncoming := by
  simp only [readByte, hr, hi, Bool.false_eq_true, if_false, copyHeader_header, hlen,
    Nat.lt_irrefl]

theorem readByte_data (hr : s.rejected = false) (hp : s.incoming = some p)
    (hlen : (p.data ++ [x]).length = p.size) :
    s.readByte decryptRecv processIncoming x =
      (s.copyData p [x]).handleInputPayload processIncoming { p with data := p.data ++ [x] } := by
  simp only [readByte, hr, hp, Bool.false_eq_true, if_false, settle, copyData_incoming, hlen,
    Nat.lt_irrefl]

theorem foldl_whole_header (hr : s.rejected = false) (hi : s.incoming = none) (hxs : xs ≠ [])
    (hlen : (s.header ++ xs).length = CLIENT_PKT_HEADER_SIZE) :
    xs.foldl (readByte decryptRecv processIncoming) s =
      ((s.copyHeader xs).handleInputHeader decryptRecv).settle processIncoming := by
  obtain ⟨ys, y, rfl⟩ := List.eq_nil_or_concat xs |>.resolve_left hxs
  rw [List.concat_eq_append] at hlen ⊢
  simp only [List.length_append, List.length_cons, List.length_nil] at hlen
  have hys : ys.foldl (readByte decryptRecv processIncoming) s = s.copyHeader ys := by
    refine foldl_header hr hi ?_
    simp only [List.length_append]
    omega
  rw [List.foldl_append, hys, List.foldl_cons, List.foldl_nil,
    readByte_header (s := s.copyHeader ys) hr hi, copyHeader_append]
  simp only [copyHeader_header, List.length_append, List.length_cons, List.length_nil]
  omega

theorem foldl_whole_data (hr : s.rejected = false) (hp : s.incoming = some p) (hxs : xs ≠ [])
    (hlen : (p.data ++ xs).length = p.size) :
    xs.foldl (readByte decryptRecv processIncoming) s =
      (s.copyData p xs).handleInputPayload processIncoming { p with data := p.data ++ xs } := by
  obtain ⟨ys, y, rfl⟩ := List.eq_nil_or_concat xs |>.resolve_left hxs
  rw [List.concat_eq_append] at hlen ⊢
  simp only [List.length_append, List.length_cons, List.length_nil] at hlen
  have hys : ys.foldl (readByte decryptRecv processIncoming) s = s.copyData p ys := by
    refine foldl_data hr hp ?_
    simp only [List.length_append]
    omega
  rw [List.foldl_append, hys, List.foldl_cons, List.foldl_nil,
    readByte_data (s := s.copyData p ys) hr rfl, copyData_append, List.append_assoc]
  simp only [List.length_append, List.length_cons, List.length_nil]
  omega

theorem handleInputPayload_ready : (s.handleInputPayload processIncoming p).Ready where
  header := fun _ => Nat.zero_lt_succ _
  full := fun h => by cases h
  data := fun _ h => by cases h

theorem copyHeader_ready (hi : s.incoming = none)
    (hlt : (s.header ++ xs).length < CLIENT_PKT_HEADER_SIZE) : (s.copyHeader xs).Ready where
  header := fun _ => hlt
  full := fun h => by simp [hi] at h
  data := fun p h => by simp [hi] at h

theorem copyData_ready (hfull : CLIENT_PKT_HEADER_SIZE ≤ s.header.length)
    (hlt : (p.data ++ xs).length < p.size) : (s.copyData p xs).Ready where
  header := fun h => by cases h
  full := fun _ => hfull
  data := by
    rintro p' hp'
    cases hp'
    exact hlt

/-- What one round does: it takes the bytes `pre` as the byte reader does, and returns when nothing
is left or input is given up. -/
structure Round (decryptRecv : σ → List Byte → List Byte × σ)
    (processIncoming : σ → WorldPacket → Bool × σ) (s : WorldSocket σ) (buf : List Byte)
    (r : WorldSocket σ × Option (List Byte)) (pre rest : List Byte) : Prop where
  split : buf = pre ++ rest
  read : r.1 = pre.foldl (readByte decryptRecv processIncoming) s
  ready : r.1.rejected = false → r.1.Ready
  stop : r.2 = none → rest = [] ∨ r.1.rejected = true
  more : ∀ l, r.2 = some l → l = rest ∧ r.1.rejected = false

theorem payload_round {r : WorldSocket σ} (hsplit : buf = xs ++ rest)
    (hread : r = xs.foldl (readByte decryptRecv processIncoming) s) (hready : r.Ready) :
    Round decryptRecv processIncoming s buf (r, if r.rejected then none else some rest)
      xs rest := by
  refine ⟨hsplit, hread, fun _ => hready, fun hstop => ?_, fun l hl => ?_⟩
  · cases hr : r.rejected with
    | true => exact .inr rfl
    | false => simp [hr] at hstop
  · cases hr : r.rejected with
    | true => simp [hr] at hl
    | false =>
      simp only [hr, Bool.false_eq_true, if_false, Option.some.injEq] at hl
      exact ⟨hl.symm, rfl⟩

theorem inputData_round (hr : s.rejected = false) (hp : s.incoming = some p)
    (hfull : CLIENT_PKT_HEADER_SIZE ≤ s.header.length) (hle : p.data.length ≤ p.size) :
    ∃ pre rest, Round decryptRecv processIncoming (s.settle processIncoming) buf
      (s.inputData processIncoming buf) pre rest ∧
      (p.data.length < p.size → buf ≠ [] → pre ≠ []) := by
  by_cases hlt : p.data.length < p.size
  · have hsettle : s.settle processIncoming = s := by
      simp only [settle, hp, hlt, if_true]
    rw [hsettle]
    by_cases hmore : (p.data ++ buf).length < p.size
    · have htake : min (p.size - p.data.length) buf.length = buf.length := by
        rw [List.length_append] at hmore
        omega
      refine ⟨buf, [], ⟨(List.append_nil _).symm, ?_, ?_, ?_, ?_⟩, fun _ hne => hne⟩ <;>
        simp only [inputData, hp, htake, List.take_length, hmore, hlt, if_true]
      · exact (foldl_data hr hp hmore).symm
      · exact fun _ => copyData_ready hfull hmore
      · exact fun _ => .inl trivial
      · intro l hl
        cases hl
    · have htake : min (p.size - p.data.length) buf.length = p.size - p.data.length := by
        rw [List.length_append] at hmore
        omega
      have hlen : (p.data ++ buf.take (p.size - p.data.length)).length = p.size := by
        rw [List.length_append] at hmore ⊢
        rw [List.length_take]
        omega
      have hne : buf.take (p.size - p.data.length) ≠ [] := by
        intro hnil
        rw [hnil, List.append_nil] at hlen
        omega
      refine ⟨buf.take (p.size - p.data.length), buf.drop (p.size - p.data.length), ?_,
        fun _ _ => hne⟩
      simp only [inputData, hp, htake, hlen, hlt, if_true, Nat.lt_irrefl, if_false]
      exact payload_round (List.take_append_drop ..).symm
        (foldl_whole_data hr hp hne hlen).symm handleInputPayload_ready
  · have hsettle : s.settle processIncoming = s.handleInputPayload processIncoming p := by
      simp only [settle, hp, hlt, if_false]
    have htake : min (p.size - p.data.length) buf.length = 0 := by omega
    refine ⟨[], buf, ?_, fun hlt' => absurd hlt' hlt⟩
    rw [hsettle]
    simp only [inputData, hp, htake, List.take_zero, List.append_nil, hlt, if_false,
      List.drop_zero]
    exact payload_round rfl rfl handleInputPayload_ready

theorem inputRound_round (hs : s.Ready) (hr : s.rejected = false) (hbuf : buf ≠ []) :
    ∃ pre rest, Round decryptRecv processIncoming s buf
      (s.inputRound decryptRecv processIncoming buf) pre rest ∧ pre ≠ [] := by
  cases hi : s.incoming with
  | some p =>
    have hfull := hs.full (by simp [hi])
    have hlt := hs.data p hi
    obtain ⟨pre, rest, hround, hne⟩ : ∃ pre rest, Round decryptRecv processIncoming
        (s.settle processIncoming) buf (s.inputData processIncoming buf) pre rest ∧
        (p.data.length < p.size → buf ≠ [] → pre ≠ []) :=
      inputData_round hr hi hfull (Nat.le_of_lt hlt)
    have hsettle : s.settle processIncoming = s := by
      simp only [settle, hi, hlt, if_true]
    rw [hsettle] at hround
    rw [inputRound, if_neg (Nat.not_lt.mpr hfull)]
    exact ⟨pre, rest, hround, hne hlt hbuf⟩
  | none =>
    have hlt := hs.header hi
    by_cases hmore : (s.header ++ buf).length < CLIENT_PKT_HEADER_SIZE
    · have htake : min (CLIENT_PKT_HEADER_SIZE - s.header.length) buf.length = buf.length := by
        rw [List.length_append] at hmore
        omega
      refine ⟨buf, [], ⟨(List.append_nil _).symm, ?_, ?_, ?_, ?_⟩, hbuf⟩ <;>
        simp only [inputRound, hlt, htake, List.take_length, copyHeader_header, hmore, if_true]
      · exact (foldl_header hr hi hmore).symm
      · exact fun _ => copyHeader_ready hi hmore
      · exact fun _ => .inl trivial
      · intro l hl
        cases hl
    · have htake : min (CLIENT_PKT_HEADER_SIZE - s.header.length) buf.length =
          CLIENT_PKT_HEADER_SIZE - s.header.length := by
        rw [List.length_append] at hmore
        omega
      set k := CLIENT_PKT_HEADER_SIZE - s.header.length with hk
      have hlen : (s.header ++ buf.take k).length = CLIENT_PKT_HEADER_SIZE := by
        rw [List.length_append] at hmore ⊢
        rw [List.length_take]
        omega
      have hne : buf.take k ≠ [] := by
        intro hnil
        rw [hnil, List.append_nil] at hlen
        omega
      have hwhole : (buf.take k).foldl (readByte decryptRecv processIncoming) s =
          ((s.copyHeader (buf.take k)).handleInputHeader decryptRecv).settle processIncoming :=
        foldl_whole_header hr hi hne hlen
      have hround : s.inputRound decryptRecv processIncoming buf =
          if ((s.copyHeader (buf.take k)).handleInputHeader decryptRecv).rejected then
            ((s.copyHeader (buf.take k)).handleInputHeader decryptRecv, none)
          else ((s.copyHeader (buf.take k)).handleInputHeader decryptRecv).inputData
            processIncoming (buf.drop k) := by
        simp only [inputRound, hlt, ← hk, htake, copyHeader_header, hlen, if_true, Nat.lt_irrefl,
          if_false]
      rw [hround]
      rcases handleInputHeader_cases (s := s.copyHeader (buf.take k))
        with ⟨hrej, hinc⟩ | ⟨p, hp, hdata, hrej, hhead⟩
      · have hsettle : ((s.copyHeader (buf.take k)).handleInputHeader decryptRecv).settle
            processIncoming = (s.copyHeader (buf.take k)).handleInputHeader decryptRecv := by
          rw [settle, hinc, copyHeader_incoming, hi]
        rw [if_pos hrej]
        refine ⟨buf.take k, buf.drop k, ⟨(List.take_append_drop ..).symm, ?_, ?_, ?_, ?_⟩, hne⟩
        · rw [hwhole, hsettle]
        · intro hr'
          rw [hrej] at hr'
          cases hr'
        · exact fun _ => .inr hrej
        · intro l hl
          cases hl
      · have hrej' : ((s.copyHeader (buf.take k)).handleInputHeader decryptRecv).rejected =
            false := hrej.trans hr
        obtain ⟨pre, rest, hdataRound, _⟩ : ∃ pre rest, Round decryptRecv processIncoming
            (((s.copyHeader (buf.take k)).handleInputHeader decryptRecv).settle processIncoming)
            (buf.drop k) (((s.copyHeader (buf.take k)).handleInputHeader decryptRecv).inputData
              processIncoming (buf.drop k)) pre rest ∧
            (p.data.length < p.size → buf.drop k ≠ [] → pre ≠ []) := by
          refine inputData_round hrej' hp ?_ ?_
          · exact Nat.le_of_eq (by rw [hhead, copyHeader_header, hlen])
          · rw [hdata]
            exact Nat.zero_le _
        rw [hrej', if_neg Bool.false_ne_true]
        refine ⟨buf.take k ++ pre, rest, ⟨?_, ?_, hdataRound.ready, hdataRound.stop,
          hdataRound.more⟩, List.append_ne_nil_of_left_ne_nil hne _⟩
        · rw [List.append_assoc, ← hdataRound.split, List.take_append_drop]
        · rw [List.foldl_append, hwhole, hdataRound.read]

theorem inputLoop_eq {fuel : Nat} (hs : s.Ready) (hr : s.rejected = false)
    (hfuel : buf.length < fuel) :
    s.inputLoop decryptRecv processIncoming fuel buf =
      buf.foldl (readByte decryptRecv processIncoming) s := by
  induction fuel generalizing s buf with
  | zero => exact absurd hfuel (Nat.not_lt_zero _)
  | succ fuel ih =>
    by_cases hbuf : buf.length = 0
    · rw [inputLoop, if_pos hbuf, List.eq_nil_of_length_eq_zero hbuf, List.foldl_nil]
    · have hne : buf ≠ [] := fun hnil => hbuf (by rw [hnil, List.length_nil])
      obtain ⟨pre, rest, hround, hpre⟩ : ∃ pre rest, Round decryptRecv processIncoming s buf
          (s.inputRound decryptRecv processIncoming buf) pre rest ∧ pre ≠ [] :=
        inputRound_round hs hr hne
      obtain ⟨hsplit, hread, hready, hstop, hmore⟩ := hround
      rw [inputLoop, if_neg hbuf]
      generalize s.inputRound decryptRecv processIncoming buf = r at hread hready hstop hmore ⊢
      obtain ⟨s', left⟩ := r
      dsimp only at hread hready hstop hmore ⊢
      rw [hsplit, List.foldl_append, ← hread]
      cases left with
      | none =>
        rcases hstop rfl with hrest | hrej
        · rw [hrest, List.foldl_nil]
        · exact (foldl_rejected hrej).symm
      | some l =>
        obtain ⟨rfl, hr'⟩ := hmore l rfl
        have hlen : l.length < fuel := by
          have hpos := List.length_pos_of_ne_nil hpre
          rw [hsplit, List.length_append] at hfuel
          omega
        exact ih (hready hr') hr' hlen

theorem handleInputMissingData_eq (hs : s.rejected = false → s.Ready) :
    s.handleInputMissingData decryptRecv processIncoming buf =
      buf.foldl (readByte decryptRecv processIncoming) s := by
  unfold handleInputMissingData
  cases hr : s.rejected with
  | true => rw [if_pos rfl, foldl_rejected hr]
  | false =>
    rw [if_neg Bool.false_ne_true]
    exact inputLoop_eq (hs hr) hr (Nat.lt_succ_self _)

/-- The frames one after the other, each accepted by `ProcessIncoming`: a header is decrypted once, by
the cipher as it is after the packets before. -/
def Follows (decryptRecv : σ → List Byte → List Byte × σ)
    (processIncoming : σ → WorldPacket → Bool × σ) : σ → List Frame → σ → Prop
  | st, [], st' => st' = st
  | st, f :: fs, st' =>
    let r := decryptRecv st (f.raw.take CLIENT_PKT_HEADER_SIZE)
    f.header = ClientPktHeader.read r.1 ∧ (processIncoming r.2 f.packet).1 = true ∧
      Follows decryptRecv processIncoming (processIncoming r.2 f.packet).2 fs st'

/-- A header is awaited, or the payload to a header that was decrypted in the state `st`. -/
inductive Awaits (decryptRecv : σ → List Byte → List Byte × σ) (st : σ) (s : WorldSocket σ) : Prop
  | header (hi : s.incoming = none) (hraw : s.raw = s.header) (hst : s.session = st)
  | data {p : Incoming} (hp : s.incoming = some p)
      (hlen : s.raw.length = CLIENT_PKT_HEADER_SIZE + p.data.length)
      (hdrop : s.raw.drop CLIENT_PKT_HEADER_SIZE = p.data)
      (hhead : p.header = ClientPktHeader.read
        (decryptRecv st (s.raw.take CLIENT_PKT_HEADER_SIZE)).1)
      (hst : s.session = (decryptRecv st (s.raw.take CLIENT_PKT_HEADER_SIZE)).2)
      (hsize : p.size + 4 = p.header.size) (hsized : p.header.wellSized = true)
      (hle : p.data.length ≤ p.size)

/-- Why input was given up after the frames that were accepted: the next header announces a size that is
refused, or `ProcessIncoming` refuses the next packet. -/
inductive GivenUp (decryptRecv : σ → List Byte → List Byte × σ)
    (processIncoming : σ → WorldPacket → Bool × σ) (start : σ) (s : WorldSocket σ) : Prop
  | header {st : σ} (hfollows : Follows decryptRecv processIncoming start s.frames st)
      (hlen : s.raw.length = CLIENT_PKT_HEADER_SIZE)
      (hsized : (ClientPktHeader.read (decryptRecv st s.raw).1).wellSized = false)
  | packet {st : σ} {fs : List Frame} {f : Frame} (hframes : s.frames = fs ++ [f])
      (hfollows : Follows decryptRecv processIncoming start fs st) (hraw : s.raw = [])
      (hhead : f.header = ClientPktHeader.read
        (decryptRecv st (f.raw.take CLIENT_PKT_HEADER_SIZE)).1)
      (hno : (processIncoming (decryptRecv st (f.raw.take CLIENT_PKT_HEADER_SIZE)).2
        f.packet).1 = false)

/-- The bytes `taken` are the frames and what has come since. -/
structure Tracked (decryptRecv : σ → List Byte → List Byte × σ)
    (processIncoming : σ → WorldPacket → Bool × σ) (start : σ) (s : WorldSocket σ)
    (taken : List Byte) : Prop where
  taken : taken = s.frames.flatMap Frame.raw ++ s.raw
  cut : ∀ f ∈ s.frames, f.Cut
  accepted : s.rejected = false →
    ∃ st, Follows decryptRecv processIncoming start s.frames st ∧ Awaits decryptRecv st s
  givenUp : s.rejected = true → GivenUp decryptRecv processIncoming start s

variable {st st' start : σ} {f : Frame} {fs : List Frame} {taken stream : List Byte}

theorem Follows.snoc (h : Follows decryptRecv processIncoming st fs st')
    (hf : f.header = ClientPktHeader.read
      (decryptRecv st' (f.raw.take CLIENT_PKT_HEADER_SIZE)).1)
    (hyes : (processIncoming (decryptRecv st' (f.raw.take CLIENT_PKT_HEADER_SIZE)).2
      f.packet).1 = true) :
    Follows decryptRecv processIncoming st (fs ++ [f])
      (processIncoming (decryptRecv st' (f.raw.take CLIENT_PKT_HEADER_SIZE)).2 f.packet).2 := by
  induction fs generalizing st with
  | nil =>
    cases h
    exact ⟨hf, hyes, rfl⟩
  | cons g gs ih => exact ⟨h.1, h.2.1, ih h.2.2⟩

theorem Tracked.open (hr : s.rejected = false) (htaken : taken = s.frames.flatMap Frame.raw ++ s.raw)
    (hcut : ∀ f ∈ s.frames, f.Cut) (hfollows : Follows decryptRecv processIncoming start s.frames st)
    (hawaits : Awaits decryptRecv st s) : Tracked decryptRecv processIncoming start s taken where
  taken := htaken
  cut := hcut
  accepted := fun _ => ⟨st, hfollows, hawaits⟩
  givenUp := fun hr' => Bool.noConfusion (hr.symm.trans hr')

theorem Tracked.settle (h : Tracked decryptRecv processIncoming start s taken)
    (hr : s.rejected = false) :
    Tracked decryptRecv processIncoming start (s.settle processIncoming) taken := by
  obtain ⟨st, hfollows, hawaits⟩ := h.accepted hr
  cases hawaits with
  | header hi hraw hst =>
    rw [WorldSocket.settle, hi]
    exact h
  | @data p hp hlen hdrop hhead hst hsize hsized hle =>
    by_cases hlt : p.data.length < p.size
    · simp only [WorldSocket.settle, hp, hlt, if_true]
      exact h
    · simp only [WorldSocket.settle, hp, hlt, if_false]
      have hcut : Frame.Cut ⟨s.raw, p.header, ⟨p.header.cmd % 2 ^ 16, p.data⟩⟩ :=
        ⟨hlen, hdrop.symm, by simp only; omega, rfl, hsized⟩
      refine ⟨?_, ?_, fun hyes => ?_, fun hno => ?_⟩
      · rw [h.taken]
        simp [handleInputPayload]
      · intro f hf
        rcases List.mem_append.mp hf with hf | hf
        · exact h.cut f hf
        · cases List.mem_singleton.mp hf
          exact hcut
      · simp only [handleInputPayload, hst, Bool.not_eq_false'] at hyes
        refine ⟨_, hfollows.snoc hhead hyes, .header rfl rfl ?_⟩
        simp only [handleInputPayload, hst]
      · simp only [handleInputPayload, hst, Bool.not_eq_true'] at hno
        exact .packet rfl hfollows rfl hhead hno

theorem Tracked.handleInputHeader (h : Tracked decryptRecv processIncoming start s taken)
    (hr : s.rejected = false) (hi : s.incoming = none)
    (hlen : s.header.length = CLIENT_PKT_HEADER_SIZE) :
    Tracked decryptRecv processIncoming start
      ((s.handleInputHeader decryptRecv).settle processIncoming) taken := by
  obtain ⟨st, hfollows, hawaits⟩ := h.accepted hr
  cases hawaits with
  | @data p hp _ _ _ _ _ _ _ =>
    rw [hi] at hp
    cases hp
  | header _ hraw hst =>
    have htake : s.raw.take CLIENT_PKT_HEADER_SIZE = s.header := by
      rw [hraw, ← hlen, List.take_length]
    by_cases hsized : (ClientPktHeader.read (decryptRecv s.session s.header).1).wellSized = true
    · have hstep : s.handleInputHeader decryptRecv = { s with
          session := (decryptRecv s.session s.header).2
          incoming := some
            { header := ClientPktHeader.read (decryptRecv s.session s.header).1
              size := (ClientPktHeader.read (decryptRecv s.session s.header).1).size - 4
              data := [] } } := by
        simp only [WorldSocket.handleInputHeader, hsized, Bool.not_true, Bool.false_eq_true,
          if_false]
      rw [hstep]
      refine Tracked.settle (.open hr h.taken h.cut hfollows ?_) hr
      refine .data rfl ?_ ?_ ?_ ?_ ?_ hsized (Nat.zero_le _)
      · rw [hraw, hlen]
        rfl
      · rw [hraw, ← hlen, List.drop_length]
      · rw [htake, ← hst]
      · rw [htake, ← hst]
      · simp only [ClientPktHeader.wellSized, Bool.not_eq_true', Bool.or_eq_false_iff,
          decide_eq_false_iff_not] at hsized
        simp only
        omega
    · have hstep : s.handleInputHeader decryptRecv = { s with
          session := (decryptRecv s.session s.header).2, rejected := true } := by
        simp only [WorldSocket.handleInputHeader, hsized, Bool.not_false, if_true]
        rfl
      rw [hstep, WorldSocket.settle]
      simp only [hi]
      refine ⟨h.taken, h.cut, fun hr' => Bool.noConfusion hr', fun _ => .header hfollows ?_ ?_⟩
      · rw [hraw, hlen]
      · rw [hraw, ← hst]
        exact Bool.eq_false_of_not_eq_true hsized

theorem Tracked.readByte (h : Tracked decryptRecv processIncoming start s taken)
    (hs : s.Ready) (hr : s.rejected = false) (x : Byte) :
    Tracked decryptRecv processIncoming start (s.readByte decryptRecv processIncoming x)
      (taken ++ [x]) := by
  obtain ⟨st, hfollows, hawaits⟩ := h.accepted hr
  cases hawaits with
  | header hi hraw hst =>
    have hcopied : Tracked decryptRecv processIncoming start (s.copyHeader [x])
        (taken ++ [x]) := by
      refine .open hr ?_ h.cut hfollows (.header hi ?_ hst)
      · rw [h.taken, List.append_assoc]
        rfl
      · simp only [copyHeader, hraw]
    have hlt := hs.header hi
    simp only [WorldSocket.readByte, hr, hi, Bool.false_eq_true, if_false]
    split
    · exact hcopied
    · rename_i hfull
      refine hcopied.handleInputHeader hr hi ?_
      simp only [copyHeader_header, List.length_append, List.length_cons,
        List.length_nil] at hfull ⊢
      omega
  | @data p hp hlen hdrop hhead hst hsize hsized hle =>
    have hlt := hs.data p hp
    simp only [WorldSocket.readByte, hr, hp, Bool.false_eq_true, if_false]
    have hshort : CLIENT_PKT_HEADER_SIZE ≤ s.raw.length := by omega
    refine Tracked.settle (.open hr ?_ h.cut hfollows ?_) hr
    · rw [h.taken, List.append_assoc]
      rfl
    · refine .data rfl ?_ ?_ ?_ ?_ hsize hsized ?_
      · simp only [copyData, List.length_append, List.length_cons, List.length_nil]
        omega
      · simp only [copyData, List.drop_append_of_le_length hshort, hdrop]
      · simp only [copyData, List.take_append_of_le_length hshort, hhead]
      · simp only [copyData, List.take_append_of_le_length hshort, hst]
      · simp only [List.length_append, List.length_cons, List.length_nil]
        omega

theorem settle_ready (hfull : s.incoming.isSome → CLIENT_PKT_HEADER_SIZE ≤ s.header.length)
    (hsome : s.incoming.isSome) : (s.settle processIncoming).Ready := by
  obtain ⟨p, hp⟩ := Option.isSome_iff_exists.mp hsome
  by_cases hlt : p.data.length < p.size
  · have hstay : s.settle processIncoming = s := by
      simp only [settle, hp, hlt, if_true]
    rw [hstay]
    refine ⟨fun hnone => ?_, hfull, fun p' hp' => ?_⟩
    · rw [hp] at hnone
      cases hnone
    · cases hp.symm.trans hp'
      exact hlt
  · have hdone : s.settle processIncoming = s.handleInputPayload processIncoming p := by
      simp only [settle, hp, hlt, if_false]
    rw [hdone]
    exact handleInputPayload_ready

theorem readByte_ready (hs : s.Ready) (x : Byte)
    (hr : (s.readByte decryptRecv processIncoming x).rejected = false) :
    (s.readByte decryptRecv processIncoming x).Ready := by
  cases hrej : s.rejected with
  | true =>
    rw [readByte, if_pos hrej, hrej] at hr
    cases hr
  | false =>
    cases hi : s.incoming with
    | some p =>
      have hstep : s.readByte decryptRecv processIncoming x =
          (s.copyData p [x]).settle processIncoming := by
        simp only [readByte, hrej, hi, Bool.false_eq_true, if_false]
      rw [hstep]
      exact settle_ready (fun _ => hs.full (by simp [hi])) rfl
    | none =>
      by_cases hlt : (s.header ++ [x]).length < CLIENT_PKT_HEADER_SIZE
      · have hstep : s.readByte decryptRecv processIncoming x = s.copyHeader [x] := by
          simp only [readByte, hrej, hi, Bool.false_eq_true, if_false, copyHeader_header, hlt,
            if_true]
        rw [hstep]
        exact copyHeader_ready hi hlt
      · have hstep : s.readByte decryptRecv processIncoming x =
            ((s.copyHeader [x]).handleInputHeader decryptRecv).settle processIncoming := by
          simp only [readByte, hrej, hi, Bool.false_eq_true, if_false, copyHeader_header, hlt]
        rw [hstep] at hr ⊢
        rcases handleInputHeader_cases (s := s.copyHeader [x])
          with ⟨hbad, hinc⟩ | ⟨p, hp, _, _, hhead⟩
        · rw [settle, hinc, copyHeader_incoming, hi] at hr
          rw [hr] at hbad
          cases hbad
        · refine settle_ready (fun _ => ?_) (by rw [hp]; rfl)
          rw [hhead, copyHeader_header]
          exact Nat.le_of_not_lt hlt

def opened (session : σ) : WorldSocket σ := { session := session }

theorem opened_ready : (opened start).Ready where
  header := fun _ => Nat.zero_lt_succ _
  full := fun h => by cases h
  data := fun _ h => by cases h

theorem opened_tracked : Tracked decryptRecv processIncoming start (opened start) [] :=
  .open rfl rfl (fun _ hf => (List.not_mem_nil hf).elim) rfl (.header rfl rfl rfl)

/-- How far a stream has been taken: the bytes `taken` went into frames and what is unfinished, and
nothing is left unread before input is given up. -/
structure Reading (decryptRecv : σ → List Byte → List Byte × σ)
    (processIncoming : σ → WorldPacket → Bool × σ) (start : σ) (s : WorldSocket σ)
    (stream taken unread : List Byte) : Prop where
  split : stream = taken ++ unread
  tracked : Tracked decryptRecv processIncoming start s taken
  ready : s.rejected = false → s.Ready
  all : s.rejected = false → unread = []

theorem Reading.readByte {unread : List Byte}
    (h : Reading decryptRecv processIncoming start s stream taken unread) (x : Byte) :
    ∃ taken' unread', Reading decryptRecv processIncoming start
      (s.readByte decryptRecv processIncoming x) (stream ++ [x]) taken' unread' := by
  cases hr : s.rejected with
  | true =>
    have hstay : s.readByte decryptRecv processIncoming x = s := by
      rw [WorldSocket.readByte, if_pos hr]
    rw [hstay]
    refine ⟨taken, unread ++ [x], ?_, h.tracked, h.ready, fun hr' => ?_⟩
    · rw [h.split, List.append_assoc]
    · rw [hr] at hr'
      cases hr'
  | false =>
    have hall : stream = taken := by
      rw [h.split, h.all hr, List.append_nil]
    refine ⟨taken ++ [x], [], ?_, h.tracked.readByte (h.ready hr) hr x, ?_, fun _ => rfl⟩
    · rw [hall, List.append_nil]
    · exact readByte_ready (h.ready hr) x

theorem reading_foldl (stream : List Byte) :
    ∃ taken unread, Reading decryptRecv processIncoming start
      (stream.foldl (readByte decryptRecv processIncoming) (opened start)) stream taken unread := by
  induction stream using List.reverseRecOn with
  | nil => exact ⟨[], [], rfl, opened_tracked, fun _ => opened_ready, fun _ => rfl⟩
  | append_singleton xs x ih =>
    obtain ⟨taken, unread, h⟩ := ih
    rw [List.foldl_append, List.foldl_cons, List.foldl_nil]
    exact h.readByte x

theorem foldl_handleInputMissingData (chunks : List (List Byte)) :
    chunks.foldl (handleInputMissingData decryptRecv processIncoming) (opened start) =
      chunks.flatten.foldl (readByte decryptRecv processIncoming) (opened start) := by
  induction chunks using List.reverseRecOn with
  | nil => rfl
  | append_singleton cs c ih =>
    rw [List.foldl_append, List.foldl_cons, List.foldl_nil, ih, List.flatten_append,
      List.foldl_append, List.flatten_singleton]
    obtain ⟨_, _, h⟩ : ∃ taken unread, Reading decryptRecv processIncoming start _ _ taken unread :=
      reading_foldl cs.flatten
    exact handleInputMissingData_eq h.ready

/-- How a stream has been cut: into frames, an unfinished packet that has no more bytes than
announced, and what came after input was given up, for one of two reasons. -/
structure CutsUp (decryptRecv : σ → List Byte → List Byte × σ)
    (processIncoming : σ → WorldPacket → Bool × σ) (start : σ) (s : WorldSocket σ)
    (stream : List Byte) : Prop where
  bytes : ∃ unread, stream = s.frames.flatMap Frame.raw ++ s.raw ++ unread ∧
    (s.rejected = false → unread = [])
  cut : ∀ f ∈ s.frames, f.Cut
  accepted : s.rejected = false →
    ∃ st, Follows decryptRecv processIncoming start s.frames st ∧ Awaits decryptRecv st s
  givenUp : s.rejected = true → GivenUp decryptRecv processIncoming start s
  short : s.rejected = false → ∀ p, s.incoming = some p →
    p.data.length ≤ p.size ∧ p.size + 4 = p.header.size

theorem Reading.cutsUp {unread : List Byte}
    (h : Reading decryptRecv processIncoming start s stream taken unread) :
    CutsUp decryptRecv processIncoming start s stream := by
  have htracked := h.tracked
  refine ⟨⟨unread, ?_, h.all⟩, htracked.cut, htracked.accepted, htracked.givenUp, fun hr p hp => ?_⟩
  · rw [← htracked.taken, h.split]
  · obtain ⟨st, -, hawaits⟩ := htracked.accepted hr
    cases hawaits with
    | header hi _ _ =>
      rw [hi] at hp
      cases hp
    | data hp' _ _ _ _ hsize _ hle =>
      cases hp'.symm.trans hp
      exact ⟨hle, hsize⟩

/-- However a stream is split, the connection is in the same state after it: the packets that were
dispatched, whether input was given up, and all that is kept for the next chunk. -/
theorem framing_chunks (decryptRecv : σ → List Byte → List Byte × σ)
    (processIncoming : σ → WorldPacket → Bool × σ) (session : σ) (chunks : List (List Byte)) :
    chunks.foldl (handleInputMissingData decryptRecv processIncoming) (opened session) =
      (opened session).handleInputMissingData decryptRecv processIncoming chunks.flatten ∧
    CutsUp decryptRecv processIncoming session
      (chunks.foldl (handleInputMissingData decryptRecv processIncoming) (opened session))
      chunks.flatten := by
  rw [foldl_handleInputMissingData]
  refine ⟨(handleInputMissingData_eq fun _ => opened_ready).symm, ?_⟩
  obtain ⟨_, _, h⟩ : ∃ taken unread, Reading decryptRecv processIncoming session _ _ taken unread :=
    reading_foldl chunks.flatten
  exact h.cutsUp

/-- Two packets in three chunks, the second of which is refused; what follows is not read. -/
theorem framing_chunks_two :
    let s := ([[0, 5, 7], [0, 0, 0, 42, 0], [4, 9, 0, 0, 0, 1, 2]] : List (List Byte)).foldl
      (handleInputMissingData (fun st bytes => (bytes, st))
        fun (n : Nat) packet => (packet.contents != [], n + 1)) (opened 0)
    CutsUp (fun st bytes => (bytes, st)) (fun (n : Nat) packet => (packet.contents != [], n + 1)) 0 s
        [0, 5, 7, 0, 0, 0, 42, 0, 4, 9, 0, 0, 0, 1, 2] ∧
      s.frames.map Frame.packet = [⟨7, [42]⟩, ⟨9, []⟩] ∧ s.session = 2 ∧ s.rejected = true :=
  ⟨(framing_chunks _ _ 0 [[0, 5, 7], [0, 0, 0, 42, 0], [4, 9, 0, 0, 0, 1, 2]]).2, by decide, by decide,
    by decide⟩

end WorldSocket

end SkyfireBG
