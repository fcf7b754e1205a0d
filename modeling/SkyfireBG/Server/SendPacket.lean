import SkyfireBG.Lib.Run
import SkyfireBG.Lib.StreamCipher
import SkyfireBG.Server.WorldSocket

/-!
# SkyfireBG.Server.SendPacket

How `WorldSocket` sends packets: `SendPacket`, `handle_output` and `handle_output_queue`, with the
message queue of the socket.

The key stream of the cipher is a parameter.  `wire` and `accepted` record the bytes that the peer
was sent and the packets for which `SendPacket` returned 0.
-/

namespace SkyfireBG

/-- `ServerPktHeader`: `size` counts the payload and the opcode. -/
def serverPktHeader (size cmd : Nat) : List Byte :=
  (if size > 0x7FFF then [UInt8.ofNat (0x80 ||| (0xFF &&& (size >>> 16)))] else []) ++
    [UInt8.ofNat (0xFF &&& (size >>> 8)), UInt8.ofNat (0xFF &&& size),
      UInt8.ofNat (0xFF &&& cmd), UInt8.ofNat (0xFF &&& (cmd >>> 8))]

def WorldPacket.header (pct : WorldPacket) : List Byte :=
  serverPktHeader (pct.contents.length + 2) (pct.opcode % 2 ^ 16)

def OPCODE_NOT_FOUND : Nat := 0x10000

/-- `ACE_Message_Block`: what is left to be read, and the size it was made with. -/
structure MessageBlock where
  data : List Byte
  size : Nat
deriving DecidableEq

def HIGH_WATER_MARK : Nat := 8 * 1024 * 1024

def curBytes (queue : List MessageBlock) : Nat := (queue.map fun b => b.size).sum

/-- `is_full_i`. -/
def isFull (queue : List MessageBlock) : Bool := HIGH_WATER_MARK ≤ curBytes queue

/-- What `send` of the peer returns: the bytes it took, `EWOULDBLOCK`, or another error. -/
inductive SendResult where
  | sent (n : Nat)
  | wouldBlock
  | failed
deriving DecidableEq, Repr

structure OutSocket where
  crypt : CipherState
  outBuffer : List Byte := []
  queue : List MessageBlock := []
  closing : Bool := false
  wire : List Byte := []
  accepted : List WorldPacket := []
deriving DecidableEq

inductive OutEvent where
  /-- A packet; whether there is memory for a block that has to be queued. -/
  | send (pct : WorldPacket) (memory : Bool)
  /-- The peer is sent to, from the buffer and from the queue. -/
  | output (buffer queue : SendResult)
  | close
deriving DecidableEq

namespace OutSocket

variable (ks : Nat → Byte) (size : Nat) (s : OutSocket)

/-- `SendPacket`: whether it returned 0. -/
def sendPacket (pct : WorldPacket) (memory : Bool) : Bool × OutSocket :=
  if s.closing then (false, s)
  else if pct.opcode > OPCODE_NOT_FOUND then (true, s)
  else
    let (header, crypt) := cipher ks s.crypt pct.header
    let s := { s with crypt := crypt }
    if header.length + pct.contents.length ≤ size - s.outBuffer.length ∧ s.queue = [] then
      (true, { s with outBuffer := s.outBuffer ++ header ++ pct.contents })
    else if !memory then (false, s)
    else if isFull s.queue then (false, s)
    else
      (true, { s with queue := s.queue ++
        [{ data := header ++ pct.contents, size := header.length + pct.contents.length }] })

/-- `handle_output_queue`.  Where it returns -1 the socket is closed. -/
def handleOutputQueue (r : SendResult) : OutSocket :=
  match s.queue with
  | [] => s
  | mblk :: rest =>
    match r with
    | .failed => { s with queue := rest, closing := true }
    | .wouldBlock =>
      -- nothing is made of a failure of `enqueue_head` here
      if isFull rest then { s with queue := rest } else s
    | .sent n =>
      if n = 0 then { s with queue := rest, closing := true }
      else if n < mblk.data.length then
        let s := { s with wire := s.wire ++ mblk.data.take n }
        if isFull rest then { s with queue := rest, closing := true }
        else { s with queue := { mblk with data := mblk.data.drop n } :: rest }
      else { s with wire := s.wire ++ mblk.data, queue := rest }

def handleOutput (r queueResult : SendResult) : OutSocket :=
  if s.closing then s
  else if s.outBuffer = [] then s.handleOutputQueue queueResult
  else match r with
    | .failed => { s with closing := true }
    | .wouldBlock => s
    | .sent n =>
      if n = 0 then { s with closing := true }
      else if n < s.outBuffer.length then
        { s with wire := s.wire ++ s.outBuffer.take n, outBuffer := s.outBuffer.drop n }
      else
        ({ s with wire := s.wire ++ s.outBuffer, outBuffer := [] } : OutSocket).handleOutputQueue
          queueResult

def step : OutEvent → OutSocket
  | .send pct memory =>
    let (ok, s) := s.sendPacket ks size pct memory
    if ok then { s with accepted := s.accepted ++ [pct] } else s
  | .output r queueResult => s.handleOutput r queueResult
  | .close => { s with closing := true }

end OutSocket

/-- A packet of `size` bytes, its opcode among them, and what comes after it. -/
def readBody (size cmd : Nat) (rest : List Byte) : Option (WorldPacket × List Byte) :=
  if rest.length < size - 2 then none
  else some ({ opcode := cmd, contents := rest.take (size - 2) }, rest.drop (size - 2))

/-- The next packet: the first bit of its header says whether the size has three bytes. -/
def receivePacket (ks : Nat → Byte) (c : CipherState) (bytes : List Byte) :
    Option ((WorldPacket × List Byte) × CipherState) :=
  let (h, c₁) := cipher ks c (bytes.take 4)
  match h with
  | [a, b, x, y] =>
    if a.toNat < 0x80 then
      (readBody (a.toNat * 256 + b.toNat) (x.toNat + y.toNat * 256) (bytes.drop 4)).map fun r =>
        (r, c₁)
    else
      let (h', c₂) := cipher ks c₁ ((bytes.drop 4).take 1)
      match h' with
      | [z] =>
        (readBody ((a.toNat - 0x80) * 256 ^ 2 + b.toNat * 256 + x.toNat)
          (y.toNat + z.toNat * 256) (bytes.drop 5)).map fun r => (r, c₂)
      | _ => none
  | _ => none

def receive (ks : Nat → Byte) : CipherState → Nat → List Byte →
    Option (List WorldPacket × List Byte)
  | _, 0, bytes => some ([], bytes)
  | c, n + 1, bytes =>
    match receivePacket ks c bytes with
    | none => none
    | some ((pct, rest), c) => (receive ks c n rest).map fun r => (pct :: r.1, r.2)

def packetStream (ks : Nat → Byte) : CipherState → List WorldPacket → List Byte
  | _, [] => []
  | c, pct :: ps =>
    (cipher ks c pct.header).1 ++ pct.contents ++ packetStream ks (cipher ks c pct.header).2 ps

def cipherAfter (ks : Nat → Byte) (c : CipherState) (ps : List WorldPacket) : CipherState :=
  ps.foldl (fun c pct => (cipher ks c pct.header).2) c

/-!
## What is delivered

What the peer is sent.
-/

variable {ks : Nat → Byte} {c c₀ : CipherState} {pct : WorldPacket} {ps : List WorldPacket}
variable {rest : List Byte} {n size cmd : Nat}

/-! ## Headers -/

theorem toNat_low (n : Nat) : (UInt8.ofNat (0xFF &&& n)).toNat = n % 256 := by
  rw [UInt8.toNat_ofNat', Nat.and_comm, show (0xFF : Nat) = 2 ^ 8 - 1 from rfl,
    Nat.and_two_pow_sub_one_eq_mod, Nat.mod_mod]

theorem toNat_large (h : n < 128) : (UInt8.ofNat (0x80 ||| n)).toNat = 128 + n := by
  have hor : 0x80 ||| n = 128 + n := (Nat.two_pow_add_eq_or_of_lt (i := 7) h 1).symm
  rw [UInt8.toNat_ofNat', hor, Nat.mod_eq_of_lt (by omega)]

structure WorldPacket.Sendable (pct : WorldPacket) : Prop where
  size : pct.contents.length + 2 < 2 ^ 23
  opcode : pct.opcode < OPCODE_NOT_FOUND

instance : Decidable pct.Sendable :=
  decidable_of_iff (pct.contents.length + 2 < 2 ^ 23 ∧ pct.opcode < OPCODE_NOT_FOUND)
    ⟨fun h => ⟨h.1, h.2⟩, fun h => ⟨h.size, h.opcode⟩⟩

theorem readBody_contents {rest : List Byte} :
    readBody (pct.contents.length + 2) pct.opcode (pct.contents ++ rest) = some (pct, rest) := by
  rw [readBody, if_neg (by simp), Nat.add_sub_cancel, List.take_left, List.drop_left]

theorem header_short (hsize : size ≤ 0x7FFF) (hcmd : cmd < 2 ^ 16) :
    ∃ a b x y : Byte, serverPktHeader size cmd = [a, b, x, y] ∧ a.toNat < 0x80 ∧
      a.toNat * 256 + b.toNat = size ∧ x.toNat + y.toNat * 256 = cmd := by
  refine ⟨_, _, _, _, by rw [serverPktHeader, if_neg (by omega)]; rfl, ?_, ?_, ?_⟩ <;>
    simp only [toNat_low, Nat.shiftRight_eq_div_pow] <;> omega

theorem header_long (hsize : size > 0x7FFF) (hlt : size < 2 ^ 23) (hcmd : cmd < 2 ^ 16) :
    ∃ a b x y z : Byte, serverPktHeader size cmd = [a, b, x, y, z] ∧ ¬ a.toNat < 0x80 ∧
      (a.toNat - 0x80) * 256 ^ 2 + b.toNat * 256 + x.toNat = size ∧
      y.toNat + z.toNat * 256 = cmd := by
  have hand : 0xFF &&& (size / 2 ^ 16) = size / 2 ^ 16 := by
    rw [Nat.and_comm, show (0xFF : Nat) = 2 ^ 8 - 1 from rfl, Nat.and_two_pow_sub_one_eq_mod,
      Nat.mod_eq_of_lt (by omega)]
  have hhigh : (UInt8.ofNat (0x80 ||| (0xFF &&& (size / 2 ^ 16)))).toNat = 128 + size / 2 ^ 16 := by
    rw [hand, toNat_large (by omega)]
  refine ⟨_, _, _, _, _, by rw [serverPktHeader, if_pos hsize]; rfl, ?_, ?_, ?_⟩ <;>
    simp only [hhigh, toNat_low, Nat.shiftRight_eq_div_pow] <;> omega

theorem receivePacket_short {a b x y : Byte} (ha : a.toNat < 0x80) :
    receivePacket ks c ((cipher ks c [a, b, x, y]).1 ++ rest) =
      (readBody (a.toNat * 256 + b.toNat) (x.toNat + y.toNat * 256) rest).map fun r =>
        (r, (cipher ks c [a, b, x, y]).2) := by
  have hlen : (cipher ks c [a, b, x, y]).1.length = 4 := length_cipher
  have htake : ((cipher ks c [a, b, x, y]).1 ++ rest).take 4 = (cipher ks c [a, b, x, y]).1 := by
    rw [← hlen, List.take_left]
  have hdrop : ((cipher ks c [a, b, x, y]).1 ++ rest).drop 4 = rest := by
    rw [← hlen, List.drop_left]
  simp only [receivePacket, htake, hdrop, cipher_cipher, if_pos ha]

theorem receivePacket_long {a b x y z : Byte} (ha : ¬ a.toNat < 0x80) :
    receivePacket ks c ((cipher ks c [a, b, x, y, z]).1 ++ rest) =
      (readBody ((a.toNat - 0x80) * 256 ^ 2 + b.toNat * 256 + x.toNat) (y.toNat + z.toNat * 256)
        rest).map fun r => (r, (cipher ks c [a, b, x, y, z]).2) := by
  -- four bytes are read first
  obtain ⟨u, hu⟩ : ∃ u, cipher ks c [a, b, x, y] = u := ⟨_, rfl⟩
  obtain ⟨v, hv⟩ : ∃ v, cipher ks u.2 [z] = v := ⟨_, rfl⟩
  have hall : cipher ks c [a, b, x, y, z] = (u.1 ++ v.1, v.2) := by
    rw [← hv, ← hu]
    rw [show [a, b, x, y, z] = [a, b, x, y] ++ [z] from rfl, cipher_append]
  have hfour : u.1.length = 4 := hu ▸ length_cipher
  have hone : v.1.length = 1 := hv ▸ length_cipher
  have htake : (u.1 ++ (v.1 ++ rest)).take 4 = u.1 := by
    rw [← hfour, List.take_left]
  have hdrop : (u.1 ++ (v.1 ++ rest)).drop 4 = v.1 ++ rest := by
    rw [← hfour, List.drop_left]
  have htake' : (v.1 ++ rest).take 1 = v.1 := by
    rw [← hone, List.take_left]
  have hdrop' : (u.1 ++ (v.1 ++ rest)).drop 5 = rest := by
    rw [show (5 : Nat) = 4 + 1 from rfl, ← List.drop_drop, hdrop, ← hone, List.drop_left]
  have hback : cipher ks c u.1 = ([a, b, x, y], u.2) := by
    rw [← hu, cipher_cipher]
  have hback' : cipher ks u.2 v.1 = ([z], v.2) := by
    rw [← hv, cipher_cipher]
  rw [hall, List.append_assoc]
  simp only [receivePacket, htake, hdrop, htake', hdrop', hback, hback', if_neg ha]

theorem receivePacket_eq (h : pct.Sendable) :
    receivePacket ks c ((cipher ks c pct.header).1 ++ pct.contents ++ rest) =
      some ((pct, rest), (cipher ks c pct.header).2) := by
  have hopcode : pct.opcode < 2 ^ 16 := h.opcode
  have hbody : ∀ c' : CipherState, (readBody (pct.contents.length + 2) pct.opcode
      (pct.contents ++ rest)).map (fun r => (r, c')) = some ((pct, rest), c') := by
    intro c'
    rw [readBody_contents]
    rfl
  rw [List.append_assoc, WorldPacket.header, Nat.mod_eq_of_lt hopcode]
  by_cases hlarge : pct.contents.length + 2 > 0x7FFF
  · obtain ⟨a, b, x, y, z, hheader, ha, hsize, hcmd⟩ := header_long hlarge h.size hopcode
    rw [hheader, receivePacket_long ha, hsize, hcmd, hbody]
  · obtain ⟨a, b, x, y, hheader, ha, hsize, hcmd⟩ := header_short (Nat.not_lt.mp hlarge) hopcode
    rw [hheader, receivePacket_short ha, hsize, hcmd, hbody]

theorem receive_packetStream (h : ∀ pct ∈ ps, pct.Sendable) :
    receive ks c ps.length (packetStream ks c ps) = some (ps, []) := by
  induction ps generalizing c with
  | nil => rfl
  | cons pct ps ih =>
    rw [List.length_cons, receive, packetStream, receivePacket_eq (h pct List.mem_cons_self)]
    simp only [ih fun p hp => h p (.tail _ hp)]
    rfl

theorem packetStream_snoc : packetStream ks c (ps ++ [pct]) =
    packetStream ks c ps ++ (cipher ks (cipherAfter ks c ps) pct.header).1 ++ pct.contents := by
  induction ps generalizing c with
  | nil => simp [packetStream, cipherAfter]
  | cons p ps ih =>
    rw [List.cons_append, packetStream, packetStream, ih]
    simp only [List.append_assoc]
    rfl

theorem cipherAfter_snoc : cipherAfter ks c (ps ++ [pct]) =
    (cipher ks (cipherAfter ks c ps) pct.header).2 := by
  rw [cipherAfter, List.foldl_append]
  rfl

namespace OutSocket

variable {s : OutSocket} {r queueResult : SendResult} {memory : Bool}

structure Delivered (ks : Nat → Byte) (c₀ : CipherState) (s : OutSocket) : Prop where
  inOrder : s.wire <+: packetStream ks c₀ s.accepted
  flushed : s.closing = false → s.outBuffer = [] → s.queue = [] →
    s.wire = packetStream ks c₀ s.accepted
  decoded : receive ks c₀ s.accepted.length (packetStream ks c₀ s.accepted) = some (s.accepted, [])

def pending (s : OutSocket) : List Byte := s.outBuffer ++ s.queue.flatMap fun b => b.data

/-- The invariant: while the socket is open nothing has been lost, and the cipher is where the
accepted packets have brought it. -/
structure Kept (ks : Nat → Byte) (c₀ : CipherState) (s : OutSocket) : Prop where
  sendable : ∀ pct ∈ s.accepted, pct.Sendable
  isOpen : s.closing = false → s.wire ++ s.pending = packetStream ks c₀ s.accepted ∧
    s.crypt = cipherAfter ks c₀ s.accepted
  closed : s.wire <+: packetStream ks c₀ s.accepted

theorem Kept.delivered (h : s.Kept ks c₀) : s.Delivered ks c₀ where
  inOrder := h.closed
  flushed := fun hopen hbuffer hqueue => by
    have hall := (h.isOpen hopen).1
    rw [pending, hbuffer, hqueue] at hall
    simpa using hall
  decoded := receive_packetStream h.sendable

theorem Kept.shut {s' : OutSocket} (h : s.Kept ks c₀) (hopen : s.closing = false)
    (hclosing : s'.closing = true) (haccepted : s'.accepted = s.accepted)
    (hwire : s'.wire <+: s.wire ++ s.pending) : s'.Kept ks c₀ where
  sendable := haccepted ▸ h.sendable
  isOpen := fun hno => by
    rw [hclosing] at hno
    cases hno
  closed := by
    rw [haccepted, ← (h.isOpen hopen).1]
    exact hwire

theorem Kept.move {s' : OutSocket} (h : s.Kept ks c₀) (hopen : s.closing = false)
    (haccepted : s'.accepted = s.accepted) (hcrypt : s'.crypt = s.crypt)
    (hwire : s'.wire ++ s'.pending = s.wire ++ s.pending) : s'.Kept ks c₀ where
  sendable := haccepted ▸ h.sendable
  isOpen := fun _ => by
    rw [haccepted, hcrypt, hwire]
    exact h.isOpen hopen
  closed := by
    rw [haccepted, ← (h.isOpen hopen).1, ← hwire]
    exact List.prefix_append _ _

def Roomy (size : Nat) (s : OutSocket) : OutEvent → Prop
  | .send pct memory => s.closing = false → pct.Sendable ∧
      (pct.header.length + pct.contents.length ≤ size - s.outBuffer.length ∧ s.queue = [] ∨
        memory = true ∧ isFull s.queue = false)
  | .output _ queueResult => s.closing = false → queueResult = .wouldBlock →
      isFull s.queue.tail = false
  | .close => True

instance (s : OutSocket) (e : OutEvent) : Decidable (Roomy size s e) := by
  cases e <;> unfold Roomy <;> infer_instance

theorem Kept.send (h : s.Kept ks c₀) (hok : Roomy size s (.send pct memory)) :
    (s.step ks size (.send pct memory)).Kept ks c₀ := by
  cases hclosing : s.closing with
  | true =>
    have hsend : s.sendPacket ks size pct memory = (false, s) := by
      rw [sendPacket, if_pos hclosing]
    simp only [step, hsend]
    exact h
  | false =>
    obtain ⟨hsendable, hroom⟩ := hok hclosing
    obtain ⟨hall, hcrypt⟩ := h.isOpen hclosing
    have hnot : ¬ pct.opcode > OPCODE_NOT_FOUND := Nat.not_lt.mpr (Nat.le_of_lt hsendable.opcode)
    have hgood : ∀ p ∈ s.accepted ++ [pct], p.Sendable := by
      intro p hp
      rcases List.mem_append.mp hp with hp | hp
      · exact h.sendable p hp
      · rw [List.mem_singleton.mp hp]
        exact hsendable
    have hstream : packetStream ks c₀ (s.accepted ++ [pct]) =
        s.wire ++ s.pending ++ (cipher ks s.crypt pct.header).1 ++ pct.contents := by
      rw [packetStream_snoc, hall, hcrypt]
    have hafter : (cipher ks s.crypt pct.header).2 = cipherAfter ks c₀ (s.accepted ++ [pct]) := by
      rw [cipherAfter_snoc, hcrypt]
    have hprefix : s.wire <+: packetStream ks c₀ (s.accepted ++ [pct]) := by
      rw [hstream]
      simp only [List.append_assoc]
      exact List.prefix_append _ _
    simp only [step, sendPacket, hclosing, Bool.false_eq_true, if_false, if_neg hnot, length_cipher]
    by_cases hbuffer : pct.header.length + pct.contents.length ≤ size - s.outBuffer.length ∧
        s.queue = []
    · rw [if_pos hbuffer]
      simp only [if_true]
      refine ⟨hgood, fun _ => ⟨?_, hafter⟩, hprefix⟩
      rw [hstream]
      simp only [pending, hbuffer.2, List.flatMap_nil, List.append_nil, List.append_assoc]
    · obtain ⟨hmemory, hfull⟩ := hroom.resolve_left hbuffer
      rw [if_neg hbuffer, hmemory, hfull]
      simp only [Bool.not_true, Bool.false_eq_true, if_false, if_true]
      refine ⟨hgood, fun _ => ⟨?_, hafter⟩, hprefix⟩
      rw [hstream]
      simp only [pending, List.flatMap_append,
        List.flatMap_cons, List.flatMap_nil, List.append_nil, List.append_assoc]

theorem Kept.handleOutputQueue (h : s.Kept ks c₀) (hopen : s.closing = false)
    (hbuffer : s.outBuffer = [])
    (hok : queueResult = .wouldBlock → isFull s.queue.tail = false) :
    (s.handleOutputQueue queueResult).Kept ks c₀ := by
  unfold OutSocket.handleOutputQueue
  cases hqueue : s.queue with
  | nil => exact h
  | cons mblk rest =>
    have hpending : s.pending = mblk.data ++ rest.flatMap fun b => b.data := by
      rw [pending, hbuffer, hqueue]
      rfl
    cases queueResult with
    | failed => exact h.shut hopen rfl rfl (List.prefix_append _ _)
    | wouldBlock =>
      have hfree := hok rfl
      rw [hqueue, List.tail_cons] at hfree
      simp only [hfree, Bool.false_eq_true, if_false]
      exact h
    | sent n =>
      simp only
      split
      · exact h.shut hopen rfl rfl (List.prefix_append _ _)
      · split
        · have htake : s.wire ++ mblk.data.take n <+: s.wire ++ s.pending := by
            rw [hpending]
            refine (List.prefix_append_right_inj _).mpr ?_
            exact (List.take_prefix _ _).trans (List.prefix_append _ _)
          split
          · exact h.shut hopen rfl rfl htake
          · refine h.move hopen rfl rfl ?_
            rw [hpending]
            simp only [pending, hbuffer, List.nil_append, List.flatMap_cons, List.append_assoc,
              ← List.append_assoc (List.take n mblk.data), List.take_append_drop]
        · refine h.move hopen rfl rfl ?_
          rw [hpending]
          simp only [pending, hbuffer, List.nil_append, List.append_assoc]

theorem Kept.handleOutput (h : s.Kept ks c₀) (hok : Roomy size s (.output r queueResult)) :
    (s.handleOutput r queueResult).Kept ks c₀ := by
  unfold OutSocket.handleOutput
  by_cases hclosing : s.closing = true
  · rw [if_pos hclosing]
    exact h
  · have hopen : s.closing = false := Bool.eq_false_iff.mpr hclosing
    rw [if_neg hclosing]
    split
    · rename_i hbuffer
      exact h.handleOutputQueue hopen hbuffer (hok hopen)
    · cases r with
      | failed => exact h.shut hopen rfl rfl (List.prefix_append _ _)
      | wouldBlock => exact h
      | sent n =>
        simp only
        split
        · exact h.shut hopen rfl rfl (List.prefix_append _ _)
        · split
          · refine h.move hopen rfl rfl ?_
            simp only [pending, List.append_assoc, ← List.append_assoc (List.take n s.outBuffer),
              List.take_append_drop]
          · have hmoved : ({ s with wire := s.wire ++ s.outBuffer, outBuffer := [] } :
                OutSocket).Kept ks c₀ := by
              refine h.move hopen rfl rfl ?_
              simp only [pending, List.nil_append, List.append_assoc]
            exact hmoved.handleOutputQueue hopen rfl (hok hopen)

theorem Kept.step {e : OutEvent} (h : s.Kept ks c₀) (hok : Roomy size s e) :
    (s.step ks size e).Kept ks c₀ := by
  cases e with
  | send pct memory => exact h.send hok
  | output r queueResult => exact h.handleOutput hok
  | close =>
    exact {
      sendable := h.sendable
      isOpen := fun hno => nomatch hno
      closed := h.closed }

def opened (c₀ : CipherState) : OutSocket := { crypt := c₀ }

/-- While the queue has room the peer is sent the accepted packets, in order and each whole, and the
other side reads them. -/
theorem packets_delivered {ks : Nat → Byte} {size : Nat} {c₀ : CipherState} {es : List OutEvent}
    {s : OutSocket} (hrun : Run (fun s e => s.step ks size e) (Roomy size) (opened c₀) es s) :
    s.Delivered ks c₀ := by
  have hstart : (opened c₀).Kept ks c₀ :=
    { sendable := fun _ hp => (nomatch hp)
      isOpen := fun _ => ⟨rfl, rfl⟩
      closed := List.prefix_rfl }
  exact (hrun.invariant (fun _ _ h hok => h.step hok) hstart).delivered

/-- One packet in the buffer and one in the queue, both taken in parts. -/
theorem packets_delivered_parts : (List.foldl (fun s e => s.step UInt8.ofNat 10 e) (opened (some 0))
    [.send ⟨0x33B, [1, 2, 3, 4]⟩ true, .send ⟨0x33C, [5]⟩ true, .output (.sent 3) .wouldBlock,
      .output (.sent 5) (.sent 2), .output .wouldBlock (.sent 3)]).Delivered UInt8.ofNat (some 0) :=
  @packets_delivered UInt8.ofNat 10 (some 0) _ _ (Admitted.run (by decide +kernel))

def Described : OutEvent → Prop
  | .send pct memory => pct.Sendable ∧ memory = true
  | _ => True

theorem sendPacket_full (ks : Nat → Byte) (size : Nat) (pct : WorldPacket)
    (hopen : s.closing = false) (hopcode : ¬ pct.opcode > OPCODE_NOT_FOUND) (hqueue : s.queue ≠ [])
    (hfull : isFull s.queue) :
    s.sendPacket ks size pct true =
      (false, { s with crypt := (cipher ks s.crypt pct.header).2 }) := by
  simp [sendPacket, hopen, hopcode, hqueue, hfull]

theorem refused {big small : WorldPacket} (hbig : big.contents.length = 8388603)
    (hopcode : big.opcode = 1) (hsmall : small.opcode = 2) :
    List.foldl (fun s e => s.step ks 65536 e) (opened (some 0))
      [.send big true, .send small true] =
      { crypt := some (5 + small.header.length), accepted := [big]
        queue := [{ data := xorStream ks 0 big.header ++ big.contents, size := 8388608 }] } := by
  have hheader : big.header.length = 5 := by
    simp [WorldPacket.header, serverPktHeader, hbig]
  have hfirst : (opened (some 0)).step ks 65536 (.send big true) =
      { crypt := some 5, accepted := [big]
        queue := [{ data := xorStream ks 0 big.header ++ big.contents, size := 8388608 }] } := by
    simp [step, sendPacket, opened, hopcode, OPCODE_NOT_FOUND, hbig, hheader, cipher, isFull,
      curBytes, HIGH_WATER_MARK]
  have hsecond := sendPacket_full ks 65536 small
    (s := { crypt := some 5, accepted := [big]
            queue := [{ data := xorStream ks 0 big.header ++ big.contents, size := 8388608 }] })
    rfl (by rw [hsmall]; decide) (by simp) (by simp [isFull, curBytes, HIGH_WATER_MARK])
  simp only [List.foldl_cons, List.foldl_nil, hfirst]
  simp only [step, hsecond]
  rfl

theorem afterRefused {big small next : WorldPacket} (hbig : big.contents.length = 8388603)
    (hopcode : big.opcode = 1) (hsmall : small = ⟨2, []⟩) (hnext : next = ⟨3, []⟩) :
    List.foldl (fun s e => s.step ks 65536 e) (opened (some 0))
      ([.send big true, .send small true] ++ [.output .wouldBlock (.sent 8388608),
        .send next true, .output (.sent 4) .wouldBlock]) =
      { crypt := some 13, accepted := [big, next]
        wire := xorStream ks 0 big.header ++ big.contents ++ xorStream ks 9 next.header } := by
  have hheader : big.header.length = 5 := by
    simp [WorldPacket.header, serverPktHeader, hbig]
  have hfour : small.header.length = 4 := by rw [hsmall]; rfl
  have hfour' : next.header.length = 4 := by rw [hnext]; rfl
  have hlow : next.opcode = 3 := by rw [hnext]
  have hempty : next.contents = [] := by rw [hnext]
  have hne : xorStream ks 9 next.header ≠ [] := by
    rw [← List.length_pos_iff, length_xorStream, hfour']
    decide
  rw [List.foldl_append, refused hbig hopcode (by rw [hsmall]), hfour]
  simp [step, handleOutput, handleOutputQueue, sendPacket, hbig, hheader, hfour', hlow, hempty,
    OPCODE_NOT_FOUND, cipher, hne]

theorem packets_delivered_queueFull : ¬ ∀ (ks : Nat → Byte) (size : Nat) (c₀ : CipherState)
    (es : List OutEvent) (s : OutSocket),
    Run (fun s e => s.step ks size e) (fun _ e => Described e) (opened c₀) es s →
      s.Delivered ks c₀ := by
  intro hall
  obtain ⟨bs, hbs⟩ : ∃ bs : List Byte, bs.length = 8388603 := ⟨_, List.length_replicate (a := 0)⟩
  have hbig : WorldPacket.Sendable ⟨1, bs⟩ :=
      ⟨by rw [hbs]; decide, Nat.one_lt_two_pow (n := 16) (by decide)⟩
  have hadmitted : Admitted (fun s e => s.step UInt8.ofNat 65536 e) (fun _ e => Described e)
      (opened (some 0)) ([.send ⟨1, bs⟩ true, .send ⟨2, []⟩ true] ++
        [.output .wouldBlock (.sent 8388608), .send ⟨3, []⟩ true,
          .output (.sent 4) .wouldBlock]) :=
    ⟨⟨hbig, rfl⟩, ⟨by decide, rfl⟩, trivial, ⟨by decide, rfl⟩, trivial, trivial⟩
  have hdelivered := hall _ _ _ _ _ hadmitted.run
  rw [afterRefused hbs rfl rfl rfl] at hdelivered
  have hheader : (WorldPacket.header ⟨1, bs⟩).length = 5 := by
    simp [WorldPacket.header, serverPktHeader, hbs]
  -- the third header was ciphered four bytes too late
  have hnext : xorStream UInt8.ofNat 9 (WorldPacket.header ⟨3, []⟩) =
      xorStream UInt8.ofNat 5 (WorldPacket.header ⟨3, []⟩) := by
    have hstream := hdelivered.flushed rfl rfl rfl
    simp only [packetStream, cipher, hheader, Nat.zero_add, List.append_nil] at hstream
    exact List.append_cancel_left hstream
  exact absurd hnext (by decide)

end OutSocket

end SkyfireBG
