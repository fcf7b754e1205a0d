import SkyfireBG.Lib.OrdMap
import SkyfireBG.Lib.Run

/-!
# SkyfireBG.Ticket.Mgr

Tickets, their table, and the operations of `TicketMgr` on both.

The statements take effect in the order in which they are issued.  `none` is a use of an element
that was erased.
-/

namespace SkyfireBG

/-- A row of `gm_tickets`; the rows are kept by `ticketId`. -/
structure TicketRow where
  guid : Nat
  message : List Char
  closedBy : Int
deriving DecidableEq, Repr

structure GmTicket where
  id : Nat
  playerGuid : Nat
  message : List Char
  /-- Zero is open, -1 the console, else the guid of a player. -/
  closedBy : Int := 0
deriving DecidableEq, Repr

namespace GmTicket

def isGuidHaveEnPart (guid : Nat) : Bool :=
  !([0x4000, 0x0000, 0xF100, 0xF101, 0x1F50].contains (guid / 2 ^ 48 % 2 ^ 16))

/-- `GUID_LOPART`. -/
def loPart (guid : Nat) : Nat := if isGuidHaveEnPart guid then guid % 2 ^ 24 else guid % 2 ^ 32

/-- What `SaveToDB` writes for `_closedBy`. -/
def storedClosedBy (closedBy : Int) : Int :=
  ((loPart (closedBy % 2 ^ 64).toNat : Nat) : Int).bmod (2 ^ 32)

variable (t : GmTicket)

def isClosed : Bool := t.closedBy ≠ 0

def isFromPlayer (guid : Nat) : Bool := guid = t.playerGuid

def setClosedBy (value : Int) : GmTicket := { t with closedBy := value }

/-- The row that `SaveToDB` writes. -/
def row : TicketRow where
  guid := loPart t.playerGuid
  message := t.message
  closedBy := storedClosedBy t.closedBy

def loadFromDB (ticketId : Nat) (r : TicketRow) : GmTicket where
  id := ticketId
  playerGuid := r.guid
  message := r.message
  closedBy := r.closedBy

end GmTicket

structure TicketMgr where
  ticketList : OrdMap Nat GmTicket := ∅
  lastTicketId : Nat := 0
  openTicketCount : Nat := 0
  rows : OrdMap Nat TicketRow := ∅

namespace TicketMgr

variable (s : TicketMgr) (ticketId : Nat)

/-- `GmTicket::SaveToDB`. -/
def save (ticket : GmTicket) : TicketMgr := { s with rows := s.rows.set ticket.id ticket.row }

def getTicket : Option GmTicket := s.ticketList.find? ticketId

def getTicketByPlayer (playerGuid : Nat) : Option GmTicket :=
  (s.ticketList.entries.map Prod.snd).find? fun t => t.isFromPlayer playerGuid && !t.isClosed

def generateTicketId : Nat := (s.lastTicketId + 1) % 2 ^ 32

def addTicket (ticket : GmTicket) : TicketMgr :=
  { s with
    ticketList := s.ticketList.set ticket.id ticket
    openTicketCount :=
      if ticket.isClosed then s.openTicketCount else (s.openTicketCount + 1) % 2 ^ 32 }.save ticket

/-- `HandleGMTicketCreateOpcode`. -/
def handleCreate (playerGuid : Nat) (message : List Char) : TicketMgr :=
  if (s.getTicketByPlayer playerGuid).isNone then
    { s with lastTicketId := s.generateTicketId }.addTicket
      { id := s.generateTicketId, playerGuid := playerGuid, message := message }
  else s

def closeTicket (source : Int) : TicketMgr :=
  match s.getTicket ticketId with
  | some ticket =>
    let ticket := ticket.setClosedBy source
    { s with
      ticketList := s.ticketList.set ticketId ticket
      openTicketCount :=
        if source ≠ 0 then (s.openTicketCount + 2 ^ 32 - 1) % 2 ^ 32
        else s.openTicketCount }.save ticket
  | none => s

def removeTicket : TicketMgr :=
  match s.getTicket ticketId with
  | some ticket =>
    { s with
      ticketList := s.ticketList.erase ticketId
      rows := s.rows.erase ticket.id }
  | none => s

/-- The loop of `ResetTickets`: `RemoveTicket` erases the element that `++itr` then goes on from. -/
def resetLoop : List (Nat × GmTicket) → Option Unit
  | [] => some ()
  | (_, ticket) :: rest => if ticket.isClosed then none else resetLoop rest

/-- `ResetTickets`, whose statement empties the table. -/
def resetTickets : Option TicketMgr := do
  resetLoop s.ticketList.entries
  return { s with lastTicketId := 0, rows := ∅ }

/-- One row in `LoadTickets`. -/
def loadTicket (e : Nat × TicketRow) : TicketMgr :=
  let ticket := GmTicket.loadFromDB e.1 e.2
  { s with
    openTicketCount :=
      if ticket.isClosed then s.openTicketCount else (s.openTicketCount + 1) % 2 ^ 32
    lastTicketId := if s.lastTicketId < ticket.id then ticket.id else s.lastTicketId
    ticketList := s.ticketList.set ticket.id ticket }

def loadTickets : TicketMgr :=
  s.rows.entries.foldl loadTicket
    { s with ticketList := ∅, lastTicketId := 0, openTicketCount := 0 }

end TicketMgr

inductive TicketOp where
  | create (playerGuid : Nat) (message : List Char)
  /-- With the source zero the ticket is opened again. -/
  | close (ticketId : Nat) (source : Int)
  | remove (ticketId : Nat)
  | reset
  | reload
deriving DecidableEq, Repr

def TicketMgr.act (s : TicketMgr) : TicketOp → Option TicketMgr
  | .create playerGuid message => some (s.handleCreate playerGuid message)
  | .close ticketId source => some (s.closeTicket ticketId source)
  | .remove ticketId => some (s.removeTicket ticketId)
  | .reset => s.resetTickets
  | .reload => some s.loadTickets

/-!
## Runs

What the list of tickets, its counters and the table have to do with each other.
-/

structure Stored (t : GmTicket) (r : TicketRow) : Prop where
  guid : r.guid = GmTicket.loPart t.playerGuid
  message : r.message = t.message
  closed : r.closedBy = 0 ↔ t.closedBy = 0

namespace TicketMgr

variable (s : TicketMgr)

def openIn (m : OrdMap Nat GmTicket) : Nat := m.countP (fun t => !t.isClosed)

def openTickets : Nat := openIn s.ticketList

/-- The count is right, the next id is free, and the rows are those of the listed tickets. -/
structure Agreed : Prop where
  count : s.openTicketCount = s.openTickets
  fresh : s.getTicket s.generateTicketId = none
  rows : ∀ id, Option.Rel Stored (s.getTicket id) (s.rows.find? id)

/-- An id is left for a new ticket, a ticket is open when it is closed or opened, closed when it is
removed, and at a reset there is no ticket. -/
def Meets : TicketOp → Prop
  | .create playerGuid _ =>
    (s.getTicketByPlayer playerGuid).isSome = true ∨ s.lastTicketId + 1 < 2 ^ 32
  | .close ticketId source => ∀ t, s.getTicket ticketId = some t →
      t.isClosed = false ∧ (GmTicket.storedClosedBy source = 0 ↔ source = 0)
  | .remove ticketId => ∀ t, s.getTicket ticketId = some t → t.isClosed = true
  | .reset => ∀ id, s.getTicket id = none
  | .reload => True

structure Counted : Prop where
  id : ∀ id t, s.getTicket id = some t → t.id = id ∧ 0 < id ∧ id ≤ s.lastTicketId
  last_lt : s.lastTicketId < 2 ^ 32
  count : s.openTicketCount = s.openTickets

structure Kept : Prop extends Counted s where
  rows : ∀ id, Option.Rel Stored (s.getTicket id) (s.rows.find? id)

variable {s} {ticketId id : Nat} {t : GmTicket} {op : TicketOp}

theorem loPart_lt (guid : Nat) : GmTicket.loPart guid < 2 ^ 32 := by
  rw [GmTicket.loPart]
  split <;> omega

theorem loPart_of_lt {guid : Nat} (h : guid < 2 ^ 32) : GmTicket.loPart guid = guid := by
  have hhi : guid / 2 ^ 48 % 2 ^ 16 = 0 := by omega
  rw [GmTicket.loPart, GmTicket.isGuidHaveEnPart, hhi]
  exact Nat.mod_eq_of_lt h

theorem storedClosedBy_zero : GmTicket.storedClosedBy 0 = 0 := by decide

theorem stored_loadFromDB {r : TicketRow} (h : r.guid < 2 ^ 32) (id : Nat) :
    Stored (GmTicket.loadFromDB id r) r :=
  ⟨(loPart_of_lt h).symm, rfl, Iff.rfl⟩

theorem openIn_le {m : OrdMap Nat GmTicket} {n : Nat}
    (h : ∀ k v, m.find? k = some v → 0 < k ∧ k ≤ n) : openIn m ≤ n :=
  OrdMap.countP_le_size.trans (OrdMap.size_le_of_keys h)

theorem Counted.openTickets_le (h : Counted s) : s.openTickets ≤ s.lastTicketId :=
  openIn_le fun k v hkv => (h.id k v hkv).2

theorem Counted.fresh (h : Counted s) : s.getTicket s.generateTicketId = none := by
  cases hf : s.getTicket s.generateTicketId with
  | none => rfl
  | some t =>
    obtain ⟨-, hpos, hle⟩ := h.id _ t hf
    have hlast := h.last_lt
    unfold generateTicketId at hpos hle
    omega

theorem Kept.agreed (h : Kept s) : s.Agreed := ⟨h.count, h.fresh, h.rows⟩

theorem ite_isClosed (t : GmTicket) :
    (if t.isClosed then 0 else 1) = if (!t.isClosed) = true then 1 else 0 := by
  cases t.isClosed <;> rfl

theorem openIn_set_new {m : OrdMap Nat GmTicket} (h : m.find? id = none) :
    openIn (m.set id t) = openIn m + if t.isClosed then 0 else 1 := by
  rw [ite_isClosed]
  exact OrdMap.countP_set_of_none h

theorem openIn_set {m : OrdMap Nat GmTicket} (h : m.find? id = some t) (t' : GmTicket) :
    openIn (m.set id t') + (if t.isClosed then 0 else 1) =
      openIn m + if t'.isClosed then 0 else 1 := by
  rw [ite_isClosed, ite_isClosed]
  exact OrdMap.countP_set_of_some h

theorem openIn_erase {m : OrdMap Nat GmTicket} (h : m.find? id = some t) :
    openIn (m.erase id) + (if t.isClosed then 0 else 1) = openIn m := by
  rw [ite_isClosed]
  exact OrdMap.countP_erase h

theorem isClosed_setClosedBy (t : GmTicket) (source : Int) :
    (t.setClosedBy source).isClosed = decide (source ≠ 0) := rfl

theorem stored_row (h : GmTicket.storedClosedBy t.closedBy = 0 ↔ t.closedBy = 0) :
    Stored t t.row := by
  refine ⟨rfl, rfl, ?_⟩
  simpa only [GmTicket.row] using h

theorem loadTicket_lastTicketId (e : Nat × TicketRow) :
    (s.loadTicket e).lastTicketId = max s.lastTicketId e.1 := by
  have hid : (GmTicket.loadFromDB e.1 e.2).id = e.1 := rfl
  simp only [TicketMgr.loadTicket]
  split <;> omega

theorem Counted.list {s' : TicketMgr} (h : Counted s) (hnew : s.getTicket t.id = none)
    (hpos : 0 < t.id) (hlist : s'.ticketList = s.ticketList.set t.id t)
    (hlast : s'.lastTicketId = max s.lastTicketId t.id) (hlt : t.id < 2 ^ 32)
    (hopen : s'.openTicketCount =
      if t.isClosed then s.openTicketCount else (s.openTicketCount + 1) % 2 ^ 32) :
    Counted s' := by
  have hbefore := h.last_lt
  have hid : ∀ id t', s'.getTicket id = some t' → t'.id = id ∧ 0 < id ∧ id ≤ s'.lastTicketId := by
    intro id t' hf
    rw [getTicket, hlist] at hf
    rcases OrdMap.find?_set_eq_some.mp hf with ⟨rfl, rfl⟩ | ⟨-, hf⟩
    · exact ⟨rfl, hpos, by omega⟩
    · obtain ⟨heq, h0, hle⟩ := h.id id t' hf
      exact ⟨heq, h0, by omega⟩
  refine ⟨hid, by omega, ?_⟩
  have hle : s'.openTickets ≤ s'.lastTicketId :=
    openIn_le fun k v hkv => (hid k v hkv).2
  have hcount : s'.openTickets = s.openTickets + if t.isClosed then 0 else 1 := by
    rw [openTickets, hlist]
    exact openIn_set_new hnew
  have hs := h.count
  rw [hopen]
  cases hc : t.isClosed with
  | true =>
    rw [hc, if_pos rfl] at hcount
    rw [if_pos rfl]
    omega
  | false =>
    rw [hc, if_neg (by simp)] at hcount
    rw [if_neg (by simp), Nat.mod_eq_of_lt (by omega)]
    omega

theorem Kept.handleCreate (h : Kept s) {playerGuid : Nat} {message : List Char}
    (hm : s.Meets (.create playerGuid message)) : Kept (s.handleCreate playerGuid message) := by
  rw [TicketMgr.handleCreate]
  split
  swap
  · exact h
  next hnone =>
  have hlast : s.lastTicketId + 1 < 2 ^ 32 := by
    rcases hm with hsome | hlt
    · rw [Option.isNone_iff_eq_none.mp hnone] at hsome
      cases hsome
    · exact hlt
  have hgen : s.generateTicketId = s.lastTicketId + 1 := Nat.mod_eq_of_lt hlast
  have hnew : s.getTicket (s.lastTicketId + 1) = none := hgen ▸ h.fresh
  rw [hgen]
  have hcounted : Counted (TicketMgr.addTicket { s with lastTicketId := s.lastTicketId + 1 }
      ⟨s.lastTicketId + 1, playerGuid, message, 0⟩) :=
    h.toCounted.list (t := ⟨s.lastTicketId + 1, playerGuid, message, 0⟩) hnew (Nat.succ_pos _) rfl
      (Nat.max_eq_right (Nat.le_succ _)).symm hlast rfl
  refine ⟨hcounted, fun id => ?_⟩
  change Option.Rel Stored ((s.ticketList.set _ _).find? id) ((s.rows.set _ _).find? id)
  rw [OrdMap.find?_set, OrdMap.find?_set]
  split
  · exact .some (stored_row (iff_of_true storedClosedBy_zero rfl))
  · exact h.rows id

theorem closeTicket_none (h : s.getTicket ticketId = none) (source : Int) :
    s.closeTicket ticketId source = s := by
  rw [closeTicket, h]

theorem closeTicket_some (h : s.getTicket ticketId = some t) (source : Int) :
    s.closeTicket ticketId source =
      { s with
        ticketList := s.ticketList.set ticketId (t.setClosedBy source)
        openTicketCount :=
          if source ≠ 0 then (s.openTicketCount + 2 ^ 32 - 1) % 2 ^ 32 else s.openTicketCount
        rows := s.rows.set t.id (t.setClosedBy source).row } := by
  rw [closeTicket, h]
  rfl

theorem Kept.closeTicket (h : Kept s) {source : Int} (hm : s.Meets (.close ticketId source)) :
    Kept (s.closeTicket ticketId source) := by
  cases hf : s.getTicket ticketId with
  | none => rwa [closeTicket_none hf]
  | some t =>
    obtain ⟨hopen, hstored⟩ := hm t hf
    obtain ⟨htid, hpos, hle⟩ := h.id _ t hf
    have hcount := openIn_set hf (t.setClosedBy source)
    rw [hopen, if_neg (by simp), isClosed_setClosedBy] at hcount
    have hs := h.count
    have hlast := h.last_lt
    have hbound := h.openTickets_le
    rw [openTickets] at hs hbound
    rw [closeTicket_some hf]
    refine ⟨⟨fun id t' hf' => ?_, hlast, ?_⟩, fun id => ?_⟩
    · rcases OrdMap.find?_set_eq_some.mp hf' with ⟨rfl, rfl⟩ | ⟨-, hf'⟩
      · exact ⟨htid, hpos, hle⟩
      · exact h.id id t' hf'
    · rw [openTickets]
      simp only
      by_cases h0 : source = 0
      · rw [if_neg (by simpa using h0)]
        rw [if_neg (by simpa using h0)] at hcount
        omega
      · rw [if_pos h0]
        rw [if_pos (by simpa using h0)] at hcount
        omega
    · change Option.Rel Stored ((s.ticketList.set _ _).find? id) ((s.rows.set t.id _).find? id)
      rw [htid, OrdMap.find?_set, OrdMap.find?_set]
      split
      · exact .some (stored_row hstored)
      · exact h.rows id

theorem removeTicket_none (h : s.getTicket ticketId = none) : s.removeTicket ticketId = s := by
  rw [removeTicket, h]

theorem removeTicket_some (h : s.getTicket ticketId = some t) :
    s.removeTicket ticketId =
      { s with ticketList := s.ticketList.erase ticketId, rows := s.rows.erase t.id } := by
  rw [removeTicket, h]

theorem Kept.removeTicket (h : Kept s) (hm : s.Meets (.remove ticketId)) :
    Kept (s.removeTicket ticketId) := by
  cases hf : s.getTicket ticketId with
  | none => rwa [removeTicket_none hf]
  | some t =>
    have hclosed := hm t hf
    have hcount := openIn_erase hf
    rw [hclosed, if_pos rfl, Nat.add_zero] at hcount
    rw [removeTicket_some hf]
    refine ⟨⟨fun id t' hf' => ?_, h.last_lt, h.count.trans hcount.symm⟩, fun id => ?_⟩
    · refine h.id id t' ?_
      change (s.ticketList.erase ticketId).find? id = some t' at hf'
      rw [OrdMap.find?_erase] at hf'
      split at hf'
      · cases hf'
      · exact hf'
    · change Option.Rel Stored ((s.ticketList.erase _).find? id) ((s.rows.erase t.id).find? id)
      rw [(h.id _ t hf).1, OrdMap.find?_erase, OrdMap.find?_erase]
      split
      · exact .none
      · exact h.rows id

theorem resetLoop_eq {l : List (Nat × GmTicket)} :
    resetLoop l = some () ↔ ∀ e ∈ l, e.2.isClosed = false := by
  induction l with
  | nil => simp [resetLoop]
  | cons e l ih =>
    rw [resetLoop, List.forall_mem_cons]
    cases hc : e.2.isClosed with
    | true => simp
    | false => simpa using ih

theorem resetTickets_eq_some {s' : TicketMgr} : s.resetTickets = some s' ↔
    (∀ id t, s.getTicket id = some t → t.isClosed = false) ∧
      s' = { s with lastTicketId := 0, rows := ∅ } := by
  have hloop : resetLoop s.ticketList.entries = some () ↔
      ∀ id t, s.getTicket id = some t → t.isClosed = false := by
    rw [resetLoop_eq]
    exact ⟨fun hl id t hf => hl (id, t) (OrdMap.find?_eq_some.mp hf),
      fun hl e he => hl e.1 e.2 (OrdMap.find?_eq_some.mpr he)⟩
  rw [← hloop, resetTickets]
  cases resetLoop s.ticketList.entries with
  | none => simp
  | some u => simp [eq_comm]

theorem Kept.resetTickets (h : Kept s) (hm : s.Meets .reset) :
    ∃ s', s.resetTickets = some s' ∧ Kept s' := by
  have hnone : ∀ id, s.getTicket id = none := hm
  refine ⟨_, resetTickets_eq_some.mpr ⟨fun id t hf => ?_, rfl⟩, ⟨fun id t hf => ?_, Nat.two_pow_pos 32, h.count⟩,
    fun id => ?_⟩
  · rw [hnone id] at hf
    cases hf
  · change s.getTicket id = some t at hf
    rw [hnone id] at hf
    cases hf
  · change Option.Rel Stored (s.getTicket id) none
    rw [hnone id]
    exact .none

theorem getTicket_loadTickets :
    s.loadTickets.getTicket id = (s.rows.find? id).map (GmTicket.loadFromDB id) := by
  have hsweep : s.loadTickets.ticketList =
      s.rows.sweep (fun m k r => m.set k (GmTicket.loadFromDB k r)) ∅ :=
    (List.foldl_hom TicketMgr.ticketList (fun _ _ => rfl)).symm
  rw [getTicket, hsweep, OrdMap.find?_sweep (G := fun k r _ => some (GmTicket.loadFromDB k r))]
  · cases s.rows.find? id <;> rfl
  · exact fun k r _ m => OrdMap.find?_set_same
  · exact fun k r _ m k' hk => OrdMap.find?_set_ne hk

theorem Counted.foldl_loadTicket {l : List (Nat × TicketRow)} (h : Counted s)
    (hl : l.Pairwise (fun a b => a.1 < b.1)) (hnew : ∀ e ∈ l, s.getTicket e.1 = none)
    (hid : ∀ e ∈ l, 0 < e.1 ∧ e.1 < 2 ^ 32) : Counted (l.foldl loadTicket s) := by
  induction l generalizing s with
  | nil => exact h
  | cons e l ih =>
    obtain ⟨hfirst, hrest⟩ := List.pairwise_cons.mp hl
    obtain ⟨hpos, hlt⟩ := hid e (.head _)
    have hstep : Counted (s.loadTicket e) :=
      h.list (t := GmTicket.loadFromDB e.1 e.2) (hnew e (.head _)) hpos rfl
        (loadTicket_lastTicketId e) hlt rfl
    refine ih hstep hrest (fun e' he' => ?_) (fun e' he' => hid e' (.tail _ he'))
    rw [← hnew e' (.tail _ he')]
    exact OrdMap.find?_set_ne (hfirst e' he').ne'

theorem rows_foldl_loadTicket {l : List (Nat × TicketRow)} :
    (l.foldl loadTicket s).rows = s.rows := by
  induction l generalizing s with
  | nil => rfl
  | cons e l ih => exact ih

def Tabled (rows : OrdMap Nat TicketRow) : Prop :=
  ∀ id r, rows.find? id = some r → 0 < id ∧ id < 2 ^ 32 ∧ r.guid < 2 ^ 32

theorem Kept.tabled (h : Kept s) : Tabled s.rows := by
  intro id r hr
  have hrel := h.rows id
  rw [hr] at hrel
  cases hf : s.getTicket id with
  | none =>
    rw [hf] at hrel
    cases hrel
  | some t =>
    rw [hf] at hrel
    obtain ⟨-, hpos, hle⟩ := h.id id t hf
    have hlast := h.last_lt
    cases hrel with
    | some hs => exact ⟨hpos, by omega, hs.guid ▸ loPart_lt _⟩

theorem Kept.loadTickets (h : Tabled s.rows) : Kept s.loadTickets := by
  have hrange : ∀ e ∈ s.rows.entries, 0 < e.1 ∧ e.1 < 2 ^ 32 := fun e he =>
    ⟨(h e.1 e.2 (OrdMap.find?_eq_some.mpr he)).1, (h e.1 e.2 (OrdMap.find?_eq_some.mpr he)).2.1⟩
  have hempty : Counted { s with ticketList := ∅, lastTicketId := 0, openTicketCount := 0 } :=
    ⟨fun _ _ hf => (nomatch hf), Nat.two_pow_pos 32, rfl⟩
  have hrows : s.loadTickets.rows = s.rows := rows_foldl_loadTicket
  refine ⟨hempty.foldl_loadTicket s.rows.sorted (fun _ _ => rfl) hrange, fun id => ?_⟩
  rw [getTicket_loadTickets, hrows]
  cases hr : s.rows.find? id with
  | none => exact .none
  | some r => exact .some (stored_loadFromDB (h id r hr).2.2 id)

/-! ## Runs -/

def step (s : TicketMgr) (op : TicketOp) : TicketMgr := (s.act op).getD s

def start (rows : OrdMap Nat TicketRow) : TicketMgr := { rows := rows : TicketMgr }.loadTickets

theorem Kept.act (h : Kept s) (hm : s.Meets op) : ∃ s', s.act op = some s' ∧ Kept s' := by
  cases op with
  | create playerGuid message => exact ⟨_, rfl, h.handleCreate hm⟩
  | close ticketId source => exact ⟨_, rfl, h.closeTicket hm⟩
  | remove ticketId => exact ⟨_, rfl, h.removeTicket hm⟩
  | reset => exact h.resetTickets hm
  | reload => exact ⟨_, rfl, .loadTickets h.tabled⟩

theorem Kept.step (h : Kept s) (hm : s.Meets op) : Kept (s.step op) := by
  obtain ⟨s', hact, hkept⟩ := h.act hm
  rw [TicketMgr.step, hact]
  exact hkept

theorem Kept.meets_close (h : Kept s) {source : Int}
    (ha : (s.closeTicket ticketId source).Agreed) : s.Meets (.close ticketId source) := by
  intro t hf
  have htid := (h.id _ t hf).1
  have hcount := openIn_set hf (t.setClosedBy source)
  rw [isClosed_setClosedBy] at hcount
  have hs := h.count
  have hlast := h.last_lt
  have hbound := h.openTickets_le
  have hcount' := ha.count
  have hrows := ha.rows ticketId
  rw [closeTicket_some hf] at hcount' hrows
  rw [openTickets] at hs hbound hcount'
  simp only at hcount'
  constructor
  · by_contra hopen
    rw [Bool.not_eq_false] at hopen
    rw [hopen, if_pos rfl] at hcount
    by_cases h0 : source = 0
    · rw [if_neg (by simpa using h0)] at hcount hcount'
      omega
    · rw [if_pos h0] at hcount'
      rw [if_pos (by simpa using h0)] at hcount
      omega
  · change Option.Rel Stored ((s.ticketList.set _ _).find? _) ((s.rows.set t.id _).find? _) at hrows
    rw [htid, OrdMap.find?_set_same, OrdMap.find?_set_same] at hrows
    cases hrows with
    | some hstored =>
      simpa only [GmTicket.row, GmTicket.setClosedBy] using hstored.closed

theorem Kept.meets_remove (h : Kept s) (ha : (s.removeTicket ticketId).Agreed) :
    s.Meets (.remove ticketId) := by
  intro t hf
  have hcount := openIn_erase hf
  have hs := h.count
  have hcount' := ha.count
  rw [removeTicket_some hf] at hcount'
  rw [openTickets] at hs hcount'
  simp only at hcount'
  by_contra hopen
  rw [if_neg hopen] at hcount
  omega

theorem Kept.meets_reset {s' : TicketMgr} (hact : s.resetTickets = some s') (ha : s'.Agreed) :
    s.Meets .reset := by
  intro id
  obtain ⟨-, rfl⟩ := resetTickets_eq_some.mp hact
  have hrows := ha.rows id
  change Option.Rel Stored (s.getTicket id) none at hrows
  cases hf : s.getTicket id with
  | none => rfl
  | some t =>
    rw [hf] at hrows
    cases hrows

theorem Kept.agreed_iff (h : Kept s) (hid : s.lastTicketId + 1 < 2 ^ 32) :
    (∃ s', s.act op = some s' ∧ s'.Agreed) ↔ s.Meets op := by
  constructor
  · rintro ⟨s', hact, ha⟩
    cases op with
    | create playerGuid message => exact .inr hid
    | close ticketId source =>
      cases hact
      exact h.meets_close ha
    | remove ticketId =>
      cases hact
      exact h.meets_remove ha
    | reset => exact Kept.meets_reset hact ha
    | reload => trivial
  · intro hm
    obtain ⟨s', hact, hkept⟩ := h.act hm
    exact ⟨s', hact, hkept.agreed⟩

/-- In every run of such operations since the start of the server the count is right, the next id is
free, and the rows are those of the listed tickets.  A reset then uses no erased element exactly
when no ticket is closed.  As long as an id is left, any other operation ends the agreement. -/
theorem tickets_agreed {rows : OrdMap Nat TicketRow} (hrows : Tabled rows) {ops : List TicketOp}
    (hrun : Run TicketMgr.step Meets (start rows) ops s) :
    s.Agreed ∧
    ((s.act .reset).isSome = true ↔ ∀ id t, s.getTicket id = some t → t.isClosed = false) ∧
    (s.lastTicketId + 1 < 2 ^ 32 →
      ∀ op, (∃ s', s.act op = some s' ∧ s'.Agreed) ↔ s.Meets op) := by
  have hkept : Kept s := hrun.invariant (fun _ _ hs hm => hs.step hm) (.loadTickets hrows)
  refine ⟨hkept.agreed, ?_, fun hid op => hkept.agreed_iff hid⟩
  rw [Option.isSome_iff_exists]
  constructor
  · rintro ⟨s', hact⟩
    exact (resetTickets_eq_some.mp hact).1
  · exact fun hopen => ⟨_, resetTickets_eq_some.mpr ⟨hopen, rfl⟩⟩

theorem tabled_empty : Tabled ∅ := fun _ _ hf => nomatch hf

def oneTicket : TicketMgr := ((start ∅).step (.create 5 [])).step .reload

theorem oneTicket_run :
    Run TicketMgr.step Meets (start ∅) [.create 5 [], .reload] oneTicket :=
  .cons (.inr (by decide)) (.cons trivial .nil)

theorem tickets_agreed_one : oneTicket.Agreed ∧ oneTicket.openTickets = 1 :=
  ⟨(tickets_agreed tabled_empty oneTicket_run).1, by decide⟩

def abandoned : TicketMgr := oneTicket.step (.close 1 5)

/-- A reset uses an erased element then, and closing the ticket once more lets the count wrap. -/
theorem tickets_closed_twice :
    abandoned.openTicketCount = 0 ∧ abandoned.act .reset = none ∧
    (abandoned.step (.close 1 5)).openTicketCount = 2 ^ 32 - 1 ∧
    (abandoned.step (.close 1 5)).openTickets = 0 :=
  ⟨by decide, rfl, by decide, by decide⟩

end TicketMgr

end SkyfireBG
