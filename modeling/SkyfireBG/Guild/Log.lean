import SkyfireBG.Lib.Run
import SkyfireBG.Lib.Ring

/-!
# SkyfireBG.Guild.Log

A log of a guild, in memory and in its table, over new events and restarts of the server.

`LogHolder` is the list in memory, oldest entry first.  The table has one row for each guid; a new
entry deletes the row of its guid and inserts its own.  A restart reads the rows ordered by
`TimeStamp DESC, LogGuid DESC` and pushes each to the front of an empty list.  A timestamp is the
second of the event.

* `Ring`       — the invariant: guids run through a window of the counter, rows are the entries.
* `Ring.log`   — an event keeps it.
* `restart_iff` — a restart gives the log back exactly when no entry with guid 0 was made in the
  same second as the entry before it.
-/

namespace SkyfireBG

def GUILD_EVENT_LOG_GUID_UNDEFINED : Nat := 0xFFFFFFFF

structure LogEntry (E : Type) where
  guid : Nat
  timestamp : Nat
  event : E
deriving DecidableEq, Repr

structure LogHolder (E : Type) where
  maxRecords : Nat
  log : List (LogEntry E) := []
  nextGUID : Nat := GUILD_EVENT_LOG_GUID_UNDEFINED
deriving DecidableEq, Repr

structure LogStore (E : Type) where
  holder : LogHolder E
  rows : List (LogEntry E) := []
  clock : Nat := 0

variable {E : Type}

namespace LogHolder

def canInsert (h : LogHolder E) : Bool := h.log.length < h.maxRecords

def loadEvent (h : LogHolder E) (e : LogEntry E) : LogHolder E :=
  { h with
    log := e :: h.log
    nextGUID := if h.nextGUID = GUILD_EVENT_LOG_GUID_UNDEFINED then e.guid else h.nextGUID }

def addEvent (h : LogHolder E) (e : LogEntry E) : LogHolder E :=
  { h with log := (if h.log.length ≥ h.maxRecords then h.log.tail else h.log) ++ [e] }

def getNextGUID (h : LogHolder E) : Nat :=
  if h.nextGUID = GUILD_EVENT_LOG_GUID_UNDEFINED then 0 else (h.nextGUID + 1) % h.maxRecords

/-- `LoadEventLogFromDB`, `LoadBankEventLogFromDB`. -/
def loadRow (h : LogHolder E) (e : LogEntry E) : LogHolder E :=
  if h.canInsert then h.loadEvent e else h

end LogHolder

/-- `ORDER BY TimeStamp DESC, LogGuid DESC`. -/
def NewestFirst (e f : LogEntry E) : Prop :=
  f.timestamp < e.timestamp ∨ e.timestamp = f.timestamp ∧ f.guid ≤ e.guid

instance : DecidableRel (NewestFirst (E := E)) := fun _ _ =>
  inferInstanceAs (Decidable (_ ∨ _))

instance : IsTrans (LogEntry E) NewestFirst where
  trans e f g h h' := by
    unfold NewestFirst at *
    omega

instance : Std.Total (NewestFirst (E := E)) where
  total e f := by
    unfold NewestFirst
    omega

/-- `SaveToDB`. -/
def saveRow (rows : List (LogEntry E)) (e : LogEntry E) : List (LogEntry E) :=
  rows.filter (fun f => f.guid != e.guid) ++ [e]

inductive LogOp (E : Type) where
  | log (now : Nat) (event : E)
  | restart

namespace LogOp

def isLog : LogOp E → Bool
  | log _ _ => true
  | restart => false

end LogOp

namespace LogStore

def init (maxRecords : Nat) : LogStore E := { holder := { maxRecords := maxRecords } }

/-- `_LogEvent`, `_LogBankEvent`. -/
def log (s : LogStore E) (now : Nat) (event : E) : LogStore E :=
  let guid := s.holder.getNextGUID
  let entry : LogEntry E := ⟨guid, now, event⟩
  { holder := { s.holder with nextGUID := guid }.addEvent entry
    rows := saveRow s.rows entry
    clock := now }

/-- `LoadGuilds`: rows above the maximum are deleted, the others are loaded. -/
def restart (s : LogStore E) : LogStore E :=
  let rows := s.rows.filter (fun e => e.guid ≤ s.holder.maxRecords)
  { s with
    rows := rows
    holder := (rows.insertionSort NewestFirst).foldl LogHolder.loadRow
      { maxRecords := s.holder.maxRecords } }

def step (s : LogStore E) : LogOp E → LogStore E
  | .log now event => s.log now event
  | .restart => s.restart

def tiedAtWrap (s : LogStore E) : Bool :=
  (s.holder.log.zip s.holder.log.tail).any
    (fun p => p.2.guid == 0 && p.1.timestamp == p.2.timestamp)

end LogStore

def Timely (s : LogStore E) : LogOp E → Prop
  | .log now _ => s.clock ≤ now
  | .restart => True

instance (s : LogStore E) (o : LogOp E) : Decidable (Timely s o) := by
  cases o <;> unfold Timely <;> infer_instance

/-- Time does not run backwards, and no restart comes while the log is tied at the wrap. -/
def Steady (s : LogStore E) : LogOp E → Prop
  | .log now _ => s.clock ≤ now
  | .restart => s.tiedAtWrap = false

instance (s : LogStore E) (o : LogOp E) : Decidable (Steady s o) := by
  cases o <;> unfold Steady <;> infer_instance

structure Ring (s : LogStore E) : Prop where
  pos : 0 < s.holder.maxRecords
  bound : s.holder.maxRecords < 2 ^ 32
  size : s.holder.log.length ≤ s.holder.maxRecords
  guids : ∃ a, s.holder.log.map (·.guid) = window s.holder.maxRecords a s.holder.log.length ∧
    (s.holder.log.length < s.holder.maxRecords → a = 0)
  next : s.holder.nextGUID = match s.holder.log.getLast? with
    | none => GUILD_EVENT_LOG_GUID_UNDEFINED
    | some e => e.guid
  sorted : s.holder.log.Pairwise (fun e f => e.timestamp ≤ f.timestamp)
  clock : ∀ e ∈ s.holder.log, e.timestamp ≤ s.clock
  rows : s.rows.Perm s.holder.log

namespace Ring

variable {s : LogStore E}

theorem init {n : Nat} (hn : 0 < n) (hb : n < 2 ^ 32) : Ring (LogStore.init n : LogStore E) where
  pos := hn
  bound := hb
  size := Nat.zero_le _
  guids := ⟨0, rfl, fun _ => rfl⟩
  next := rfl
  sorted := .nil
  clock := by intro e he; cases he
  rows := .nil

theorem nodup (h : Ring s) : (s.holder.log.map (·.guid)).Nodup := by
  obtain ⟨a, ha, _⟩ := h.guids
  rw [ha]
  exact window_nodup h.size

theorem guid_lt (h : Ring s) {e : LogEntry E} (he : e ∈ s.holder.log) :
    e.guid < s.holder.maxRecords := by
  obtain ⟨a, ha, _⟩ := h.guids
  have hm : e.guid ∈ s.holder.log.map (·.guid) := List.mem_map_of_mem he
  rw [ha] at hm
  obtain ⟨i, _, hi⟩ := List.mem_map.mp hm
  rw [← hi]
  exact Nat.mod_lt _ h.pos

theorem getNextGUID (h : Ring s) {a : Nat}
    (ha : s.holder.log.map (·.guid) = window s.holder.maxRecords a s.holder.log.length)
    (ha0 : s.holder.log.length < s.holder.maxRecords → a = 0) :
    s.holder.getNextGUID = (a + s.holder.log.length) % s.holder.maxRecords := by
  unfold LogHolder.getNextGUID
  rw [h.next]
  cases hl : s.holder.log.getLast? with
  | none =>
    have hnil := List.getLast?_eq_none_iff.mp hl
    have := h.pos
    have h0 : a = 0 := ha0 (by rw [hnil]; exact h.pos)
    simp [hnil, h0]
  | some e =>
    have he : e ∈ s.holder.log := List.mem_of_getLast? hl
    have hlt := h.guid_lt he
    have hb := h.bound
    have hne : ¬ e.guid = GUILD_EVENT_LOG_GUID_UNDEFINED := by
      unfold GUILD_EVENT_LOG_GUID_UNDEFINED
      omega
    have hpos : 0 < s.holder.log.length := List.length_pos_of_mem he
    obtain ⟨k, hk⟩ : ∃ k, s.holder.log.length = k + 1 := ⟨s.holder.log.length - 1, by omega⟩
    have hlast : (s.holder.log.map (·.guid)).getLast? = some e.guid := by
      rw [List.getLast?_map, hl]
      rfl
    rw [ha, hk, window_succ, List.getLast?_concat] at hlast
    have hguid : e.guid = (a + k) % s.holder.maxRecords := by injection hlast with hg; exact hg.symm
    simp only [if_neg hne]
    rw [hguid, Nat.mod_add_mod, hk, Nat.add_assoc]

end Ring

/-- What stays of the log when an entry comes, and where its window starts with the new guid. -/
structure Kept (s : LogStore E) (kept : List (LogEntry E)) (b : Nat) : Prop where
  list : (if s.holder.log.length ≥ s.holder.maxRecords then s.holder.log.tail
    else s.holder.log) = kept
  rows : (s.rows.filter (fun f => f.guid != s.holder.getNextGUID)).Perm kept
  guids : kept.map (·.guid) ++ [s.holder.getNextGUID] =
    window s.holder.maxRecords b (kept.length + 1)
  size : kept.length + 1 ≤ s.holder.maxRecords
  start : kept.length + 1 < s.holder.maxRecords → b = 0
  sub : kept.Sublist s.holder.log

namespace Ring

variable {s : LogStore E}

theorem kept_full (h : Ring s) (hfull : s.holder.log.length ≥ s.holder.maxRecords) :
    ∃ kept b, Kept s kept b := by
  obtain ⟨a, ha, ha0⟩ := h.guids
  have hguid := h.getNextGUID ha ha0
  have hrows := h.rows
  have hnodup := h.nodup
  have hpos := h.pos
  have hsize := h.size
  cases hl : s.holder.log with
  | nil =>
    rw [hl] at hfull
    simp only [List.length_nil] at hfull
    omega
  | cons e es =>
    rw [hl] at ha hguid hrows hnodup hfull hsize
    simp only [List.length_cons] at ha hguid hfull hsize
    have hhead : e.guid = s.holder.getNextGUID := by
      have h1 : (window s.holder.maxRecords a (es.length + 1)).head? = some e.guid := by
        rw [← ha]
        rfl
      rw [head_window] at h1
      injection h1 with h1
      rw [hguid, show es.length + 1 = s.holder.maxRecords by omega, Nat.add_mod_right, h1]
    have hothers : es.filter (fun f => f.guid != s.holder.getNextGUID) = es := by
      rw [List.filter_eq_self]
      intro f hf
      rw [bne_iff_ne, ← hhead]
      intro he
      exact (List.nodup_cons.mp hnodup).1 (List.mem_map.mpr ⟨f, hf, he⟩)
    refine ⟨es, a + 1, ?_, ?_, ?_, hsize, fun hlt => by omega, hl ▸ List.sublist_cons_self e es⟩
    · rw [hl, List.length_cons, if_pos hfull, List.tail_cons]
    · have hperm := hrows.filter (fun f => f.guid != s.holder.getNextGUID)
      rwa [List.filter_cons_of_neg (by simp [hhead]), hothers] at hperm
    · have htail := congrArg List.tail ha
      rw [tail_window] at htail
      simp only [List.map_cons, List.tail_cons] at htail
      rw [window_succ, htail, hguid, show a + (es.length + 1) = a + 1 + es.length by omega]

theorem kept_room (h : Ring s) (hroom : s.holder.log.length < s.holder.maxRecords) :
    ∃ kept b, Kept s kept b := by
  obtain ⟨a, ha, ha0⟩ := h.guids
  have hguid := h.getNextGUID ha ha0
  have hwin : s.holder.log.map (·.guid) ++ [s.holder.getNextGUID] =
      window s.holder.maxRecords a (s.holder.log.length + 1) := by
    rw [ha, hguid, ← window_succ]
  refine ⟨s.holder.log, a, if_neg (by omega), ?_, hwin, hroom, fun _ => ha0 hroom, .refl _⟩
  have hnew : s.rows.filter (fun f => f.guid != s.holder.getNextGUID) = s.rows := by
    rw [List.filter_eq_self]
    intro f hf
    rw [bne_iff_ne]
    have hnodup : (s.holder.log.map (·.guid) ++ [s.holder.getNextGUID]).Nodup := by
      rw [hwin]
      exact window_nodup hroom
    exact (List.nodup_append.mp hnodup).2.2 _ (List.mem_map_of_mem (h.rows.subset hf)) _
      (List.mem_singleton.mpr rfl)
  rw [hnew]
  exact h.rows

theorem log (h : Ring s) {now : Nat} (event : E) (hnow : s.clock ≤ now) :
    Ring (s.log now event) := by
  obtain ⟨kept, b, hk⟩ : ∃ kept b, Kept s kept b := by
    by_cases hfull : s.holder.log.length ≥ s.holder.maxRecords
    · exact h.kept_full hfull
    · exact h.kept_room (by omega)
  have hclock : ∀ e ∈ s.holder.log, e.timestamp ≤ now :=
    fun e he => Nat.le_trans (h.clock e he) hnow
  have hlen : (kept ++ [(⟨s.holder.getNextGUID, now, event⟩ : LogEntry E)]).length =
      kept.length + 1 := by simp
  have hlog : (s.log now event).holder.log = kept ++ [⟨s.holder.getNextGUID, now, event⟩] := by
    rw [← hk.list]
    rfl
  refine ⟨h.pos, h.bound, ?_, ⟨b, ?_, ?_⟩, ?_, ?_, ?_, ?_⟩
  · rw [hlog, hlen]
    exact hk.size
  · rw [hlog, hlen, List.map_append]
    exact hk.guids
  · rw [hlog, hlen]
    exact hk.start
  · rw [hlog, List.getLast?_concat]
    rfl
  · rw [hlog, List.pairwise_append]
    refine ⟨h.sorted.sublist hk.sub, List.pairwise_singleton _ _, ?_⟩
    intro e he f hf
    rw [List.mem_singleton.mp hf]
    exact hclock e (hk.sub.subset he)
  · rw [hlog]
    intro e he
    rcases List.mem_append.mp he with he | he
    · exact hclock e (hk.sub.subset he)
    · rw [List.mem_singleton.mp he]
      exact Nat.le_refl now
  · rw [hlog]
    exact hk.rows.append (.refl _)

end Ring

theorem foldl_loadRow (l : List (LogEntry E)) (h : LogHolder E)
    (hlen : h.log.length + l.length ≤ h.maxRecords)
    (hguid : ∀ e ∈ l, e.guid ≠ GUILD_EVENT_LOG_GUID_UNDEFINED) :
    l.foldl LogHolder.loadRow h =
      { maxRecords := h.maxRecords
        log := l.reverse ++ h.log
        nextGUID := if h.nextGUID = GUILD_EVENT_LOG_GUID_UNDEFINED then
            match l.head? with
            | none => GUILD_EVENT_LOG_GUID_UNDEFINED
            | some e => e.guid
          else h.nextGUID } := by
  induction l generalizing h with
  | nil =>
    by_cases hn : h.nextGUID = GUILD_EVENT_LOG_GUID_UNDEFINED
    · simp [← hn]
    · simp [hn]
  | cons e es ih =>
    have hcan : h.canInsert = true := by
      simp only [List.length_cons] at hlen
      simp only [LogHolder.canInsert, decide_eq_true_eq]
      omega
    have hload : h.loadRow e = h.loadEvent e := by
      unfold LogHolder.loadRow
      rw [if_pos hcan]
    have hnext : (h.loadEvent e).nextGUID ≠ GUILD_EVENT_LOG_GUID_UNDEFINED := by
      unfold LogHolder.loadEvent
      split
      · exact hguid e (.head _)
      · assumption
    rw [List.foldl_cons, hload, ih, if_neg hnext]
    · simp [LogHolder.loadEvent]
    · simp only [LogHolder.loadEvent, List.length_cons] at hlen ⊢
      omega
    · exact fun f hf => hguid f (.tail _ hf)

theorem tiedAtWrap_iff {s : LogStore E} : s.tiedAtWrap = true ↔
    ∃ w, ∃ h : w + 1 < s.holder.log.length,
      (s.holder.log.get ⟨w + 1, h⟩).guid = 0 ∧
      (s.holder.log.get ⟨w, by omega⟩).timestamp = (s.holder.log.get ⟨w + 1, h⟩).timestamp := by
  unfold LogStore.tiedAtWrap
  rw [List.any_eq_true]
  constructor
  · rintro ⟨p, hp, ht⟩
    obtain ⟨w, hw, rfl⟩ := List.mem_iff_getElem.mp hp
    simp only [List.length_zip, List.length_tail] at hw
    simp only [List.getElem_zip, List.getElem_tail, Bool.and_eq_true, beq_iff_eq] at ht
    exact ⟨w, by omega, ht.1, ht.2⟩
  · rintro ⟨w, hw, hg, ht⟩
    refine ⟨(s.holder.log.get ⟨w, by omega⟩, s.holder.log.get ⟨w + 1, hw⟩), ?_, by simpa using ⟨hg, ht⟩⟩
    rw [List.mem_iff_getElem]
    refine ⟨w, ?_, ?_⟩
    · simp only [List.length_zip, List.length_tail]
      omega
    · simp [List.getElem_zip, List.getElem_tail]

namespace Ring

variable {s : LogStore E}

theorem sorted_perm (h : Ring s) : (s.rows.insertionSort NewestFirst).Perm s.holder.log :=
  (List.perm_insertionSort _ _).trans h.rows

theorem restart_rows (h : Ring s) : s.restart.rows = s.rows := by
  unfold LogStore.restart
  rw [List.filter_eq_self]
  intro e he
  have := h.guid_lt (h.rows.subset he)
  simp only [decide_eq_true_eq]
  omega

theorem restart_holder (h : Ring s) : s.restart.holder =
    { maxRecords := s.holder.maxRecords
      log := (s.rows.insertionSort NewestFirst).reverse
      nextGUID := match (s.rows.insertionSort NewestFirst).head? with
        | none => GUILD_EVENT_LOG_GUID_UNDEFINED
        | some e => e.guid } := by
  have hrows : s.rows.filter (fun e => e.guid ≤ s.holder.maxRecords) = s.rows := h.restart_rows
  unfold LogStore.restart
  simp only [hrows]
  rw [foldl_loadRow]
  · simp
  · have hlen := h.sorted_perm.length_eq
    have hsize := h.size
    simp only [List.length_nil]
    omega
  · intro e he
    have hlt := h.guid_lt (h.sorted_perm.subset he)
    have hb := h.bound
    unfold GUILD_EVENT_LOG_GUID_UNDEFINED
    omega

theorem newest_pairwise_iff (h : Ring s) :
    s.holder.log.Pairwise (fun e f => NewestFirst f e) ↔ s.tiedAtWrap = false := by
  obtain ⟨a, ha, _⟩ := h.guids
  have hguid : ∀ i (hi : i < s.holder.log.length),
      (s.holder.log.get ⟨i, hi⟩).guid = (a + i) % s.holder.maxRecords := by
    intro i hi
    have hi' : i < (s.holder.log.map (·.guid)).length := by simpa using hi
    have hmap : (s.holder.log.map (·.guid)).get ⟨i, hi'⟩ = (a + i) % s.holder.maxRecords := by
      simp only [ha, List.get_eq_getElem, getElem_window]
    simpa using hmap
  have hts : ∀ i j (hi : i < s.holder.log.length) (hj : j < s.holder.log.length), i ≤ j →
      (s.holder.log.get ⟨i, hi⟩).timestamp ≤ (s.holder.log.get ⟨j, hj⟩).timestamp := by
    intro i j hi hj hij
    rcases Nat.lt_or_ge i j with hlt | hge
    · exact List.pairwise_iff_get.mp h.sorted ⟨i, hi⟩ ⟨j, hj⟩ hlt
    · have : i = j := by omega
      subst this
      exact Nat.le_refl _
  have hsize := h.size
  rw [List.pairwise_iff_get, ← Bool.not_eq_true, tiedAtWrap_iff]
  constructor
  · rintro hp ⟨w, hw, hzero, htie⟩
    have hn : NewestFirst _ _ := hp ⟨w, by omega⟩ ⟨w + 1, hw⟩ (Nat.lt_succ_self w)
    unfold NewestFirst at hn
    have hw0 : (s.holder.log.get ⟨w, by omega⟩).guid = 0 := by omega
    rw [hguid] at hzero hw0
    have := mod_inj_of_close (by omega) (by omega) (hw0.trans hzero.symm)
    omega
  · rintro hno ⟨i, hi⟩ ⟨j, hj⟩ hij
    have hij' : i < j := hij
    unfold NewestFirst
    have hle := hts i j hi hj (Nat.le_of_lt hij')
    rcases Nat.lt_or_ge (s.holder.log.get ⟨i, hi⟩).timestamp
      (s.holder.log.get ⟨j, hj⟩).timestamp with hlt | hge
    · exact .inl hlt
    · refine .inr ⟨by omega, ?_⟩
      by_contra hgt
      rw [hguid, hguid] at hgt
      obtain ⟨w, hiw, hwj, hzero⟩ := window_wrap hij' (by omega) (Nat.lt_of_not_le hgt)
      -- between two entries of one second all entries are of that second
      have h1 := hts i w hi (by omega) hiw
      have h2 := hts w (w + 1) (by omega) (by omega) (Nat.le_succ w)
      have h3 := hts (w + 1) j (by omega) hj (by omega)
      exact hno ⟨w, by omega, by rw [hguid]; exact hzero, by omega⟩

theorem restart_iff (h : Ring s) : s.restart.holder = s.holder ↔ s.tiedAtWrap = false := by
  rw [← h.newest_pairwise_iff]
  have hsorted := List.pairwise_insertionSort NewestFirst s.rows
  constructor
  · intro he
    have hlog : s.holder.log = (s.rows.insertionSort NewestFirst).reverse := by
      rw [← he, h.restart_holder]
    rw [hlog, List.pairwise_reverse]
    exact hsorted
  · intro hp
    have hanti : ∀ e f, e ∈ s.rows.insertionSort NewestFirst → f ∈ s.holder.log.reverse →
        NewestFirst e f → NewestFirst f e → e = f := by
      intro e f he hf h1 h2
      have he' := h.sorted_perm.subset he
      have hf' := List.mem_reverse.mp hf
      have hguid : e.guid = f.guid := by
        unfold NewestFirst at h1 h2
        omega
      exact List.inj_on_of_nodup_map h.nodup he' hf' hguid
    have heq : s.rows.insertionSort NewestFirst = s.holder.log.reverse :=
      List.Perm.eq_of_pairwise hanti hsorted (List.pairwise_reverse.mpr hp)
        (h.sorted_perm.trans (List.reverse_perm _).symm)
    rw [h.restart_holder, heq, List.reverse_reverse, List.head?_reverse, ← h.next]

theorem restart (h : Ring s) (ht : s.tiedAtWrap = false) : Ring s.restart := by
  have hh := h.restart_iff.mpr ht
  have hrows := h.restart_rows
  have hclock : s.restart.clock = s.clock := rfl
  refine ⟨?_, ?_, ?_, ?_, ?_, ?_, ?_, ?_⟩ <;> rw [hh]
  · exact h.pos
  · exact h.bound
  · exact h.size
  · exact h.guids
  · exact h.next
  · exact h.sorted
  · rw [hclock]
    exact h.clock
  · rw [hrows]
    exact h.rows

theorem step {o : LogOp E} (h : Ring s) (ho : Steady s o) : Ring (s.step o) := by
  cases o with
  | log now event => exact h.log event ho
  | restart => exact h.restart ho

end Ring

theorem log_holder_congr {s t : LogStore E} (h : s.holder = t.holder) (now : Nat) (event : E) :
    (s.log now event).holder = (t.log now event).holder := by
  simp only [LogStore.log, h]

theorem run_holder_eq {s t s' : LogStore E} {ops : List (LogOp E)} (hr : Ring s)
    (heq : s.holder = t.holder) (h : Run LogStore.step Steady s ops s') :
    s'.holder = ((ops.filter LogOp.isLog).foldl LogStore.step t).holder := by
  induction h generalizing t with
  | nil => exact heq
  | @cons s s' o os ho _ ih =>
    cases o with
    | log now event => exact ih (hr.step ho) (log_holder_congr heq now event)
    | restart => exact ih (hr.step ho) ((hr.restart_iff.mpr ho).trans heq)

/-- Whatever events and restarts came before, the log is within its maximum with distinct guids, its
rows are its entries, it is the log of the same events without restarts, and one more restart gives
it back exactly when it is not tied at the wrap. -/
theorem log_survives_reload {n : Nat} (hn : 0 < n) (hb : n < 2 ^ 32) {ops : List (LogOp E)}
    {s : LogStore E} (h : Run LogStore.step Steady (LogStore.init n) ops s) :
    s.holder.log.length ≤ n ∧ (s.holder.log.map (·.guid)).Nodup ∧ s.rows.Perm s.holder.log ∧
      s.holder = ((ops.filter LogOp.isLog).foldl LogStore.step (LogStore.init n)).holder ∧
      (s.restart.holder = s.holder ↔ s.tiedAtWrap = false) := by
  have hring : Ring s ∧ s.holder.maxRecords = n := by
    refine h.invariant (I := fun s => Ring s ∧ s.holder.maxRecords = n) ?_ ⟨.init hn hb, rfl⟩
    rintro s o ⟨hs, hmax⟩ ho
    refine ⟨hs.step ho, ?_⟩
    cases o with
    | log now event => exact hmax
    | restart => rw [← hmax, ← congrArg LogHolder.maxRecords (hs.restart_iff.mpr ho)]; rfl
  obtain ⟨hring, hmax⟩ := hring
  refine ⟨hmax ▸ hring.size, hring.nodup, hring.rows, ?_, hring.restart_iff⟩
  exact run_holder_eq (.init hn hb) rfl h

theorem log_survives_reload_three : ∃ s : LogStore Nat,
    Run LogStore.step Steady (LogStore.init 2)
      [.log 5 1, .log 6 2, .restart, .log 7 3, .restart, .log 8 4] s ∧
    s.holder.log.length ≤ 2 ∧ (s.holder.log.map (·.guid)).Nodup ∧ s.rows.Perm s.holder.log ∧
      s.holder = (([LogOp.log 5 1, .log 6 2, .restart, .log 7 3, .restart, .log 8 4].filter
        LogOp.isLog).foldl LogStore.step (LogStore.init 2)).holder ∧
      (s.restart.holder = s.holder ↔ s.tiedAtWrap = false) :=
  have h := Admitted.run (by decide +kernel)
  ⟨_, h, log_survives_reload (by decide) (by decide) h⟩

/-- Three events of one second in a log of two: the second and the third come back swapped, and the
next guid is 0 where it would have been 1. -/
theorem log_reload_tied : ∃ s : LogStore Nat,
    Run LogStore.step Timely (LogStore.init 2) [.log 5 1, .log 5 2, .log 5 3] s ∧
    s.holder.log.map (·.event) = [2, 3] ∧ s.restart.holder.log.map (·.event) = [3, 2] ∧
      s.holder.getNextGUID = 1 ∧ s.restart.holder.getNextGUID = 0 :=
  ⟨_, Admitted.run (by decide), by decide +kernel⟩

end SkyfireBG
