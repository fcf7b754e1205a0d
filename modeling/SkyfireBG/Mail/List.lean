import SkyfireBG.Lib.Byte
import SkyfireBG.Mail.Data

/-!
# SkyfireBG.Mail.List

`HandleGetMailList`: the packet with the mails of a player.

* `mailList_wellFormed` — every mail is written longer than it announces, so that the packet is well
  formed only where it is empty.
-/

namespace SkyfireBG

def MailMessageType.toUInt8 : MailMessageType → Nat
  | .normal => 0
  | .auction => 2
  | .creature => 3
  | .gameobject => 4
  | .item => 5

structure MailText extends Mail where
  stationery : Nat := 41
  mailTemplateId : Nat := 0
  subject : List UInt8 := []
  body : List UInt8 := []
  expireTime : Nat := 0
  checked : Nat := 0
deriving DecidableEq

structure MailItem where
  guidLow : Nat := 0
  entry : Nat := 0
  enchantmentId : Nat → Nat := fun _ => 0
  enchantmentDuration : Nat → Nat := fun _ => 0
  enchantmentCharges : Nat → Nat := fun _ => 0
  itemRandomPropertyId : Int := 0
  itemSuffixFactor : Nat := 0
  count : Nat := 0
  spellCharges : Int := 0
  maxDurability : Nat := 0
  durability : Nat := 0

def MAX_INSPECTED_ENCHANTMENT_SLOT : Nat := 9

def maxPacketSize : Nat := 32767

/-- `GetMItem`, where an item that is missing is shown as zeros, and the bits of a `float`. -/
structure MailDisplay where
  getMItem : Nat → Option MailItem
  floatBits : Int → Nat

namespace MailText

variable (m : MailText) (view : MailDisplay) (curTime : Nat)

/-- `uint8 item_count`. -/
def itemCount : Nat := m.items.length % 256

def nextMailSize : Nat :=
  2 + 4 + 1 + (if m.messageType = .normal then 8 else 4) + 4 * 8 + (m.subject.length + 1) +
    (m.body.length + 1) + 1 +
    m.itemCount * (1 + 4 + 4 + 7 * 3 * 4 + 4 + 4 + 4 + 4 + 4 + 4 + 4 + 1)

def writeSender : List UInt8 :=
  match m.messageType with
  | .normal => littleEndian 8 m.sender
  | .creature | .gameobject | .auction => littleEndian 4 m.sender
  | .item => littleEndian 4 0

def int32Bytes (n : Int) : List UInt8 := littleEndian 4 (n % 2 ^ 32).toNat

def writeEnchantment (item : MailItem) (j : Nat) : List UInt8 :=
  littleEndian 4 (item.enchantmentId j) ++ littleEndian 4 (item.enchantmentDuration j) ++
    littleEndian 4 (item.enchantmentCharges j)

def writeItem (i : Nat) : List UInt8 :=
  let item := (view.getMItem (m.items.getD i 0)).getD {}
  littleEndian 1 i ++ littleEndian 4 item.guidLow ++ littleEndian 4 item.entry ++
    (List.range MAX_INSPECTED_ENCHANTMENT_SLOT).flatMap (writeEnchantment item) ++
    int32Bytes item.itemRandomPropertyId ++ littleEndian 4 item.itemSuffixFactor ++
    littleEndian 4 item.count ++ int32Bytes item.spellCharges ++
    littleEndian 4 item.maxDurability ++ littleEndian 4 item.durability ++ littleEndian 1 0

def write : List UInt8 :=
  littleEndian 2 m.nextMailSize ++ littleEndian 4 m.messageID ++
    littleEndian 1 m.messageType.toUInt8 ++ m.writeSender ++
    littleEndian 8 m.cod ++ littleEndian 4 0 ++ littleEndian 4 m.stationery ++
    littleEndian 8 m.money ++ littleEndian 4 m.checked ++
    littleEndian 4 (view.floatBits (((m.expireTime : Int) - curTime).tdiv (24 * 60 * 60))) ++
    littleEndian 4 m.mailTemplateId ++ (m.subject ++ [0]) ++ (m.body ++ [0]) ++
    littleEndian 1 m.itemCount ++ (List.range m.itemCount).flatMap (m.writeItem view)

end MailText

structure MailList where
  mailsCount : Nat := 0
  realCount : Nat := 0
  entries : List (List UInt8) := []

namespace MailList

variable (view : MailDisplay) (curTime : Nat) (s : MailList) (m : MailText)

/-- `data.wpos()`: the two counters come first. -/
def wpos : Nat := 5 + s.entries.flatten.length

def turn : MailList :=
  if s.mailsCount ≥ 254 then { s with realCount := s.realCount + 1 }
  else if m.deleted ∨ curTime < m.deliverTime then s
  else if s.wpos + m.nextMailSize > maxPacketSize then { s with realCount := s.realCount + 1 }
  else
    { mailsCount := s.mailsCount + 1
      realCount := s.realCount + 1
      entries := s.entries ++ [m.write view curTime] }

/-- `SMSG_MAIL_LIST_RESULT`. -/
def packet : List UInt8 :=
  littleEndian 4 s.realCount ++ littleEndian 1 s.mailsCount ++ s.entries.flatten

end MailList

/-- The loop of `HandleGetMailList`. -/
def mailList (view : MailDisplay) (curTime : Nat) (mails : List MailText) : MailList :=
  mails.foldl (MailList.turn view curTime) {}

namespace MailText

variable (m : MailText) (view : MailDisplay) (curTime i : Nat)

theorem length_writeSender :
    m.writeSender.length = if m.messageType = .normal then 8 else 4 := by
  rw [writeSender]
  cases m.messageType <;> simp

theorem length_writeItem : (m.writeItem view i).length = 142 := by
  have hslot : ∀ item j, (writeEnchantment item j).length = 12 := by
    intro item j
    simp [writeEnchantment]
  simp [writeItem, int32Bytes, List.length_flatMap, hslot, MAX_INSPECTED_ENCHANTMENT_SLOT]

theorem length_write :
    (m.write view curTime).length = m.nextMailSize + 4 + 20 * m.itemCount := by
  simp only [write, List.length_append, length_littleEndian, length_writeSender, nextMailSize,
    List.length_flatMap, length_writeItem, List.map_const', List.length_range, List.sum_replicate_nat,
    List.length_singleton]
  split <;> omega

theorem announced (h : m.nextMailSize < 2 ^ 16) :
    ofLittleEndian ((m.write view curTime).take 2) = m.nextMailSize := by
  simp only [write, List.append_assoc]
  rw [List.take_append_of_le_length (by simp), List.take_of_length_le (by simp),
    ofLittleEndian_littleEndian h]

def Listable (curTime : Nat) (m : MailText) : Prop :=
  m.deleted = false ∧ m.deliverTime ≤ curTime ∧ 5 + m.nextMailSize ≤ maxPacketSize

end MailText

namespace MailList

variable {view : MailDisplay} {curTime : Nat} {s : MailList} {m : MailText} {mails : List MailText}

/-- Every entry is as long as it announces, the second counter says how many there are, and the
client can work with the length of the packet. -/
structure WellFormed (s : MailList) : Prop where
  size : ∀ e ∈ s.entries, ofLittleEndian (e.take 2) = e.length
  count : (s.packet.getD 4 0).toNat = s.entries.length
  length_le : s.packet.length ≤ maxPacketSize

/-- The counters are those of the entries, and each entry is one of a mail that was listable. -/
structure Counted (curTime : Nat) (view : MailDisplay) (mails : List MailText) (s : MailList) :
    Prop where
  mailsCount : s.mailsCount = s.entries.length
  mailsCount_le : s.mailsCount ≤ 254
  mem : ∀ e ∈ s.entries, ∃ m ∈ mails, m.Listable curTime ∧ e = m.write view curTime
  empty : s.entries = [] → ∀ m ∈ mails, ¬ m.Listable curTime

theorem Counted.turn (h : Counted curTime view mails s) :
    Counted curTime view (mails ++ [m]) (s.turn view curTime m) := by
  have hmem : ∀ e ∈ s.entries, ∃ m' ∈ mails ++ [m], m'.Listable curTime ∧
      e = m'.write view curTime := by
    intro e he
    obtain ⟨m', hm', hl⟩ := h.mem e he
    exact ⟨m', by simp [hm'], hl⟩
  have hempty : ¬ m.Listable curTime → s.entries = [] →
      ∀ m' ∈ mails ++ [m], ¬ m'.Listable curTime := by
    intro hm hs m' hm'
    rcases List.mem_append.mp hm' with hm' | hm'
    · exact h.empty hs m' hm'
    · rwa [List.mem_singleton.mp hm']
  have hcount := h.mailsCount
  have hle := h.mailsCount_le
  unfold MailList.turn
  by_cases hfull : s.mailsCount ≥ 254
  · rw [if_pos hfull]
    refine ⟨hcount, hle, hmem, fun hs => ?_⟩
    rw [hcount, show s.entries = [] from hs] at hfull
    simp at hfull
  rw [if_neg hfull]
  by_cases hskip : m.deleted ∨ curTime < m.deliverTime
  · rw [if_pos hskip]
    refine ⟨hcount, hle, hmem, hempty fun hm => ?_⟩
    rcases hskip with hd | hd
    · rw [hm.1] at hd
      cases hd
    · exact absurd hm.2.1 (by omega)
  rw [if_neg hskip]
  by_cases hlong : s.wpos + m.nextMailSize > maxPacketSize
  · rw [if_pos hlong]
    refine ⟨hcount, hle, hmem, fun hs => hempty (fun hm => ?_) hs⟩
    have := hm.2.2
    rw [wpos, show s.entries = [] from hs, List.flatten_nil, List.length_nil] at hlong
    omega
  · rw [if_neg hlong]
    push Not at hskip
    have hlist : m.Listable curTime := by
      refine ⟨by simpa using hskip.1, hskip.2, ?_⟩
      rw [wpos] at hlong
      omega
    refine ⟨by simp [hcount], ?_, ?_, by simp⟩
    · simp only
      omega
    · intro e he
      rcases List.mem_append.mp he with he | he
      · exact hmem e he
      · exact ⟨m, by simp, hlist, List.mem_singleton.mp he⟩

theorem counted (mails : List MailText) :
    Counted curTime view mails (mailList view curTime mails) := by
  have hrun : ∀ (rest done : List MailText) (s : MailList), Counted curTime view done s →
      Counted curTime view (done ++ rest) (rest.foldl (MailList.turn view curTime) s) := by
    intro rest
    induction rest with
    | nil =>
      intro done s h
      simpa using h
    | cons m rest ih =>
      intro done s h
      have := ih (done ++ [m]) (s.turn view curTime m) h.turn
      simpa using this
  exact hrun mails [] {} ⟨rfl, by simp, by simp, by simp⟩

theorem packet_count (h : s.mailsCount ≤ 254) : (s.packet.getD 4 0).toNat = s.mailsCount := by
  have hbyte : s.packet.getD 4 0 = UInt8.ofNat (s.mailsCount % 256) := by
    simp [packet, littleEndian]
  rw [hbyte, UInt8.toNat_ofNat']
  omega

theorem length_packet : s.packet.length = s.wpos := by
  simp only [packet, wpos, List.length_append, length_littleEndian]

end MailList

/-- The packet is well formed exactly when no mail is in it. -/
theorem mailList_wellFormed (view : MailDisplay) (curTime : Nat) (mails : List MailText) :
    (mailList view curTime mails).WellFormed ↔ ∀ m ∈ mails, ¬ m.Listable curTime := by
  have hcounted : MailList.Counted curTime view mails _ := MailList.counted mails
  constructor
  · intro h
    refine hcounted.empty (List.eq_nil_iff_forall_not_mem.mpr fun e he => ?_)
    obtain ⟨m, -, hm, rfl⟩ := hcounted.mem e he
    have hsize := h.size _ he
    have hle := hm.2.2
    rw [maxPacketSize] at hle
    rw [m.announced view curTime (by omega), m.length_write view curTime] at hsize
    omega
  · intro h
    have hnil : (mailList view curTime mails).entries = [] :=
      List.eq_nil_iff_forall_not_mem.mpr fun e he => by
        obtain ⟨m, hm, hlist, -⟩ := hcounted.mem e he
        exact h m hm hlist
    refine ⟨by simp [hnil], ?_, ?_⟩
    · rw [MailList.packet_count hcounted.mailsCount_le, hcounted.mailsCount]
    · rw [MailList.length_packet, MailList.wpos, hnil]
      decide

def letter (body : List UInt8) : MailText where
  messageID := 1
  messageType := .normal
  sender := 5
  receiver := 6
  body := body

/-- A letter without text announces 50 bytes and has 54, and with a text of 32712 bytes the packet
is too long. -/
theorem mailList_letter :
    let view : MailDisplay := { getMItem := fun _ => none, floatBits := fun _ => 0 }
    (mailList view 0 [letter []]).entries.map
        (fun e => (ofLittleEndian (e.take 2), e.length)) = [(50, 54)] ∧
      ¬ (mailList view 0 [letter []]).WellFormed ∧
        ∀ body : List UInt8, body.length = 32712 →
          (mailList view 0 [letter body]).packet.length = 32771 := by
  intro view
  have hentries : (mailList view 0 [letter []]).entries.map
      (fun e => (ofLittleEndian (e.take 2), e.length)) = [(50, 54)] := by decide +kernel
  refine ⟨hentries, fun h => ?_, fun body hbody => ?_⟩
  · have hmem : ∃ e ∈ (mailList view 0 [letter []]).entries,
        (ofLittleEndian (e.take 2), e.length) = (50, 54) := by
      rw [← List.mem_map, hentries]
      exact List.mem_singleton.mpr rfl
    obtain ⟨e, he, heq⟩ := hmem
    obtain ⟨hsize, hlen⟩ := Prod.mk.injEq .. ▸ heq
    have := h.size e he
    omega
  · have hsize : (letter body).nextMailSize = 32762 := by
      simp [MailText.nextMailSize, letter, MailText.itemCount, hbody]
    have hwrite := MailText.length_write (letter body) view 0
    rw [hsize, show (letter body).itemCount = 0 from rfl] at hwrite
    have hlist : (mailList view 0 [letter body]).entries = [(letter body).write view 0] := by
      rw [mailList, List.foldl_cons, List.foldl_nil, MailList.turn, if_neg (by decide),
        if_neg (by simp [letter]), if_neg]
      · rfl
      · rw [hsize]
        decide
    rw [MailList.length_packet, MailList.wpos, hlist, List.flatten_singleton, hwrite]

end SkyfireBG
