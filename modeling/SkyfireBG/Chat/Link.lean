import SkyfireBG.Item.Template
import SkyfireBG.Lib.Istream

/-!
# SkyfireBG.Chat.Link

The links in chat messages: the readers of `ChatLink.cpp`, and `Initialize` and `ValidateName` of each
type of link. What the server has loaded is looked up in `ChatStores`.
-/

namespace SkyfireBG

inductive Stop where
  | refused
  | running
  /-- It writes behind the end of a buffer. -/
  | fault
deriving DecidableEq, Repr

abbrev Reader := EStateM Stop Istream

def Reader.call {α : Type} (f : Istream → α × Istream) : Reader α := fun s => .ok (f s).1 (f s).2

/-- `!iss.fail() && !iss.eof()`; the value that was read is used only then. -/
def Reader.checked {α : Type} (res : Option α) : Reader α := fun s =>
  match res with
  | some value => if !s.fail && !s.eof then .ok value s else .error .refused s
  | none => .error .refused s

def readUInt32 : Reader Nat := do
  let res ← Reader.call (Istream.readUInt32 10)
  Reader.checked res

def readInt32 : Reader Int := do
  let res ← Reader.call (Istream.readInt32 10)
  Reader.checked res

/-- `ReadSkip`; at the end of the input `peek` gives a character that is neither. -/
def readSkip (term : Char) : Nat → List Char → Reader (List Char)
  | 0, _ => throw .running
  | fuel + 1, ss => do
    let c ← Reader.call Istream.peek
    if c ≠ some term ∧ c ≠ some '\x00' then
      Reader.call fun s => ((), s.ignoreOne)
      readSkip term fuel (ss ++ [c.getD '\xff'])
    else pure ss

def checkDelimiter (delimiter : Char) : Reader Unit := do
  let c ← Reader.call Istream.peek
  if c ≠ some delimiter then throw .refused
  else Reader.call fun s => ((), s.ignoreOne)

def readHex (length : Nat) : Reader Nat := do
  let pos ← Reader.call Istream.tellg
  let res ← Reader.call (Istream.readUInt32 16)
  if length ≠ 0 then
    let now ← Reader.call Istream.tellg
    if (now - pos) % 2 ^ 32 ≠ length then throw .refused else Reader.checked res
  else Reader.checked res

def DELIMITER : Char := ':'
def PIPE_CHAR : Char := '|'

namespace Chat

structure ItemTemplate where
  itemId : Nat
  /-- Checked to be below `MAX_ITEM_QUALITY` when it is loaded. -/
  quality : Fin 8
  name1 : List Char

structure Quest where
  questId : Nat
  title : List Char

structure SpellInfo where
  id : Nat
  attributes : Nat
  spellName : List Char

end Chat

abbrev CharPtr := Nat → Char

structure ChatStores where
  getItemTemplate : Nat → Option Chat.ItemTemplate
  getItemLocale : Nat → Option (List (List Char))
  itemRandomProperties : Nat → Option CharPtr
  itemRandomSuffix : Nat → Option CharPtr
  getQuestTemplate : Nat → Option Chat.Quest
  getQuestLocale : Nat → Option (List (List Char))
  getSpellInfo : Nat → Option Chat.SpellInfo
  /-- The skills of the entries for a spell; an entry can be missing. -/
  getSkillLineAbilities : Nat → List (Option Nat)
  skillLine : Nat → Option (List Char)
  achievement : Nat → Option (List Char)
  talent : Nat → Option Nat
  glyphProperties : Nat → Option Nat

def SPELL_ATTR0_TRADESPELL : Nat := 0x20
def STRONG_MAX_LEVEL : Nat := 255
def TOTAL_LOCALES : Nat := 9

def itemQualityColors (quality : Fin 8) : Nat :=
  match quality with
  | 0 => 0xff9d9d9d
  | 1 => 0xffffffff
  | 2 => 0xff1eff00
  | 3 => 0xff0070dd
  | 4 => 0xffa335ee
  | 5 => 0xffff8000
  | 6 => 0xffe6cc80
  | 7 => 0xffe6cc80

def CHAT_LINK_COLOR_TRADE : Nat := 0xffffd000
def CHAT_LINK_COLOR_TALENT : Nat := 0xff4e96f7
def CHAT_LINK_COLOR_SPELL : Nat := 0xff71d5ff
def CHAT_LINK_COLOR_ENCHANT : Nat := 0xffffd000
def CHAT_LINK_COLOR_ACHIEVEMENT : Nat := 0xffffff00
def CHAT_LINK_COLOR_GLYPH : Nat := 0xff66bbff

inductive LinkType where
  | item
  | quest
  | trade
  | talent
  | spell
  | enchant
  | achievement
  | glyph
deriving DecidableEq, Repr

/-- What `Initialize` of `ItemChatLink` reads. -/
structure ItemLink where
  item : Chat.ItemTemplate
  data : List Int := []
  suffix : Option CharPtr := none
  property : Option CharPtr := none

/-- What `Initialize` of `TradeChatLink` reads before the skipped text. -/
structure TradeLink where
  spell : Chat.SpellInfo
  minSkillLevel : Int
  maxSkillLevel : Int
  guid : Nat

/-- The fields that `Initialize` sets. -/
inductive LinkBody where
  | item (link : ItemLink)
  | quest (quest : Chat.Quest) (questLevel : Int)
  | trade (link : TradeLink) (base64 : List Char)
  | talent (talentId : Nat) (spell : Chat.SpellInfo) (rankId : Int)
  | spell (spell : Chat.SpellInfo)
  | enchant (spell : Chat.SpellInfo)
  | achievement (name : List Char) (guid : Nat) (data : List Nat)
  | glyph (slotId : Nat) (spell : Chat.SpellInfo)

/-! ## Initialize -/

variable (D : ChatStores) (color : Nat)

def entryOf {α : Type} (entry : Option α) : Reader α :=
  match entry with
  | some value => pure value
  | none => throw .refused

def demand (cond : Bool) : Reader Unit := if cond then pure () else throw .refused

/-- The random property at its place, or the random suffix when the number is negative. -/
def itemProperty (link : ItemLink) (id : Int) : Reader ItemLink :=
  if id ≠ 0 ∧ link.data.length = 5 then
    if id > 0 then do
      let property ← entryOf (D.itemRandomProperties id.toNat)
      pure { link with property := some property }
    else do
      let suffix ← entryOf (D.itemRandomSuffix (-id).toNat)
      pure { link with suffix := some suffix }
  else pure link

/-- The loop over the properties; the index is the number of those that were read. -/
def itemProperties : Nat → ItemLink → Reader ItemLink
  | 0, link => pure link
  | n + 1, link => do
    checkDelimiter DELIMITER
    let id ← readInt32
    let link ← itemProperty D link id
    itemProperties n { link with data := link.data ++ [id] }

def itemInitialize : Reader LinkBody := do
  let itemEntry ← readUInt32
  let item ← entryOf (D.getItemTemplate itemEntry)
  demand (color = itemQualityColors item.quality)
  let link ← itemProperties D 8 { item := item }
  pure (.item link)

def questInitialize : Reader LinkBody := do
  let questId ← readUInt32
  let quest ← entryOf (D.getQuestTemplate questId)
  checkDelimiter DELIMITER
  let questLevel ← readInt32
  demand (questLevel < STRONG_MAX_LEVEL)
  pure (.quest quest questLevel)

def spellInitialize : Reader LinkBody := do
  demand (color = CHAT_LINK_COLOR_SPELL)
  let spellId ← readUInt32
  let spell ← entryOf (D.getSpellInfo spellId)
  pure (.spell spell)

def achievementProgress : Nat → List Nat → Reader (List Nat)
  | 0, data => pure data
  | n + 1, data => do
    checkDelimiter DELIMITER
    let value ← readUInt32
    achievementProgress n (data ++ [value])

def achievementInitialize : Reader LinkBody := do
  demand (color = CHAT_LINK_COLOR_ACHIEVEMENT)
  let achievementId ← readUInt32
  let name ← entryOf (D.achievement achievementId)
  checkDelimiter DELIMITER
  let guid ← readHex 0
  let data ← achievementProgress 8 []
  pure (.achievement name guid data)

/-- `TradeChatLink::Initialize` before the skipped text. -/
def tradeNumbers : Reader TradeLink := do
  demand (color = CHAT_LINK_COLOR_TRADE)
  let spellId ← readUInt32
  let spell ← entryOf (D.getSpellInfo spellId)
  checkDelimiter DELIMITER
  let minSkillLevel ← readInt32
  checkDelimiter DELIMITER
  let maxSkillLevel ← readInt32
  checkDelimiter DELIMITER
  let guid ← readHex 0
  pure ⟨spell, minSkillLevel, maxSkillLevel, guid⟩

def tradeInitialize (fuel : Nat) : Reader LinkBody := do
  let link ← tradeNumbers D color
  let base64 ← readSkip PIPE_CHAR fuel []
  pure (.trade link base64)

def talentInitialize : Reader LinkBody := do
  demand (color = CHAT_LINK_COLOR_TALENT)
  let talentId ← readUInt32
  let rank ← entryOf (D.talent talentId)
  let spell ← entryOf (D.getSpellInfo rank)
  checkDelimiter DELIMITER
  let rankId ← readInt32
  pure (.talent talentId spell rankId)

def enchantmentInitialize : Reader LinkBody := do
  demand (color = CHAT_LINK_COLOR_ENCHANT)
  let spellId ← readUInt32
  let spell ← entryOf (D.getSpellInfo spellId)
  pure (.enchant spell)

def glyphInitialize : Reader LinkBody := do
  demand (color = CHAT_LINK_COLOR_GLYPH)
  let slotId ← readUInt32
  checkDelimiter DELIMITER
  let glyphId ← readUInt32
  let spellId ← entryOf (D.glyphProperties glyphId)
  let spell ← entryOf (D.getSpellInfo spellId)
  pure (.glyph slotId spell)

/-- The virtual `Initialize`. -/
def linkInitialize (fuel : Nat) : LinkType → Reader LinkBody
  | .item => itemInitialize D color
  | .quest => questInitialize D
  | .trade => tradeInitialize D color fuel
  | .talent => talentInitialize D color
  | .spell => spellInitialize D color
  | .enchant => enchantmentInitialize D color
  | .achievement => achievementInitialize D color
  | .glyph => glyphInitialize D color

def cString (buffer : List Char) : List Char := buffer.takeWhile (· ≠ '\x00')

/-- `FormatName`: of the suffix only the character with the number of the locale is taken. -/
def formatName (item : Chat.ItemTemplate) (index : Nat) (locale : Option (List (List Char)))
    (suffixStrings : Option CharPtr) : List Char :=
  ((locale.bind fun names => names[index]?).getD item.name1) ++
    (match suffixStrings with
      | some suffix => [' ', suffix index]
      | none => [])

def itemValidateName (link : ItemLink) (buffer : List Char) : Bool :=
  let suffixStrings := link.suffix.or link.property
  formatName link.item 0 none suffixStrings = buffer ||
    (List.range' 1 (TOTAL_LOCALES - 1)).any fun index =>
      formatName link.item index (D.getItemLocale link.item.itemId) suffixStrings = buffer

def questValidateName (quest : Chat.Quest) (buffer : List Char) : Bool :=
  quest.title = buffer ||
    match D.getQuestLocale quest.questId with
    | some titles => titles.any (· = buffer)
    | none => false

/-- `memcpy` within the buffer of `IsValidMessage`, which holds this string. The length is that of the
text after the prefix and `": "`, computed in `uint32`, and the terminator. -/
def dropPrefix (skillName buffer : List Char) : Except Stop (List Char) :=
  let spellNameLength := (buffer.length + 2 ^ 32 - skillName.length - 2) % 2 ^ 32
  let copied := (spellNameLength + 1) % 2 ^ 32
  if copied = 0 then .ok buffer
  else if skillName.length + 2 + copied ≤ 256 then .ok (buffer.drop (skillName.length + 2))
  else .error .fault

def spellBuffer (spell : Chat.SpellInfo) (buffer : List Char) : Except Stop (List Char) :=
  if hasMask spell.attributes SPELL_ATTR0_TRADESPELL then
    match D.getSkillLineAbilities spell.id with
    | [] => .error .refused
    | none :: _ => .error .refused
    | some skillId :: _ =>
      match D.skillLine skillId with
      | none => .error .refused
      | some skillName =>
        if skillName ≠ [] ∧ skillName <+: buffer then dropPrefix skillName buffer else .ok buffer
  else .ok buffer

def spellValidateName (spell : Chat.SpellInfo) (buffer : List Char) : Except Stop Unit := do
  let buffer ← spellBuffer D spell buffer
  if spell.spellName ≠ [] ∧ spell.spellName = buffer then pure () else throw .refused

/-- A test that returns `false`. -/
def validIf (valid : Bool) : Except Stop Unit := if valid then .ok () else .error .refused

/-- The virtual `ValidateName`; the buffer holds this string. -/
def validateName (buffer : List Char) : LinkBody → Except Stop Unit
  | .item link => validIf (itemValidateName D link buffer)
  | .quest quest _ => validIf (questValidateName D quest buffer)
  | .trade link _ => spellValidateName D link.spell buffer
  | .talent _ spell _ => spellValidateName D spell buffer
  | .spell spell => spellValidateName D spell buffer
  | .enchant spell => spellValidateName D spell buffer
  | .achievement name _ _ => validIf (name ≠ [] ∧ name = buffer)
  | .glyph _ spell => spellValidateName D spell buffer

end SkyfireBG
