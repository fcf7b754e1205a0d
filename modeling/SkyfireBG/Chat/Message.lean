import SkyfireBG.Chat.Link

/-!
# SkyfireBG.Chat.Message

`LinkExtractor::IsValidMessage`: the loop over the pipes of a message.

`commandChar` is not initialised; where no character is left to be read, it has the value that happens
to stand in its place, a parameter here.
-/

namespace SkyfireBG

structure ChatLink where
  type : LinkType
  color : Nat
  name : List Char := []
  startPos : Int := 0
  endPos : Int := 0
  body : Option LinkBody := none

/-- The stream and the variables of `IsValidMessage`. The link that is being read comes after the
others in `_links`. -/
structure LinkExtractor where
  iss : Istream
  /-- `validSequenceIterator - validSequence`. -/
  place : Nat := 0
  color : Nat := 0
  link : Option ChatLink := none
  links : List ChatLink := []
  startPos : Int := 0

abbrev Extract := EStateM Stop LinkExtractor

def onStream {α : Type} (f : Reader α) : Extract α := fun st =>
  match f st.iss with
  | .ok a s => .ok a { st with iss := s }
  | .error e s => .error e { st with iss := s }

def validSequence : List Char := ['c', 'H', 'h', 'h', 'r']

def linkTypes : List (List Char × LinkType) :=
  [(['i', 't', 'e', 'm'], .item), (['q', 'u', 'e', 's', 't'], .quest),
   (['t', 'r', 'a', 'd', 'e'], .trade), (['t', 'a', 'l', 'e', 'n', 't'], .talent),
   (['s', 'p', 'e', 'l', 'l'], .spell), (['e', 'n', 'c', 'h', 'a', 'n', 't'], .enchant),
   (['a', 'c', 'h', 'i', 'e', 'v', 'e', 'm', 'e', 'n', 't'], .achievement),
   (['g', 'l', 'y', 'p', 'h'], .glyph)]

variable (D : ChatStores) (uninit : Char)

def findPipe : Extract Unit := do
  let st ← get
  if st.place = 0 then
    modify fun st => { st with link := none, links := st.links ++ st.link.toList }
    onStream (Reader.call fun s => ((), s.ignore 255 PIPE_CHAR))
    let pos ← onStream (Reader.call Istream.tellg)
    modify fun st => { st with startPos := pos - 1 }
  else
    let c ← onStream (Reader.call Istream.get)
    if c ≠ some PIPE_CHAR then throw .refused else pure ()

def checkSequence (commandChar : Char) : Extract Unit := do
  let st ← get
  if commandChar ≠ PIPE_CHAR then
    if validSequence[st.place]? = some commandChar then
      set { st with place := if st.place = 4 then 0 else st.place + 1 }
    else throw .refused
  else if st.place ≠ 0 then throw .refused
  else pure ()

def readColor : Extract Unit := do
  let color ← onStream (readHex 8)
  modify fun st => { st with color := color }

/-- Case `'H'`. -/
def readLink (fuel : Nat) : Extract Unit := do
  let buffer ← onStream (Reader.call (Istream.getline 256 DELIMITER))
  let st ← get
  if st.iss.eof then throw .refused
  else
    match linkTypes.lookup (cString buffer) with
    | none => throw .refused
    | some type =>
      set { st with link := some { type := type, color := st.color } }
      let body ← onStream (linkInitialize D st.color fuel type)
      modify fun st' =>
        { st' with link := some { type := type, color := st.color, body := some body } }

def readName : Extract Unit := do
  let c ← onStream (Reader.call Istream.get)
  if c ≠ some '[' then throw .refused
  else
    let buffer ← onStream (Reader.call (Istream.getline 256 ']'))
    let st ← get
    if st.iss.eof then throw .refused
    else
      match st.link with
      | none => throw .refused
      | some link =>
        set { st with link := some { link with name := cString buffer } }
        match link.body with
        | none => throw .fault
        | some body =>
          match validateName D (cString buffer) body with
          | .ok _ => pure ()
          | .error e => throw e

/-- Case `'r'`. -/
def setBounds : Extract Unit := do
  let st ← get
  match st.link with
  | none => pure ()
  | some link =>
    let pos ← onStream (Reader.call Istream.tellg)
    modify fun st' => { st' with link := some { link with startPos := st.startPos, endPos := pos } }

def payload (fuel : Nat) (commandChar : Char) : Extract Unit :=
  if commandChar = 'c' then readColor
  else if commandChar = 'H' then readLink D fuel
  else if commandChar = 'h' then do
    let st ← get
    -- Of the two commands of this letter the first has the text.
    if validSequence[st.place]? = some 'h' then readName D else pure ()
  else if commandChar = 'r' then setBounds
  else if commandChar = PIPE_CHAR then pure ()
  else throw .refused

def runCommand (fuel : Nat) : Extract Unit := do
  let c ← onStream (Reader.call Istream.peek)
  let st ← get
  if c = some '\x00' then throw .refused
  else if st.iss.eof then pure ()
  else
    let commandChar ← onStream (Reader.call (Istream.readChar uninit))
    checkSequence commandChar
    payload D fuel commandChar

def nextCommand (fuel : Nat) : Extract Unit := do
  findPipe
  runCommand D uninit fuel

def commands : Nat → Extract Bool
  | 0 => throw .running
  | fuel + 1 => do
    let st ← get
    if st.iss.eof then pure (decide (st.place = 0))
    else
      nextCommand D uninit fuel
      commands fuel

def isValidMessage (fuel : Nat) (message : List Char) : Option (Bool × LinkExtractor) :=
  match commands D uninit fuel { iss := .ofString message } with
  | .ok valid st => some (valid, st)
  | .error .refused st => some (false, st)
  | .error _ _ => none

/-- The bytes that `base64` of a link holds. -/
def LinkBody.text : LinkBody → List Char
  | .trade _ base64 => base64
  | _ => []

def ChatLink.memory (link : ChatLink) : Nat :=
  1 + link.name.length + (link.body.elim [] LinkBody.text).length

def LinkExtractor.memory (st : LinkExtractor) : Nat :=
  ((st.links ++ st.link.toList).map ChatLink.memory).sum

end SkyfireBG

/-!
## The grammar

The forms of messages.
-/

namespace SkyfireBG

open Istream

variable (D : ChatStores) (uninit : Char)

def DataText (color : Nat) (type : LinkType) (data : List Char) (body : LinkBody) : Prop :=
  ∃ fuel, linkInitialize D color fuel type (sound (data ++ [PIPE_CHAR]) 0) =
    .ok body (sound [PIPE_CHAR] data.length)

def NameText (body : LinkBody) (name : List Char) : Prop :=
  validateName D (cString name) body = .ok ()

/-- A link in full: the colour, the type, the data and the name stand between the fixed parts. -/
def linkText (color type data name : List Char) : List Char :=
  ['|', 'c'] ++ color ++ ['|', 'H'] ++ type ++ [':'] ++ data ++ ['|', 'h', '['] ++ name ++
    [']', '|', 'h', '|', 'r']

inductive CompleteLink (captions : List Char → Prop) : List Char → Prop
  | mk {color typeName data name : List Char} {type : LinkType} {body : LinkBody} :
    color.length = 8 → (∀ c ∈ color, isDigit 16 c = true) → (typeName, type) ∈ linkTypes →
    DataText D (digitsVal 16 color) type data body → NameText D body name → captions name →
    CompleteLink captions (linkText color typeName data name)

inductive WellFormed (captions : List Char → Prop) : List Char → Prop
  | nil : WellFormed captions []
  | char {c : Char} {m : List Char} :
    c ≠ PIPE_CHAR → WellFormed captions m → WellFormed captions (c :: m)
  | pipe {m : List Char} :
    WellFormed captions m → WellFormed captions (PIPE_CHAR :: PIPE_CHAR :: m)
  | link {t m : List Char} :
    CompleteLink D captions t → WellFormed captions m → WellFormed captions (t ++ m)

def Blanks (w : List Char) : Prop := ∀ c ∈ w, isBlank c = true

/-- What the search for a pipe passes over: text and a pipe, or 255 characters without one. -/
inductive Opening : List Char → Prop
  | pipe {t : List Char} : PIPE_CHAR ∉ t → t.length < 255 → Opening (t ++ [PIPE_CHAR])
  | cut {t : List Char} : PIPE_CHAR ∉ t → t.length = 255 → Opening t

/-- What `>> std::hex` reads as the colour. -/
def ColorText (t : List Char) (color : Nat) : Prop :=
  ∃ n, number 16 (t.dropWhile isBlank) = (some n, []) ∧ toUInt32 n = some color ∧
    t.length % 2 ^ 32 = 8

/-- The command `c`. -/
inductive ColorPart (color : Nat) : List Char → Prop
  | mk {o w t : List Char} :
    Opening o → Blanks w → ColorText t color → ColorPart color (o ++ w ++ 'c' :: t)

/-- The command `H` up to the colon. -/
inductive TypePart (type : LinkType) : List Char → Prop
  | mk {w t : List Char} : Blanks w → DELIMITER ∉ t → t.length ≤ 255 →
    linkTypes.lookup (cString t) = some type → TypePart type ('|' :: w ++ 'H' :: t ++ [DELIMITER])

/-- The command `H`. -/
inductive DataPart (color : Nat) (body : LinkBody) : List Char → Prop
  | mk {t data : List Char} {type : LinkType} :
    TypePart type t → DataText D color type data body → DataPart color body (t ++ data)

/-- The first command `h`. -/
inductive NamePart (body : LinkBody) : List Char → Prop
  | mk {w name : List Char} : Blanks w → ']' ∉ name → name.length ≤ 255 → NameText D body name →
    NamePart body ('|' :: w ++ 'h' :: '[' :: name ++ [']'])

inductive LetterPart (letter : Char) : List Char → Prop
  | mk {w : List Char} : Blanks w → LetterPart letter ('|' :: w ++ [letter])

/-- The commands of a link up to the second `h`. -/
inductive LinkHead : List Char → Prop
  | mk {a b c d : List Char} {color : Nat} {body : LinkBody} :
    ColorPart color a → DataPart D color body b → NamePart D body c → LetterPart 'h' d →
    LinkHead (a ++ b ++ c ++ d)

inductive LooseItem : List Char → Prop
  | pipe {o w : List Char} : Opening o → Blanks w → LooseItem (o ++ w ++ [PIPE_CHAR])
  | link {a b : List Char} : LinkHead D a → LetterPart 'r' b → LooseItem (a ++ b)

/-- The end of a message. Where only blanks follow a pipe the command is the character that happens to
stand in the variable. -/
inductive LooseEnd : List Char → Prop
  | text {t : List Char} : PIPE_CHAR ∉ t → t.length < 255 → LooseEnd t
  | opening {o : List Char} : Opening o → LooseEnd o
  | pipe {o w : List Char} :
    Opening o → Blanks w → w ≠ [] → uninit = PIPE_CHAR → LooseEnd (o ++ w)
  | link {a w : List Char} :
    LinkHead D a → Blanks w → w ≠ [] → uninit = 'r' → LooseEnd (a ++ '|' :: w)

inductive Loose : List Char → Prop
  | ending {t : List Char} : LooseEnd D uninit t → Loose t
  | item {t m : List Char} : LooseItem D t → Loose m → Loose (t ++ m)

/-- The text of a trade link is skipped to the end of the message, or the name of a link is only that
of the profession, and what is copied then is longer than the buffer. -/
inductive EndlessEnd : List Char → Prop
  | trade {a b d t : List Char} {color pos : Nat} {link : TradeLink} :
    ColorPart color a → TypePart .trade b →
    tradeNumbers D color (sound d 0) = .ok link (sound t pos) → PIPE_CHAR ∉ t → '\x00' ∉ t →
    EndlessEnd (a ++ b ++ d)
  | name {a b w r : List Char} {color : Nat} {body : LinkBody} :
    ColorPart color a → DataPart D color body b → Blanks w →
    (lineLoop ']' 255 r).2.2 ≠ .input →
    validateName D (cString (lineLoop ']' 255 r).1) body = .error .fault →
    EndlessEnd (a ++ b ++ '|' :: w ++ 'h' :: '[' :: r)

inductive Endless : List Char → Prop
  | ending {t : List Char} : EndlessEnd D t → Endless t
  | item {t m : List Char} : LooseItem D t → Endless m → Endless (t ++ m)

end SkyfireBG
