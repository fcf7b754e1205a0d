import SkyfireBG.Chat.Language

/-!
# SkyfireBG.Chat.Memory

What the validation takes of the message and keeps of it.

* `message_returns` — it comes back, having read no more than the message and kept no more than its
  length, for all but the endless messages.
-/

namespace SkyfireBG

open Istream

variable {α β : Type} {D : ChatStores} {U : Char} {color fuel : Nat} {type : LinkType}
  {st st' st'' : LinkExtractor}

def Yields (P : α → Prop) (f : Reader α) : Prop := ∀ s a s', f s = .ok a s' → P a

theorem Yields.pure {P : α → Prop} {a : α} (ha : P a) : Yields P (Pure.pure a) := by
  intro s b s' h
  cases h
  exact ha

theorem Yields.bind {P : β → Prop} {f : Reader α} {g : α → Reader β} (hg : ∀ a, Yields P (g a)) :
    Yields P (f >>= g) := by
  intro s b s' h
  cases hf : f s with
  | ok a s₁ =>
    rw [bind_ok hf] at h
    exact hg a _ _ _ h
  | error e s₁ =>
    rw [bind_error hf] at h
    cases h

theorem yields_linkInitialize (h : type ≠ .trade) :
    Yields (fun body => body.text = []) (linkInitialize D color fuel type) := by
  cases type with
  | trade => exact absurd rfl h
  | item => exact .bind fun _ => .bind fun _ => .bind fun _ => .bind fun _ => .pure rfl
  | quest => exact .bind fun _ => .bind fun _ => .bind fun _ => .bind fun _ => .bind fun _ => .pure rfl
  | talent =>
    exact .bind fun _ => .bind fun _ => .bind fun _ => .bind fun _ => .bind fun _ => .bind fun _ =>
      .pure rfl
  | spell => exact .bind fun _ => .bind fun _ => .bind fun _ => .pure rfl
  | enchant => exact .bind fun _ => .bind fun _ => .bind fun _ => .pure rfl
  | achievement =>
    exact .bind fun _ => .bind fun _ => .bind fun _ => .bind fun _ => .bind fun _ => .bind fun _ =>
      .pure rfl
  | glyph =>
    exact .bind fun _ => .bind fun _ => .bind fun _ => .bind fun _ => .bind fun _ => .bind fun _ =>
      .pure rfl

theorem text_le {s s' : Istream} {body : LinkBody}
    (h : linkInitialize D color fuel type s = .ok body s') : body.text.length + s.pos ≤ s'.pos := by
  have hadv := (takesFront_linkInitialize (D := D) color fuel type).advances s
  rw [h] at hadv
  by_cases htype : type = .trade
  · subst htype
    change tradeInitialize D color fuel s = _ at h
    cases hnum : tradeNumbers D color s with
    | error e s₁ =>
      rw [tradeInitialize, bind_error hnum] at h
      cases h
    | ok link s₁ =>
      have hnum' := (takesFront_tradeNumbers (D := D) (b := false) color).advances s
      rw [hnum] at hnum'
      rw [tradeInitialize, bind_ok hnum] at h
      by_cases hex : s₁.good = false ∨ s₁.rest = []
      · obtain ⟨s₂, hs⟩ := readSkip_exhausted (n := fuel) [] hex
        rw [bind_error hs] at h
        cases h
      · rw [not_or] at hex
        obtain ⟨rest, pos, eof, fail⟩ := s₁
        have hflags : eof = false ∧ fail = false := by simpa [good] using hex.1
        obtain ⟨rfl, rfl⟩ := hflags
        rcases readSkip_eq (x := rest) (p := pos) (n := fuel) [] with ⟨heq, -, -⟩ | ⟨⟨s₂, hs⟩, -⟩
        · have hok := (bind_ok heq).symm.trans h
          cases hok
          have hle : s.pos ≤ pos := Advances.le hnum'
          change ([] ++ skipped rest).length + s.pos ≤ pos + (skipped rest).length
          rw [List.nil_append]
          omega
        · cases (bind_error hs).symm.trans h
  · rw [yields_linkInitialize htype _ _ _ h, List.length_nil, Nat.zero_add]
    exact Advances.le hadv

/-! ## The memory of the links -/

structure Grows (st st' : LinkExtractor) : Prop where
  advances : Advances st.iss st'.iss
  memory : st'.memory + st.iss.pos ≤ st.memory + st'.iss.pos

theorem Grows.trans (h : Grows st st') (h' : Grows st' st'') : Grows st st'' := by
  have h1 := h.memory
  have h2 := h'.memory
  exact ⟨h.advances.trans h'.advances, by omega⟩

theorem Grows.refl (st : LinkExtractor) : Grows st st := ⟨Advances.refl _, Nat.le_refl _⟩

def Thrifty (f : Extract α) : Prop := ∀ st, Grows st (stateOf (f st))

namespace Thrifty

theorem bind {f : Extract α} {g : α → Extract β} (hf : Thrifty f) (hg : ∀ a, Thrifty (g a)) :
    Thrifty (f >>= g) := by
  intro st
  have hst := hf st
  cases h : f st with
  | ok a st' =>
    rw [h] at hst
    rw [bind_ok h]
    exact hst.trans (hg a st')
  | error e st' =>
    rw [h] at hst
    rw [bind_error h]
    exact hst

theorem pure (a : α) : Thrifty (Pure.pure a : Extract α) := fun st => Grows.refl st

theorem throw (e : Stop) : Thrifty (MonadExcept.throw e : Extract α) := fun st => Grows.refl st

theorem get : Thrifty (MonadState.get : Extract LinkExtractor) := fun st => Grows.refl st

theorem onStream {b : Bool} {f : Reader α} (hf : TakesFront b f) : Thrifty (SkyfireBG.onStream f) := by
  intro st
  have hadv := hf.advances st.iss
  unfold SkyfireBG.onStream
  cases h : f st.iss with
  | ok a s =>
    rw [h] at hadv
    exact ⟨hadv, Nat.add_le_add_left (Advances.le hadv) st.memory⟩
  | error e s =>
    rw [h] at hadv
    exact ⟨hadv, Nat.add_le_add_left (Advances.le hadv) st.memory⟩

end Thrifty

theorem memory_eq (st : LinkExtractor) : st.memory =
    (st.links.map ChatLink.memory).sum + (st.link.elim 0 ChatLink.memory) := by
  rw [LinkExtractor.memory, List.map_append, List.sum_append]
  cases st.link <;> rfl

theorem thrifty_findPipe : Thrifty findPipe := by
  intro st
  have hstart : Grows st { st with link := none, links := st.links ++ st.link.toList } := by
    refine ⟨Advances.refl _, ?_⟩
    rw [memory_eq, LinkExtractor.memory]
    exact Nat.le_refl _
  have hrest : Thrifty (onStream (Reader.call fun s => ((), s.ignore 255 PIPE_CHAR)) >>= fun _ =>
      onStream (Reader.call Istream.tellg) >>= fun pos =>
        modify fun st : LinkExtractor => { st with startPos := pos - 1 }) := by
    refine .bind (.onStream (b := false) ⟨fun s => advances_ignore _ _ s, nofun⟩) fun _ =>
      .bind (.onStream (b := false) (.call advances_tellg)) fun pos st => ?_
    exact ⟨Advances.refl _, Nat.le_refl _⟩
  have hwithin : Thrifty (onStream (Reader.call Istream.get) >>= fun c =>
      if c ≠ some PIPE_CHAR then throw .refused else pure ()) := by
    refine .bind (.onStream (b := false) (.call advances_get)) fun c => ?_
    split_ifs
    · exact .throw _
    · exact .pure _
  rw [findPipe, bind_ok (show (get : Extract LinkExtractor) st = .ok st st from rfl)]
  by_cases h : st.place = 0
  · rw [if_pos h]
    exact hstart.trans (hrest _)
  · rw [if_neg h]
    exact hwithin st

theorem thrifty_checkSequence (c : Char) : Thrifty (checkSequence c) := by
  intro st
  rw [checkSequence, bind_ok (show (get : Extract LinkExtractor) st = .ok st st from rfl)]
  split_ifs
  · exact ⟨Advances.refl _, Nat.le_refl _⟩
  · exact ⟨Advances.refl _, Nat.le_refl _⟩
  · exact Grows.refl st
  · exact Grows.refl st
  · exact Grows.refl st

theorem thrifty_readColor : Thrifty readColor :=
  .bind (.onStream (takesFront_readHex (b := false) 8)) fun _ _ => ⟨Advances.refl _, Nat.le_refl _⟩

theorem cString_length_le (buffer : List Char) : (cString buffer).length ≤ buffer.length :=
  (List.takeWhile_prefix _).length_le

theorem thrifty_readLink (fuel : Nat) : Thrifty (readLink D fuel) := by
  rintro ⟨iss, place, color, link, links, startPos⟩
  have hadv := advances_getline 256 DELIMITER iss
  have hlen := getline_length 256 DELIMITER iss
  have hline : Grows ⟨iss, place, color, link, links, startPos⟩
      ⟨(getline 256 DELIMITER iss).2, place, color, link, links, startPos⟩ :=
    ⟨hadv, Nat.add_le_add_left hadv.le _⟩
  rw [readLink, bind_ok (show onStream (Reader.call (getline 256 DELIMITER))
    ⟨iss, place, color, link, links, startPos⟩ = .ok (getline 256 DELIMITER iss).1
      ⟨(getline 256 DELIMITER iss).2, place, color, link, links, startPos⟩ from rfl),
    bind_ok (show (get : Extract LinkExtractor) _ = .ok _ _ from rfl)]
  split_ifs
  · exact hline
  · cases hlook : linkTypes.lookup (cString (getline 256 DELIMITER iss).1) with
    | none => exact hline
    | some type =>
      -- The name of a type is not empty, so that a link takes a character at least.
      have hpos : 1 ≤ (getline 256 DELIMITER iss).1.length := by
        refine List.length_pos_of_ne_nil fun hnil => ?_
        rw [hnil] at hlook
        cases hlook
      have hnew : ∀ (body : Option LinkBody) (s : Istream), Advances (getline 256 DELIMITER iss).2 s →
          (body.elim [] LinkBody.text).length + (getline 256 DELIMITER iss).2.pos ≤ s.pos →
          Grows ⟨iss, place, color, link, links, startPos⟩
            ⟨s, place, color, some ⟨type, color, [], 0, 0, body⟩, links, startPos⟩ := by
        intro body s hs htext
        refine ⟨hadv.trans hs, ?_⟩
        rw [memory_eq, memory_eq]
        change (links.map ChatLink.memory).sum + (1 + 0 + (body.elim [] LinkBody.text).length) + iss.pos ≤
          (links.map ChatLink.memory).sum + link.elim 0 ChatLink.memory + s.pos
        omega
      dsimp only
      rw [bind_ok (show (set _ : Extract PUnit) _ = .ok () _ from rfl)]
      have hinit := (takesFront_linkInitialize (D := D) color fuel type).advances
        (getline 256 DELIMITER iss).2
      cases hres : linkInitialize D color fuel type (getline 256 DELIMITER iss).2 with
      | ok body s =>
        rw [hres] at hinit
        rw [bind_ok (show onStream (linkInitialize D color fuel type)
          ⟨(getline 256 DELIMITER iss).2, place, color, some ⟨type, color, [], 0, 0, none⟩, links,
            startPos⟩ = .ok body ⟨s, place, color, some ⟨type, color, [], 0, 0, none⟩, links, startPos⟩ by
          rw [onStream, hres])]
        exact hnew (some body) s hinit (text_le hres)
      | error e s =>
        rw [hres] at hinit
        rw [bind_error (show onStream (linkInitialize D color fuel type)
          ⟨(getline 256 DELIMITER iss).2, place, color, some ⟨type, color, [], 0, 0, none⟩, links,
            startPos⟩ = .error e ⟨s, place, color, some ⟨type, color, [], 0, 0, none⟩, links, startPos⟩ by
          rw [onStream, hres])]
        exact hnew none s hinit ((Nat.zero_add _).trans_le hinit.le)

theorem thrifty_readName : Thrifty (readName D) := by
  refine .bind (.onStream (b := false) (.call advances_get)) fun c => ?_
  split_ifs
  · exact .throw _
  · rintro ⟨iss, place, color, link, links, startPos⟩
    have hadv := advances_getline 256 ']' iss
    have hlen := getline_length 256 ']' iss
    have hline : Grows ⟨iss, place, color, link, links, startPos⟩
        ⟨(getline 256 ']' iss).2, place, color, link, links, startPos⟩ :=
      ⟨hadv, Nat.add_le_add_left hadv.le _⟩
    rw [bind_ok (show onStream (Reader.call (getline 256 ']'))
      ⟨iss, place, color, link, links, startPos⟩ = .ok (getline 256 ']' iss).1
        ⟨(getline 256 ']' iss).2, place, color, link, links, startPos⟩ from rfl),
      bind_ok (show (get : Extract LinkExtractor) _ = .ok _ _ from rfl)]
    split_ifs
    · exact hline
    · cases link with
      | none => exact hline
      | some link =>
        have hnew : Grows ⟨iss, place, color, some link, links, startPos⟩
            ⟨(getline 256 ']' iss).2, place, color,
              some { link with name := cString (getline 256 ']' iss).1 }, links, startPos⟩ := by
          refine ⟨hadv, ?_⟩
          have hname := cString_length_le (getline 256 ']' iss).1
          rw [memory_eq, memory_eq]
          change (links.map ChatLink.memory).sum + (1 + (cString (getline 256 ']' iss).1).length +
              (link.body.elim [] LinkBody.text).length) + iss.pos ≤
            (links.map ChatLink.memory).sum + (1 + link.name.length +
              (link.body.elim [] LinkBody.text).length) + (getline 256 ']' iss).2.pos
          omega
        dsimp only
        rw [bind_ok (show (set _ : Extract PUnit) _ = .ok () _ from rfl)]
        cases hbody : link.body with
        | none =>
          rw [hbody] at hnew
          exact hnew
        | some body =>
          rw [hbody] at hnew
          dsimp only
          cases validateName D (cString (getline 256 ']' iss).1) body with
          | ok v => exact hnew
          | error e => exact hnew

theorem thrifty_setBounds : Thrifty setBounds := by
  rintro ⟨iss, place, color, link, links, startPos⟩
  cases link with
  | none => exact Grows.refl _
  | some link =>
    have hadv := advances_tellg iss
    refine ⟨hadv, ?_⟩
    rw [memory_eq, memory_eq]
    exact Nat.add_le_add_left hadv.le _

theorem thrifty_payload (fuel : Nat) (c : Char) : Thrifty (payload D fuel c) := by
  unfold payload
  split_ifs
  · exact thrifty_readColor
  · exact thrifty_readLink fuel
  · refine .bind .get fun st => ?_
    split_ifs
    · exact thrifty_readName
    · exact .pure _
  · exact thrifty_setBounds
  · exact .pure _
  · exact .throw _

theorem thrifty_nextCommand (fuel : Nat) : Thrifty (nextCommand D U fuel) := by
  refine thrifty_findPipe.bind fun _ =>
    Thrifty.bind (.onStream (b := false) (.call advances_peek)) fun c => .bind .get fun st => ?_
  split_ifs
  · exact .throw _
  · exact .pure _
  · exact .bind (.onStream (b := false) (.call (advances_readChar U))) fun c =>
      (thrifty_checkSequence c).bind fun _ => thrifty_payload fuel c

theorem thrifty_commands (fuel : Nat) : Thrifty (commands D U fuel) := by
  induction fuel with
  | zero => exact .throw _
  | succ fuel ih =>
    refine .bind .get fun st => ?_
    split_ifs
    · exact .pure _
    · exact (thrifty_nextCommand fuel).bind fun _ => ih

theorem message_bounds {m : List Char} {valid : Bool} {s : LinkExtractor}
    (h : isValidMessage D U fuel m = some (valid, s)) :
    s.iss.pos ≤ m.length ∧ s.memory ≤ m.length := by
  have hgrow := thrifty_commands (D := D) (U := U) fuel { iss := ofString m }
  have hstate : stateOf (commands D U fuel { iss := ofString m }) = s := by
    unfold isValidMessage at h
    cases hres : commands D U fuel { iss := ofString m } with
    | ok v s' =>
      rw [hres] at h
      cases h
      rfl
    | error e s' =>
      rw [hres] at h
      cases e with
      | refused =>
        cases h
        rfl
      | running => cases h
      | fault => cases h
  rw [hstate] at hgrow
  have hpos := hgrow.advances.pos
  have hmem : s.memory + 0 ≤ 0 + s.iss.pos := hgrow.memory
  change s.iss.pos + s.iss.rest.length = 0 + m.length at hpos
  exact ⟨by omega, by omega⟩

/-- The validation of a message comes back, having read no more than the message and kept no more than
its length, exactly when the message is not endless. -/
theorem message_returns (D : ChatStores) (uninit : Char) (m : List Char) :
    (∃ fuel valid s, isValidMessage D uninit fuel m = some (valid, s) ∧ s.iss.pos ≤ m.length ∧
      s.memory ≤ m.length) ↔ ¬ Endless D m := by
  rw [← returns_iff (U := uninit)]
  exact ⟨fun ⟨fuel, valid, s, h, _⟩ => ⟨fuel, valid, s, h⟩,
    fun ⟨fuel, valid, s, h⟩ => ⟨fuel, valid, s, h, message_bounds h⟩⟩

def tradeStores : ChatStores where
  getItemTemplate _ := none
  getItemLocale _ := none
  itemRandomProperties _ := none
  itemRandomSuffix _ := none
  getQuestTemplate _ := none
  getQuestLocale _ := none
  getSpellInfo id := if id = 4037 then some ⟨4037, 0, ['E']⟩ else none
  getSkillLineAbilities _ := []
  skillLine _ := none
  achievement _ := none
  talent _ := none
  glyphProperties _ := none

def cutTradeLink : List Char :=
  ['|', 'c', 'f', 'f', 'f', 'f', 'd', '0', '0', '0', '|', 'H', 't', 'r', 'a', 'd', 'e', ':',
    '4', '0', '3', '7', ':', '1', ':', '1', '5', '0', ':', '1', ':', '6', 'A']

theorem message_returns_cut : ¬ ∃ fuel valid s,
    isValidMessage tradeStores '\x00' fuel cutTradeLink = some (valid, s) ∧
      s.iss.pos ≤ cutTradeLink.length ∧ s.memory ≤ cutTradeLink.length := by
  rintro ⟨fuel, valid, s, h, -⟩
  have hopen : Opening ([] ++ [PIPE_CHAR]) := .pipe (by decide) (by decide)
  have hcolor : ColorPart CHAT_LINK_COLOR_TRADE
      ([] ++ [PIPE_CHAR] ++ [] ++ 'c' :: ['f', 'f', 'f', 'f', 'd', '0', '0', '0']) :=
    .mk hopen nofun ⟨(false, CHAT_LINK_COLOR_TRADE), rfl, rfl, rfl⟩
  have htype : TypePart .trade ('|' :: [] ++ 'H' :: ['t', 'r', 'a', 'd', 'e'] ++ [DELIMITER]) :=
    .mk nofun (by decide) (by decide) (by decide)
  have hnum : tradeNumbers tradeStores CHAT_LINK_COLOR_TRADE
      (sound ['4', '0', '3', '7', ':', '1', ':', '1', '5', '0', ':', '1', ':', '6', 'A'] 0) =
      .ok ⟨⟨4037, 0, ['E']⟩, 1, 150, 1⟩ (sound [':', '6', 'A'] 12) := rfl
  exact returns_iff.mp ⟨fuel, valid, s, h⟩
    (.ending (.trade hcolor htype hnum (by decide) (by decide)))

end SkyfireBG
