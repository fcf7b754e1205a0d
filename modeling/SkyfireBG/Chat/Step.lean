import SkyfireBG.Chat.Local

/-!
# SkyfireBG.Chat.Step

One turn of the loop of `IsValidMessage` on a stream with nothing wrong before it, by the place in the
sequence: what it can do (`…_cases`) and what it does on a part of the right form.
-/

namespace SkyfireBG

open Istream

variable {D : ChatStores} {U : Char} {st st' : LinkExtractor} {m r o w t x : List Char}
  {n p q color place : Nat} {type : LinkType} {body : LinkBody}

/-- What `ignore` skips: all there is, up to the first pipe, or as many characters as it may. -/
theorem ignoreLoop_cases (n : Nat) (m : List Char) :
    (PIPE_CHAR ∉ m ∧ m.length < n ∧ ignoreLoop PIPE_CHAR n m = ([], true)) ∨
    ∃ t r, ignoreLoop PIPE_CHAR n m = (r, false) ∧ PIPE_CHAR ∉ t ∧
      (m = t ++ PIPE_CHAR :: r ∧ t.length < n ∨ m = t ++ r ∧ t.length = n) := by
  induction n generalizing m with
  | zero => exact .inr ⟨[], m, rfl, List.not_mem_nil, .inr ⟨rfl, rfl⟩⟩
  | succ n ih =>
    cases m with
    | nil => exact .inl ⟨List.not_mem_nil, Nat.succ_pos _, rfl⟩
    | cons c m =>
      by_cases hc : c = PIPE_CHAR
      · subst hc
        exact .inr ⟨[], m, if_pos rfl, List.not_mem_nil, .inl ⟨rfl, Nat.succ_pos _⟩⟩
      · have hne : PIPE_CHAR ≠ c := fun h => hc h.symm
        rw [ignoreLoop, if_neg hc]
        rcases ih m with ⟨hm, hlen, heq⟩ | ⟨t, r, heq, ht, hor⟩
        · exact .inl ⟨List.not_mem_cons_of_ne_of_not_mem hne hm, Nat.succ_lt_succ hlen, heq⟩
        · refine .inr ⟨c :: t, r, heq, List.not_mem_cons_of_ne_of_not_mem hne ht, hor.imp ?_ ?_⟩
          · rintro ⟨rfl, hlen⟩
            exact ⟨rfl, Nat.succ_lt_succ hlen⟩
          · rintro ⟨rfl, hlen⟩
            exact ⟨rfl, congrArg (· + 1) hlen⟩

theorem ignoreLoop_append (ht : PIPE_CHAR ∉ t) :
    ignoreLoop PIPE_CHAR (t.length + n) (t ++ r) = ignoreLoop PIPE_CHAR n r := by
  induction t with
  | nil => rw [List.length_nil, Nat.zero_add, List.nil_append]
  | cons c t ih =>
    rw [List.mem_cons, not_or] at ht
    obtain ⟨hc, ht⟩ := ht
    rw [List.length_cons, Nat.succ_add, List.cons_append, ignoreLoop, if_neg fun h => hc h.symm, ih ht]

theorem ignoreLoop_opening (ho : Opening o) (r : List Char) :
    ignoreLoop PIPE_CHAR 255 (o ++ r) = (r, false) := by
  cases ho with
  | @pipe t ht hlen =>
    obtain ⟨k, hk⟩ : ∃ k, 255 = t.length + (k + 1) := ⟨254 - t.length, by omega⟩
    rw [hk, List.append_assoc, ignoreLoop_append ht]
    exact if_pos rfl
  | cut ht hlen =>
    rw [← hlen]
    exact ignoreLoop_append (n := 0) ht

structure At (st : LinkExtractor) (place : Nat) (m : List Char) : Prop where
  place : st.place = place
  iss : ∃ p, st.iss = sound m p

theorem findPipe_start {link : Option ChatLink} {links : List ChatLink} {startPos : Int} :
    findPipe ⟨sound m p, 0, color, link, links, startPos⟩ =
      .ok () ⟨(tellg (ignore 255 PIPE_CHAR (sound m p))).2, 0, color, none, links ++ link.toList,
        (tellg (ignore 255 PIPE_CHAR (sound m p))).1 - 1⟩ := rfl

/-- Before a link, what is skipped is an opening. -/
theorem findPipe_opening (ho : Opening o) (h : At st 0 (o ++ r)) :
    ∃ st', findPipe st = .ok () st' ∧ At st' 0 r ∧ st'.link = none := by
  obtain ⟨hplace, p, hiss⟩ := h
  obtain ⟨iss, place, color, link, links, startPos⟩ := st
  cases hplace
  cases hiss
  have hignore : ignore 255 PIPE_CHAR (sound (o ++ r) p) = sound r (p + o.length) := by
    rw [ignore_sound, ignoreLoop_opening ho, goTo_append]
    rfl
  refine ⟨_, findPipe_start, ⟨rfl, p + o.length, ?_⟩, rfl⟩
  rw [hignore]
  rfl

/-- Nothing but the end of the message comes without a pipe within 255 characters. -/
theorem findPipe_cases (h : At st 0 m) :
    (∃ o r, m = o ++ r ∧ Opening o) ∨
    PIPE_CHAR ∉ m ∧ m.length < 255 ∧ ∃ st', findPipe st = .ok () st' ∧ st'.place = 0 ∧
      st'.iss.eof = true ∧ st'.iss.fail = true := by
  obtain ⟨hplace, p, hiss⟩ := h
  obtain ⟨iss, place, color, link, links, startPos⟩ := st
  cases hplace
  cases hiss
  rcases ignoreLoop_cases 255 m with ⟨hm, hlen, heq⟩ | ⟨t, r, -, ht, ⟨rfl, hlen⟩ | ⟨rfl, hlen⟩⟩
  · refine .inr ⟨hm, hlen, _, findPipe_start, rfl, ?_⟩
    have hignore : ignore 255 PIPE_CHAR (sound m p) = { (sound m p).goTo [] with eof := true } := by
      rw [ignore_sound, heq]
    rw [hignore]
    exact ⟨rfl, rfl⟩
  · refine .inl ⟨t ++ [PIPE_CHAR], r, by simp, .pipe ht hlen⟩
  · exact .inl ⟨t, r, rfl, .cut ht hlen⟩

theorem findPipe_next (c : Char) (m : List Char) (p n color : Nat) (link : Option ChatLink)
    (links : List ChatLink) (startPos : Int) :
    findPipe ⟨sound (c :: m) p, n + 1, color, link, links, startPos⟩ =
      (if some c ≠ some PIPE_CHAR then throw .refused else pure () : Extract Unit)
        ⟨(sound (c :: m) p).goTo m, n + 1, color, link, links, startPos⟩ := rfl

/-- Inside a link the pipe stands there at once. -/
theorem findPipe_within (hplace : place ≠ 0) (h : At st place ('|' :: r)) :
    ∃ st', findPipe st = .ok () st' ∧ At st' place r ∧ st'.link = st.link ∧ st'.color = st.color := by
  obtain ⟨hp, p, hiss⟩ := h
  obtain ⟨iss, place', color, link, links, startPos⟩ := st
  cases hp
  cases hiss
  obtain ⟨k, rfl⟩ := Nat.exists_eq_succ_of_ne_zero hplace
  refine ⟨_, rfl, ⟨rfl, p + 1, ?_⟩, rfl, rfl⟩
  exact goTo_append (x := ['|'])

theorem findPipe_refused (hplace : place ≠ 0) (h : At st place m) (hm : m.head? ≠ some '|') :
    ∃ s, findPipe st = .error .refused s := by
  obtain ⟨hp, p, hiss⟩ := h
  obtain ⟨iss, place', color, link, links, startPos⟩ := st
  cases hp
  cases hiss
  obtain ⟨k, rfl⟩ := Nat.exists_eq_succ_of_ne_zero hplace
  cases m with
  | nil => exact ⟨_, rfl⟩
  | cons c m =>
    have hc : some c ≠ some PIPE_CHAR := hm
    have h := findPipe_next c m p k color link links startPos
    rw [if_pos hc] at h
    exact ⟨_, h⟩

/-! ## The letter -/

def afterLetter (D : ChatStores) (fuel : Nat) (c : Char) : Extract Unit := do
  checkSequence c
  payload D fuel c

theorem runCommand_empty (h : At st place []) : ∃ st', runCommand D U n st = .ok () st' ∧
    st'.place = place ∧ st'.iss.eof = true := by
  obtain ⟨hp, p, hiss⟩ := h
  obtain ⟨iss, place', color, link, links, startPos⟩ := st
  cases hp
  cases hiss
  exact ⟨_, rfl, rfl, rfl⟩

theorem runCommand_cons {c : Char} (hc : c ≠ '\x00') (h : At st place (c :: r)) :
    runCommand D U n st = afterLetter D n (readChar U st.iss).1
      { st with iss := (readChar U st.iss).2 } := by
  obtain ⟨hp, p, hiss⟩ := h
  obtain ⟨iss, place', color, link, links, startPos⟩ := st
  cases hp
  cases hiss
  have hne : some c ≠ some '\x00' := fun h => hc (Option.some.inj h)
  have hrun : ∀ st : LinkExtractor, st.iss = sound (c :: r) p → runCommand D U n st =
      (if some c = some '\x00' then throw .refused
        else do
          let commandChar ← onStream (Reader.call (readChar U))
          afterLetter D n commandChar : Extract Unit) st := by
    rintro ⟨iss, place, color, link, links, startPos⟩ rfl
    rfl
  rw [hrun _ rfl, if_neg hne]
  rfl

theorem runCommand_eof (heof : st.iss.eof = true) : ∃ s, runCommand D U n st = .ok () s ∧
    s.place = st.place ∧ s.iss.eof = true := by
  obtain ⟨iss, place, color, link, links, startPos⟩ := st
  have hpeek : peek iss = (none, iss.failed) := if_neg (by simp [good, show iss.eof = true from heof])
  have hcall : onStream (Reader.call peek) ⟨iss, place, color, link, links, startPos⟩ =
      .ok none ⟨iss.failed, place, color, link, links, startPos⟩ := by
    change EStateM.Result.ok (peek iss).1
      (⟨(peek iss).2, place, color, link, links, startPos⟩ : LinkExtractor) = _
    rw [hpeek]
  rw [runCommand, bind_ok hcall, bind_ok (show (get : Extract LinkExtractor) _ = .ok _ _ from rfl)]
  dsimp only
  rw [if_neg (Option.some_ne_none _).symm, if_pos (show iss.failed.eof = true from heof)]
  exact ⟨_, rfl, rfl, heof⟩

theorem runCommand_nul (h : At st place ('\x00' :: r)) :
    ∃ s, runCommand D U n st = .error .refused s := by
  obtain ⟨hp, p, hiss⟩ := h
  obtain ⟨iss, place', color, link, links, startPos⟩ := st
  cases hp
  cases hiss
  exact ⟨_, rfl⟩

theorem isBlank_nul : isBlank '\x00' = false := by decide

theorem runCommand_blanks (hw : Blanks w) (hne : w ≠ []) (h : At st place w) :
    ∃ s, s.place = place ∧ s.link = st.link ∧ s.iss.eof = true ∧ s.iss.fail = true ∧
      s.iss.rest = [] ∧ runCommand D U n st = afterLetter D n U s := by
  cases w with
  | nil => exact absurd rfl hne
  | cons c w =>
    have hc : c ≠ '\x00' := by
      rintro rfl
      have hblank := hw _ List.mem_cons_self
      rw [isBlank_nul] at hblank
      cases hblank
    have hrun := runCommand_cons (D := D) (U := U) (n := n) hc h
    obtain ⟨hp, p, hiss⟩ := h
    rw [hiss, readChar_blanks hw] at hrun
    exact ⟨{ st with iss := ⟨[], p + (c :: w).length, true, true⟩ }, hp, rfl, rfl, rfl, rfl, hrun⟩

/-- The letter of a command is found behind blanks. -/
theorem runCommand_letter {c : Char} (hw : Blanks w) (hc : isBlank c = false) (hnul : c ≠ '\x00')
    (h : At st place (w ++ c :: r)) :
    ∃ s, At s place r ∧ s.link = st.link ∧ s.color = st.color ∧
      runCommand D U n st = afterLetter D n c s := by
  obtain ⟨d, m, hm, hd⟩ : ∃ d m, w ++ c :: r = d :: m ∧ d ≠ '\x00' := by
    cases w with
    | nil => exact ⟨c, r, rfl, hnul⟩
    | cons d w =>
      refine ⟨d, w ++ c :: r, rfl, ?_⟩
      rintro rfl
      have hblank := hw _ List.mem_cons_self
      rw [isBlank_nul] at hblank
      cases hblank
  have hrun := runCommand_cons (D := D) (U := U) (n := n) hd (hm ▸ h)
  obtain ⟨hp, p, hiss⟩ := h
  rw [hiss, readChar_append hw hc] at hrun
  exact ⟨{ st with iss := sound r (p + (w.length + 1)) }, ⟨hp, _, rfl⟩, rfl, rfl, hrun⟩

theorem afterLetter_refused {c : Char} (hc : c ≠ PIPE_CHAR)
    (h : validSequence[st.place]? ≠ some c) : afterLetter D n c st = .error .refused st := by
  have hcheck : checkSequence c st = .error .refused st :=
    (congrFun (if_pos hc) st).trans (congrFun (if_neg h) st)
  exact bind_error hcheck

theorem afterLetter_cases (D : ChatStores) (n : Nat) (c : Char) (st : LinkExtractor) :
    c = PIPE_CHAR ∧ st.place = 0 ∧ afterLetter D n c st = .ok () st ∨
    c = 'c' ∧ st.place = 0 ∧ afterLetter D n c st = readColor { st with place := 1 } ∨
    c = 'H' ∧ st.place = 1 ∧ afterLetter D n c st = readLink D n { st with place := 2 } ∨
    c = 'h' ∧ st.place = 2 ∧ afterLetter D n c st = readName D { st with place := 3 } ∨
    c = 'h' ∧ st.place = 3 ∧ afterLetter D n c st = .ok () { st with place := 4 } ∨
    c = 'r' ∧ st.place = 4 ∧ afterLetter D n c st = setBounds { st with place := 0 } ∨
    ∃ s, afterLetter D n c st = .error .refused s := by
  by_cases hc : c = PIPE_CHAR
  · subst hc
    obtain ⟨iss, place, color, link, links, startPos⟩ := st
    cases place with
    | zero => exact .inl ⟨rfl, rfl, rfl⟩
    | succ k => exact .inr (.inr (.inr (.inr (.inr (.inr ⟨_, rfl⟩)))))
  · by_cases h : validSequence[st.place]? = some c
    · obtain ⟨iss, place, color, link, links, startPos⟩ := st
      match place, h with
      | 0, h =>
        obtain rfl : 'c' = c := Option.some.inj h
        exact .inr (.inl ⟨rfl, rfl, rfl⟩)
      | 1, h =>
        obtain rfl : 'H' = c := Option.some.inj h
        exact .inr (.inr (.inl ⟨rfl, rfl, rfl⟩))
      | 2, h =>
        obtain rfl : 'h' = c := Option.some.inj h
        exact .inr (.inr (.inr (.inl ⟨rfl, rfl, rfl⟩)))
      | 3, h =>
        obtain rfl : 'h' = c := Option.some.inj h
        exact .inr (.inr (.inr (.inr (.inl ⟨rfl, rfl, rfl⟩))))
      | 4, h =>
        obtain rfl : 'r' = c := Option.some.inj h
        exact .inr (.inr (.inr (.inr (.inr (.inl ⟨rfl, rfl, rfl⟩)))))
      | k + 5, h => cases h
    · exact .inr (.inr (.inr (.inr (.inr (.inr ⟨_, afterLetter_refused hc h⟩)))))

theorem readHex_eq (length : Nat) (x : List Char) (p : Nat) (hl : length ≠ 0) :
    readHex length (sound x p) =
      (if ((tellg (Istream.readUInt32 16 (sound x p)).2).1 - p) % 2 ^ 32 ≠ length then throw .refused
        else Reader.checked (Istream.readUInt32 16 (sound x p)).1 : Reader Nat)
          (tellg (Istream.readUInt32 16 (sound x p)).2).2 := by
  have h : readHex length (sound x p) =
      (if length ≠ 0 then do
          let now ← Reader.call tellg
          if (now - p) % 2 ^ 32 ≠ length then throw .refused
          else Reader.checked (Istream.readUInt32 16 (sound x p)).1
        else Reader.checked (Istream.readUInt32 16 (sound x p)).1 : Reader Nat)
          (Istream.readUInt32 16 (sound x p)).2 := rfl
  rw [h, if_pos hl]
  rfl

theorem readHex_refused {s : Istream} {res : Option Nat} {length : Nat} {z : Int}
    (h : res = none ∨ s.eof = true) :
    ∃ s', (if z % 2 ^ 32 ≠ length then throw .refused else Reader.checked res : Reader Nat)
      (tellg s).2 = .error .refused s' := by
  split_ifs
  · exact ⟨_, rfl⟩
  · cases res with
    | none => exact ⟨_, rfl⟩
    | some v =>
      have hs : (tellg s).2 = s.failed := congrArg Prod.snd (if_neg (by simp [good, h.resolve_left (Option.some_ne_none v)]))
      rw [hs]
      exact ⟨_, rfl⟩

/-- Eight hexadecimal digits are read, or the message is refused. -/
theorem readHex_cases (x : List Char) (p : Nat) :
    (∃ s, readHex 8 (sound x p) = .error .refused s) ∨
    ∃ color c r, x = c ++ r ∧ readHex 8 (sound x p) = .ok color (sound r (p + c.length)) ∧
      (r.head? = some PIPE_CHAR → ColorText c color) := by
  obtain ⟨b, x, t, rfl, hx, ht⟩ := exists_split x
  obtain ⟨h1, h2⟩ := readNumber_tail (x := x) (p := p) (.inr rfl : (16 : Nat) = 10 ∨ 16 = 16) ht
  obtain ⟨c, hc⟩ : (number 16 (x.dropWhile isBlank)).2 <:+ x :=
    number_suffix.trans (List.dropWhile_suffix _)
  rw [readHex_eq 8 _ p (by decide)]
  cases hres : (number 16 (x.dropWhile isBlank)).1.bind toUInt32 with
  | none =>
    have hread : (Istream.readUInt32 16 (sound (x ++ t) p)).1 = none := by
      rw [Istream.readUInt32, convert, h1, hres]
    exact .inl (readHex_refused (.inl hread))
  | some color =>
    obtain ⟨num, hnum, hconv⟩ := Option.bind_eq_some_iff.mp hres
    have hsome : (number 16 (x.dropWhile isBlank)).1.isSome = true := by rw [hnum]; rfl
    generalize hy : (number 16 (x.dropWhile isBlank)).2 = y at h2 hc
    have hread : Istream.readUInt32 16 (sound (x ++ t) p) =
        (some color, ⟨y ++ t, p + (x.length - y.length), (y ++ t).isEmpty, false⟩) := by
      rw [Istream.readUInt32, convert, h1, hres, h2 hsome]
      rfl
    have hlen : x.length - y.length = c.length := by
      rw [← hc, List.length_append, Nat.add_sub_cancel]
    rw [hread, hlen]
    cases hempty : (y ++ t).isEmpty with
    | true => exact .inl (readHex_refused (.inr rfl))
    | false =>
      have hdiff : ((p + c.length : Nat) : Int) - p = c.length := by omega
      change (∃ s, (if (((p + c.length : Nat) : Int) - p) % 2 ^ 32 ≠ (8 : Nat) then throw .refused
        else Reader.checked (some color) : Reader Nat) (sound (y ++ t) (p + c.length)) = _) ∨ _
      rw [hdiff]
      by_cases h8 : (c.length : Int) % 2 ^ 32 = (8 : Nat)
      · refine .inr ⟨color, c, y ++ t, by rw [← List.append_assoc, hc], ?_, fun hhead => ?_⟩
        · change (if (((p + c.length : Nat) : Int) - p) % 2 ^ 32 ≠ (8 : Nat) then throw .refused
            else Reader.checked (some color) : Reader Nat) (sound (y ++ t) (p + c.length)) = _
          rw [hdiff, if_neg (not_not.mpr h8)]
          rfl
        · cases y with
          | nil =>
            rw [List.append_nil] at hc
            subst hc
            exact ⟨num, Prod.ext hnum hy, hconv, by omega⟩
          | cons z y =>
            cases hhead
            exact absurd (hc ▸ List.mem_append_right c List.mem_cons_self) hx
      · rw [if_pos h8]
        exact .inl ⟨_, rfl⟩

theorem readHex_colorText (h : ColorText t color) (r : List Char) (p : Nat) :
    readHex 8 (sound (t ++ PIPE_CHAR :: r) p) =
      .ok color (sound (PIPE_CHAR :: r) (p + t.length)) := by
  obtain ⟨num, hnum, hconv, hlen⟩ := h
  have ht : Ends false (PIPE_CHAR :: r) := ⟨rfl, fun _ h => (Option.some.inj h).symm⟩
  obtain ⟨h1, h2⟩ := readNumber_tail (x := t) (p := p) (.inr rfl : (16 : Nat) = 10 ∨ 16 = 16) ht
  rw [hnum] at h1 h2
  have hread : Istream.readUInt32 16 (sound (t ++ PIPE_CHAR :: r) p) =
      (some color, sound (PIPE_CHAR :: r) (p + t.length)) := by
    rw [Istream.readUInt32, convert, h1, Option.bind_some, hconv, h2 rfl]
    rfl
  have hdiff : ((p + t.length : Nat) : Int) - p = t.length := by omega
  rw [readHex_eq 8 _ p (by decide), hread]
  change (if (((p + t.length : Nat) : Int) - p) % 2 ^ 32 ≠ (8 : Nat) then throw .refused
    else Reader.checked (some color) : Reader Nat) (sound (PIPE_CHAR :: r) (p + t.length)) = _
  rw [hdiff, if_neg (by omega)]
  rfl

/-- `readColor` only sets the color. -/
theorem readColor_eq {iss : Istream} {c : Nat} {link : Option ChatLink} {links : List ChatLink}
    {startPos : Int} : readColor ⟨iss, place, c, link, links, startPos⟩ =
      match readHex 8 iss with
      | .ok color s => .ok () ⟨s, place, color, link, links, startPos⟩
      | .error e s => .error e ⟨s, place, c, link, links, startPos⟩ := by
  rw [readColor]
  cases h : readHex 8 iss with
  | ok color s =>
    rw [bind_ok (show onStream (readHex 8) ⟨iss, place, c, link, links, startPos⟩ =
      .ok color ⟨s, place, c, link, links, startPos⟩ by rw [onStream, h])]
    rfl
  | error e s =>
    rw [bind_error (show onStream (readHex 8) ⟨iss, place, c, link, links, startPos⟩ =
      .error e ⟨s, place, c, link, links, startPos⟩ by rw [onStream, h])]

/-- A line ends at the delimiter, at the end of the stream, or with the buffer full. -/
theorem lineLoop_cases (delim : Char) (n : Nat) (x : List Char) :
    (lineLoop delim n x).2.2 = .input ∨
    (∃ b r, x = b ++ delim :: r ∧ delim ∉ b ∧ b.length ≤ n ∧ lineLoop delim n x = (b, r, .delim)) ∨
    (lineLoop delim n x).2.2 = .buffer := by
  induction x generalizing n with
  | nil => cases n <;> exact .inl rfl
  | cons c x ih =>
    by_cases hc : c = delim
    · subst hc
      refine .inr (.inl ⟨[], x, rfl, List.not_mem_nil, Nat.zero_le _, ?_⟩)
      cases n <;> exact if_pos rfl
    · cases n with
      | zero =>
        have hloop : lineLoop delim 0 (c :: x) = ([], c :: x, .buffer) := if_neg hc
        exact .inr (.inr (by rw [hloop]))
      | succ n =>
        have hloop : lineLoop delim (n + 1) (c :: x) =
            (c :: (lineLoop delim n x).1, (lineLoop delim n x).2) := if_neg hc
        rw [hloop]
        rcases ih n with h | ⟨b, r, rfl, hb, hlen, h⟩ | h
        · exact .inl h
        · refine .inr (.inl ⟨c :: b, r, rfl, ?_, Nat.succ_le_succ hlen, by rw [h]⟩)
          exact List.not_mem_cons_of_ne_of_not_mem (fun h => hc h.symm) hb
        · exact .inr (.inr h)

theorem lineLoop_append {delim : Char} {b : List Char} (hb : delim ∉ b) (hlen : b.length ≤ n) :
    lineLoop delim n (b ++ delim :: r) = (b, r, .delim) := by
  induction b generalizing n with
  | nil => cases n <;> exact if_pos rfl
  | cons c b ih =>
    rw [List.mem_cons, not_or] at hb
    obtain ⟨n, rfl⟩ : ∃ k, n = k + 1 := ⟨n - 1, by rw [List.length_cons] at hlen; omega⟩
    have hloop : lineLoop delim (n + 1) (c :: (b ++ delim :: r)) =
        (c :: (lineLoop delim n (b ++ delim :: r)).1, (lineLoop delim n (b ++ delim :: r)).2) :=
      if_neg fun h => hb.1 h.symm
    rw [List.cons_append, hloop, ih hb.2 (Nat.le_of_succ_le_succ hlen)]

theorem getline_append {delim : Char} {b : List Char} (hb : delim ∉ b) (hlen : b.length ≤ 255) :
    getline 256 delim (sound (b ++ delim :: r) p) = (b, sound r (p + (b.length + 1))) := by
  have hgo : (sound (b ++ delim :: r) p).goTo r = sound r (p + (b.length + 1)) := by
    have h := goTo_append (x := b ++ [delim]) (y := r) (p := p)
    rwa [List.append_assoc, List.length_append] at h
  have hline : getline 256 delim (sound (b ++ delim :: r) p) =
      ((lineLoop delim 255 (b ++ delim :: r)).1,
        { (sound (b ++ delim :: r) p).goTo (lineLoop delim 255 (b ++ delim :: r)).2.1 with
          eof := (lineLoop delim 255 (b ++ delim :: r)).2.2 = .input
          fail := (lineLoop delim 255 (b ++ delim :: r)).2.2 = .buffer ∨
            (lineLoop delim 255 (b ++ delim :: r)).2.2 = .input ∧
              (lineLoop delim 255 (b ++ delim :: r)).1 = [] }) := rfl
  rw [hline, lineLoop_append hb hlen]
  dsimp only
  rw [hgo]
  rfl

theorem getline_sound (delim : Char) (x : List Char) (p : Nat) :
    (getline 256 delim (sound x p)).1 = (lineLoop delim 255 x).1 ∧
    (getline 256 delim (sound x p)).2.eof = decide ((lineLoop delim 255 x).2.2 = .input) ∧
    ((lineLoop delim 255 x).2.2 = .buffer → (getline 256 delim (sound x p)).2.fail = true) := by
  refine ⟨rfl, rfl, fun h => ?_⟩
  refine decide_eq_true ?_
  exact .inl h

theorem linkInitialize_failed (color : Nat) (type : LinkType) {s : Istream} (hs : s.fail = true) :
    ∃ s', linkInitialize D color n type s = .error .refused s' := by
  have hgood : s.good = false := by simp [good, hs]
  have hconv : ∀ {α : Type} (conv : Bool × Nat → Option α), ∃ s',
      readConverted 10 conv s = .error .refused s' := by
    intro α conv
    have hnum : readNumber 10 s = (none, s.failed) := if_neg (by rw [hgood]; exact Bool.false_ne_true)
    refine ⟨s.failed, ?_⟩
    change Reader.checked (convert conv (readNumber 10 s)).1 (convert conv (readNumber 10 s)).2 = _
    rw [hnum]
    rfl
  have hread : ∃ s', SkyfireBG.readUInt32 s = .error .refused s' := hconv toUInt32
  obtain ⟨s', hread⟩ := hread
  have hfirst : ∀ {β : Type} {g : Nat → Reader β} (cond : Bool), ∃ s',
      (demand cond >>= fun _ => SkyfireBG.readUInt32 >>= g) s = .error .refused s' := by
    intro β g cond
    cases cond with
    | false => exact ⟨s, rfl⟩
    | true =>
      rw [bind_ok (show demand true s = .ok () s from rfl)]
      exact ⟨s', bind_error hread⟩
  cases type with
  | item => exact ⟨s', bind_error hread⟩
  | quest => exact ⟨s', bind_error hread⟩
  | trade =>
    obtain ⟨s₁, h₁⟩ := hfirst (g := fun spellId => do
      let spell ← entryOf (D.getSpellInfo spellId)
      checkDelimiter DELIMITER
      let minSkillLevel ← SkyfireBG.readInt32
      checkDelimiter DELIMITER
      let maxSkillLevel ← SkyfireBG.readInt32
      checkDelimiter DELIMITER
      let guid ← readHex 0
      pure (⟨spell, minSkillLevel, maxSkillLevel, guid⟩ : TradeLink)) (color = CHAT_LINK_COLOR_TRADE)
    have htrade : tradeNumbers D color s = .error .refused s₁ := h₁
    exact ⟨s₁, bind_error htrade⟩
  | talent => exact hfirst _
  | spell => exact hfirst _
  | enchant => exact hfirst _
  | achievement => exact hfirst _
  | glyph => exact hfirst _

/-- With too few rounds a reading that comes to an end is still running. -/
theorem linkInitialize_fuel {k : Nat} {s : Istream}
    (h : linkInitialize D color k type (sound x p) = .ok body s) (n : Nat) :
    linkInitialize D color n type (sound x p) = .ok body s ∨
    n < x.length ∧ ∃ s', linkInitialize D color n type (sound x p) = .error .running s' := by
  cases type with
  | trade =>
    change tradeInitialize D color k (sound x p) = _ at h
    change tradeInitialize D color n (sound x p) = _ ∨ _ ∧ ∃ s', tradeInitialize D color n _ = _
    cases hnum : tradeNumbers D color (sound x p) with
    | error e s₁ =>
      rw [tradeInitialize, bind_error hnum] at h
      cases h
    | ok link s₁ =>
      obtain ⟨c, r, rfl, rfl, -, -⟩ := local_tradeNumbers.at hnum
      rw [tradeInitialize, bind_ok hnum] at h
      rw [tradeInitialize, bind_ok hnum]
      rcases readSkip_eq (x := r) (p := p + c.length) (n := k) [] with
        ⟨heq, -, hlen⟩ | ⟨⟨s', hrun⟩, -⟩
      · rw [bind_ok heq] at h
        rcases readSkip_eq (x := r) (p := p + c.length) (n := n) [] with
          ⟨heq', -, -⟩ | ⟨⟨s', hrun⟩, hn | hfull⟩
        · left
          rw [bind_ok heq']
          exact h
        · right
          rw [List.length_append]
          exact ⟨by omega, s', bind_error hrun⟩
        · rw [hfull] at hlen
          omega
      · rw [bind_error hrun] at h
        cases h
  | _ => exact .inl h

theorem readLink_eq {iss s : Istream} {buffer : List Char} {link : Option ChatLink}
    {links : List ChatLink} {startPos : Int} (h : getline 256 DELIMITER iss = (buffer, s))
    (heof : s.eof = false) : readLink D n ⟨iss, place, color, link, links, startPos⟩ =
      match linkTypes.lookup (cString buffer) with
      | none => .error .refused ⟨s, place, color, link, links, startPos⟩
      | some type =>
        match linkInitialize D color n type s with
        | .ok body s' =>
          .ok () ⟨s', place, color, some ⟨type, color, [], 0, 0, some body⟩, links, startPos⟩
        | .error e s' =>
          .error e ⟨s', place, color, some ⟨type, color, [], 0, 0, none⟩, links, startPos⟩ := by
  have hline : onStream (Reader.call (getline 256 DELIMITER))
      ⟨iss, place, color, link, links, startPos⟩ =
        .ok buffer ⟨s, place, color, link, links, startPos⟩ := by
    change EStateM.Result.ok (getline 256 DELIMITER iss).1
      (⟨(getline 256 DELIMITER iss).2, place, color, link, links, startPos⟩ : LinkExtractor) = _
    rw [h]
  rw [readLink, bind_ok hline, bind_ok (show (get : Extract LinkExtractor) _ = .ok _ _ from rfl)]
  dsimp only
  rw [if_neg (by rw [heof]; exact Bool.false_ne_true)]
  cases linkTypes.lookup (cString buffer) with
  | none => rfl
  | some type =>
    dsimp only
    rw [bind_ok (show (set _ : Extract PUnit) _ = .ok () _ from rfl)]
    cases hinit : linkInitialize D color n type s with
    | ok body s' =>
      rw [bind_ok (show onStream (linkInitialize D color n type)
        ⟨s, place, color, some ⟨type, color, [], 0, 0, none⟩, links, startPos⟩ =
          .ok body ⟨s', place, color, some ⟨type, color, [], 0, 0, none⟩, links, startPos⟩ by
        rw [onStream, hinit])]
      rfl
    | error e s' =>
      rw [bind_error (show onStream (linkInitialize D color n type)
        ⟨s, place, color, some ⟨type, color, [], 0, 0, none⟩, links, startPos⟩ =
          .error e ⟨s', place, color, some ⟨type, color, [], 0, 0, none⟩, links, startPos⟩ by
        rw [onStream, hinit])]

theorem readLink_eof {iss : Istream} {link : Option ChatLink} {links : List ChatLink} {startPos : Int}
    (heof : (getline 256 DELIMITER iss).2.eof = true) :
    ∃ s, readLink D n ⟨iss, place, color, link, links, startPos⟩ = .error .refused s := by
  have hline : onStream (Reader.call (getline 256 DELIMITER))
      ⟨iss, place, color, link, links, startPos⟩ = .ok (getline 256 DELIMITER iss).1
        ⟨(getline 256 DELIMITER iss).2, place, color, link, links, startPos⟩ := rfl
  rw [readLink, bind_ok hline, bind_ok (show (get : Extract LinkExtractor) _ = .ok _ _ from rfl)]
  dsimp only
  rw [if_pos heof]
  exact ⟨_, rfl⟩

/-- A link is refused, or its name, its data and its closing pipe were read. -/
theorem readLink_cases (st : LinkExtractor) (hcolor : st.color = color) (h : At st place r) :
    (∃ s, readLink D n st = .error .refused s) ∨
    (∃ t type data y s body link, r = t ++ [DELIMITER] ++ data ++ y ∧ DELIMITER ∉ t ∧ t.length ≤ 255 ∧
      linkTypes.lookup (cString t) = some type ∧ readLink D n st = .ok () s ∧ At s place y ∧
      s.link = some link ∧ link.body = some body ∧
      (y.head? = some PIPE_CHAR → DataText D color type data body)) ∨
    ∃ t d s, r = t ++ [DELIMITER] ++ d ∧ DELIMITER ∉ t ∧ t.length ≤ 255 ∧
      linkTypes.lookup (cString t) = some .trade ∧ readLink D n st = .error .running s ∧
      (d.length < n → ∃ link u pos, tradeNumbers D color (sound d 0) = .ok link (sound u pos) ∧
        PIPE_CHAR ∉ u ∧ '\x00' ∉ u) := by
  obtain ⟨hp, p, hiss⟩ := h
  obtain ⟨iss, place', color', link, links, startPos⟩ := st
  obtain rfl : place' = place := hp
  obtain rfl : iss = sound r p := hiss
  obtain rfl : color' = color := hcolor
  rcases lineLoop_cases DELIMITER 255 r with hend | ⟨t, d, rfl, ht, hlen, -⟩ | hfull
  · refine .inl (readLink_eof ?_)
    rw [(getline_sound DELIMITER r p).2.1]
    exact decide_eq_true hend
  · have hline : getline 256 DELIMITER (sound (t ++ DELIMITER :: d) p) = _ := getline_append ht hlen
    rw [readLink_eq hline rfl]
    cases hlook : linkTypes.lookup (cString t) with
    | none => exact .inl ⟨_, rfl⟩
    | some type =>
      dsimp only
      have hlocal : Local (linkInitialize D color' n type) := local_linkInitialize _ n type
      cases hinit : linkInitialize D color' n type (sound d (p + (t.length + 1))) with
      | ok body s' =>
        obtain ⟨data, y, rfl, rfl, -, hpipe⟩ := hlocal.at hinit
        refine .inr (.inl ⟨t, type, data, y, _, body, _, ?_, ht, hlen, hlook, rfl, ⟨rfl, _, rfl⟩, rfl, rfl,
          fun hhead => ⟨n, ?_⟩⟩)
        · simp only [List.append_assoc, List.cons_append, List.nil_append]
        · rw [hpipe hhead 0 [], Nat.zero_add]
      | error e s' =>
        rcases (takesFront_linkInitialize _ n type).refuses _ _ _ hinit with rfl | ⟨htype, rfl⟩
        · exact .inl ⟨_, rfl⟩
        · obtain rfl : type = .trade := eq_of_beq htype
          refine .inr (.inr ⟨t, d, _, ?_, ht, hlen, hlook, rfl, fun hn => ?_⟩)
          · rw [List.append_assoc]
            rfl
          · change tradeInitialize D color' n _ = _ at hinit
            cases hnum : tradeNumbers D color' (sound d (p + (t.length + 1))) with
            | error e s₁ =>
              rw [tradeInitialize, bind_error hnum] at hinit
              rcases (takesFront_tradeNumbers (b := false) _).refuses _ _ _ hnum with rfl | ⟨hf, -⟩
              · cases hinit
              · cases hf
            | ok link s₁ =>
              obtain ⟨c, u, rfl, rfl, hall, -⟩ := local_tradeNumbers.at hnum
              rw [tradeInitialize, bind_ok hnum] at hinit
              refine ⟨link, u, 0 + c.length, hall 0, ?_⟩
              rcases readSkip_eq (x := u) (p := p + (t.length + 1) + c.length) (n := n) [] with
                ⟨heq, -, -⟩ | ⟨-, hshort | hskip⟩
              · rw [bind_ok heq] at hinit
                cases hinit
              · have hle := (skipped_begins u).length_le
                rw [List.length_append] at hn
                omega
              · constructor
                · intro hmem
                  have hcond := List.mem_takeWhile_imp (hskip.symm ▸ hmem : PIPE_CHAR ∈ skipped u)
                  simp at hcond
                · intro hmem
                  have hcond := List.mem_takeWhile_imp (hskip.symm ▸ hmem : '\x00' ∈ skipped u)
                  simp at hcond
  · have hres := getline_sound DELIMITER r p
    have heof : (getline 256 DELIMITER (sound r p)).2.eof = false := by
      rw [hres.2.1, hfull]
      rfl
    rw [readLink_eq (Prod.eta _).symm heof]
    cases linkTypes.lookup (cString (getline 256 DELIMITER (sound r p)).1) with
    | none => exact .inl ⟨_, rfl⟩
    | some type =>
      obtain ⟨s', hs⟩ := linkInitialize_failed (D := D) (n := n) color' type
        (hres.2.2 hfull)
      dsimp only
      rw [hs]
      exact .inl ⟨_, rfl⟩

theorem linkInitialize_dataText {data : List Char} (h : DataText D color type data body) (n p : Nat)
    (r : List Char) :
    linkInitialize D color n type (sound (data ++ PIPE_CHAR :: r) p) =
        .ok body (sound (PIPE_CHAR :: r) (p + data.length)) ∨
    n ≤ data.length ∧ ∃ s, linkInitialize D color n type (sound (data ++ PIPE_CHAR :: r) p) =
      .error .running s := by
  obtain ⟨k, hk⟩ := h
  have hpipe : Ends false [PIPE_CHAR] := ⟨rfl, fun _ h => (Option.some.inj h).symm⟩
  have hends : Ends false (PIPE_CHAR :: r) := ⟨rfl, fun _ h => (Option.some.inj h).symm⟩
  rcases local_linkInitialize (D := D) color n type false data with
    ⟨a, y, -, hok⟩ | ⟨e, herr⟩
  · have hres := hok 0 [PIPE_CHAR] hpipe
    rcases linkInitialize_fuel hk n with heq | ⟨-, s', heq⟩
    · rw [heq] at hres
      injection hres with ha hs
      have hrest : [PIPE_CHAR] = y ++ [PIPE_CHAR] := congrArg Istream.rest hs
      have hy : y = [] := by
        have hlen := congrArg List.length hrest
        rw [List.length_append, List.length_singleton] at hlen
        exact List.length_eq_zero_iff.mp (by omega)
      subst hy
      subst ha
      exact .inl (hok p (PIPE_CHAR :: r) hends)
    · rw [heq] at hres
      cases hres
  · obtain ⟨s, hs⟩ := herr 0 [PIPE_CHAR] hpipe
    rcases linkInitialize_fuel hk n with heq | ⟨hn, s', heq⟩
    · rw [heq] at hs
      cases hs
    · rw [heq] at hs
      cases hs
      rw [List.length_append, List.length_singleton] at hn
      exact .inr ⟨Nat.le_of_lt_succ hn, herr p (PIPE_CHAR :: r) hends⟩

/-- Data of the right form is read to its end. -/
theorem readLink_dataText {data : List Char} (ht : DELIMITER ∉ t) (hlen : t.length ≤ 255)
    (hlook : linkTypes.lookup (cString t) = some type) (hdata : DataText D color type data body)
    (hcolor : st.color = color) (h : At st place (t ++ [DELIMITER] ++ data ++ PIPE_CHAR :: r)) :
    (n ≤ data.length ∧ ∃ s, readLink D n st = .error .running s) ∨
    ∃ s link, readLink D n st = .ok () s ∧ At s place (PIPE_CHAR :: r) ∧ s.link = some link ∧
      link.body = some body := by
  obtain ⟨hp, p, hiss⟩ := h
  obtain ⟨iss, place', color', link, links, startPos⟩ := st
  rw [List.append_assoc, List.append_assoc, List.singleton_append] at hiss
  obtain rfl : place' = place := hp
  obtain rfl : iss = sound (t ++ DELIMITER :: (data ++ PIPE_CHAR :: r)) p := hiss
  obtain rfl : color' = color := hcolor
  rw [readLink_eq (getline_append ht hlen) rfl, hlook]
  dsimp only
  rcases linkInitialize_dataText hdata n (p + (t.length + 1)) r with heq | ⟨hn, s, heq⟩
  · rw [heq]
    exact .inr ⟨_, _, rfl, ⟨rfl, _, rfl⟩, rfl, rfl⟩
  · rw [heq]
    exact .inl ⟨hn, _, rfl⟩

theorem readLink_trade {d u : List Char} {link : TradeLink} (ht : DELIMITER ∉ t)
    (hlen : t.length ≤ 255) (hlook : linkTypes.lookup (cString t) = some .trade)
    (hnum : tradeNumbers D color (sound d 0) = .ok link (sound u q)) (hpipe : PIPE_CHAR ∉ u)
    (hnul : '\x00' ∉ u) (hcolor : st.color = color) (h : At st place (t ++ [DELIMITER] ++ d)) :
    ∃ s, readLink D n st = .error .running s := by
  obtain ⟨hp, p, hiss⟩ := h
  obtain ⟨iss, place', color', link', links, startPos⟩ := st
  rw [List.append_assoc, List.singleton_append] at hiss
  obtain rfl : place' = place := hp
  obtain rfl : iss = sound (t ++ DELIMITER :: d) p := hiss
  obtain rfl : color' = color := hcolor
  obtain ⟨c, v, rfl, hs, hall, -⟩ := local_tradeNumbers.at hnum
  obtain rfl : u = v := congrArg Istream.rest hs
  have hskip : skipped u = u := List.takeWhile_eq_self_iff.mpr fun c hc => by
    have h1 : c ≠ PIPE_CHAR := fun heq => hpipe (heq ▸ hc)
    have h2 : c ≠ '\x00' := fun heq => hnul (heq ▸ hc)
    simp [h1, h2]
  have hrun : ∃ s, linkInitialize D color' n .trade (sound (c ++ u) (p + (t.length + 1))) =
      .error .running s := by
    change ∃ s, tradeInitialize D color' n _ = _
    rw [tradeInitialize, bind_ok (hall _)]
    rcases readSkip_eq (x := u) (p := p + (t.length + 1) + c.length) (n := n) [] with
      ⟨-, -, hlt⟩ | ⟨⟨s, hs⟩, -⟩
    · rw [hskip] at hlt
      exact absurd hlt (lt_irrefl _)
    · exact ⟨s, bind_error hs⟩
  obtain ⟨s, hs⟩ := hrun
  rw [readLink_eq (getline_append ht hlen) rfl, hlook]
  dsimp only
  rw [hs]
  exact ⟨_, rfl⟩

theorem validateName_error {e : Stop} {buffer : List Char}
    (h : validateName D buffer body = .error e) : e = .refused ∨ e = .fault := by
  have hvalid : ∀ {valid : Bool}, validIf valid = .error e → e = .refused := by
    intro valid h
    cases valid with
    | true => cases h
    | false =>
      cases h
      rfl
  have hspell : ∀ {spell : Chat.SpellInfo}, spellValidateName D spell buffer = .error e →
      e = .refused ∨ e = .fault := by
    intro spell h
    cases e with
    | refused => exact .inl rfl
    | fault => exact .inr rfl
    | running =>
      exfalso
      have hbuf : spellBuffer D spell buffer ≠ .error .running := by
        unfold spellBuffer dropPrefix
        split_ifs
        · split
          · exact nofun
          · exact nofun
          · split
            · exact nofun
            · dsimp only
              split_ifs <;> exact nofun
        · exact nofun
      unfold spellValidateName at h
      cases hres : spellBuffer D spell buffer with
      | error e =>
        rw [hres] at h
        cases h
        exact hbuf hres
      | ok b =>
        rw [hres] at h
        change (if _ then _ else _ : Except Stop Unit) = _ at h
        split_ifs at h <;> cases h
  cases body with
  | item => exact .inl (hvalid h)
  | quest => exact .inl (hvalid h)
  | achievement => exact .inl (hvalid h)
  | trade => exact hspell h
  | talent => exact hspell h
  | spell => exact hspell h
  | enchant => exact hspell h
  | glyph => exact hspell h

theorem readName_eq {s : Istream} {buffer : List Char} {link : ChatLink} {links : List ChatLink}
    {startPos : Int} (h : getline 256 ']' (sound r (p + 1)) = (buffer, s)) (heof : s.eof = false)
    (hbody : link.body = some body) :
    readName D ⟨sound ('[' :: r) p, place, color, some link, links, startPos⟩ =
      match validateName D (cString buffer) body with
      | .ok _ => .ok () ⟨s, place, color, some { link with name := cString buffer }, links, startPos⟩
      | .error e =>
        .error e ⟨s, place, color, some { link with name := cString buffer }, links, startPos⟩ := by
  have hget : onStream (Reader.call Istream.get)
      ⟨sound ('[' :: r) p, place, color, some link, links, startPos⟩ =
        .ok (some '[') ⟨sound r (p + 1), place, color, some link, links, startPos⟩ := by
    have hgo : (sound ('[' :: r) p).goTo r = sound r (p + 1) := goTo_append (x := ['['])
    rw [← hgo]
    rfl
  have hline : onStream (Reader.call (getline 256 ']'))
      ⟨sound r (p + 1), place, color, some link, links, startPos⟩ =
        .ok buffer ⟨s, place, color, some link, links, startPos⟩ := by
    change EStateM.Result.ok (getline 256 ']' (sound r (p + 1))).1
      (⟨(getline 256 ']' (sound r (p + 1))).2, place, color, some link, links, startPos⟩ :
        LinkExtractor) = _
    rw [h]
  rw [readName, bind_ok hget, if_neg (not_not.mpr rfl), bind_ok hline,
    bind_ok (show (get : Extract LinkExtractor) _ = .ok _ _ from rfl)]
  dsimp only
  rw [if_neg (by rw [heof]; exact Bool.false_ne_true), hbody]
  rw [bind_ok (show (set _ : Extract PUnit) _ = .ok () _ from rfl)]
  dsimp only
  cases validateName D (cString buffer) body <;> rfl

theorem readName_eof {link : Option ChatLink} {links : List ChatLink} {startPos : Int}
    (heof : (getline 256 ']' (sound r (p + 1))).2.eof = true) :
    ∃ s, readName D ⟨sound ('[' :: r) p, place, color, link, links, startPos⟩ =
      .error .refused s := by
  have hget : onStream (Reader.call Istream.get)
      ⟨sound ('[' :: r) p, place, color, link, links, startPos⟩ =
        .ok (some '[') ⟨sound r (p + 1), place, color, link, links, startPos⟩ := by
    have hgo : (sound ('[' :: r) p).goTo r = sound r (p + 1) := goTo_append (x := ['['])
    rw [← hgo]
    rfl
  have hline : onStream (Reader.call (getline 256 ']'))
      ⟨sound r (p + 1), place, color, link, links, startPos⟩ =
        .ok (getline 256 ']' (sound r (p + 1))).1
          ⟨(getline 256 ']' (sound r (p + 1))).2, place, color, link, links, startPos⟩ := rfl
  rw [readName, bind_ok hget, if_neg (not_not.mpr rfl), bind_ok hline,
    bind_ok (show (get : Extract LinkExtractor) _ = .ok _ _ from rfl)]
  dsimp only
  rw [if_pos heof]
  exact ⟨_, rfl⟩

theorem readName_bracket (hgood : st.iss.good = false ∨ st.iss.rest.head? ≠ some '[') :
    ∃ s, readName D st = .error .refused s := by
  obtain ⟨iss, place, color, link, links, startPos⟩ := st
  have hget : iss.get.1 ≠ some '[' := by
    unfold Istream.get
    split_ifs with hg
    · cases hrest : iss.rest with
      | nil => exact nofun
      | cons c rest =>
        rcases hgood with hbad | hhead
        · exact absurd hg (by simp [hbad])
        · rw [hrest] at hhead
          exact hhead
    · exact nofun
  rw [readName, bind_ok (show onStream (Reader.call Istream.get)
    ⟨iss, place, color, link, links, startPos⟩ =
      .ok iss.get.1 ⟨iss.get.2, place, color, link, links, startPos⟩ from rfl), if_pos hget]
  exact ⟨_, rfl⟩

/-- The name of a link is refused, or stands in brackets and belongs to the link. -/
theorem readName_cases (st : LinkExtractor) {link : ChatLink} (hlink : st.link = some link)
    (hbody : link.body = some body)
    (h : At st place r) :
    (∃ s, readName D st = .error .refused s) ∨
    (∃ name y s, r = '[' :: name ++ [']'] ++ y ∧ ']' ∉ name ∧ name.length ≤ 255 ∧
      NameText D body name ∧ readName D st = .ok () s ∧ At s place y) ∨
    (∃ s, readName D st = .ok () s ∧ s.place = place ∧ s.iss.eof = false ∧ s.iss.fail = true) ∨
    ∃ u s, r = '[' :: u ∧ (lineLoop ']' 255 u).2.2 ≠ .input ∧
      validateName D (cString (lineLoop ']' 255 u).1) body = .error .fault ∧
      readName D st = .error .fault s := by
  obtain ⟨hp, p, hiss⟩ := h
  by_cases hhead : r.head? = some '['
  · obtain ⟨u, rfl⟩ : ∃ u, r = '[' :: u := by
      cases r with
      | nil => cases hhead
      | cons c r =>
        cases hhead
        exact ⟨r, rfl⟩
    obtain ⟨iss, place', color, link', links, startPos⟩ := st
    obtain rfl : place' = place := hp
    obtain rfl : iss = sound ('[' :: u) p := hiss
    obtain rfl : link' = some link := hlink
    rcases lineLoop_cases ']' 255 u with hend | ⟨name, y, rfl, hname, hlen, hloop⟩ | hfull
    · refine .inl (readName_eof ?_)
      rw [(getline_sound ']' u (p + 1)).2.1]
      exact decide_eq_true hend
    · rw [readName_eq (getline_append hname hlen) rfl hbody]
      cases hval : validateName D (cString name) body with
      | ok v =>
        refine .inr (.inl ⟨name, y, _, ?_, hname, hlen, hval, rfl, ⟨rfl, _, rfl⟩⟩)
        simp only [List.append_assoc, List.cons_append, List.nil_append]
      | error e =>
        rcases validateName_error hval with rfl | rfl
        · exact .inl ⟨_, rfl⟩
        · refine .inr (.inr (.inr ⟨_, _, rfl, ?_, ?_, rfl⟩))
          · rw [hloop]
            exact nofun
          · rw [hloop]
            exact hval
    · obtain ⟨hbuf, heof, hfail⟩ := getline_sound ']' u (p + 1)
      have heof' : (getline 256 ']' (sound u (p + 1))).2.eof = false := by
        rw [heof, hfull]
        rfl
      rw [readName_eq (Prod.eta _).symm heof' hbody]
      cases hval : validateName D (cString (getline 256 ']' (sound u (p + 1))).1) body with
      | ok v => exact .inr (.inr (.inl ⟨_, rfl, rfl, heof', hfail hfull⟩))
      | error e =>
        rcases validateName_error hval with rfl | rfl
        · exact .inl ⟨_, rfl⟩
        · rw [hbuf] at hval
          refine .inr (.inr (.inr ⟨u, _, rfl, ?_, hval, rfl⟩))
          rw [hfull]
          exact nofun
  · refine .inl (readName_bracket (.inr ?_))
    rw [hiss]
    exact hhead

/-- A name of the right form is accepted. -/
theorem readName_text {link : ChatLink} {name : List Char} (hlink : st.link = some link)
    (hbody : link.body = some body) (hname : ']' ∉ name) (hlen : name.length ≤ 255)
    (htext : NameText D body name) (h : At st place ('[' :: name ++ [']'] ++ r)) :
    ∃ s, readName D st = .ok () s ∧ At s place r := by
  obtain ⟨hp, p, hiss⟩ := h
  obtain ⟨iss, place', color, link', links, startPos⟩ := st
  rw [List.append_assoc, List.singleton_append, List.cons_append] at hiss
  obtain rfl : place' = place := hp
  obtain rfl : iss = sound ('[' :: (name ++ ']' :: r)) p := hiss
  obtain rfl : link' = some link := hlink
  rw [readName_eq (getline_append hname hlen) rfl hbody]
  rw [NameText] at htext
  rw [htext]
  exact ⟨_, rfl, rfl, _, rfl⟩

theorem readName_fault {link : ChatLink} (hlink : st.link = some link)
    (hbody : link.body = some body) (hend : (lineLoop ']' 255 r).2.2 ≠ .input)
    (hval : validateName D (cString (lineLoop ']' 255 r).1) body = .error .fault)
    (h : At st place ('[' :: r)) : ∃ s, readName D st = .error .fault s := by
  obtain ⟨hp, p, hiss⟩ := h
  obtain ⟨iss, place', color, link', links, startPos⟩ := st
  obtain rfl : place' = place := hp
  obtain rfl : iss = sound ('[' :: r) p := hiss
  obtain rfl : link' = some link := hlink
  obtain ⟨hbuf, heof, -⟩ := getline_sound ']' r (p + 1)
  have heof' : (getline 256 ']' (sound r (p + 1))).2.eof = false := by
    rw [heof]
    exact decide_eq_false hend
  rw [readName_eq (Prod.eta _).symm heof' hbody, hbuf, hval]
  exact ⟨_, rfl⟩

theorem setBounds_ok (st : LinkExtractor) : ∃ s, setBounds st = .ok () s ∧ s.place = st.place ∧
    s.iss.eof = st.iss.eof ∧ (st.iss.good = true → s.iss = st.iss) := by
  obtain ⟨iss, place, color, link, links, startPos⟩ := st
  cases link with
  | none => exact ⟨_, rfl, rfl, rfl, fun _ => rfl⟩
  | some link =>
    refine ⟨_, rfl, rfl, ?_, fun hg => ?_⟩
    · change iss.tellg.2.eof = iss.eof
      unfold tellg
      split_ifs <;> rfl
    · exact congrArg Prod.snd (if_pos hg)

theorem setBounds_at (h : At st place r) : ∃ s, setBounds st = .ok () s ∧ At s place r := by
  obtain ⟨hp, p, hiss⟩ := h
  obtain ⟨s, hs, hplace, -, hkeep⟩ := setBounds_ok st
  refine ⟨s, hs, hplace.trans hp, p, ?_⟩
  rw [hkeep (by rw [hiss]; rfl), hiss]

/-- At the end of the stream no link can be opened any more. -/
theorem afterLetter_end {c : Char} (heof : st.iss.eof = true) :
    (∃ s, afterLetter D n c st = .error .refused s) ∨
    ∃ s, afterLetter D n c st = .ok () s ∧ s.iss.eof = true ∧
      (s.place = 0 ↔ c = PIPE_CHAR ∧ st.place = 0 ∨ c = 'r' ∧ st.place = 4) := by
  have hgood : st.iss.good = false := by simp [good, heof]
  rcases afterLetter_cases D n c st with ⟨rfl, hp, h⟩ | ⟨rfl, hp, h⟩ | ⟨rfl, hp, h⟩ | ⟨rfl, hp, h⟩ |
    ⟨rfl, hp, h⟩ | ⟨rfl, hp, h⟩ | h
  · exact .inr ⟨st, h, heof, iff_of_true hp (.inl ⟨rfl, hp⟩)⟩
  · left
    rw [h, readColor_eq]
    have hnum : ∀ s : Istream, s.good = false → Istream.readUInt32 16 s = (none, s.failed.failed) := by
      intro s hs
      have hread : readNumber 16 s = (none, s.failed) := if_neg (by rw [hs]; exact Bool.false_ne_true)
      rw [Istream.readUInt32, hread]
      rfl
    have hhex : ∃ s, readHex 8 st.iss = .error .refused s := by
      have htell : tellg st.iss = (-1, st.iss.failed) :=
        if_neg (by rw [hgood]; exact Bool.false_ne_true)
      have hbad : st.iss.failed.good = false := by simp [good, failed]
      rw [readHex, bind_ok (show Reader.call tellg st.iss = .ok (-1) st.iss.failed by
        rw [Reader.call, htell]), bind_ok (show Reader.call (Istream.readUInt32 16) st.iss.failed =
          .ok none st.iss.failed.failed.failed by rw [Reader.call, hnum _ hbad]),
        if_pos (by decide)]
      exact readHex_refused (.inl rfl)
    obtain ⟨s, hs⟩ := hhex
    rw [hs]
    exact ⟨_, rfl⟩
  · left
    rw [h]
    obtain ⟨iss, place, color, link, links, startPos⟩ := st
    refine readLink_eof ?_
    have hline : getline 256 DELIMITER iss = ([], iss.failed) :=
      if_neg (by rw [hgood]; exact Bool.false_ne_true)
    rw [hline]
    exact heof
  · left
    rw [h]
    exact readName_bracket (.inl hgood)
  · exact .inr ⟨_, h, heof, iff_of_false (by simp) (by rintro (⟨hc, -⟩ | ⟨hc, -⟩) <;> cases hc)⟩
  · right
    obtain ⟨s, hs, hplace, heof', -⟩ := setBounds_ok { st with place := 0 }
    exact ⟨s, h.trans hs, heof'.trans heof, iff_of_true hplace (.inr ⟨rfl, hp⟩)⟩
  · exact .inl h

end SkyfireBG
