import SkyfireBG.Chat.Step

/-!
# SkyfireBG.Chat.Sequence

The turns of the loop at each place of the sequence `cHhhr`, with what has to stand there.
-/

namespace SkyfireBG

open Istream

variable {D : ChatStores} {U : Char} {st : LinkExtractor} {m r o w t x : List Char}
  {n place color : Nat} {body : LinkBody} {type : LinkType}

theorem next_eq {st' : LinkExtractor} (h : findPipe st = .ok () st') :
    nextCommand D U n st = runCommand D U n st' := bind_ok h

inductive Fails (D : ChatStores) (U : Char) (n : Nat) (st : LinkExtractor) : Prop
  | refused {s : LinkExtractor} : nextCommand D U n st = .error .refused s → Fails D U n st
  | open {s : LinkExtractor} : nextCommand D U n st = .ok () s → s.iss.eof = true →
    s.place ≠ 0 → Fails D U n st
  | broken {s : LinkExtractor} : nextCommand D U n st = .ok () s → s.iss.eof = false →
    s.iss.fail = true → s.place ≠ 0 → Fails D U n st

theorem runCommand_cases (h : At st place r) :
    (∃ s, runCommand D U n st = .error .refused s) ∨
    (r = [] ∧ ∃ s, runCommand D U n st = .ok () s ∧ s.place = place ∧ s.iss.eof = true) ∨
    (Blanks r ∧ r ≠ [] ∧ ∃ s, s.place = place ∧ s.iss.eof = true ∧
      runCommand D U n st = afterLetter D n U s) ∨
    ∃ w c y s, r = w ++ c :: y ∧ Blanks w ∧ At s place y ∧ s.link = st.link ∧ s.color = st.color ∧
      runCommand D U n st = afterLetter D n c s := by
  rcases blank_cases r with hw | ⟨w, c, y, rfl, hw, hc⟩
  · cases r with
    | nil =>
      obtain ⟨s, hs, hp, heof⟩ := runCommand_empty (D := D) (U := U) (n := n) h
      exact .inr (.inl ⟨rfl, s, hs, hp, heof⟩)
    | cons c r =>
      obtain ⟨s, hp, -, heof, -, -, hs⟩ := runCommand_blanks (D := D) (U := U) (n := n) hw
        (List.cons_ne_nil c r) h
      exact .inr (.inr (.inl ⟨hw, List.cons_ne_nil c r, s, hp, heof, hs⟩))
  · by_cases hnul : c = '\x00'
    · subst hnul
      cases w with
      | nil => exact .inl (runCommand_nul h)
      | cons d w =>
        left
        have hd : d ≠ '\x00' := by
          rintro rfl
          have hblank := hw _ List.mem_cons_self
          rw [isBlank_nul] at hblank
          cases hblank
        obtain ⟨p, hiss⟩ := h.iss
        rw [runCommand_cons hd h, hiss]
        rw [show readChar U (sound (d :: w ++ '\x00' :: y) p) = _ from readChar_append hw isBlank_nul]
        refine ⟨_, afterLetter_refused (show '\x00' ≠ PIPE_CHAR by decide) fun hseq => ?_⟩
        have hmem : '\x00' ∈ validSequence := List.mem_of_getElem? hseq
        exact absurd hmem (by decide)
    · obtain ⟨s, hs, hlink, hcolor, hrun⟩ :=
        runCommand_letter (D := D) (U := U) (n := n) hw hc hnul h
      exact .inr (.inr (.inr ⟨w, c, y, s, rfl, hw, hs, hlink, hcolor, hrun⟩))

theorem not_blank {c : Char} (h : c ∈ ['|', 'c', 'H', 'h', 'r']) : isBlank c = false ∧ c ≠ '\x00' := by
  simp only [List.mem_cons, List.not_mem_nil, or_false] at h
  rcases h with rfl | rfl | rfl | rfl | rfl <;> decide

theorem runCommand_known {c : Char} (hc : c ∈ ['|', 'c', 'H', 'h', 'r']) (hw : Blanks w)
    (h : At st place (w ++ c :: r)) :
    ∃ s, At s place r ∧ s.link = st.link ∧ s.color = st.color ∧
      runCommand D U n st = afterLetter D n c s :=
  runCommand_letter hw (not_blank hc).1 (not_blank hc).2 h

theorem next_start (h : At st 0 m) :
    Fails D U n st ∨
    (LooseEnd D U m ∧ ∃ s, nextCommand D U n st = .ok () s ∧ s.iss.eof = true ∧
      s.place = 0) ∨
    (∃ t r s, m = t ++ r ∧ t ≠ [] ∧ LooseItem D t ∧ nextCommand D U n st = .ok () s ∧ At s 0 r) ∨
    ∃ o w t r s color, m = o ++ w ++ 'c' :: t ++ r ∧ Opening o ∧ Blanks w ∧
      (r.head? = some PIPE_CHAR → ColorText t color) ∧ nextCommand D U n st = .ok () s ∧
      At s 1 r ∧ s.color = color := by
  rcases findPipe_cases h with ⟨o, r, rfl, ho⟩ | ⟨hm, hlen, st', hfind, hp, heof, -⟩
  · obtain ⟨st', hfind, hat, -⟩ := findPipe_opening ho h
    have hnext := next_eq (D := D) (U := U) (n := n) hfind
    rcases runCommand_cases (D := D) (U := U) (n := n) hat with ⟨s, hs⟩ |
      ⟨rfl, s, hs, hp, heof⟩ | ⟨hw, hne, s, hp, heof, hs⟩ | ⟨w, c, y, s, rfl, hw, hs, -, -, hrun⟩
    · exact .inl (.refused (hnext.trans hs))
    · refine .inr (.inl ⟨?_, s, hnext.trans hs, heof, hp⟩)
      rw [List.append_nil]
      exact .opening ho
    · rcases afterLetter_end (D := D) (n := n) (c := U) heof with ⟨s', hs'⟩ | ⟨s', hs', heof', hiff⟩
      · exact .inl (.refused (hnext.trans (hs.trans hs')))
      · by_cases hu : U = PIPE_CHAR
        · exact .inr (.inl ⟨.pipe ho hw hne hu, s', hnext.trans (hs.trans hs'), heof',
            hiff.mpr (.inl ⟨hu, hp⟩)⟩)
        · refine .inl (.open (hnext.trans (hs.trans hs')) heof' fun h0 => ?_)
          rcases hiff.mp h0 with ⟨h1, -⟩ | ⟨-, h4⟩
          · exact hu h1
          · rw [hp] at h4
            cases h4
    · have hrun' := hnext.trans hrun
      rcases afterLetter_cases D n c s with ⟨rfl, hp, ha⟩ | ⟨rfl, hp, ha⟩ | ⟨-, hp, -⟩ | ⟨-, hp, -⟩ |
        ⟨-, hp, -⟩ | ⟨-, hp, -⟩ | ⟨s', ha⟩
      · refine .inr (.inr (.inl ⟨o ++ w ++ [PIPE_CHAR], y, s, by simp, by simp, .pipe ho hw,
          hrun'.trans ha, hs⟩))
      · obtain ⟨hp', p, hiss⟩ := hs
        obtain ⟨iss, place', color, link, links, startPos⟩ := s
        obtain rfl : iss = sound y p := hiss
        rw [readColor_eq] at ha
        rcases readHex_cases y p with ⟨s', hhex⟩ | ⟨color', t, r, rfl, hhex, htext⟩
        · rw [hhex] at ha
          exact .inl (.refused (hrun'.trans ha))
        · rw [hhex] at ha
          exact .inr (.inr (.inr ⟨o, w, t, r, _, color', by simp, ho, hw, htext, hrun'.trans ha,
            ⟨rfl, _, rfl⟩, rfl⟩))
      · exact absurd (hp.symm.trans hs.place) (by decide)
      · exact absurd (hp.symm.trans hs.place) (by decide)
      · exact absurd (hp.symm.trans hs.place) (by decide)
      · exact absurd (hp.symm.trans hs.place) (by decide)
      · exact .inl (.refused (hrun'.trans ha))
  · -- Without a pipe the stream has ended, and the turn has nothing to do.
    obtain ⟨s, hs, hp', heof'⟩ := runCommand_eof (D := D) (U := U) (n := n) heof
    exact .inr (.inl ⟨.text hm hlen, s, (next_eq hfind).trans hs, heof', hp'.trans hp⟩)

theorem next_within (hplace : place ≠ 0) (h : At st place m) :
    Fails D U n st ∨
    (place = 4 ∧ U = 'r' ∧ ∃ w s, m = '|' :: w ∧ Blanks w ∧ w ≠ [] ∧
      nextCommand D U n st = .ok () s ∧ s.iss.eof = true ∧ s.place = 0) ∨
    ∃ w c y s, m = '|' :: w ++ c :: y ∧ Blanks w ∧ validSequence[place]? = some c ∧ At s place y ∧
      s.link = st.link ∧ s.color = st.color ∧ nextCommand D U n st = afterLetter D n c s := by
  by_cases hm : m.head? = some '|'
  · obtain ⟨r, rfl⟩ : ∃ r, m = '|' :: r := by
      cases m with
      | nil => cases hm
      | cons c m =>
        cases hm
        exact ⟨m, rfl⟩
    obtain ⟨st', hfind, hat, hlink, hcolor⟩ := findPipe_within hplace h
    have hnext := next_eq (D := D) (U := U) (n := n) hfind
    rcases runCommand_cases (D := D) (U := U) (n := n) hat with ⟨s, hs⟩ |
      ⟨rfl, s, hs, hp, heof⟩ | ⟨hw, hne, s, hp, heof, hs⟩ |
      ⟨w, c, y, s, rfl, hw, hs, hlink', hcolor', hrun⟩
    · exact .inl (.refused (hnext.trans hs))
    · exact .inl (.open (hnext.trans hs) heof (hp ▸ hplace))
    · rcases afterLetter_end (D := D) (n := n) (c := U) heof with ⟨s', hs'⟩ | ⟨s', hs', heof', hiff⟩
      · exact .inl (.refused (hnext.trans (hs.trans hs')))
      · by_cases h0 : s'.place = 0
        · rcases hiff.mp h0 with ⟨-, hp'⟩ | ⟨hu, hp'⟩
          · exact absurd (hp.symm.trans hp') hplace
          · exact .inr (.inl ⟨hp.symm.trans hp', hu, r, s', rfl, hw, hne, hnext.trans (hs.trans hs'),
              heof', h0⟩)
        · exact .inl (.open (hnext.trans (hs.trans hs')) heof' h0)
    · by_cases hc : validSequence[place]? = some c
      · exact .inr (.inr ⟨w, c, y, s, rfl, hw, hc, hs, hlink'.trans hlink, hcolor'.trans hcolor,
          hnext.trans hrun⟩)
      · left
        by_cases hpipe : c = PIPE_CHAR
        · have hrefuse : ∃ s', afterLetter D n c s = .error .refused s' := by
            subst hpipe
            obtain ⟨k, hk⟩ := Nat.exists_eq_succ_of_ne_zero hplace
            obtain ⟨hp, -⟩ := hs
            obtain ⟨iss, place', color, link, links, startPos⟩ := s
            obtain rfl : place' = k + 1 := hp.trans hk
            exact ⟨_, rfl⟩
          obtain ⟨s', hs'⟩ := hrefuse
          exact .refused (hnext.trans (hrun.trans hs'))
        · refine .refused (hnext.trans (hrun.trans (afterLetter_refused hpipe ?_)))
          rw [hs.place]
          exact hc
  · obtain ⟨s, hs⟩ := findPipe_refused hplace h hm
    exact .inl (.refused (bind_error hs))

theorem next_known {c : Char} (hplace : place ≠ 0) (hc : c ∈ ['|', 'c', 'H', 'h', 'r']) (hw : Blanks w)
    (h : At st place ('|' :: w ++ c :: r)) :
    ∃ s, At s place r ∧ s.link = st.link ∧ s.color = st.color ∧
      nextCommand D U n st = afterLetter D n c s := by
  obtain ⟨st', hfind, hat, hlink, hcolor⟩ := findPipe_within hplace h
  obtain ⟨s, hs, hlink', hcolor', hrun⟩ :=
    runCommand_known (D := D) (U := U) (n := n) hc hw hat
  exact ⟨s, hs, hlink'.trans hlink, hcolor'.trans hcolor, (next_eq hfind).trans hrun⟩

theorem At.moved {s : LinkExtractor} (h : At s place r) (k : Nat) : At { s with place := k } k r :=
  ⟨rfl, h.iss⟩

theorem next_data (hcolor : st.color = color) (h : At st 1 m) :
    Fails D U n st ∨
    (∃ b type data y s body link, m = b ++ data ++ y ∧ TypePart type b ∧
      nextCommand D U n st = .ok () s ∧ At s 2 y ∧ s.link = some link ∧ link.body = some body ∧
      (y.head? = some PIPE_CHAR → DataText D color type data body)) ∨
    ∃ b d s, m = b ++ d ∧ TypePart .trade b ∧ nextCommand D U n st = .error .running s ∧
      (d.length < n → ∃ link u pos, tradeNumbers D color (sound d 0) = .ok link (sound u pos) ∧
        PIPE_CHAR ∉ u ∧ '\x00' ∉ u) := by
  rcases next_within (D := D) (U := U) (n := n) (by decide) h with hfail | ⟨hp, -⟩ |
    ⟨w, c, y, s, rfl, hw, hc, hs, -, hcolor', hrun⟩
  · exact .inl hfail
  · cases hp
  · obtain rfl : 'H' = c := Option.some.inj hc
    have hletter : afterLetter D n 'H' s = readLink D n { s with place := 2 } := by
      obtain ⟨hp, -⟩ := hs
      obtain ⟨iss, place', color, link, links, startPos⟩ := s
      obtain rfl : place' = 1 := hp
      exact rfl
    rw [hletter] at hrun
    rcases readLink_cases (D := D) (n := n) { s with place := 2 } (hcolor'.trans hcolor)
      (hs.moved 2) with ⟨s', hs'⟩ |
      ⟨t, type, data, y, s', body, link, rfl, ht, hlen, hlook, hs', hat, hlink, hbody, hdata⟩ |
      ⟨t, d, s', rfl, ht, hlen, hlook, hs', hendless⟩
    · exact .inl (.refused (hrun.trans hs'))
    · refine .inr (.inl ⟨'|' :: w ++ 'H' :: t ++ [DELIMITER], type, data, y, s', body, link, ?_,
        .mk hw ht hlen hlook, hrun.trans hs', hat, hlink, hbody, hdata⟩)
      simp only [List.append_assoc, List.cons_append]
    · refine .inr (.inr ⟨'|' :: w ++ 'H' :: t ++ [DELIMITER], d, s', ?_, .mk hw ht hlen hlook,
        hrun.trans hs', hendless⟩)
      simp only [List.append_assoc, List.cons_append]

theorem next_name {link : ChatLink} (hlink : st.link = some link) (hbody : link.body = some body)
    (h : At st 2 m) :
    Fails D U n st ∨
    (∃ c y s, m = c ++ y ∧ NamePart D body c ∧ nextCommand D U n st = .ok () s ∧ At s 3 y) ∨
    ∃ w u s, m = '|' :: w ++ 'h' :: '[' :: u ∧ Blanks w ∧ (lineLoop ']' 255 u).2.2 ≠ .input ∧
      validateName D (cString (lineLoop ']' 255 u).1) body = .error .fault ∧
      nextCommand D U n st = .error .fault s := by
  rcases next_within (D := D) (U := U) (n := n) (by decide) h with hfail | ⟨hp, -⟩ |
    ⟨w, c, y, s, rfl, hw, hc, hs, hlink', -, hrun⟩
  · exact .inl hfail
  · cases hp
  · obtain rfl : 'h' = c := Option.some.inj hc
    have hletter : afterLetter D n 'h' s = readName D { s with place := 3 } := by
      obtain ⟨hp, -⟩ := hs
      obtain ⟨iss, place', color, link, links, startPos⟩ := s
      obtain rfl : place' = 2 := hp
      exact rfl
    rw [hletter] at hrun
    rcases readName_cases (D := D) { s with place := 3 } (hlink'.trans hlink) hbody
      (hs.moved 3) with ⟨s', hs'⟩ | ⟨name, y, s', rfl, hname, hlen, htext, hs', hat⟩ |
      ⟨s', hs', hp, heof, hfail⟩ | ⟨u, s', rfl, hend, hval, hs'⟩
    · exact .inl (.refused (hrun.trans hs'))
    · refine .inr (.inl ⟨'|' :: w ++ 'h' :: '[' :: name ++ [']'], y, s', ?_, .mk hw hname hlen htext,
        hrun.trans hs', hat⟩)
      simp only [List.append_assoc, List.cons_append]
    · refine .inl (.broken (hrun.trans hs') heof hfail ?_)
      rw [hp]
      decide
    · exact .inr (.inr ⟨w, u, s', rfl, hw, hend, hval, hrun.trans hs'⟩)

theorem next_second (h : At st 3 m) :
    Fails D U n st ∨
    ∃ d y s, m = d ++ y ∧ LetterPart 'h' d ∧ nextCommand D U n st = .ok () s ∧ At s 4 y := by
  rcases next_within (D := D) (U := U) (n := n) (by decide) h with hfail | ⟨hp, -⟩ |
    ⟨w, c, y, s, rfl, hw, hc, hs, -, -, hrun⟩
  · exact .inl hfail
  · cases hp
  · obtain rfl : 'h' = c := Option.some.inj hc
    have hletter : afterLetter D n 'h' s = .ok () { s with place := 4 } := by
      obtain ⟨hp, -⟩ := hs
      obtain ⟨iss, place', color, link, links, startPos⟩ := s
      obtain rfl : place' = 3 := hp
      exact rfl
    exact .inr ⟨'|' :: w ++ ['h'], y, _, by simp, .mk hw, hrun.trans hletter, hs.moved 4⟩

theorem next_last (h : At st 4 m) :
    Fails D U n st ∨
    (U = 'r' ∧ ∃ w s, m = '|' :: w ∧ Blanks w ∧ w ≠ [] ∧
      nextCommand D U n st = .ok () s ∧ s.iss.eof = true ∧ s.place = 0) ∨
    ∃ d y s, m = d ++ y ∧ LetterPart 'r' d ∧ nextCommand D U n st = .ok () s ∧ At s 0 y := by
  rcases next_within (D := D) (U := U) (n := n) (by decide) h with hfail |
    ⟨-, hu, w, s, hend⟩ | ⟨w, c, y, s, rfl, hw, hc, hs, -, -, hrun⟩
  · exact .inl hfail
  · exact .inr (.inl ⟨hu, w, s, hend⟩)
  · obtain rfl : 'r' = c := Option.some.inj hc
    have hletter : afterLetter D n 'r' s = setBounds { s with place := 0 } := by
      obtain ⟨hp, -⟩ := hs
      obtain ⟨iss, place', color, link, links, startPos⟩ := s
      obtain rfl : place' = 4 := hp
      exact rfl
    obtain ⟨s', hs', hat⟩ := setBounds_at (hs.moved 0)
    exact .inr (.inr ⟨'|' :: w ++ ['r'], y, s', by simp, .mk hw, hrun.trans (hletter.trans hs'), hat⟩)

theorem next_pipe (ho : Opening o) (hw : Blanks w) (h : At st 0 (o ++ w ++ [PIPE_CHAR] ++ r)) :
    ∃ s, nextCommand D U n st = .ok () s ∧ At s 0 r := by
  rw [List.append_assoc, List.append_assoc, List.singleton_append] at h
  obtain ⟨st', hfind, hat, -⟩ := findPipe_opening ho h
  obtain ⟨s, hs, -, -, hrun⟩ := runCommand_known (D := D) (U := U) (n := n)
    (show PIPE_CHAR ∈ ['|', 'c', 'H', 'h', 'r'] from List.mem_cons_self) hw hat
  have hletter : afterLetter D n PIPE_CHAR s = .ok () s := by
    obtain ⟨hp, -⟩ := hs
    obtain ⟨iss, place, color, link, links, startPos⟩ := s
    obtain rfl : place = 0 := hp
    exact rfl
  exact ⟨s, (next_eq hfind).trans (hrun.trans hletter), hs⟩

theorem next_color {a : List Char} (ha : ColorPart color a) (h : At st 0 (a ++ PIPE_CHAR :: r)) :
    ∃ s, nextCommand D U n st = .ok () s ∧ At s 1 (PIPE_CHAR :: r) ∧ s.color = color := by
  cases ha with
  | @mk o w t ho hw ht =>
    rw [List.append_assoc, List.append_assoc, List.cons_append] at h
    obtain ⟨st', hfind, hat, -⟩ := findPipe_opening ho h
    obtain ⟨s, hs, -, -, hrun⟩ := runCommand_known (D := D) (U := U) (n := n)
      (show 'c' ∈ ['|', 'c', 'H', 'h', 'r'] by decide) hw hat
    obtain ⟨hp, p, hiss⟩ := hs
    obtain ⟨iss, place, color', link, links, startPos⟩ := s
    obtain rfl : place = 0 := hp
    obtain rfl : iss = sound (t ++ PIPE_CHAR :: r) p := hiss
    have hletter : afterLetter D n 'c' ⟨sound (t ++ PIPE_CHAR :: r) p, 0, color', link, links, startPos⟩ =
        readColor ⟨sound (t ++ PIPE_CHAR :: r) p, 1, color', link, links, startPos⟩ := rfl
    rw [readColor_eq, readHex_colorText ht] at hletter
    exact ⟨_, (next_eq hfind).trans (hrun.trans hletter), ⟨rfl, _, rfl⟩, rfl⟩

theorem next_letterH (hw : Blanks w) (h : At st 1 ('|' :: w ++ 'H' :: r)) :
    ∃ s, At s 2 r ∧ s.color = st.color ∧ nextCommand D U n st = readLink D n s := by
  obtain ⟨s, hs, -, hcolor, hrun⟩ := next_known (D := D) (U := U) (n := n)
    (by decide) (show 'H' ∈ ['|', 'c', 'H', 'h', 'r'] by decide) hw h
  refine ⟨{ s with place := 2 }, hs.moved 2, hcolor, hrun.trans ?_⟩
  obtain ⟨hp, -⟩ := hs
  obtain ⟨iss, place, color, link, links, startPos⟩ := s
  obtain rfl : place = 1 := hp
  exact rfl

theorem next_dataPart {b : List Char} (hb : DataPart D color body b) (hcolor : st.color = color)
    (h : At st 1 (b ++ PIPE_CHAR :: r)) :
    (n ≤ b.length ∧ ∃ s, nextCommand D U n st = .error .running s) ∨
    ∃ s link, nextCommand D U n st = .ok () s ∧ At s 2 (PIPE_CHAR :: r) ∧ s.link = some link ∧
      link.body = some body := by
  cases hb with
  | @mk b data type hb hdata =>
    cases hb with
    | @mk w t hw ht hlen hlook =>
      have hm : '|' :: w ++ 'H' :: t ++ [DELIMITER] ++ data ++ PIPE_CHAR :: r =
          '|' :: w ++ 'H' :: (t ++ [DELIMITER] ++ data ++ PIPE_CHAR :: r) := by
        simp only [List.append_assoc, List.cons_append]
      rw [hm] at h
      obtain ⟨s, hs, hcolor', hnext⟩ := next_letterH (D := D) (U := U) (n := n) hw h
      rw [hnext]
      rcases readLink_dataText (n := n) ht hlen hlook hdata (hcolor'.trans hcolor) hs with
        ⟨hn, hrun⟩ | hok
      · refine .inl ⟨?_, hrun⟩
        rw [List.length_append]
        omega
      · exact .inr hok

theorem next_trade {b d u : List Char} {pos : Nat} {link : TradeLink} (hb : TypePart .trade b)
    (hnum : tradeNumbers D color (sound d 0) = .ok link (sound u pos)) (hpipe : PIPE_CHAR ∉ u)
    (hnul : '\x00' ∉ u) (hcolor : st.color = color) (h : At st 1 (b ++ d)) :
    ∃ s, nextCommand D U n st = .error .running s := by
  cases hb with
  | @mk w t hw ht hlen hlook =>
    have hm : '|' :: w ++ 'H' :: t ++ [DELIMITER] ++ d = '|' :: w ++ 'H' :: (t ++ [DELIMITER] ++ d) := by
      simp only [List.append_assoc, List.cons_append]
    rw [hm] at h
    obtain ⟨s, hs, hcolor', hnext⟩ := next_letterH (D := D) (U := U) (n := n) hw h
    rw [hnext]
    exact readLink_trade ht hlen hlook hnum hpipe hnul (hcolor'.trans hcolor) hs

theorem next_letterName (hw : Blanks w) (h : At st 2 ('|' :: w ++ 'h' :: r)) :
    ∃ s, At s 3 r ∧ s.link = st.link ∧ nextCommand D U n st = readName D s := by
  obtain ⟨s, hs, hlink, -, hrun⟩ := next_known (D := D) (U := U) (n := n)
    (by decide) (show 'h' ∈ ['|', 'c', 'H', 'h', 'r'] by decide) hw h
  refine ⟨{ s with place := 3 }, hs.moved 3, hlink, hrun.trans ?_⟩
  obtain ⟨hp, -⟩ := hs
  obtain ⟨iss, place, color, link, links, startPos⟩ := s
  obtain rfl : place = 2 := hp
  exact rfl

theorem next_namePart {c : List Char} {link : ChatLink} (hc : NamePart D body c)
    (hlink : st.link = some link) (hbody : link.body = some body) (h : At st 2 (c ++ r)) :
    ∃ s, nextCommand D U n st = .ok () s ∧ At s 3 r := by
  cases hc with
  | @mk w name hw hname hlen htext =>
    have hm : '|' :: w ++ 'h' :: '[' :: name ++ [']'] ++ r =
        '|' :: w ++ 'h' :: ('[' :: name ++ [']'] ++ r) := by
      simp only [List.append_assoc, List.cons_append]
    rw [hm] at h
    obtain ⟨s, hs, hlink', hnext⟩ := next_letterName (D := D) (U := U) (n := n) hw h
    rw [hnext]
    exact readName_text (hlink'.trans hlink) hbody hname hlen htext hs

theorem next_fault {link : ChatLink} (hw : Blanks w) (hlink : st.link = some link)
    (hbody : link.body = some body) (hend : (lineLoop ']' 255 r).2.2 ≠ .input)
    (hval : validateName D (cString (lineLoop ']' 255 r).1) body = .error .fault)
    (h : At st 2 ('|' :: w ++ 'h' :: '[' :: r)) :
    ∃ s, nextCommand D U n st = .error .fault s := by
  obtain ⟨s, hs, hlink', hnext⟩ := next_letterName (D := D) (U := U) (n := n) hw h
  rw [hnext]
  exact readName_fault (hlink'.trans hlink) hbody hend hval hs

theorem next_secondPart {d : List Char} (hd : LetterPart 'h' d) (h : At st 3 (d ++ r)) :
    ∃ s, nextCommand D U n st = .ok () s ∧ At s 4 r := by
  cases hd with
  | @mk w hw =>
    rw [List.append_assoc, List.singleton_append] at h
    obtain ⟨s, hs, -, -, hrun⟩ := next_known (D := D) (U := U) (n := n)
      (by decide) (show 'h' ∈ ['|', 'c', 'H', 'h', 'r'] by decide) hw h
    refine ⟨{ s with place := 4 }, hrun.trans ?_, hs.moved 4⟩
    obtain ⟨hp, -⟩ := hs
    obtain ⟨iss, place, color, link, links, startPos⟩ := s
    obtain rfl : place = 3 := hp
    exact rfl

theorem next_lastPart {d : List Char} (hd : LetterPart 'r' d) (h : At st 4 (d ++ r)) :
    ∃ s, nextCommand D U n st = .ok () s ∧ At s 0 r := by
  cases hd with
  | @mk w hw =>
    rw [List.append_assoc, List.singleton_append] at h
    obtain ⟨s, hs, -, -, hrun⟩ := next_known (D := D) (U := U) (n := n)
      (by decide) (show 'r' ∈ ['|', 'c', 'H', 'h', 'r'] by decide) hw h
    obtain ⟨s', hs', hat⟩ := setBounds_at (hs.moved 0)
    refine ⟨s', hrun.trans (Eq.trans ?_ hs'), hat⟩
    obtain ⟨hp, -⟩ := hs
    obtain ⟨iss, place, color, link, links, startPos⟩ := s
    obtain rfl : place = 4 := hp
    exact rfl

end SkyfireBG
