import SkyfireBG.Chat.Sequence

/-!
# SkyfireBG.Chat.Language

The language of the validation.

* `valid_iff_loose` — the messages that are found valid are the loose ones.
* `returns_iff` — the validation comes back for all but the endless ones.
-/

namespace SkyfireBG

open Istream

variable {D : ChatStores} {U : Char} {st s : LinkExtractor} {m r t : List Char}
  {n k N place : Nat} {Q Q' : LinkExtractor → Prop}

theorem commands_next (heof : st.iss.eof = false) (h : nextCommand D U n st = .ok () s) :
    commands D U (n + 1) st = commands D U n s := by
  rw [commands, bind_ok (show (get : Extract LinkExtractor) _ = .ok _ _ from rfl)]
  rw [if_neg (by rw [heof]; exact Bool.false_ne_true), bind_ok h]

theorem commands_error {e : Stop} (heof : st.iss.eof = false)
    (h : nextCommand D U n st = .error e s) : commands D U (n + 1) st = .error e s := by
  rw [commands, bind_ok (show (get : Extract LinkExtractor) _ = .ok _ _ from rfl)]
  rw [if_neg (by rw [heof]; exact Bool.false_ne_true), bind_error h]

theorem commands_eof (heof : st.iss.eof = true) :
    commands D U (n + 1) st = .ok (decide (st.place = 0)) st := by
  rw [commands, bind_ok (show (get : Extract LinkExtractor) _ = .ok _ _ from rfl)]
  rw [if_pos heof]
  rfl

theorem At.eof (h : At st place m) : st.iss.eof = false := by
  obtain ⟨-, p, hiss⟩ := h
  rw [hiss]
  rfl

/-! ## From the run to the form -/

/-- The message is found valid, or nothing comes back although there was fuel enough. -/
def Pending (n : Nat) (m : List Char) (R : EStateM.Result Stop LinkExtractor Bool) : Prop :=
  (∃ s, R = .ok true s) ∨ m.length + 2 ≤ n ∧ ∃ e s, R = .error e s ∧ e ≠ .refused

theorem Pending.fuel (h : Pending N m (commands D U N st)) : ∃ n, N = n + 1 := by
  cases N with
  | zero =>
    rcases h with ⟨s, hs⟩ | ⟨hn, -⟩
    · cases hs
    · omega
  | succ n => exact ⟨n, rfl⟩

theorem Pending.shorter {R : EStateM.Result Stop LinkExtractor Bool} (h : Pending (n + 1) m R)
    (hr : r.length + 1 ≤ m.length) : Pending n r R :=
  h.imp_right fun h => ⟨by omega, h.2⟩

theorem next_failed (hfail : s.iss.fail = true) (hplace : s.place ≠ 0) :
    ∃ s', nextCommand D U n s = .error .refused s' := by
  obtain ⟨iss, place, color, link, links, startPos⟩ := s
  obtain ⟨k, rfl⟩ : ∃ k, place = k + 1 := Nat.exists_eq_succ_of_ne_zero hplace
  have hget : iss.get = (none, iss.failed) := if_neg (by simp [good, show iss.fail = true from hfail])
  have hfind : findPipe ⟨iss, k + 1, color, link, links, startPos⟩ =
      .error .refused ⟨iss.failed, k + 1, color, link, links, startPos⟩ := by
    have h : findPipe ⟨iss, k + 1, color, link, links, startPos⟩ =
        (if iss.get.1 ≠ some PIPE_CHAR then throw .refused else pure () : Extract Unit)
          ⟨iss.get.2, k + 1, color, link, links, startPos⟩ := rfl
    rw [h, hget, if_pos (Option.some_ne_none _).symm]
    rfl
  exact ⟨_, bind_error hfind⟩

theorem Pending.not_fails (heof : st.iss.eof = false)
    (h : Pending (n + 1) m (commands D U (n + 1) st)) : ¬ Fails D U n st := by
  intro hfail
  cases hfail with
  | refused hs =>
    rw [commands_error heof hs] at h
    rcases h with ⟨s, hs⟩ | ⟨-, e, s, hs, he⟩
    · cases hs
    · cases hs
      exact he rfl
  | «open» hs heof' hplace =>
    rw [commands_next heof hs] at h
    obtain ⟨k, rfl⟩ : ∃ k, n = k + 1 := by
      rcases h with ⟨s, hs⟩ | ⟨hn, -⟩
      · cases n with
        | zero => cases hs
        | succ k => exact ⟨k, rfl⟩
      · exact ⟨n - 1, by omega⟩
    rw [commands_eof heof', decide_eq_false hplace] at h
    rcases h with ⟨s, hs⟩ | ⟨-, e, s, hs, -⟩ <;> cases hs
  | broken hs heof' hfail hplace =>
    rw [commands_next heof hs] at h
    obtain ⟨k, rfl⟩ : ∃ k, n = k + 1 := by
      rcases h with ⟨s, hs⟩ | ⟨hn, -⟩
      · cases n with
        | zero => cases hs
        | succ k => exact ⟨k, rfl⟩
      · exact ⟨n - 1, by omega⟩
    obtain ⟨s', hs'⟩ := next_failed (D := D) (U := U) (n := k) hfail hplace
    rw [commands_error heof' hs'] at h
    rcases h with ⟨s, hs⟩ | ⟨-, e, s, hs, he⟩
    · cases hs
    · cases hs
      exact he rfl

structure Verdict (D : ChatStores) (U : Char) (m : List Char)
    (R : EStateM.Result Stop LinkExtractor Bool) : Prop where
  loose : ∀ s, R = .ok true s → Loose D U m
  endless : ∀ e s, R = .error e s → Endless D m

theorem Verdict.item {R : EStateM.Result Stop LinkExtractor Bool} (ht : LooseItem D t)
    (h : Verdict D U m R) : Verdict D U (t ++ m) R :=
  ⟨fun s hs => .item ht (h.loose s hs), fun e s hs => .item ht (h.endless e s hs)⟩

theorem Verdict.ending {R : EStateM.Result Stop LinkExtractor Bool} (h : LooseEnd D U m)
    (hR : R = .ok true s) : Verdict D U m R :=
  ⟨fun _ _ => .ending h, fun _ _ he => by rw [hR] at he; cases he⟩

theorem Verdict.never {R : EStateM.Result Stop LinkExtractor Bool} {e : Stop} (h : EndlessEnd D m)
    (hR : R = .error e s) : Verdict D U m R :=
  ⟨fun _ ht => (by rw [hR] at ht; cases ht), fun _ _ _ => .ending h⟩

theorem Pending.ended (heof : st.iss.eof = false)
    (h : Pending (n + 1) m (commands D U (n + 1) st)) (hs : nextCommand D U n st = .ok () s)
    (heof' : s.iss.eof = true) (hplace : s.place = 0) :
    commands D U (n + 1) st = .ok true s := by
  rw [commands_next heof hs] at h ⊢
  cases n with
  | zero =>
    rcases h with ⟨s, hs⟩ | ⟨hn, -⟩
    · cases hs
    · omega
  | succ k => rw [commands_eof heof', decide_eq_true hplace]

theorem TypePart.head {type : LinkType} {b : List Char} (h : TypePart type b) (x : List Char) :
    (b ++ x).head? = some PIPE_CHAR := by
  cases h with
  | mk => rfl

theorem NamePart.head {body : LinkBody} {b : List Char} (h : NamePart D body b) (x : List Char) :
    (b ++ x).head? = some PIPE_CHAR := by
  cases h with
  | mk => rfl

theorem LetterPart.length {letter : Char} {b : List Char} (h : LetterPart letter b) : 2 ≤ b.length := by
  cases h with
  | mk => simp

theorem TypePart.length {type : LinkType} {b : List Char} (h : TypePart type b) : 1 ≤ b.length := by
  cases h with
  | mk => simp

theorem NamePart.length {body : LinkBody} {b : List Char} (h : NamePart D body b) : 1 ≤ b.length := by
  cases h with
  | mk => simp

theorem verdict_start (h : At st 0 m) (hpend : Pending N m (commands D U N st)) :
    Verdict D U m (commands D U N st) := by
  induction N using Nat.strong_induction_on generalizing st m with
  | _ N ih =>
    obtain ⟨n₁, rfl⟩ := hpend.fuel
    rcases next_start (D := D) (U := U) (n := n₁) h with hfail | ⟨hend, s, hs, heof, hp⟩ |
      ⟨t, r, s, rfl, hne, ht, hs, hat⟩ | ⟨o, w, t, r, s₁, color, rfl, ho, hw, htext, hs₁, hat₁, hcolor⟩
    · exact absurd hfail (hpend.not_fails h.eof)
    · exact .ending hend (hpend.ended h.eof hs heof hp)
    · have hlen : r.length + 1 ≤ (t ++ r).length := by
        have hpos := List.length_pos_of_ne_nil hne
        rw [List.length_append]
        omega
      rw [commands_next h.eof hs] at hpend ⊢
      exact .item ht (ih n₁ (Nat.lt_succ_self _) hat (hpend.shorter hlen))
    · have hlen₁ : r.length + 1 ≤ (o ++ w ++ 'c' :: t ++ r).length := by
        simp only [List.length_append, List.length_cons]
        omega
      rw [commands_next h.eof hs₁] at hpend ⊢
      have hpend₁ := hpend.shorter hlen₁
      obtain ⟨n₂, rfl⟩ := hpend₁.fuel
      rcases next_data (D := D) (U := U) (n := n₂) hcolor hat₁ with hfail |
        ⟨b, type, data, y, s₂, body, link, rfl, hb, hs₂, hat₂, hlink, hbody, hdata⟩ |
        ⟨b, d, s₂, rfl, hb, hs₂, hendless⟩
      · exact absurd hfail (hpend₁.not_fails hat₁.eof)
      · have hcolorPart : ColorPart color (o ++ w ++ 'c' :: t) := .mk ho hw (htext (by
          rw [List.append_assoc]
          exact hb.head _))
        have hlen₂ : y.length + 1 ≤ (b ++ data ++ y).length := by
          have hpos := hb.length
          simp only [List.length_append]
          omega
        rw [commands_next hat₁.eof hs₂] at hpend₁ ⊢
        have hpend₂ := hpend₁.shorter hlen₂
        obtain ⟨n₃, rfl⟩ := hpend₂.fuel
        rcases next_name (D := D) (U := U) (n := n₃) hlink hbody hat₂ with hfail |
          ⟨c, y, s₃, rfl, hc, hs₃, hat₃⟩ | ⟨v, u, s₃, rfl, hv, hend, hval, hs₃⟩
        · exact absurd hfail (hpend₂.not_fails hat₂.eof)
        · have hdataPart : DataPart D color body (b ++ data) := .mk hb (hdata (hc.head _))
          have hlen₃ : y.length + 1 ≤ (c ++ y).length := by
            have hpos := hc.length
            rw [List.length_append]
            omega
          rw [commands_next hat₂.eof hs₃] at hpend₂ ⊢
          have hpend₃ := hpend₂.shorter hlen₃
          obtain ⟨n₄, rfl⟩ := hpend₃.fuel
          rcases next_second (D := D) (U := U) (n := n₄) hat₃ with hfail |
            ⟨d, y, s₄, rfl, hd, hs₄, hat₄⟩
          · exact absurd hfail (hpend₃.not_fails hat₃.eof)
          · have hhead : LinkHead D (o ++ w ++ 'c' :: t ++ (b ++ data) ++ c ++ d) :=
              .mk hcolorPart hdataPart hc hd
            have hlen₄ : y.length + 1 ≤ (d ++ y).length := by
              have hpos := hd.length
              rw [List.length_append]
              omega
            rw [commands_next hat₃.eof hs₄] at hpend₃ ⊢
            have hpend₄ := hpend₃.shorter hlen₄
            obtain ⟨n₅, rfl⟩ := hpend₄.fuel
            rcases next_last (D := D) (U := U) (n := n₅) hat₄ with hfail |
              ⟨hu, v, s₅, rfl, hv, hne, hs₅, heof, hp⟩ | ⟨e, y, s₅, rfl, he, hs₅, hat₅⟩
            · exact absurd hfail (hpend₄.not_fails hat₄.eof)
            · have hend : LooseEnd D U
                  (o ++ w ++ 'c' :: t ++ (b ++ data) ++ c ++ d ++ '|' :: v) := .link hhead hv hne hu
              simp only [List.append_assoc] at hend ⊢
              exact .ending hend (hpend₄.ended hat₄.eof hs₅ heof hp)
            · have hlen₅ : y.length + 1 ≤ (e ++ y).length := by
                have hpos := he.length
                rw [List.length_append]
                omega
              rw [commands_next hat₄.eof hs₅] at hpend₄ ⊢
              have hrest := ih n₅ (by omega) hat₅ (hpend₄.shorter hlen₅)
              have hitem := hrest.item (.link hhead he)
              simp only [List.append_assoc] at hitem ⊢
              exact hitem
        · -- The name is that of the profession alone.
          have hdataPart : DataPart D color body (b ++ data) := .mk hb (hdata rfl)
          have hend : EndlessEnd D (o ++ w ++ 'c' :: t ++ (b ++ data) ++ '|' :: v ++ 'h' :: '[' :: u) :=
            .name hcolorPart hdataPart hv hend hval
          simp only [List.append_assoc] at hend ⊢
          exact .never hend (commands_error hat₂.eof hs₃)
      · -- The text of a trade link has no end.
        have hcolorPart : ColorPart color (o ++ w ++ 'c' :: t) := .mk ho hw (htext (hb.head _))
        have hR := commands_error hat₁.eof hs₂
        have hn : d.length < n₂ := by
          rw [hR] at hpend₁
          have hpos := hb.length
          rcases hpend₁ with ⟨s, hs⟩ | ⟨hlen, -⟩
          · cases hs
          · rw [List.length_append] at hlen
            omega
        obtain ⟨link, u, pos, hnum, hpipe, hnul⟩ := hendless hn
        have hend : EndlessEnd D (o ++ w ++ 'c' :: t ++ b ++ d) :=
          .trade hcolorPart hb hnum hpipe hnul
        simp only [List.append_assoc] at hend ⊢
        exact .never hend hR

/-! ## From the form to the run -/

/-- The run goes on in a state with the property after at most so many characters, or there was not
that much fuel. -/
def Goes (D : ChatStores) (U : Char) (k N : Nat) (st : LinkExtractor)
    (Q : LinkExtractor → Prop) : Prop :=
  (N ≤ k ∧ ∃ s, commands D U N st = .error .running s) ∨
    ∃ n s, Q s ∧ commands D U N st = commands D U n s ∧ N ≤ n + k

theorem Goes.trans {l : Nat} (h : Goes D U k N st Q)
    (h' : ∀ n s, Q s → Goes D U l n s Q') : Goes D U (k + l) N st Q' := by
  rcases h with ⟨hN, s, hs⟩ | ⟨n, s, hq, hs, hN⟩
  · exact .inl ⟨by omega, s, hs⟩
  · rcases h' n s hq with ⟨hn, s', hs'⟩ | ⟨n', s', hq', hs', hn⟩
    · exact .inl ⟨by omega, s', hs.trans hs'⟩
    · exact .inr ⟨n', s', hq', hs.trans hs', by omega⟩

theorem Goes.turn (heof : st.iss.eof = false) (hk : 1 ≤ k)
    (h : ∀ n, (n < k ∧ ∃ s, nextCommand D U n st = .error .running s) ∨
      ∃ s, nextCommand D U n st = .ok () s ∧ Q s) : Goes D U k N st Q := by
  cases N with
  | zero => exact .inl ⟨Nat.zero_le _, st, rfl⟩
  | succ n =>
    rcases h n with ⟨hn, s, hs⟩ | ⟨s, hs, hq⟩
    · exact .inl ⟨hn, s, commands_error heof hs⟩
    · exact .inr ⟨n, s, hq, commands_next heof hs, by omega⟩

def AtData (r : List Char) (body : LinkBody) (s : LinkExtractor) : Prop :=
  At s 2 r ∧ ∃ link, s.link = some link ∧ link.body = some body

theorem goes_color {color : Nat} {a : List Char} (ha : ColorPart color a)
    (h : At st 0 (a ++ PIPE_CHAR :: r)) :
    Goes D U a.length N st fun s => At s 1 (PIPE_CHAR :: r) ∧ s.color = color := by
  refine .turn h.eof ?_ fun n => .inr (next_color ha h)
  cases ha with
  | mk =>
    simp only [List.length_append, List.length_cons]
    omega

theorem goes_data {color : Nat} {body : LinkBody} {b : List Char} (hb : DataPart D color body b)
    (hcolor : st.color = color) (h : At st 1 (b ++ PIPE_CHAR :: r)) :
    Goes D U (b.length + 1) N st (AtData (PIPE_CHAR :: r) body) := by
  refine .turn h.eof (Nat.succ_pos _) fun n => ?_
  rcases next_dataPart (U := U) (n := n) hb hcolor h with ⟨hn, hs⟩ |
    ⟨s, link, hs, hat, hlink, hbody⟩
  · exact .inl ⟨Nat.lt_succ_of_le hn, hs⟩
  · exact .inr ⟨s, hs, hat, link, hlink, hbody⟩

theorem DataPart.head {color : Nat} {body : LinkBody} {b : List Char} (h : DataPart D color body b) :
    ∃ x, b = PIPE_CHAR :: x := by
  cases h with
  | mk ht =>
    cases ht with
    | mk => exact ⟨_, rfl⟩

theorem NamePart.cons {body : LinkBody} {c : List Char} (h : NamePart D body c) :
    ∃ x, c = PIPE_CHAR :: x := by
  cases h with
  | mk => exact ⟨_, rfl⟩

theorem goes_dataPart {color : Nat} {body : LinkBody} {a b : List Char} (ha : ColorPart color a)
    (hb : DataPart D color body b) (h : At st 0 (a ++ b ++ PIPE_CHAR :: r)) :
    Goes D U (a.length + (b.length + 1)) N st (AtData (PIPE_CHAR :: r) body) := by
  obtain ⟨x, rfl⟩ := hb.head
  rw [List.append_assoc] at h
  exact (goes_color ha h).trans fun n s hs => goes_data hb hs.2 hs.1

theorem goes_linkHead {a : List Char} (ha : LinkHead D a) (h : At st 0 (a ++ r)) :
    Goes D U (a.length + 1) N st fun s => At s 4 r := by
  cases ha with
  | @mk a b c d color body ha hb hc hd =>
    obtain ⟨x, rfl⟩ := hc.cons
    have hm : a ++ b ++ (PIPE_CHAR :: x) ++ d ++ r = a ++ b ++ PIPE_CHAR :: (x ++ (d ++ r)) := by
      simp only [List.append_assoc, List.cons_append]
    rw [hm] at h
    have hlen : (a ++ b ++ (PIPE_CHAR :: x) ++ d).length + 1 =
        a.length + (b.length + 1) + ((PIPE_CHAR :: x).length + d.length) := by
      simp only [List.length_append]
      omega
    rw [hlen]
    refine (goes_dataPart ha hb h).trans fun n s ⟨hat, link, hlink, hbody⟩ => ?_
    refine Goes.trans (Q := fun s => At s 3 (d ++ r)) (.turn hat.eof hc.length fun n => .inr ?_) ?_
    · exact next_namePart hc hlink hbody hat
    · intro n s hs
      exact .turn hs.eof (Nat.le_of_succ_le hd.length) fun n => .inr (next_secondPart hd hs)

theorem goes_item (ht : LooseItem D t) (h : At st 0 (t ++ m)) :
    Goes D U t.length N st fun s => At s 0 m := by
  cases ht with
  | @pipe o w ho hw =>
    refine .turn h.eof ?_ fun n => .inr (next_pipe ho hw h)
    rw [List.length_append]
    exact Nat.le_add_left _ _
  | @link a b ha hb =>
    rw [List.append_assoc] at h
    have hlen : (a ++ b).length = a.length + 1 + (b.length - 1) := by
      have hpos := hb.length
      rw [List.length_append]
      omega
    rw [hlen]
    refine (goes_linkHead ha h).trans fun n s hs => .turn hs.eof ?_ fun n => .inr (next_lastPart hb hs)
    have hpos := hb.length
    omega

theorem commands_ended (heof : st.iss.eof = false) (hN : 2 ≤ N)
    (h : ∀ n, ∃ s, nextCommand D U n st = .ok () s ∧ s.iss.eof = true ∧ s.place = 0) :
    ∃ s, commands D U N st = .ok true s := by
  obtain ⟨n, rfl⟩ : ∃ n, N = n + 1 + 1 := ⟨N - 2, by omega⟩
  obtain ⟨s, hs, heof', hp⟩ := h (n + 1)
  refine ⟨s, ?_⟩
  rw [commands_next heof hs, commands_eof heof', decide_eq_true hp]

theorem next_opening {o : List Char} (ho : Opening o) (h : At st 0 o) :
    ∃ s, nextCommand D U n st = .ok () s ∧ s.iss.eof = true ∧ s.place = 0 := by
  rw [← List.append_nil o] at h
  obtain ⟨st', hfind, hat, -⟩ := findPipe_opening ho h
  obtain ⟨s, hs, hp, heof⟩ := runCommand_empty (D := D) (U := U) (n := n) hat
  exact ⟨s, (next_eq hfind).trans hs, heof, hp⟩

theorem opening_of_text {o : List Char} (ho : Opening o) : PIPE_CHAR ∈ o ∨ o.length = 255 := by
  cases ho with
  | pipe => exact .inl (by simp)
  | cut _ hlen => exact .inr hlen

theorem next_text (ht : PIPE_CHAR ∉ m) (hlen : m.length < 255) (h : At st 0 m) :
    ∃ s, nextCommand D U n st = .ok () s ∧ s.iss.eof = true ∧ s.place = 0 := by
  rcases findPipe_cases h with ⟨o, r, rfl, ho⟩ | ⟨-, -, st', hfind, hp, heof, -⟩
  · rw [List.mem_append, not_or] at ht
    rw [List.length_append] at hlen
    rcases opening_of_text ho with hmem | hfull
    · exact absurd hmem ht.1
    · omega
  · obtain ⟨s, hs, hp', heof'⟩ := runCommand_eof (D := D) (U := U) (n := n) heof
    exact ⟨s, (next_eq hfind).trans hs, heof', hp'.trans hp⟩

theorem next_openPipe {o w : List Char} (ho : Opening o) (hw : Blanks w) (hne : w ≠ [])
    (hu : U = PIPE_CHAR) (h : At st 0 (o ++ w)) :
    ∃ s, nextCommand D U n st = .ok () s ∧ s.iss.eof = true ∧ s.place = 0 := by
  obtain ⟨st', hfind, hat, -⟩ := findPipe_opening ho h
  obtain ⟨s, hp, -, heof, -, -, hs⟩ :=
    runCommand_blanks (D := D) (U := U) (n := n) hw hne hat
  refine ⟨s, (next_eq hfind).trans (hs.trans ?_), heof, hp⟩
  obtain ⟨iss, place, color, link, links, startPos⟩ := s
  obtain rfl : place = 0 := hp
  subst hu
  rfl

theorem next_openLink {w : List Char} (hw : Blanks w) (hne : w ≠ []) (hu : U = 'r')
    (h : At st 4 ('|' :: w)) :
    ∃ s, nextCommand D U n st = .ok () s ∧ s.iss.eof = true ∧ s.place = 0 := by
  obtain ⟨st', hfind, hat, -⟩ := findPipe_within (by decide) h
  obtain ⟨s, hp, -, heof, -, -, hs⟩ :=
    runCommand_blanks (D := D) (U := U) (n := n) hw hne hat
  obtain ⟨s', hs', hp', heof', -⟩ := setBounds_ok { s with place := 0 }
  refine ⟨s', (next_eq hfind).trans (hs.trans (Eq.trans ?_ hs')), heof'.trans heof, hp'⟩
  obtain ⟨iss, place, color, link, links, startPos⟩ := s
  obtain rfl : place = 4 := hp
  subst hu
  rfl

theorem commands_looseEnd (hm : LooseEnd D U m) (h : At st 0 m) (hN : m.length + 2 ≤ N) :
    ∃ s, commands D U N st = .ok true s := by
  cases hm with
  | text ht hlen => exact commands_ended h.eof (by omega) fun n => next_text ht hlen h
  | opening ho => exact commands_ended h.eof (by omega) fun n => next_opening ho h
  | pipe ho hw hne hu => exact commands_ended h.eof (by omega) fun n => next_openPipe ho hw hne hu h
  | @link a w ha hw hne hu =>
    rw [List.length_append, List.length_cons] at hN
    rcases goes_linkHead (N := N) ha h with ⟨hle, -⟩ | ⟨n, s, hs, heq, hle⟩
    · omega
    · obtain ⟨s', hs'⟩ := commands_ended (N := n) hs.eof (by omega) fun n => next_openLink hw hne hu hs
      exact ⟨s', heq.trans hs'⟩

theorem commands_loose (hm : Loose D U m) (h : At st 0 m) (hN : m.length + 2 ≤ N) :
    ∃ s, commands D U N st = .ok true s := by
  induction hm generalizing st N with
  | ending hend => exact commands_looseEnd hend h hN
  | @item t m ht _ ih =>
    rw [List.length_append] at hN
    rcases goes_item (N := N) ht h with ⟨hle, -⟩ | ⟨n, s, hs, heq, hle⟩
    · omega
    · obtain ⟨s', hs'⟩ := ih (N := n) hs (by omega)
      exact ⟨s', heq.trans hs'⟩

theorem commands_endless (hm : Endless D m) (h : At st 0 m) (N : Nat) :
    ∃ e s, commands D U N st = .error e s ∧ e ≠ .refused := by
  induction hm generalizing st N with
  | ending hend =>
    cases hend with
    | @trade a b d u color pos link ha hb hnum hpipe hnul =>
      obtain ⟨x, hx⟩ : ∃ x, b = PIPE_CHAR :: x := by
        cases hb with
        | mk => exact ⟨_, rfl⟩
      rw [hx, List.append_assoc] at h
      rcases goes_color (N := N) ha h with ⟨-, s, hs⟩ | ⟨n, s, ⟨hat, hcolor⟩, heq, -⟩
      · exact ⟨_, s, hs, nofun⟩
      · cases n with
        | zero => exact ⟨_, s, heq, nofun⟩
        | succ n =>
          have hat' : At s 1 (b ++ d) := hx ▸ hat
          obtain ⟨s', hs'⟩ := next_trade (U := U) (n := n) hb hnum hpipe hnul hcolor hat'
          exact ⟨_, s', heq.trans (commands_error hat.eof hs'), nofun⟩
    | @name a b w r color body ha hb hw hend hval =>
      rw [List.append_assoc (a ++ b)] at h
      rcases goes_dataPart (N := N) ha hb h with ⟨-, s, hs⟩ |
        ⟨n, s, ⟨hat, link, hlink, hbody⟩, heq, -⟩
      · exact ⟨_, s, hs, nofun⟩
      · cases n with
        | zero => exact ⟨_, s, heq, nofun⟩
        | succ n =>
          obtain ⟨s', hs'⟩ := next_fault (U := U) (n := n) hw hlink hbody hend hval hat
          exact ⟨_, s', heq.trans (commands_error hat.eof hs'), nofun⟩
  | item ht _ ih =>
    rcases goes_item (N := N) ht h with ⟨-, s, hs⟩ | ⟨n, s, hs, heq, -⟩
    · exact ⟨_, s, hs, nofun⟩
    · obtain ⟨e, s', hs', he⟩ := ih hs n
      exact ⟨e, s', heq.trans hs', he⟩

theorem at_start (m : List Char) : At { iss := ofString m } 0 m := ⟨rfl, 0, rfl⟩

theorem valid_iff_loose : (∃ fuel s, isValidMessage D U fuel m = some (true, s)) ↔
    Loose D U m := by
  constructor
  · rintro ⟨fuel, s, h⟩
    have hrun : commands D U fuel { iss := ofString m } = .ok true s := by
      unfold isValidMessage at h
      cases hres : commands D U fuel { iss := ofString m } with
      | ok valid s' =>
        rw [hres] at h
        cases h
        rfl
      | error e s' =>
        rw [hres] at h
        cases e <;> cases h
    exact (verdict_start (at_start m) (.inl ⟨s, hrun⟩)).loose s hrun
  · intro h
    obtain ⟨s, hs⟩ := commands_loose h (at_start m) (Nat.le_refl _)
    exact ⟨_, s, by rw [isValidMessage, hs]⟩

theorem returns_iff : (∃ fuel valid s, isValidMessage D U fuel m = some (valid, s)) ↔
    ¬ Endless D m := by
  constructor
  · rintro ⟨fuel, valid, s, h⟩ hend
    obtain ⟨e, s', hs', he⟩ := commands_endless (U := U) hend (at_start m) fuel
    rw [isValidMessage, hs'] at h
    cases e with
    | refused => exact he rfl
    | running => cases h
    | fault => cases h
  · intro hend
    refine ⟨m.length + 2, ?_⟩
    cases hres : commands D U (m.length + 2) { iss := ofString m } with
    | ok valid s => exact ⟨valid, s, by rw [isValidMessage, hres]⟩
    | error e s =>
      cases e with
      | refused => exact ⟨false, s, by rw [isValidMessage, hres]⟩
      | running =>
        refine absurd ((verdict_start (at_start m) ?_).endless _ s hres) hend
        exact .inr ⟨Nat.le_refl _, _, s, hres, nofun⟩
      | fault =>
        refine absurd ((verdict_start (at_start m) ?_).endless _ s hres) hend
        exact .inr ⟨Nat.le_refl _, _, s, hres, nofun⟩

end SkyfireBG

/-!
## What is accepted

What is found valid against what should be.
-/

namespace SkyfireBG

open Istream

variable {D : ChatStores} {U : Char} {m t ds : List Char} {captions : List Char → Prop}

theorem digitVal_lt {c : Char} {v : Nat} (h : digitVal 16 c = some v) : v < 16 := by
  have hle : ∀ {a b : Char}, a ≤ b → a.toNat ≤ b.toNat := fun hab => hab
  unfold digitVal at h
  split_ifs at h with h9 hf hF
  · obtain rfl := Option.some.inj h
    have hc : c.toNat ≤ 57 := hle h9.2
    change c.toNat - 48 < 16
    omega
  · obtain rfl := Option.some.inj h
    have hc : c.toNat ≤ 102 := hle hf.2.2
    change c.toNat - 97 + 10 < 16
    omega
  · obtain rfl := Option.some.inj h
    have hc : c.toNat ≤ 70 := hle hF.2.2
    change c.toNat - 65 + 10 < 16
    omega

theorem foldl_digits_lt (hds : ∀ c ∈ ds, isDigit 16 c = true) (n k : Nat) (hn : n < 16 ^ k) :
    ds.foldl (fun n c => n * 16 + (digitVal 16 c).getD 0) n < 16 ^ (k + ds.length) := by
  induction ds generalizing n k with
  | nil => exact hn
  | cons c ds ih =>
    obtain ⟨hc, hds⟩ := List.forall_mem_cons.mp hds
    obtain ⟨v, hv⟩ := Option.isSome_iff_exists.mp hc
    have hlt := digitVal_lt hv
    have hstep : n * 16 + (digitVal 16 c).getD 0 < 16 ^ (k + 1) := by
      rw [hv, Option.getD_some, Nat.pow_succ]
      omega
    rw [List.foldl_cons, List.length_cons, Nat.add_comm ds.length, ← Nat.add_assoc]
    exact ih hds _ _ hstep

theorem not_special {c : Char} (h : isDigit 16 c = true) :
    isBlank c = false ∧ c ≠ '-' ∧ c ≠ '+' ∧ c ≠ 'x' ∧ c ≠ 'X' := by
  have hne : ∀ d : Char, isDigit 16 d = false → c ≠ d := by
    rintro d hd rfl
    rw [hd] at h
    cases h
  refine ⟨?_, hne _ rfl, hne _ rfl, hne _ rfl, hne _ rfl⟩
  have h1 := hne ' ' rfl
  have h2 := hne '\t' rfl
  have h3 := hne '\n' rfl
  have h4 := hne '\x0b' rfl
  have h5 := hne '\x0c' rfl
  have h6 := hne '\r' rfl
  simp [isBlank, h1, h2, h3, h4, h5, h6]

theorem number_digits (hne : ds ≠ []) (hds : ∀ c ∈ ds, isDigit 16 c = true) :
    number 16 ds = (some (false, digitsVal 16 ds), []) := by
  have hsign : takeSign ds = (false, ds) := by
    cases ds with
    | nil => exact absurd rfl hne
    | cons c ds =>
      obtain ⟨-, hminus, hplus, -⟩ := not_special (hds c List.mem_cons_self)
      rw [takeSign, if_neg hminus, if_neg hplus]
  have hmark : dropMark 16 ds = ds := by
    rcases ds with _ | ⟨c, _ | ⟨d, ds⟩⟩
    · rfl
    · rfl
    · obtain ⟨-, -, -, hx, hX⟩ := not_special (hds d (by simp))
      exact if_neg fun h => h.2.2.elim hx hX
  have htake : ds.takeWhile (isDigit 16) = ds := List.takeWhile_eq_self_iff.mpr hds
  have hdrop : ds.dropWhile (isDigit 16) = [] := List.dropWhile_eq_nil_iff.mpr hds
  rw [number, hsign]
  dsimp only
  rw [hmark, htake, hdrop, if_neg hne]

theorem colorText_digits (hlen : ds.length = 8) (hds : ∀ c ∈ ds, isDigit 16 c = true) :
    ColorText ds (digitsVal 16 ds) := by
  have hne : ds ≠ [] := by
    rintro rfl
    cases hlen
  have hblank : ds.dropWhile isBlank = ds := by
    have h := dropWhile_blank_append (w := []) (m := ds) nofun fun c hc =>
      (not_special (hds c (List.mem_of_mem_head? hc))).1
    exact h
  have hlt : digitsVal 16 ds < 2 ^ 32 := by
    have h := foldl_digits_lt hds 0 0 (by decide)
    rw [hlen] at h
    exact h
  refine ⟨(false, digitsVal 16 ds), ?_, if_pos hlt, by omega⟩
  rw [hblank, number_digits hne hds]

theorem linkTypes_typePart : ∀ e ∈ linkTypes, DELIMITER ∉ e.1 ∧ e.1.length ≤ 255 ∧
    linkTypes.lookup (cString e.1) = some e.2 := by
  decide

theorem looseItem_link {x : List Char} (hx : CompleteLink D (']' ∉ ·) x) (ht : PIPE_CHAR ∉ t)
    (hlen : (t ++ x).length ≤ 255) : LooseItem D (t ++ x) := by
  cases hx with
  | @mk color typeName data name type body hcolor hdigits htype hdata hname hbracket =>
    obtain ⟨hdelim, htlen, hlook⟩ := linkTypes_typePart _ htype
    have hpart : TypePart type ('|' :: [] ++ 'H' :: typeName ++ [DELIMITER]) :=
      .mk nofun hdelim htlen hlook
    have hall : t ++ linkText color typeName data name = t ++ [PIPE_CHAR] ++ [] ++ 'c' :: color ++
        ('|' :: [] ++ 'H' :: typeName ++ [DELIMITER] ++ data) ++
        ('|' :: [] ++ 'h' :: '[' :: name ++ [']']) ++ ('|' :: [] ++ ['h']) ++ ('|' :: [] ++ ['r']) := by
      simp [linkText, PIPE_CHAR, DELIMITER]
    have hsum : t.length + name.length + 2 ≤ (t ++ linkText color typeName data name).length := by
      simp only [linkText, List.length_append, List.length_cons]
      omega
    rw [hall]
    refine .link (.mk (.mk (.pipe ht (by omega)) nofun (colorText_digits hcolor hdigits))
      (.mk hpart hdata) (.mk nofun hbracket (by omega) hname) (.mk nofun)) (.mk nofun)

theorem loose_of_wellFormed (h : WellFormed D (']' ∉ ·) m) (ht : PIPE_CHAR ∉ t)
    (hlen : (t ++ m).length ≤ 255) : Loose D U (t ++ m) := by
  induction h generalizing t with
  | nil =>
    rw [List.append_nil] at hlen ⊢
    rcases Nat.lt_or_eq_of_le hlen with hlt | heq
    · exact .ending (.text ht hlt)
    · exact .ending (.opening (.cut ht heq))
  | @char c m hc _ ih =>
    rw [← List.singleton_append, ← List.append_assoc] at hlen ⊢
    refine ih ?_ hlen
    rw [List.mem_append, List.mem_singleton, not_or]
    exact ⟨ht, fun h => hc h.symm⟩
  | @pipe m _ ih =>
    have hshort : t.length + m.length + 2 ≤ 255 := by
      rw [List.length_append, List.length_cons, List.length_cons] at hlen
      omega
    have hitem : LooseItem D (t ++ [PIPE_CHAR] ++ [] ++ [PIPE_CHAR]) :=
      .pipe (.pipe ht (by omega)) nofun
    have hrest : Loose D U m := ih (t := []) List.not_mem_nil (by rw [List.nil_append]; omega)
    have hall := Loose.item hitem hrest
    simp only [List.append_nil, List.append_assoc, List.singleton_append] at hall
    exact hall
  | @link x m hx _ ih =>
    rw [← List.append_assoc, List.length_append] at hlen
    rw [← List.append_assoc]
    refine .item (looseItem_link hx ht (by omega)) ?_
    exact ih (t := []) List.not_mem_nil (by rw [List.nil_append]; omega)

/-- A message is found valid exactly when it should be, but where the looser reading alone takes it, or
where, among the messages of up to 255 characters, a name with a bracket is cut short. -/
theorem message_accepted (D : ChatStores) (uninit : Char) (m : List Char) :
    (((∃ fuel s, isValidMessage D uninit fuel m = some (true, s)) → WellFormed D (fun _ => True) m) ∧
      (m.length ≤ 255 → WellFormed D (fun _ => True) m →
        ∃ fuel s, isValidMessage D uninit fuel m = some (true, s))) ↔
    (Loose D uninit m → WellFormed D (fun _ => True) m) ∧
      (m.length ≤ 255 → WellFormed D (fun _ => True) m →
        WellFormed D (']' ∉ ·) m ∨ Loose D uninit m) := by
  rw [valid_iff_loose]
  refine and_congr_right fun _ => ⟨fun h hlen hm => .inr (h hlen hm), fun h hlen hm => ?_⟩
  rcases h hlen hm with hplain | hloose
  · exact loose_of_wellFormed (t := []) hplain List.not_mem_nil hlen
  · exact hloose

theorem wellFormed_count (h : WellFormed D captions m) : m.count PIPE_CHAR ≠ 1 := by
  induction h with
  | nil => exact nofun
  | char hc _ ih => rwa [List.count_cons_of_ne hc]
  | pipe _ _ =>
    rw [List.count_cons_self, List.count_cons_self]
    omega
  | link ht _ _ =>
    cases ht with
    | mk =>
      have htwo : List.count PIPE_CHAR ['|', 'c'] = 1 ∧ List.count PIPE_CHAR ['|', 'H'] = 1 := by decide
      simp only [linkText, List.count_append, htwo.1, htwo.2]
      omega

def noStores : ChatStores where
  getItemTemplate _ := none
  getItemLocale _ := none
  itemRandomProperties _ := none
  itemRandomSuffix _ := none
  getQuestTemplate _ := none
  getQuestLocale _ := none
  getSpellInfo _ := none
  getSkillLineAbilities _ := []
  skillLine _ := none
  achievement _ := none
  talent _ := none
  glyphProperties _ := none

/-- A pipe with nothing after it is found valid. -/
theorem message_accepted_open_pipe :
    ¬ ((∃ fuel s, isValidMessage noStores '\x00' fuel ['a', '|'] = some (true, s)) →
      WellFormed noStores (fun _ => True) ['a', '|']) := by
  intro h
  have hopen : Opening (['a'] ++ [PIPE_CHAR]) := .pipe (by decide) (by decide)
  exact wellFormed_count (h (valid_iff_loose.mpr (.ending (.opening hopen)))) (by decide)

end SkyfireBG
