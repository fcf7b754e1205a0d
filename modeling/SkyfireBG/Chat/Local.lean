import SkyfireBG.Chat.Message

/-!
# SkyfireBG.Chat.Local

What the readers of links do in front of a pipe or at the end of the message.

* `local_linkInitialize` — the data of a link is read alike whatever comes after its pipe.
* `takesFront_linkInitialize` — only characters at the front are taken.
-/

namespace SkyfireBG

open Istream

variable {α β : Type} {f : Reader α} {g : α → Reader β} {b : Bool} {base p n : Nat}
  {x y t : List Char} {D : ChatStores} {color : Nat}

structure Ends (b : Bool) (t : List Char) : Prop where
  isEmpty : t.isEmpty = b
  pipe : ∀ c ∈ t.head?, c = PIPE_CHAR

theorem foreign_pipe (hbase : base = 10 ∨ base = 16) : Foreign base PIPE_CHAR := by
  rcases hbase with rfl | rfl
  · exact ⟨rfl, rfl, by decide, by decide, by decide⟩
  · exact ⟨rfl, rfl, by decide, by decide, by decide⟩

theorem Ends.foreign (ht : Ends b t) (hbase : base = 10 ∨ base = 16) :
    ∀ c ∈ t.head?, Foreign base c := fun c hc => ht.pipe c hc ▸ foreign_pipe hbase

/-- The reader does the same whatever stands after the pipe, and does not reach it. -/
def Local (f : Reader α) : Prop :=
  ∀ (b : Bool) (x : List Char),
    (∃ a y, y <:+ x ∧ ∀ p t, Ends b t →
      f (sound (x ++ t) p) = .ok a (sound (y ++ t) (p + (x.length - y.length)))) ∨
    ∃ e, ∀ p t, Ends b t → ∃ s, f (sound (x ++ t) p) = .error e s

theorem bind_ok {σ : Type} {f : EStateM Stop σ α} {g : α → EStateM Stop σ β} {s s' : σ} {a : α}
    (h : f s = .ok a s') : (f >>= g) s = g a s' := by
  change EStateM.bind f g s = _
  rw [EStateM.bind, h]

theorem bind_error {σ : Type} {f : EStateM Stop σ α} {g : α → EStateM Stop σ β} {s s' : σ} {e : Stop}
    (h : f s = .error e s') : (f >>= g) s = .error e s' := by
  change EStateM.bind f g s = _
  rw [EStateM.bind, h]

namespace Local

theorem pure (a : α) : Local (Pure.pure a : Reader α) := by
  intro b x
  refine .inl ⟨a, x, List.suffix_refl _, fun p t _ => ?_⟩
  rw [Nat.sub_self]
  rfl

theorem throw (e : Stop) : Local (MonadExcept.throw e : Reader α) :=
  fun _ _ => .inr ⟨e, fun _ _ _ => ⟨_, rfl⟩⟩

theorem bind (hf : Local f) (hg : ∀ a, Local (g a)) : Local (f >>= g) := by
  intro b x
  rcases hf b x with ⟨a, y, hy, hok⟩ | ⟨e, herr⟩
  · rcases hg a b y with ⟨c, z, hz, hok'⟩ | ⟨e, herr⟩
    · refine .inl ⟨c, z, hz.trans hy, fun p t ht => ?_⟩
      have hlen := hy.length_le
      have hlen' := hz.length_le
      rw [bind_ok (hok p t ht), hok' _ t ht]
      congr 2
      omega
    · refine .inr ⟨e, fun p t ht => ?_⟩
      obtain ⟨s, hs⟩ := herr (p + (x.length - y.length)) t ht
      exact ⟨s, by rw [bind_ok (hok p t ht), hs]⟩
  · refine .inr ⟨e, fun p t ht => ?_⟩
    obtain ⟨s, hs⟩ := herr p t ht
    exact ⟨s, bind_error hs⟩

theorem entryOf (entry : Option α) : Local (SkyfireBG.entryOf entry) := by
  cases entry with
  | none => exact throw _
  | some a => exact pure a

theorem demand (cond : Bool) : Local (SkyfireBG.demand cond) := by
  cases cond with
  | false => exact throw _
  | true => exact pure ()

end Local

theorem isBlank_pipe (ht : Ends b t) : ∀ c ∈ t.head?, isBlank c = false := fun c hc =>
  ht.pipe c hc ▸ (foreign_pipe (.inl rfl)).blank

theorem readNumber_tail (hbase : base = 10 ∨ base = 16) (ht : Ends b t) :
    (readNumber base (sound (x ++ t) p)).1 = (number base (x.dropWhile isBlank)).1 ∧
    ((number base (x.dropWhile isBlank)).1.isSome = true → (readNumber base (sound (x ++ t) p)).2 =
      ⟨(number base (x.dropWhile isBlank)).2 ++ t,
        p + (x.length - (number base (x.dropWhile isBlank)).2.length),
        ((number base (x.dropWhile isBlank)).2 ++ t).isEmpty, false⟩) := by
  have hdrop : (sound (x ++ t) p).rest.dropWhile isBlank = x.dropWhile isBlank ++ t :=
    dropWhile_append_tail (isBlank_pipe ht)
  have hnum := number_append (x := x.dropWhile isBlank) (ht.foreign hbase)
  have hle : (number base (x.dropWhile isBlank)).2.length ≤ x.length :=
    (number_suffix.trans (List.dropWhile_suffix _)).length_le
  rw [readNumber, if_pos (show (sound (x ++ t) p).good = true from rfl), hdrop]
  cases hstr : x.dropWhile isBlank ++ t with
  | nil =>
    obtain ⟨hx, -⟩ := List.append_eq_nil_iff.mp hstr
    rw [hx]
    exact ⟨rfl, nofun⟩
  | cons c rest =>
    dsimp only
    rw [← hstr, hnum]
    refine ⟨rfl, fun hsome => ?_⟩
    rw [goTo]
    congr 1
    · change p + ((x ++ t).length - _) = _
      rw [List.length_append, List.length_append]
      omega
    · rw [← Option.not_isSome, hsome]
      rfl

def readConverted (base : Nat) (conv : Bool × Nat → Option α) : Reader α := do
  let res ← Reader.call fun s => convert conv (s.readNumber base)
  Reader.checked res

theorem readConverted_eq (conv : Bool × Nat → Option α) (hbase : base = 10 ∨ base = 16)
    (ht : Ends b t) {n : Option α} {y : List Char}
    (hn : (number base (x.dropWhile isBlank)).1.bind conv = n)
    (hy : (number base (x.dropWhile isBlank)).2 = y) :
    (∃ s, (n = none ∨ y = [] ∧ b = true) ∧
      readConverted base conv (sound (x ++ t) p) = .error .refused s) ∨
    ∃ a, n = some a ∧ (y.isEmpty && b) = false ∧ readConverted base conv (sound (x ++ t) p) =
      .ok a (sound (y ++ t) (p + (x.length - y.length))) := by
  obtain ⟨h1, h2⟩ := readNumber_tail (x := x) (p := p) hbase ht
  have hread : readConverted base conv (sound (x ++ t) p) =
      Reader.checked (convert conv (readNumber base (sound (x ++ t) p))).1
        (convert conv (readNumber base (sound (x ++ t) p))).2 := rfl
  rw [hread, convert, h1, hn]
  cases n with
  | none => exact .inl ⟨_, .inl rfl, rfl⟩
  | some a =>
    have hsome : (number base (x.dropWhile isBlank)).1.isSome = true := by
      rw [Option.bind_eq_some_iff] at hn
      obtain ⟨v, hv, -⟩ := hn
      rw [hv]
      rfl
    have hempty : (y ++ t).isEmpty = (y.isEmpty && b) := by
      rw [← ht.isEmpty]
      cases y <;> rfl
    rw [h2 hsome, hy, hempty]
    cases hb : y.isEmpty && b with
    | true =>
      rw [Bool.and_eq_true, List.isEmpty_iff] at hb
      exact .inl ⟨_, .inr hb, rfl⟩
    | false => exact .inr ⟨a, rfl, rfl, rfl⟩

theorem local_readConverted (conv : Bool × Nat → Option α) (hbase : base = 10 ∨ base = 16) :
    Local (readConverted base conv) := by
  intro b x
  by_cases h : (∃ a, (number base (x.dropWhile isBlank)).1.bind conv = some a) ∧
      ((number base (x.dropWhile isBlank)).2.isEmpty && b) = false
  · obtain ⟨⟨a, ha⟩, hb⟩ := h
    refine .inl ⟨a, (number base (x.dropWhile isBlank)).2,
      number_suffix.trans (List.dropWhile_suffix isBlank), fun p t ht => ?_⟩
    rcases readConverted_eq (p := p) conv hbase ht ha rfl with
      ⟨s, hnone | ⟨hy, rfl⟩, -⟩ | ⟨a', ha', -, heq⟩
    · cases hnone
    · rw [hy] at hb
      cases hb
    · cases ha'
      exact heq
  · refine .inr ⟨.refused, fun p t ht => ?_⟩
    rcases readConverted_eq (p := p) (x := x) conv hbase ht rfl rfl with ⟨s, -, heq⟩ |
      ⟨a, ha, hb, -⟩
    · exact ⟨s, heq⟩
    · exact absurd ⟨⟨a, ha⟩, hb⟩ h

theorem local_readUInt32 : Local readUInt32 := local_readConverted _ (.inl rfl)

theorem local_readInt32 : Local readInt32 := local_readConverted _ (.inl rfl)

theorem local_readHex : Local (readHex 0) := by
  intro b x
  have h := local_readConverted toUInt32 (.inr rfl : (16 : Nat) = 10 ∨ 16 = 16) b x
  exact h

theorem local_checkDelimiter : Local (checkDelimiter DELIMITER) := by
  intro b x
  cases x with
  | nil =>
    refine .inr ⟨.refused, fun p t ht => ?_⟩
    cases t with
    | nil => exact ⟨_, rfl⟩
    | cons c t =>
      cases ht.pipe c rfl
      exact ⟨_, rfl⟩
  | cons c x =>
    by_cases hc : c = DELIMITER
    · subst hc
      refine .inl ⟨(), x, List.suffix_cons _ x, fun p t _ => ?_⟩
      have hlen : (':' :: (x ++ t)).length - (x ++ t).length = (DELIMITER :: x).length - x.length := by
        simp only [List.length_cons]
        omega
      change EStateM.Result.ok () (sound (x ++ t) (p + ((':' :: (x ++ t)).length - (x ++ t).length))) = _
      rw [hlen]
    · refine .inr ⟨.refused, fun p t _ => ⟨sound (c :: (x ++ t)) p, ?_⟩⟩
      have hne : some c ≠ some DELIMITER := fun h => hc (Option.some.inj h)
      change (checkDelimiter DELIMITER) (sound (c :: (x ++ t)) p) = _
      rw [checkDelimiter, bind_ok (show Reader.call peek (sound (c :: (x ++ t)) p) =
        .ok (some c) (sound (c :: (x ++ t)) p) from rfl), if_pos hne]
      rfl

theorem local_itemProperty (link : ItemLink) (id : Int) : Local (itemProperty D link id) := by
  unfold itemProperty
  split_ifs
  · exact (Local.entryOf _).bind fun _ => Local.pure _
  · exact (Local.entryOf _).bind fun _ => Local.pure _
  · exact Local.pure _

theorem local_itemProperties (n : Nat) (link : ItemLink) : Local (itemProperties D n link) := by
  induction n generalizing link with
  | zero => exact Local.pure _
  | succ n ih =>
    exact local_checkDelimiter.bind fun _ => local_readInt32.bind fun id =>
      (local_itemProperty link id).bind fun link => ih _

theorem local_achievementProgress (n : Nat) (data : List Nat) : Local (achievementProgress n data) := by
  induction n generalizing data with
  | zero => exact Local.pure _
  | succ n ih => exact local_checkDelimiter.bind fun _ => local_readUInt32.bind fun _ => ih _

theorem local_tradeNumbers : Local (tradeNumbers D color) :=
  (Local.demand _).bind fun _ => local_readUInt32.bind fun _ => (Local.entryOf _).bind fun _ =>
    local_checkDelimiter.bind fun _ => local_readInt32.bind fun _ => local_checkDelimiter.bind fun _ =>
      local_readInt32.bind fun _ => local_checkDelimiter.bind fun _ => local_readHex.bind fun _ =>
        Local.pure _

/-- The text that `ReadSkip` takes. -/
def skipped (x : List Char) : List Char := x.takeWhile fun c => c ≠ PIPE_CHAR ∧ c ≠ '\x00'

theorem readSkip_succ {c : Char} {ss : List Char} (hc : c ≠ PIPE_CHAR ∧ c ≠ '\x00') :
    readSkip PIPE_CHAR (n + 1) ss (sound (c :: x) p) =
      readSkip PIPE_CHAR n (ss ++ [c]) (sound x (p + 1)) := by
  have hcond : some c ≠ some PIPE_CHAR ∧ some c ≠ some '\x00' :=
    ⟨fun h => hc.1 (Option.some.inj h), fun h => hc.2 (Option.some.inj h)⟩
  have hgo : (sound (c :: x) p).goTo x = sound x (p + 1) := by
    simp [goTo, sound]
  rw [readSkip, bind_ok (show Reader.call peek (sound (c :: x) p) =
    .ok (some c) (sound (c :: x) p) from rfl), if_pos hcond]
  change readSkip PIPE_CHAR n (ss ++ [c]) ((sound (c :: x) p).goTo x) = _
  rw [hgo]

theorem readSkip_exhausted (ss : List Char) {s : Istream} (h : s.good = false ∨ s.rest = []) :
    ∃ s', readSkip PIPE_CHAR n ss s = .error .running s' := by
  induction n generalizing ss s with
  | zero => exact ⟨s, rfl⟩
  | succ n ih =>
    have hpeek : s.peek.1 = none ∧ (s.peek.2.good = false ∨ s.peek.2.rest = []) := by
      unfold peek
      split_ifs with hg
      · rw [h.resolve_left (by simp [hg])]
        exact ⟨rfl, .inr rfl⟩
      · exact ⟨rfl, .inl (by simp [good, failed])⟩
    have hignore : s.peek.2.ignoreOne.good = false ∨ s.peek.2.ignoreOne.rest = [] := by
      unfold ignoreOne
      split_ifs with hg
      · rw [hpeek.2.resolve_left (by simp [hg])]
        exact .inl (by simp [good])
      · exact .inl (by simp [good, failed])
    rw [readSkip, bind_ok (show Reader.call peek s = .ok s.peek.1 s.peek.2 from rfl), hpeek.1,
      if_pos ⟨nofun, nofun⟩]
    exact ih _ hignore

/-- `ReadSkip` returns in front of a pipe or a terminator, and never without one. -/
theorem readSkip_eq (ss : List Char) : readSkip PIPE_CHAR n ss (sound x p) =
      .ok (ss ++ skipped x) (sound (x.drop (skipped x).length) (p + (skipped x).length)) ∧
        (skipped x).length < n ∧ (skipped x).length < x.length ∨
    (∃ s, readSkip PIPE_CHAR n ss (sound x p) = .error .running s) ∧
      (n ≤ (skipped x).length ∨ skipped x = x) := by
  induction n generalizing x p ss with
  | zero => exact .inr ⟨⟨_, rfl⟩, .inl (Nat.zero_le _)⟩
  | succ n ih =>
    cases x with
    | nil => exact .inr ⟨readSkip_exhausted _ (.inr rfl), .inr rfl⟩
    | cons c x =>
      by_cases hc : c ≠ PIPE_CHAR ∧ c ≠ '\x00'
      · have hskip : skipped (c :: x) = c :: skipped x := List.takeWhile_cons_of_pos (by simpa using hc)
        rw [readSkip_succ hc, hskip]
        rcases ih (x := x) (p := p + 1) (ss ++ [c]) with ⟨heq, hn, hx⟩ | ⟨hrun, hor⟩
        · refine .inl ⟨?_, Nat.succ_lt_succ hn, Nat.succ_lt_succ hx⟩
          rw [heq, List.append_assoc, List.length_cons, List.drop_succ_cons, Nat.add_assoc,
            Nat.add_comm 1]
          rfl
        · exact .inr ⟨hrun, hor.imp Nat.succ_le_succ (congrArg _)⟩
      · have hskip : skipped (c :: x) = [] := List.takeWhile_cons_of_neg (by simpa using hc)
        have hcond : ¬ (some c ≠ some PIPE_CHAR ∧ some c ≠ some '\x00') := fun h =>
          hc ⟨fun heq => h.1 (congrArg some heq), fun heq => h.2 (congrArg some heq)⟩
        rw [hskip]
        refine .inl ⟨?_, Nat.succ_pos n, Nat.succ_pos _⟩
        rw [readSkip, bind_ok (show Reader.call peek (sound (c :: x) p) =
          .ok (some c) (sound (c :: x) p) from rfl), if_neg hcond, List.append_nil]
        rfl

theorem skipped_append (ht : Ends b t) : skipped (x ++ t) = skipped x :=
  takeWhile_append_tail fun c hc => by simp [ht.pipe c hc]

theorem skipped_begins (x : List Char) : skipped x <+: x := List.takeWhile_prefix _

theorem local_readSkip (n : Nat) (ss : List Char) : Local (readSkip PIPE_CHAR n ss) := by
  intro b x
  have hle := (skipped_begins x).length_le
  have hfull : (skipped x).length < x.length ∨ skipped x = x :=
    (Nat.lt_or_eq_of_le hle).imp_right fun h => (skipped_begins x).eq_of_length h
  by_cases hok : (skipped x).length < n ∧ ((skipped x).length < x.length ∨ b = false)
  · refine .inl ⟨ss ++ skipped x, x.drop (skipped x).length, List.drop_suffix _ _, fun p t ht => ?_⟩
    have hlen : (skipped (x ++ t)).length < (x ++ t).length := by
      rw [skipped_append ht, List.length_append]
      rcases hok.2 with hlt | rfl
      · omega
      · cases t with
        | nil => cases ht.isEmpty
        | cons c t => simp only [List.length_cons]; omega
    rcases readSkip_eq (x := x ++ t) (p := p) (n := n) ss with ⟨heq, -, -⟩ | ⟨-, hn | hfull⟩
    · rw [heq, skipped_append ht, List.drop_append_of_le_length hle, List.length_drop]
      congr 2
      omega
    · rw [skipped_append ht] at hn
      omega
    · rw [hfull] at hlen
      omega
  · refine .inr ⟨.running, fun p t ht => ?_⟩
    rcases readSkip_eq (x := x ++ t) (p := p) (n := n) ss with ⟨-, hn, hlen⟩ | ⟨hrun, -⟩
    · rw [skipped_append ht] at hn hlen
      refine absurd ⟨hn, ?_⟩ hok
      rcases hfull with hlt | hfull
      · exact .inl hlt
      · right
        rw [hfull, List.length_append] at hlen
        rw [← ht.isEmpty]
        cases t with
        | nil => simp at hlen
        | cons => rfl
    · exact hrun

theorem local_linkInitialize (color fuel : Nat) (type : LinkType) :
    Local (linkInitialize D color fuel type) := by
  cases type with
  | item =>
    exact local_readUInt32.bind fun _ => (Local.entryOf _).bind fun _ => (Local.demand _).bind fun _ =>
      (local_itemProperties _ _).bind fun _ => Local.pure _
  | quest =>
    exact local_readUInt32.bind fun _ => (Local.entryOf _).bind fun _ =>
      local_checkDelimiter.bind fun _ => local_readInt32.bind fun _ => (Local.demand _).bind fun _ =>
        Local.pure _
  | trade =>
    exact local_tradeNumbers.bind fun _ => (local_readSkip _ _).bind fun _ => Local.pure _
  | talent =>
    exact (Local.demand _).bind fun _ => local_readUInt32.bind fun _ => (Local.entryOf _).bind fun _ =>
      (Local.entryOf _).bind fun _ => local_checkDelimiter.bind fun _ => local_readInt32.bind fun _ =>
        Local.pure _
  | spell =>
    exact (Local.demand _).bind fun _ => local_readUInt32.bind fun _ => (Local.entryOf _).bind fun _ =>
      Local.pure _
  | enchant =>
    exact (Local.demand _).bind fun _ => local_readUInt32.bind fun _ => (Local.entryOf _).bind fun _ =>
      Local.pure _
  | achievement =>
    exact (Local.demand _).bind fun _ => local_readUInt32.bind fun _ => (Local.entryOf _).bind fun _ =>
      local_checkDelimiter.bind fun _ => local_readHex.bind fun _ =>
        (local_achievementProgress _ _).bind fun _ => Local.pure _
  | glyph =>
    exact (Local.demand _).bind fun _ => local_readUInt32.bind fun _ =>
      local_checkDelimiter.bind fun _ => local_readUInt32.bind fun _ => (Local.entryOf _).bind fun _ =>
        (Local.entryOf _).bind fun _ => Local.pure _

/-! ## What readers take -/

def stateOf {σ : Type} : EStateM.Result Stop σ α → σ
  | .ok _ s => s
  | .error _ s => s

/-- The reader only moves on, and fails only by a refusal; one that skips can run out of fuel too. -/
structure TakesFront (skips : Bool) (f : Reader α) : Prop where
  advances : ∀ s, Advances s (stateOf (f s))
  refuses : ∀ s e s', f s = .error e s' → e = .refused ∨ skips = true ∧ e = .running

namespace TakesFront

theorem call {h : Istream → α × Istream} (hs : ∀ s, Advances s (h s).2) :
    TakesFront b (Reader.call h) := ⟨hs, nofun⟩

theorem pure (a : α) : TakesFront b (Pure.pure a : Reader α) := ⟨fun s => Advances.refl s, nofun⟩

theorem refuse : TakesFront b (MonadExcept.throw Stop.refused : Reader α) := by
  refine ⟨fun s => Advances.refl s, fun s e s' h => .inl ?_⟩
  cases h
  rfl

theorem bind (hf : TakesFront b f) (hg : ∀ a, TakesFront b (g a)) : TakesFront b (f >>= g) := by
  constructor
  · intro s
    have hs := hf.advances s
    cases h : f s with
    | ok a s' =>
      rw [h] at hs
      rw [bind_ok h]
      exact hs.trans ((hg a).advances s')
    | error e s' =>
      rw [h] at hs
      rw [bind_error h]
      exact hs
  · intro s e s' herr
    cases h : f s with
    | ok a s₁ =>
      rw [bind_ok h] at herr
      exact (hg a).refuses _ _ _ herr
    | error e₁ s₁ =>
      rw [bind_error h] at herr
      cases herr
      exact hf.refuses _ _ _ h

theorem checked (res : Option α) : TakesFront b (Reader.checked res) := by
  constructor
  · intro s
    unfold Reader.checked
    cases res with
    | none => exact Advances.refl s
    | some a =>
      dsimp only
      split_ifs <;> exact Advances.refl s
  · intro s e s' h
    unfold Reader.checked at h
    cases res with
    | none =>
      cases h
      exact .inl rfl
    | some a =>
      dsimp only at h
      split_ifs at h
      cases h
      exact .inl rfl

theorem entryOf (entry : Option α) : TakesFront b (SkyfireBG.entryOf entry) := by
  cases entry with
  | none => exact refuse
  | some a => exact pure a

theorem demand (cond : Bool) : TakesFront b (SkyfireBG.demand cond) := by
  cases cond with
  | false => exact refuse
  | true => exact pure ()

end TakesFront

theorem takesFront_readConverted {conv : Bool × Nat → Option α} :
    TakesFront b (readConverted base conv) :=
  (TakesFront.call fun s => (advances_readNumber base s).convert).bind fun _ => TakesFront.checked _

theorem takesFront_readUInt32 : TakesFront b readUInt32 := takesFront_readConverted

theorem takesFront_readInt32 : TakesFront b readInt32 := takesFront_readConverted

theorem takesFront_readHex (length : Nat) : TakesFront b (readHex length) := by
  refine (TakesFront.call advances_tellg).bind fun _ =>
    (TakesFront.call fun s => (advances_readNumber 16 s).convert).bind fun _ => ?_
  split_ifs
  · refine (TakesFront.call advances_tellg).bind fun _ => ?_
    split_ifs
    · exact TakesFront.refuse
    · exact TakesFront.checked _
  · exact TakesFront.checked _

theorem takesFront_ignoreOne : TakesFront b (Reader.call fun s => ((), s.ignoreOne)) :=
  ⟨fun s => advances_ignoreOne s, nofun⟩

theorem takesFront_checkDelimiter (c : Char) : TakesFront b (checkDelimiter c) := by
  refine (TakesFront.call advances_peek).bind fun _ => ?_
  split_ifs
  · exact TakesFront.refuse
  · exact takesFront_ignoreOne

theorem takesFront_itemProperty (link : ItemLink) (id : Int) : TakesFront b (itemProperty D link id) := by
  unfold itemProperty
  split_ifs
  · exact (TakesFront.entryOf _).bind fun _ => TakesFront.pure _
  · exact (TakesFront.entryOf _).bind fun _ => TakesFront.pure _
  · exact TakesFront.pure _

theorem takesFront_itemProperties (n : Nat) (link : ItemLink) :
    TakesFront b (itemProperties D n link) := by
  induction n generalizing link with
  | zero => exact TakesFront.pure _
  | succ n ih =>
    exact (takesFront_checkDelimiter _).bind fun _ => takesFront_readInt32.bind fun id =>
      (takesFront_itemProperty link id).bind fun link => ih _

theorem takesFront_achievementProgress (n : Nat) (data : List Nat) :
    TakesFront b (achievementProgress n data) := by
  induction n generalizing data with
  | zero => exact TakesFront.pure _
  | succ n ih =>
    exact (takesFront_checkDelimiter _).bind fun _ => takesFront_readUInt32.bind fun _ => ih _

theorem takesFront_tradeNumbers (color : Nat) : TakesFront b (tradeNumbers D color) :=
  (TakesFront.demand _).bind fun _ => takesFront_readUInt32.bind fun _ =>
    (TakesFront.entryOf _).bind fun _ =>
      (takesFront_checkDelimiter _).bind fun _ => takesFront_readInt32.bind fun _ =>
        (takesFront_checkDelimiter _).bind fun _ => takesFront_readInt32.bind fun _ =>
          (takesFront_checkDelimiter _).bind fun _ =>
            (takesFront_readHex 0).bind fun _ => TakesFront.pure _

theorem takesFront_readSkip (n : Nat) (ss : List Char) : TakesFront true (readSkip PIPE_CHAR n ss) := by
  induction n generalizing ss with
  | zero =>
    refine ⟨fun s => Advances.refl s, fun s e s' h => .inr ⟨rfl, ?_⟩⟩
    cases h
    rfl
  | succ n ih =>
    refine (TakesFront.call advances_peek).bind fun c => ?_
    split_ifs
    · exact takesFront_ignoreOne.bind fun _ => ih _
    · exact TakesFront.pure _

theorem takesFront_linkInitialize (color fuel : Nat) (type : LinkType) :
    TakesFront (type == .trade) (linkInitialize D color fuel type) := by
  cases type with
  | item =>
    exact takesFront_readUInt32.bind fun _ => (TakesFront.entryOf _).bind fun _ =>
      (TakesFront.demand _).bind fun _ => (takesFront_itemProperties _ _).bind fun _ => TakesFront.pure _
  | quest =>
    exact takesFront_readUInt32.bind fun _ => (TakesFront.entryOf _).bind fun _ =>
      (takesFront_checkDelimiter _).bind fun _ => takesFront_readInt32.bind fun _ =>
        (TakesFront.demand _).bind fun _ => TakesFront.pure _
  | trade =>
    exact (takesFront_tradeNumbers _).bind fun _ => (takesFront_readSkip _ _).bind fun _ => TakesFront.pure _
  | talent =>
    exact (TakesFront.demand _).bind fun _ => takesFront_readUInt32.bind fun _ =>
      (TakesFront.entryOf _).bind fun _ => (TakesFront.entryOf _).bind fun _ =>
        (takesFront_checkDelimiter _).bind fun _ => takesFront_readInt32.bind fun _ =>
          TakesFront.pure _
  | spell =>
    exact (TakesFront.demand _).bind fun _ => takesFront_readUInt32.bind fun _ =>
      (TakesFront.entryOf _).bind fun _ => TakesFront.pure _
  | enchant =>
    exact (TakesFront.demand _).bind fun _ => takesFront_readUInt32.bind fun _ =>
      (TakesFront.entryOf _).bind fun _ => TakesFront.pure _
  | achievement =>
    exact (TakesFront.demand _).bind fun _ => takesFront_readUInt32.bind fun _ =>
      (TakesFront.entryOf _).bind fun _ => (takesFront_checkDelimiter _).bind fun _ =>
        (takesFront_readHex 0).bind fun _ =>
          (takesFront_achievementProgress _ _).bind fun _ => TakesFront.pure _
  | glyph =>
    exact (TakesFront.demand _).bind fun _ => takesFront_readUInt32.bind fun _ =>
      (takesFront_checkDelimiter _).bind fun _ => takesFront_readUInt32.bind fun _ =>
        (TakesFront.entryOf _).bind fun _ => (TakesFront.entryOf _).bind fun _ => TakesFront.pure _

theorem exists_split (d : List Char) : ∃ b x t, d = x ++ t ∧ PIPE_CHAR ∉ x ∧ Ends b t := by
  refine ⟨(d.dropWhile (· ≠ PIPE_CHAR)).isEmpty, d.takeWhile (· ≠ PIPE_CHAR), d.dropWhile (· ≠ PIPE_CHAR),
    List.takeWhile_append_dropWhile.symm, fun h => ?_, rfl, fun c hc => ?_⟩
  · simpa using List.mem_takeWhile_imp h
  · have hnot := List.head?_dropWhile_not (· ≠ PIPE_CHAR) d
    rw [Option.mem_def.mp hc] at hnot
    simpa using hnot

theorem Local.at {d : List Char} {a : α} {s : Istream} (hf : Local f)
    (h : f (sound d p) = .ok a s) : ∃ c r, d = c ++ r ∧ s = sound r (p + c.length) ∧
      (∀ q, f (sound d q) = .ok a (sound r (q + c.length))) ∧
      (r.head? = some PIPE_CHAR → ∀ q r', f (sound (c ++ PIPE_CHAR :: r') q) =
        .ok a (sound (PIPE_CHAR :: r') (q + c.length))) := by
  obtain ⟨b, x, t, rfl, hx, ht⟩ := exists_split d
  rcases hf b x with ⟨a', y, ⟨c, rfl⟩, hok⟩ | ⟨e, herr⟩
  · have hlen : (c ++ y).length - y.length = c.length := by rw [List.length_append]; omega
    rw [hlen] at hok
    rw [hok p t ht] at h
    cases h
    refine ⟨c, y ++ t, List.append_assoc .., rfl, fun q => hok q t ht, fun hhead q r' => ?_⟩
    cases y with
    | nil =>
      rw [List.append_nil] at hok
      have hb : b = false := by
        rw [← ht.isEmpty]
        cases t with
        | nil => cases hhead
        | cons => rfl
      exact hok q (PIPE_CHAR :: r') ⟨hb ▸ rfl, fun _ h => (Option.some.inj h).symm⟩
    | cons z y =>
      cases hhead
      exact absurd (List.mem_append_right c List.mem_cons_self) hx
  · obtain ⟨s', hs⟩ := herr p t ht
    rw [hs] at h
    cases h

end SkyfireBG
