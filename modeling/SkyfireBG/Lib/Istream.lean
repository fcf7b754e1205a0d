import Mathlib.Algebra.Order.Field.Rat
import Mathlib.Data.List.TakeWhile
import Mathlib.Order.Lattice.Nat

/-!
# SkyfireBG.Lib.Istream

A `std::istringstream`: the characters that are left, the place in the string and the two flags,
with the reads that the standard library documents for it.

* `Advances` — a read only takes characters from the front.
* `number_append` — a number in front of a character that cannot be part of one is read whatever
  comes after that character.
-/

namespace SkyfireBG

structure Istream where
  rest : List Char
  pos : Nat
  eof : Bool
  fail : Bool
deriving DecidableEq, Repr

namespace Istream

def ofString (str : List Char) : Istream := ⟨str, 0, false, false⟩

def sound (rest : List Char) (pos : Nat) : Istream := ⟨rest, pos, false, false⟩

def good (s : Istream) : Bool := !s.eof && !s.fail

def failed (s : Istream) : Istream := { s with fail := true }

/-- The stream after the characters before `rest` are taken. -/
def goTo (s : Istream) (rest : List Char) : Istream :=
  { s with rest := rest, pos := s.pos + (s.rest.length - rest.length) }

/-- `peek`; at the end of the input there is no character. -/
def peek (s : Istream) : Option Char × Istream :=
  if s.good then
    match s.rest with
    | [] => (none, { s with eof := true })
    | c :: _ => (some c, s)
  else (none, s.failed)

def get (s : Istream) : Option Char × Istream :=
  if s.good then
    match s.rest with
    | [] => (none, { s with eof := true, fail := true })
    | c :: rest => (some c, s.goTo rest)
  else (none, s.failed)

/-- `ignore(1)`. -/
def ignoreOne (s : Istream) : Istream :=
  if s.good then
    match s.rest with
    | [] => { s with eof := true }
    | _ :: rest => s.goTo rest
  else s.failed

/-- What is left after at most so many characters up to the delimiter, which is taken as well, and
whether the input ended. -/
def ignoreLoop (delim : Char) : Nat → List Char → List Char × Bool
  | 0, rest => (rest, false)
  | _ + 1, [] => ([], true)
  | n + 1, c :: rest => if c = delim then (rest, false) else ignoreLoop delim n rest

/-- `ignore(n, delim)`. -/
def ignore (n : Nat) (delim : Char) (s : Istream) : Istream :=
  if s.good then { s.goTo (ignoreLoop delim n s.rest).1 with eof := (ignoreLoop delim n s.rest).2 }
  else s.failed

inductive LineEnd where
  | input
  | delim
  | buffer
deriving DecidableEq, Repr

/-- At most so many characters before the delimiter, what is left, and what ended them. -/
def lineLoop (delim : Char) : Nat → List Char → List Char × List Char × LineEnd
  | _, [] => ([], [], .input)
  | n, c :: rest =>
    if c = delim then ([], rest, .delim)
    else
      match n with
      | 0 => ([], c :: rest, .buffer)
      | n + 1 => (c :: (lineLoop delim n rest).1, (lineLoop delim n rest).2)

/-- `getline` into a buffer of `size` characters, one of them for the terminator. -/
def getline (size : Nat) (delim : Char) (s : Istream) : List Char × Istream :=
  if s.good then
    match lineLoop delim (size - 1) s.rest with
    | (buffer, rest, how) =>
      (buffer, { s.goTo rest with
        eof := how = .input
        fail := how = .buffer ∨ how = .input ∧ buffer = [] })
  else ([], s.failed)

/-- `tellg`; -1 after a failure. -/
def tellg (s : Istream) : Int × Istream := if s.good then (s.pos, s) else (-1, s.failed)

/-- `isspace` of the C locale. -/
def isBlank (c : Char) : Bool :=
  c = ' ' || c = '\t' || c = '\n' || c = '\x0b' || c = '\x0c' || c = '\r'

/-- `>> c` for a character; the variable is not written when there is none. -/
def readChar (old : Char) (s : Istream) : Char × Istream :=
  if s.good then
    match s.rest.dropWhile isBlank with
    | [] => (old, { s.goTo [] with eof := true, fail := true })
    | c :: rest => (c, s.goTo rest)
  else (old, s.failed)

def digitVal (base : Nat) (c : Char) : Option Nat :=
  if '0' ≤ c ∧ c ≤ '9' then some (c.toNat - '0'.toNat)
  else if base = 16 ∧ 'a' ≤ c ∧ c ≤ 'f' then some (c.toNat - 'a'.toNat + 10)
  else if base = 16 ∧ 'A' ≤ c ∧ c ≤ 'F' then some (c.toNat - 'A'.toNat + 10)
  else none

def isDigit (base : Nat) (c : Char) : Bool := (digitVal base c).isSome

def digitsVal (base : Nat) (ds : List Char) : Nat :=
  ds.foldl (fun n c => n * base + (digitVal base c).getD 0) 0

def takeSign : List Char → Bool × List Char
  | [] => (false, [])
  | c :: rest => if c = '-' then (true, rest) else if c = '+' then (false, rest) else (false, c :: rest)

/-- The mark `0x` of base 16. -/
def dropMark (base : Nat) : List Char → List Char
  | c :: d :: rest =>
    if base = 16 ∧ c = '0' ∧ (d = 'x' ∨ d = 'X') then rest else c :: d :: rest
  | str => str

def number (base : Nat) (str : List Char) : Option (Bool × Nat) × List Char :=
  let signed := takeSign str
  let digits := (dropMark base signed.2).takeWhile (isDigit base)
  (if digits = [] then none else some (signed.1, digitsVal base digits),
    (dropMark base signed.2).dropWhile (isDigit base))

/-- `>> n` up to the conversion to the type of `n`. -/
def readNumber (base : Nat) (s : Istream) : Option (Bool × Nat) × Istream :=
  if s.good then
    match s.rest.dropWhile isBlank with
    | [] => (none, { s.goTo [] with eof := true, fail := true })
    | c :: rest =>
      ((number base (c :: rest)).1,
        { s.goTo (number base (c :: rest)).2 with
          eof := (number base (c :: rest)).2.isEmpty
          fail := (number base (c :: rest)).1.isNone })
  else (none, s.failed)

/-- The conversion to `uint32`; a number after a minus is taken modulo `2 ^ 32`. -/
def toUInt32 (n : Bool × Nat) : Option Nat :=
  if n.2 < 2 ^ 32 then some (if n.1 then (2 ^ 32 - n.2) % 2 ^ 32 else n.2) else none

/-- The conversion to `int32`. -/
def toInt32 (n : Bool × Nat) : Option Int :=
  if n.1 then if n.2 ≤ 2 ^ 31 then some (-(n.2 : Int)) else none
  else if n.2 < 2 ^ 31 then some n.2 else none

def convert {α : Type} (conv : Bool × Nat → Option α) (r : Option (Bool × Nat) × Istream) :
    Option α × Istream :=
  (r.1.bind conv, if (r.1.bind conv).isSome then r.2 else r.2.failed)

def readUInt32 (base : Nat) (s : Istream) : Option Nat × Istream :=
  convert toUInt32 (s.readNumber base)

def readInt32 (base : Nat) (s : Istream) : Option Int × Istream :=
  convert toInt32 (s.readNumber base)

theorem goTo_append {x y : List Char} {p : Nat} :
    (sound (x ++ y) p).goTo y = sound y (p + x.length) := by
  change sound y (p + ((x ++ y).length - y.length)) = _
  rw [List.length_append, Nat.add_sub_cancel]

theorem ignore_sound {delim : Char} {m : List Char} {n p : Nat} : ignore n delim (sound m p) =
    { (sound m p).goTo (ignoreLoop delim n m).1 with eof := (ignoreLoop delim n m).2 } := rfl

theorem dropWhile_blank_append {w m : List Char} (hw : ∀ c ∈ w, isBlank c = true)
    (hm : ∀ c ∈ m.head?, isBlank c = false) : (w ++ m).dropWhile isBlank = m := by
  induction w with
  | nil =>
    cases m with
    | nil => rfl
    | cons c m => exact List.dropWhile_cons_of_neg (by simp [hm c rfl])
  | cons c w ih =>
    obtain ⟨hc, hw⟩ := List.forall_mem_cons.mp hw
    rw [List.cons_append, List.dropWhile_cons_of_pos hc]
    exact ih hw

theorem blank_cases (m : List Char) : (∀ c ∈ m, isBlank c = true) ∨
    ∃ w c r, m = w ++ c :: r ∧ (∀ c ∈ w, isBlank c = true) ∧ isBlank c = false := by
  induction m with
  | nil => exact .inl nofun
  | cons c m ih =>
    cases hc : isBlank c with
    | false => exact .inr ⟨[], c, m, rfl, nofun, hc⟩
    | true =>
      rcases ih with hm | ⟨w, d, r, rfl, hw, hd⟩
      · exact .inl (List.forall_mem_cons.mpr ⟨hc, hm⟩)
      · exact .inr ⟨c :: w, d, r, rfl, List.forall_mem_cons.mpr ⟨hc, hw⟩, hd⟩

theorem readChar_blanks {old : Char} {w : List Char} {p : Nat} (hw : ∀ c ∈ w, isBlank c = true) :
    readChar old (sound w p) = (old, ⟨[], p + w.length, true, true⟩) := by
  have hdrop : (sound w p).rest.dropWhile isBlank = [] := by
    have h := dropWhile_blank_append (m := []) hw nofun
    rwa [List.append_nil] at h
  rw [readChar, if_pos (show (sound w p).good = true from rfl), hdrop]
  rfl

theorem readChar_append {old c : Char} {w r : List Char} {p : Nat} (hw : ∀ c ∈ w, isBlank c = true)
    (hc : isBlank c = false) :
    readChar old (sound (w ++ c :: r) p) = (c, sound r (p + (w.length + 1))) := by
  have hdrop : (sound (w ++ c :: r) p).rest.dropWhile isBlank = c :: r :=
    dropWhile_blank_append hw fun d hd => Option.some.inj hd ▸ hc
  have hgo : (sound (w ++ c :: r) p).goTo r = sound r (p + (w.length + 1)) := by
    have h := goTo_append (x := w ++ [c]) (y := r) (p := p)
    rwa [List.append_assoc, List.length_append] at h
  rw [readChar, if_pos (show (sound (w ++ c :: r) p).good = true from rfl), hdrop]
  dsimp only
  rw [hgo]

variable {base p : Nat} {x y t : List Char} {s s' s'' : Istream}

structure Foreign (base : Nat) (c : Char) : Prop where
  blank : isBlank c = false
  digit : isDigit base c = false
  minus : c ≠ '-'
  plus : c ≠ '+'
  mark : c ≠ 'x' ∧ c ≠ 'X'

theorem dropWhile_append_tail {P : Char → Bool} (ht : ∀ c ∈ t.head?, P c = false) :
    (x ++ t).dropWhile P = x.dropWhile P ++ t := by
  induction x with
  | nil =>
    cases t with
    | nil => rfl
    | cons c t => rw [List.nil_append, List.dropWhile_cons_of_neg (by simp [ht c rfl])]; rfl
  | cons c x ih =>
    by_cases hc : P c = true
    · rw [List.cons_append, List.dropWhile_cons_of_pos hc, List.dropWhile_cons_of_pos hc, ih]
    · rw [List.cons_append, List.dropWhile_cons_of_neg hc, List.dropWhile_cons_of_neg hc]
      rfl

theorem takeWhile_append_tail {P : Char → Bool} (ht : ∀ c ∈ t.head?, P c = false) :
    (x ++ t).takeWhile P = x.takeWhile P := by
  induction x with
  | nil =>
    cases t with
    | nil => rfl
    | cons c t => rw [List.nil_append, List.takeWhile_cons_of_neg (by simp [ht c rfl])]; rfl
  | cons c x ih =>
    by_cases hc : P c = true
    · rw [List.cons_append, List.takeWhile_cons_of_pos hc, List.takeWhile_cons_of_pos hc, ih]
    · rw [List.cons_append, List.takeWhile_cons_of_neg hc, List.takeWhile_cons_of_neg hc]

theorem takeSign_append (ht : ∀ c ∈ t.head?, Foreign base c) :
    takeSign (x ++ t) = ((takeSign x).1, (takeSign x).2 ++ t) := by
  cases x with
  | nil =>
    cases t with
    | nil => rfl
    | cons c t => simp [takeSign, (ht c rfl).minus, (ht c rfl).plus]
  | cons c x =>
    rw [List.cons_append, takeSign, takeSign]
    split_ifs <;> rfl

theorem isDigit_zero : isDigit base '0' = true := rfl

theorem dropMark_append (ht : ∀ c ∈ t.head?, Foreign base c) :
    dropMark base (x ++ t) = dropMark base x ++ t := by
  match x, t with
  | [], [] => rfl
  | [], [_] => rfl
  | [], c :: d :: t =>
    have hc : c ≠ '0' := by
      rintro rfl
      have hdigit := (ht '0' rfl).digit
      rw [isDigit_zero] at hdigit
      cases hdigit
    exact if_neg fun h => hc h.2.1
  | [_], [] => rfl
  | [c], d :: t => exact if_neg fun h => h.2.2.elim (ht d rfl).mark.1 (ht d rfl).mark.2
  | c :: d :: x, t =>
    rw [List.cons_append, List.cons_append, dropMark, dropMark]
    split_ifs <;> rfl

theorem number_append (ht : ∀ c ∈ t.head?, Foreign base c) :
    number base (x ++ t) = ((number base x).1, (number base x).2 ++ t) := by
  have hdigit : ∀ c ∈ t.head?, isDigit base c = false := fun c hc => (ht c hc).digit
  rw [number, takeSign_append ht]
  dsimp only
  rw [dropMark_append ht, takeWhile_append_tail hdigit, dropWhile_append_tail hdigit]
  rfl

theorem takeSign_suffix : (takeSign x).2 <:+ x := by
  cases x with
  | nil => exact List.suffix_refl _
  | cons c x =>
    rw [takeSign]
    split_ifs
    · exact List.suffix_cons c x
    · exact List.suffix_cons c x
    · exact List.suffix_refl _

theorem dropMark_suffix : dropMark base x <:+ x := by
  match x with
  | [] => exact List.suffix_refl _
  | [_] => exact List.suffix_refl _
  | c :: d :: x =>
    rw [dropMark]
    split_ifs
    · exact (List.suffix_cons d x).trans (List.suffix_cons c _)
    · exact List.suffix_refl _

theorem number_suffix : (number base x).2 <:+ x :=
  ((List.dropWhile_suffix _).trans dropMark_suffix).trans takeSign_suffix

/-! ## What reads take -/

structure Advances (s s' : Istream) : Prop where
  suffix : s'.rest <:+ s.rest
  pos : s'.pos + s'.rest.length = s.pos + s.rest.length

theorem Advances.refl (s : Istream) : Advances s s := ⟨List.suffix_refl _, rfl⟩

theorem Advances.trans (h : Advances s s') (h' : Advances s' s'') : Advances s s'' :=
  ⟨h'.suffix.trans h.suffix, h'.pos.trans h.pos⟩

theorem Advances.flags (h : Advances s s') (eof fail : Bool) :
    Advances s { s' with eof := eof, fail := fail } := ⟨h.suffix, h.pos⟩

theorem advances_goTo (h : x <:+ s.rest) : Advances s (s.goTo x) := by
  refine ⟨h, ?_⟩
  have hle := h.length_le
  change s.pos + (s.rest.length - x.length) + x.length = _
  omega

theorem advances_failed (s : Istream) : Advances s s.failed := (Advances.refl s).flags _ _

theorem advances_peek (s : Istream) : Advances s s.peek.2 := by
  unfold peek
  split_ifs
  · split
    · exact (Advances.refl s).flags _ _
    · exact Advances.refl s
  · exact advances_failed s

theorem advances_get (s : Istream) : Advances s s.get.2 := by
  unfold get
  split_ifs
  · split
    · exact (Advances.refl s).flags _ _
    · rename_i c rest hrest
      exact advances_goTo (hrest ▸ List.suffix_cons c rest)
  · exact advances_failed s

theorem advances_ignoreOne (s : Istream) : Advances s s.ignoreOne := by
  unfold ignoreOne
  split_ifs
  · split
    · exact (Advances.refl s).flags _ _
    · rename_i c rest hrest
      exact advances_goTo (hrest ▸ List.suffix_cons c rest)
  · exact advances_failed s

theorem ignoreLoop_suffix (delim : Char) (n : Nat) (x : List Char) :
    (ignoreLoop delim n x).1 <:+ x := by
  induction n generalizing x with
  | zero => exact List.suffix_refl _
  | succ n ih =>
    cases x with
    | nil => exact List.suffix_refl _
    | cons c x =>
      rw [ignoreLoop]
      split_ifs
      · exact List.suffix_cons c x
      · exact (ih x).trans (List.suffix_cons c x)

theorem advances_ignore (n : Nat) (delim : Char) (s : Istream) : Advances s (s.ignore n delim) := by
  unfold ignore
  split_ifs
  · exact (advances_goTo (ignoreLoop_suffix delim n s.rest)).flags _ _
  · exact advances_failed s

theorem lineLoop_suffix (delim : Char) (n : Nat) (x : List Char) :
    (lineLoop delim n x).2.1 <:+ x ∧
      (lineLoop delim n x).1.length + (lineLoop delim n x).2.1.length ≤ x.length := by
  induction x generalizing n with
  | nil => cases n <;> exact ⟨List.suffix_refl _, Nat.le_refl _⟩
  | cons c x ih =>
    unfold lineLoop
    split_ifs
    · exact ⟨List.suffix_cons c x, by simp⟩
    · cases n with
      | zero => exact ⟨List.suffix_refl _, by simp⟩
      | succ n =>
        obtain ⟨hs, hle⟩ := ih n
        refine ⟨hs.trans (List.suffix_cons c x), ?_⟩
        simp only [List.length_cons]
        omega

theorem advances_getline (size : Nat) (delim : Char) (s : Istream) :
    Advances s (s.getline size delim).2 := by
  unfold getline
  split_ifs
  · exact (advances_goTo (lineLoop_suffix delim (size - 1) s.rest).1).flags _ _
  · exact advances_failed s

theorem getline_length (size : Nat) (delim : Char) (s : Istream) :
    (s.getline size delim).1.length + s.pos ≤ (s.getline size delim).2.pos := by
  unfold getline
  split_ifs
  · have hle := (lineLoop_suffix delim (size - 1) s.rest).2
    change _ ≤ s.pos + (s.rest.length - (lineLoop delim (size - 1) s.rest).2.1.length)
    dsimp only
    omega
  · exact Nat.le_of_eq (Nat.zero_add _)

theorem Advances.le (h : Advances s s') : s.pos ≤ s'.pos := by
  have hlen := h.suffix.length_le
  have hpos := h.pos
  omega

theorem advances_tellg (s : Istream) : Advances s s.tellg.2 := by
  unfold tellg
  split_ifs
  · exact Advances.refl s
  · exact advances_failed s

theorem advances_readChar (old : Char) (s : Istream) : Advances s (s.readChar old).2 := by
  unfold readChar
  split_ifs
  · split
    · exact (advances_goTo (List.nil_suffix)).flags _ _
    · rename_i c rest hrest
      refine advances_goTo ((List.suffix_cons c rest).trans ?_)
      exact hrest ▸ List.dropWhile_suffix _
  · exact advances_failed s

theorem advances_readNumber (base : Nat) (s : Istream) : Advances s (s.readNumber base).2 := by
  unfold readNumber
  split_ifs
  · split
    · exact (advances_goTo (List.nil_suffix)).flags _ _
    · rename_i c rest hrest
      refine (advances_goTo (number_suffix.trans ?_)).flags _ _
      exact hrest ▸ List.dropWhile_suffix _
  · exact advances_failed s

theorem Advances.convert {α : Type} {conv : Bool × Nat → Option α} {r : Option (Bool × Nat) × Istream}
    (h : Advances s r.2) : Advances s (convert conv r).2 := by
  unfold Istream.convert
  dsimp only
  split_ifs
  · exact h
  · exact h.flags _ _

end Istream

end SkyfireBG
