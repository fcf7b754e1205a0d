import SkyfireBG.Lib.Lists

/-!
# SkyfireBG.Dump.Codec

The lines of a character dump: `CreateDumpString` writes one for a row of a table, and `findnth`
looks a value up in it by its number.

A loop that may not end has fuel; without fuel the result is `none`.
-/

namespace SkyfireBG

inductive DumpTableType where
  | DTT_CHARACTER
  | DTT_CHAR_TABLE
  | DTT_EQSET_TABLE
  | DTT_INVENTORY
  | DTT_MAIL
  | DTT_MAIL_ITEM
  | DTT_ITEM
  | DTT_ITEM_GIFT
  | DTT_PET
  | DTT_PET_TABLE
deriving DecidableEq, Repr

structure DumpTable where
  name : String
  type : DumpTableType
deriving DecidableEq, Repr

def dumpTables : List DumpTable :=
  [⟨"characters", .DTT_CHARACTER⟩, ⟨"character_account_data", .DTT_CHAR_TABLE⟩,
   ⟨"character_achievement", .DTT_CHAR_TABLE⟩,
   ⟨"character_achievement_progress", .DTT_CHAR_TABLE⟩, ⟨"character_action", .DTT_CHAR_TABLE⟩,
   ⟨"character_aura", .DTT_CHAR_TABLE⟩, ⟨"character_declinedname", .DTT_CHAR_TABLE⟩,
   ⟨"character_equipmentsets", .DTT_EQSET_TABLE⟩, ⟨"character_gifts", .DTT_ITEM_GIFT⟩,
   ⟨"character_glyphs", .DTT_CHAR_TABLE⟩, ⟨"character_homebind", .DTT_CHAR_TABLE⟩,
   ⟨"character_inventory", .DTT_INVENTORY⟩, ⟨"character_pet", .DTT_PET⟩,
   ⟨"character_pet_declinedname", .DTT_PET⟩, ⟨"character_queststatus", .DTT_CHAR_TABLE⟩,
   ⟨"character_queststatus_rewarded", .DTT_CHAR_TABLE⟩, ⟨"character_reputation", .DTT_CHAR_TABLE⟩,
   ⟨"character_skills", .DTT_CHAR_TABLE⟩, ⟨"character_spell", .DTT_CHAR_TABLE⟩,
   ⟨"character_spell_cooldown", .DTT_CHAR_TABLE⟩, ⟨"character_talent", .DTT_CHAR_TABLE⟩,
   ⟨"item_instance", .DTT_ITEM⟩, ⟨"mail", .DTT_MAIL⟩, ⟨"mail_items", .DTT_MAIL_ITEM⟩,
   ⟨"pet_aura", .DTT_PET_TABLE⟩, ⟨"pet_spell", .DTT_PET_TABLE⟩,
   ⟨"pet_spell_cooldown", .DTT_PET_TABLE⟩]

/-- A character of `mysql_real_escape_string`. -/
def escapeChar (c : Char) : List Char :=
  if c = '\x00' then ['\\', '0']
  else if c = '\n' then ['\\', 'n']
  else if c = '\r' then ['\\', 'r']
  else if c = '\x1a' then ['\\', 'Z']
  else if c = '\\' ∨ c = '\'' ∨ c = '"' then ['\\', c]
  else [c]

def escapeString (s : List Char) : List Char := s.flatMap escapeChar

/-- A field of a row; there is none for SQL's `NULL`. -/
abbrev Field := Option (List Char)

def Field.getString (f : Field) : List Char := f.getD []

def insertInto : List Char := ['I', 'N', 'S', 'E', 'R', 'T', ' ', 'I', 'N', 'T', 'O', ' ', '`']

def valuesPart : List Char := ['V', 'A', 'L', 'U', 'E', 'S', ' ', '(']

def joinValues : List (List Char) → List Char
  | [] => []
  | v :: vs => ['\''] ++ v ++ ['\''] ++ vs.flatMap fun v => [',', ' ', '\''] ++ v ++ ['\'']

def dumpLine (tableName : String) (values : List (List Char)) : List Char :=
  insertInto ++ tableName.toList ++ ['`', ' '] ++ valuesPart ++ joinValues values ++ [')', ';']

def createDumpString (tableName : String) (row : List Field) : List Char :=
  dumpLine tableName (row.map fun f => escapeString f.getString)

/-- The first loop of `findnth`: it looks at the same place again after a quote that is escaped. -/
def firstQuote (str : List Char) (s : Nat) : Nat → Option (Option Nat)
  | 0 => none
  | fuel + 1 =>
    match findFrom str ['\''] s with
    | none => some none
    | some e => if str.getD (e - 1) '\x00' = '\\' then firstQuote str s fuel else some (some e)

def nextQuote (str : List Char) : Nat → Nat → Option (Option (Nat × Nat))
  | 0, _ => none
  | fuel + 1, e =>
    match findFrom str ['\''] (e + 4) with
    | none => some none
    | some e' =>
      if str.getD (e' - 1) '\x00' = '\\' then nextQuote str fuel e' else some (some (e + 4, e'))

def skipValues (fuel : Nat) (str : List Char) : Nat → Nat × Nat → Option (Option (Nat × Nat))
  | 0, p => some (some p)
  | n + 1, p =>
    match nextQuote str fuel p.2 with
    | none => none
    | some none => some none
    | some (some p) => skipValues fuel str n p

/-- Where `findnth` begins: `npos + 9` is 8, so that its test for `npos` does not succeed. -/
def valuesStart (str : List Char) : Nat :=
  match findFrom str (valuesPart ++ ['\'']) 0 with
  | some pos => pos + 9
  | none => 8

/-- `findnth`: where the value begins and where it ends. -/
def findnth (fuel : Nat) (str : List Char) (n : Nat) : Option (Option (Nat × Nat)) :=
  match firstQuote str (valuesStart str) fuel with
  | none => none
  | some none => some none
  | some (some e) => skipValues fuel str (n - 1) (valuesStart str, e)

def substr (str : List Char) (pos len : Nat) : List Char := (str.drop pos).take len

def getnth (fuel : Nat) (str : List Char) (n : Nat) : Option (List Char) :=
  (findnth fuel str n).map fun
    | none => []
    | some (s, e) => substr str s (e - s)

/-- `changenth`: whether the value was found, and the line. -/
def changenth (fuel : Nat) (str : List Char) (n : Nat) (new : List Char) (insert nonzero : Bool) :
    Option (Bool × List Char) :=
  (findnth fuel str n).map fun
    | none => (false, str)
    | some (s, e) =>
      if nonzero && substr str s (e - s) = ['0'] then (true, str)
      else (true, replaceAt str s (if insert then 0 else e - s) new)

def nullText : List Char := ['N', 'U', 'L', 'L']

def nullString : List Char := ['\''] ++ nullText ++ ['\'']

/-- The loop of `fixNULLfields`; each turn shortens the line. -/
def fixLoop : Nat → List Char → List Char
  | 0, line => line
  | n + 1, line =>
    match findFrom line nullString 0 with
    | none => line
    | some pos => fixLoop n (replaceAt line pos nullString.length nullText)

def fixNULLfields (line : List Char) : List Char := fixLoop line.length line

/-!
## Writing and reading

What `findnth` finds in the lines of `CreateDumpString`.
-/

variable {t : String} {str pre post v x : List Char} {us vs ms : List (List Char)}
  {fuel s e n : Nat} {r : Option (Nat × Nat)}

/-- The text can be told from the quotes around it without regard to what is escaped. -/
structure Plain (v : List Char) : Prop where
  noQuote : '\'' ∉ v
  last : v.getLast? ≠ some '\\'

instance (v : List Char) : Decidable (Plain v) :=
  decidable_of_iff ('\'' ∉ v ∧ v.getLast? ≠ some '\\') ⟨fun h => ⟨h.1, h.2⟩, fun h => ⟨h.1, h.2⟩⟩

theorem escapeChar_ne_nil (c : Char) : escapeChar c ≠ [] := by
  unfold escapeChar
  split_ifs <;> exact List.cons_ne_nil _ _

theorem quote_mem_escapeChar {c : Char} : '\'' ∈ escapeChar c ↔ c = '\'' := by
  unfold escapeChar
  split_ifs with h0 hn hr hz h
  · subst h0
    decide
  · subst hn
    decide
  · subst hr
    decide
  · subst hz
    decide
  · simp [eq_comm]
  · simp [eq_comm]

theorem getLast?_escapeChar {c : Char} : (escapeChar c).getLast? = some '\\' ↔ c = '\\' := by
  unfold escapeChar
  split_ifs with h0 hn hr hz h
  · subst h0
    decide
  · subst hn
    decide
  · subst hr
    decide
  · subst hz
    decide
  · simp
  · simp

theorem escapeString_cons (c : Char) (v : List Char) :
    escapeString (c :: v) = escapeChar c ++ escapeString v := List.flatMap_cons

theorem quote_mem_escapeString : '\'' ∈ escapeString v ↔ '\'' ∈ v := by
  induction v with
  | nil => rfl
  | cons c v ih =>
    rw [escapeString_cons, List.mem_append, List.mem_cons, quote_mem_escapeChar, ih, eq_comm]

theorem escapeString_eq_nil : escapeString v = [] ↔ v = [] := by
  cases v with
  | nil => exact iff_of_true rfl rfl
  | cons c v =>
    rw [escapeString_cons]
    exact iff_of_false (fun h => escapeChar_ne_nil c (List.append_eq_nil_iff.mp h).1)
      (List.cons_ne_nil _ _)

theorem getLast?_escapeString : (escapeString v).getLast? = some '\\' ↔ v.getLast? = some '\\' := by
  induction v with
  | nil => rfl
  | cons c v ih =>
    rw [escapeString_cons, List.getLast?_append]
    cases v with
    | nil => simpa [escapeString] using getLast?_escapeChar
    | cons d v =>
      have hne : escapeString (d :: v) ≠ [] := mt escapeString_eq_nil.mp (List.cons_ne_nil _ _)
      rw [List.getLast?_eq_some_getLast hne, Option.some_or, ← List.getLast?_eq_some_getLast hne, ih]
      rfl

theorem plain_escapeString : Plain (escapeString v) ↔ Plain v :=
  ⟨fun h => ⟨mt quote_mem_escapeString.mpr h.noQuote, mt getLast?_escapeString.mpr h.last⟩,
    fun h => ⟨mt quote_mem_escapeString.mp h.noQuote, mt getLast?_escapeString.mp h.last⟩⟩

theorem first_quote_escaped (h : ¬ Plain v) (post : List Char) :
    ∃ pre rest, escapeString v ++ '\'' :: post = pre ++ '\'' :: rest ∧ '\'' ∉ pre ∧
      pre.getLast? = some '\\' := by
  induction v with
  | nil => exact absurd ⟨by simp, by simp⟩ h
  | cons c v ih =>
    rw [escapeString_cons, List.append_assoc]
    by_cases hc : c = '\''
    · subst hc
      exact ⟨['\\'], escapeString v ++ '\'' :: post, by simp [escapeChar], by decide, rfl⟩
    · have hnot : '\'' ∉ escapeChar c := mt quote_mem_escapeChar.mp hc
      by_cases hv : Plain v
      · -- Then the text ends in a backslash, and is this character alone.
        have hlast : (c :: v).getLast? = some '\\' := by
          by_contra hne
          exact h ⟨fun hq => (List.mem_cons.mp hq).elim (fun heq => hc heq.symm) hv.noQuote, hne⟩
        have hnil : v = [] := by
          cases v with
          | nil => rfl
          | cons d v => exact absurd hlast hv.last
        subst hnil
        exact ⟨escapeChar c, post, rfl, hnot, getLast?_escapeChar.mpr (by simpa using hlast)⟩
      · obtain ⟨pre, rest, heq, hpre, hlast⟩ := ih hv
        refine ⟨escapeChar c ++ pre, rest, by rw [heq, List.append_assoc], ?_, ?_⟩
        · exact fun hq => (List.mem_append.mp hq).elim hnot hpre
        · rw [List.getLast?_append, hlast]
          rfl

def lineOpening (t : String) : List Char := insertInto ++ t.toList ++ ['`', ' '] ++ valuesPart ++ ['\'']

def separator : List Char := ['\'', ',', ' ', '\'']

def lineBefore (t : String) (us : List (List Char)) : List Char :=
  lineOpening t ++ us.flatMap fun v => v ++ separator

def lineAfter (vs : List (List Char)) : List Char :=
  (vs.flatMap fun v => separator ++ v) ++ ['\'', ')', ';']

theorem lineBefore_nil : lineBefore t [] = lineOpening t := List.append_nil _

theorem lineBefore_snoc : lineBefore t (us ++ [v]) = lineBefore t us ++ v ++ separator := by
  rw [lineBefore, lineBefore, List.flatMap_append, List.flatMap_singleton]
  simp only [List.append_assoc]

theorem lineAfter_cons : lineAfter (v :: vs) = separator ++ v ++ lineAfter vs := by
  rw [lineAfter, lineAfter, List.flatMap_cons]
  simp only [List.append_assoc]

theorem lineAfter_eq (vs : List (List Char)) : ∃ post, lineAfter vs = '\'' :: post := by
  cases vs with
  | nil => exact ⟨_, rfl⟩
  | cons v vs => exact ⟨_, lineAfter_cons⟩

theorem dumpLine_cons : dumpLine t (v :: vs) = lineOpening t ++ v ++ lineAfter vs := by
  have hjoin : ['\''] ++ vs.flatMap (fun v => [',', ' ', '\''] ++ v ++ ['\'']) ++ [')', ';'] =
      lineAfter vs := by
    induction vs with
    | nil => rfl
    | cons w vs ih =>
      rw [lineAfter_cons, ← ih, List.flatMap_cons, separator]
      simp only [List.append_assoc, List.cons_append, List.nil_append]
  rw [dumpLine, joinValues, ← hjoin, lineOpening]
  simp only [List.append_assoc]

theorem dumpLine_eq : dumpLine t (us ++ v :: vs) = lineBefore t us ++ v ++ lineAfter vs := by
  cases us with
  | nil => exact dumpLine_cons.trans (by rw [lineBefore_nil])
  | cons u us =>
    rw [List.cons_append, dumpLine_cons, lineBefore, List.flatMap_cons]
    simp only [List.append_assoc, List.append_cancel_left_eq]
    induction us with
    | nil => simp only [List.nil_append, lineAfter_cons, List.flatMap_nil, List.append_assoc]
    | cons w us ih =>
      rw [List.cons_append, lineAfter_cons, ih, List.flatMap_cons]
      simp only [List.append_assoc]

theorem getLast?_lineBefore : (lineBefore t us).getLast? = some '\'' := by
  induction us using List.reverseRecOn with
  | nil => rw [lineBefore_nil, lineOpening, List.getLast?_concat]
  | append_singleton us u _ =>
    rw [lineBefore_snoc, List.getLast?_append]
    rfl

/-! ## The scan -/

theorem findFrom_quote {mid : List Char} (hmid : '\'' ∉ mid) :
    findFrom (pre ++ mid ++ '\'' :: post) ['\''] pre.length = some (pre.length + mid.length) := by
  rw [List.append_assoc, findFrom_append, findIn_char hmid, Option.map_some, Nat.add_comm]

theorem getD_last {l : List Char} {q : Char} (hq : l.getLast? = some q) (post : List Char) :
    (l ++ post).getD (l.length - 1) '\x00' = q := by
  have hpos : 0 < l.length := by
    cases l with
    | nil => cases hq
    | cons => exact Nat.succ_pos _
  rw [List.getD_eq_getElem?_getD, List.getElem?_append_left (by omega),
    ← List.getLast?_eq_getElem?, hq, Option.getD_some]

theorem getLast?_plain (hpre : pre.getLast? = some '\'') (hv : Plain v) :
    ∃ q, (pre ++ v).getLast? = some q ∧ q ≠ '\\' := by
  rw [List.getLast?_append, hpre]
  cases hlast : v.getLast? with
  | none => exact ⟨'\'', rfl, by decide⟩
  | some q => exact ⟨q, rfl, fun h => hv.last (h ▸ hlast)⟩

theorem firstQuote_succ {mid : List Char} {q : Char} (hmid : '\'' ∉ mid)
    (hq : (pre ++ mid).getLast? = some q) :
    firstQuote (pre ++ mid ++ '\'' :: post) pre.length (fuel + 1) =
      if q = '\\' then firstQuote (pre ++ mid ++ '\'' :: post) pre.length fuel
      else some (some (pre.length + mid.length)) := by
  rw [firstQuote, findFrom_quote hmid]
  dsimp only
  rw [← List.length_append, getD_last hq]

theorem nextQuote_succ {mid : List Char} {q : Char} (he : e + 4 = pre.length) (hmid : '\'' ∉ mid)
    (hq : (pre ++ mid).getLast? = some q) : nextQuote (pre ++ mid ++ '\'' :: post) (fuel + 1) e =
      if q = '\\' then nextQuote (pre ++ mid ++ '\'' :: post) fuel (pre.length + mid.length)
      else some (some (pre.length, pre.length + mid.length)) := by
  rw [nextQuote, he, findFrom_quote hmid]
  dsimp only
  rw [← List.length_append, getD_last hq]

theorem le_of_findFrom {pos i : Nat} (h : findFrom str pre pos = some i) : pos ≤ i := by
  unfold findFrom at h
  split_ifs at h
  obtain ⟨j, -, rfl⟩ := Option.map_eq_some_iff.mp h
  exact Nat.le_add_left _ _

theorem lt_of_nextQuote {e' : Nat} (h : nextQuote str fuel e = some (some (s, e'))) : e + 4 ≤ s := by
  induction fuel generalizing e with
  | zero => cases h
  | succ fuel ih =>
    rw [nextQuote] at h
    cases hf : findFrom str ['\''] (e + 4) with
    | none =>
      rw [hf] at h
      cases h
    | some i =>
      rw [hf] at h
      dsimp only at h
      have hi := le_of_findFrom hf
      split_ifs at h
      · have hs := ih h
        omega
      · cases h
        exact Nat.le_refl _

theorem dumpLine_quote (t : String) (us : List (List Char)) (v : List Char) (vs : List (List Char)) :
    ∃ post, dumpLine t (us ++ v :: vs) = lineBefore t us ++ v ++ '\'' :: post := by
  obtain ⟨post, hpost⟩ := lineAfter_eq vs
  exact ⟨post, by rw [dumpLine_eq, hpost]⟩

def place (t : String) (us : List (List Char)) (v : List Char) : Nat × Nat :=
  ((lineBefore t us).length, (lineBefore t us).length + v.length)

theorem place_snoc : (place t us v).2 + 4 = (lineBefore t (us ++ [v])).length := by
  rw [place, lineBefore_snoc, List.length_append, List.length_append]
  rfl

theorem nextQuote_plain (hx : Plain x) :
    nextQuote (dumpLine t (us ++ v :: x :: vs)) (fuel + 1) (place t us v).2 =
      some (some (place t (us ++ [v]) x)) := by
  obtain ⟨post, hline⟩ := dumpLine_quote t (us ++ [v]) x vs
  rw [List.append_assoc, List.singleton_append] at hline
  obtain ⟨q, hq, hne⟩ := @getLast?_plain (lineBefore t (us ++ [v])) x getLast?_lineBefore hx
  rw [hline, nextQuote_succ place_snoc hx.noQuote hq, if_neg hne]
  rfl

theorem nextQuote_not_plain (hx : ¬ Plain x)
    (h : nextQuote (dumpLine t (us ++ v :: escapeString x :: vs)) fuel (place t us v).2 =
      some (some (s, e))) : s ≠ (lineBefore t (us ++ [v])).length := by
  obtain ⟨post, hpost⟩ := lineAfter_eq vs
  obtain ⟨mid, rest, hmid, hquote, hlast⟩ := first_quote_escaped hx post
  have hline : dumpLine t (us ++ v :: escapeString x :: vs) =
      lineBefore t (us ++ [v]) ++ mid ++ '\'' :: rest := by
    have heq := @dumpLine_eq t (escapeString x) (us ++ [v]) vs
    rw [List.append_assoc, List.singleton_append] at heq
    rw [heq, hpost, List.append_assoc, hmid, ← List.append_assoc]
  have hq : (lineBefore t (us ++ [v]) ++ mid).getLast? = some '\\' := by
    rw [List.getLast?_append, hlast]
    rfl
  cases fuel with
  | zero => cases h
  | succ fuel =>
    rw [hline, nextQuote_succ place_snoc hquote hq, if_pos rfl] at h
    have hlt := lt_of_nextQuote h
    omega

theorem skipValues_plain {us' : List (List Char)} {v' : List Char} (hms : ∀ m ∈ ms, Plain m)
    (hend : us' ++ [v'] = us ++ v :: ms) (n : Nat) :
    skipValues (fuel + 1) (dumpLine t (us ++ v :: (ms ++ vs))) (ms.length + n) (place t us v) =
      skipValues (fuel + 1) (dumpLine t (us ++ v :: (ms ++ vs))) n (place t us' v') := by
  induction ms generalizing us v with
  | nil =>
    obtain ⟨rfl, hv⟩ := List.append_inj' hend rfl
    cases hv
    rw [List.length_nil, Nat.zero_add]
  | cons m ms ih =>
    obtain ⟨hm, hms⟩ := List.forall_mem_cons.mp hms
    have hrest := ih hms (show us' ++ [v'] = (us ++ [v]) ++ m :: ms by rw [hend]; simp)
    rw [List.append_assoc, List.singleton_append] at hrest
    rw [List.length_cons, Nat.succ_add, skipValues, List.cons_append, nextQuote_plain hm]
    exact hrest

theorem quote_notMem_valuesPart : '\'' ∉ insertInto ∧ '\'' ∉ valuesPart := by decide

theorem valuesStart_dumpLine (ht : '\'' ∉ t.toList) :
    valuesStart (dumpLine t (v :: vs)) = (lineBefore t []).length := by
  have hno : '\'' ∉ insertInto ++ t.toList ++ ['`', ' '] ++ valuesPart := by
    simp only [List.mem_append, quote_notMem_valuesPart.1, quote_notMem_valuesPart.2, ht]
    decide
  have hfind : findFrom (dumpLine t (v :: vs)) (valuesPart ++ ['\'']) 0 =
      some (insertInto ++ t.toList ++ ['`', ' ']).length := by
    have hline : dumpLine t (v :: vs) = (insertInto ++ t.toList ++ ['`', ' ']) ++ valuesPart ++
        '\'' :: (v ++ lineAfter vs) := by
      rw [dumpLine_cons, lineOpening]
      simp only [List.append_assoc, List.cons_append, List.nil_append]
    rw [findFrom, if_pos (Nat.zero_le _), List.drop_zero, hline, findIn_of_last hno]
    rfl
  rw [valuesStart, hfind, lineBefore_nil, lineOpening]
  generalize insertInto ++ t.toList ++ ['`', ' '] = l
  simp [valuesPart]

theorem firstQuote_plain (hv : Plain v) : firstQuote (dumpLine t (v :: vs))
    (lineBefore t []).length (fuel + 1) = some (some (place t [] v).2) := by
  obtain ⟨post, hline⟩ := dumpLine_quote t [] v vs
  obtain ⟨q, hq, hne⟩ := @getLast?_plain (lineBefore t []) v getLast?_lineBefore hv
  rw [List.nil_append] at hline
  rw [hline, firstQuote_succ hv.noQuote hq, if_neg hne]
  rfl

theorem firstQuote_not_plain (hv : ¬ Plain v) (fuel : Nat) :
    firstQuote (dumpLine t (escapeString v :: vs)) (lineBefore t []).length fuel = none := by
  obtain ⟨post, hpost⟩ := lineAfter_eq vs
  obtain ⟨mid, rest, hmid, hquote, hlast⟩ := first_quote_escaped hv post
  have hline : dumpLine t (escapeString v :: vs) = lineBefore t [] ++ mid ++ '\'' :: rest := by
    rw [dumpLine_cons, hpost, List.append_assoc, hmid, lineBefore_nil, ← List.append_assoc]
  have hq : (lineBefore t [] ++ mid).getLast? = some '\\' := by
    rw [List.getLast?_append, hlast]
    rfl
  induction fuel with
  | zero => rfl
  | succ fuel ih =>
    rw [hline, firstQuote_succ hquote hq, if_pos rfl, ← hline]
    exact ih

theorem findnth_plain (ht : '\'' ∉ t.toList) (hus : ∀ u ∈ us, Plain u) (hv : Plain v) :
    findnth (fuel + 1) (dumpLine t (us ++ v :: vs)) (us.length + 1) = some (some (place t us v)) := by
  cases us with
  | nil =>
    rw [List.nil_append, findnth, valuesStart_dumpLine ht, firstQuote_plain hv]
    rfl
  | cons u us =>
    obtain ⟨hu, hus⟩ := List.forall_mem_cons.mp hus
    have hms : ∀ m ∈ us ++ [v], Plain m := fun m hm =>
      (List.mem_append.mp hm).elim (hus m) fun hm => List.mem_singleton.mp hm ▸ hv
    have hskip := @skipValues_plain t u [] vs (us ++ [v]) fuel (u :: us) v hms rfl 0
    rw [List.append_assoc, List.singleton_append, List.nil_append, List.length_append] at hskip
    rw [List.cons_append, findnth, valuesStart_dumpLine ht, firstQuote_plain hu]
    exact hskip

theorem findFrom_quote_none {pos : Nat} (h : '\'' ∉ str.drop pos) :
    findFrom str ['\''] pos = none := by
  unfold findFrom
  split_ifs
  · rw [findIn_char_none h]
    rfl
  · rfl

theorem nextQuote_last : nextQuote (dumpLine t (us ++ [v])) (fuel + 1) (place t us v).2 = some none := by
  have hlen : (dumpLine t (us ++ [v])).length < (place t us v).2 + 4 := by
    rw [dumpLine_eq, List.length_append, List.length_append]
    exact Nat.lt_succ_self _
  have hnone : findFrom (dumpLine t (us ++ [v])) ['\''] ((place t us v).2 + 4) = none := by
    refine findFrom_quote_none ?_
    rw [List.drop_eq_nil_of_le (Nat.le_of_lt hlen)]
    exact List.not_mem_nil
  rw [nextQuote, hnone]

theorem findnth_beyond (ht : '\'' ∉ t.toList) (hvs : ∀ v ∈ vs, Plain v) (hn : vs.length < n) :
    findnth (fuel + 1) (dumpLine t vs) n = some none := by
  cases vs with
  | nil =>
    have hno : '\'' ∉ dumpLine t [] := by
      simp only [dumpLine, joinValues, List.mem_append, quote_notMem_valuesPart.1,
        quote_notMem_valuesPart.2, ht]
      decide
    have hnone : ∀ s, findFrom (dumpLine t []) ['\''] s = none := fun s =>
      findFrom_quote_none fun hq => hno (List.mem_of_mem_drop hq)
    rw [findnth, firstQuote, hnone]
  | cons v vs =>
    obtain ⟨hv, hvs⟩ := List.forall_mem_cons.mp hvs
    obtain ⟨us, w, hlast⟩ : ∃ us w, us ++ [w] = v :: vs :=
      ⟨_, _, List.dropLast_append_getLast (List.cons_ne_nil v vs)⟩
    obtain ⟨k, rfl⟩ : ∃ k, n = vs.length + (k + 1) + 1 := by
      rw [List.length_cons] at hn
      exact ⟨n - vs.length - 2, by omega⟩
    have hskip := @skipValues_plain t v [] [] vs fuel us w hvs hlast (k + 1)
    rw [List.append_nil, List.nil_append] at hskip
    rw [findnth, valuesStart_dumpLine ht, firstQuote_plain hv]
    refine hskip.trans ?_
    rw [skipValues, ← hlast, nextQuote_last]

end SkyfireBG
