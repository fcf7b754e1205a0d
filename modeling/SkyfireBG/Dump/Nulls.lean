import SkyfireBG.Dump.Codec

/-!
# SkyfireBG.Dump.Nulls

What `fixNULLfields` alters, and what holds of the lines of a dump as a whole.

* `dump_codec` — every value of a row is found, read and changed, and no text is taken for SQL's
  `NULL`, exactly when no text has a quote, ends in a backslash or is the word itself.
-/

namespace SkyfireBG

variable {t : String} {str pre post v x a l : List Char} {us vs ms : List (List Char)}
  {fuel n : Nat} {row : List Field} {bare : List Bool}

def quoted (v : List Char) : List Char := ['\''] ++ v ++ ['\'']

def itemsLine (t : String) : List (List Char) → List Char
  | [] => insertInto ++ t.toList ++ ['`', ' '] ++ valuesPart ++ [')', ';']
  | x :: xs => insertInto ++ t.toList ++ ['`', ' '] ++ valuesPart ++ x ++
      ((xs.flatMap fun x => [',', ' '] ++ x) ++ [')', ';'])

theorem dumpLine_items : dumpLine t vs = itemsLine t (vs.map quoted) := by
  cases vs with
  | nil => rw [dumpLine, joinValues, List.append_nil, List.map_nil, itemsLine]
  | cons v vs =>
    rw [dumpLine, joinValues, List.map_cons, itemsLine, List.flatMap_map]
    simp only [quoted, List.append_assoc, List.cons_append, List.nil_append]

def Quiet (a l : List Char) : Prop := ∀ j < a.length, ¬ nullString <+: (a ++ l).drop j

theorem quiet_of_notMem (h : '\'' ∉ a) (l : List Char) : Quiet a l := by
  intro j hj hp
  rw [List.drop_append_of_le_length (Nat.le_of_lt hj), List.drop_eq_getElem_cons hj] at hp
  have hq : a[j] = '\'' := ((List.cons_prefix_cons.mp hp).1).symm
  exact h (hq ▸ List.getElem_mem hj)

theorem Quiet.append (ha : Quiet a (x ++ l)) (hx : Quiet x l) : Quiet (a ++ x) l := by
  intro j hj
  rw [List.append_assoc]
  by_cases hja : j < a.length
  · exact ha j hja
  · obtain ⟨k, rfl⟩ : ∃ k, j = a.length + k := ⟨j - a.length, by omega⟩
    rw [List.length_append] at hj
    rw [← List.drop_drop, List.drop_left]
    exact hx k (by omega)

theorem quiet_quoted (hv : '\'' ∉ v) (hne : v ≠ nullText) (hl : l.head? ≠ some 'N') :
    Quiet (quoted v) l := by
  have hopen : ∀ k, ¬ nullString <+: '\'' :: (v ++ '\'' :: k) := by
    intro k hp
    have htext : nullText ++ ['\''] <+: v ++ '\'' :: k := (List.cons_prefix_cons.mp hp).2
    obtain ⟨rest, hrest⟩ := htext
    rw [List.append_assoc, List.singleton_append] at hrest
    exact hne (eq_of_append_cons hrest (by decide) hv).symm
  intro j hj hp
  have hsplit : quoted v ++ l = '\'' :: (v ++ '\'' :: l) := by
    simp only [quoted, List.append_assoc, List.cons_append, List.nil_append]
  rw [hsplit] at hp
  cases j with
  | zero => exact hopen l hp
  | succ j =>
    rw [List.drop_succ_cons] at hp
    by_cases hjv : j < v.length
    · exact quiet_of_notMem hv ('\'' :: l) j hjv hp
    · have hj' : j = v.length := by
        simp only [quoted, List.length_append, List.length_cons, List.length_nil] at hj
        omega
      rw [hj', List.drop_left] at hp
      have hhead := (List.cons_prefix_cons.mp hp).2
      cases l with
      | nil => exact absurd (List.prefix_nil.mp hhead) (List.cons_ne_nil _ _)
      | cons c l => exact hl (congrArg some (List.cons_prefix_cons.mp hhead).1.symm)

theorem findFrom_null (h : Quiet a (nullString ++ l)) :
    findFrom (a ++ nullString ++ l) nullString 0 = some a.length := by
  rw [findFrom, if_pos (Nat.zero_le _), List.drop_zero, List.append_assoc, findIn_append h,
    findIn_begins (List.prefix_append _ _), Option.map_some, Option.map_some, Nat.zero_add,
    Nat.add_zero]

theorem findFrom_null_none (h : Quiet a []) : findFrom a nullString 0 = none := by
  have hfind : findIn nullString (a ++ []) = _ := findIn_append h
  rw [List.append_nil] at hfind
  rw [findFrom, if_pos (Nat.zero_le _), List.drop_zero, hfind]
  rfl

theorem fixLoop_none (h : Quiet a []) (n : Nat) : fixLoop n a = a := by
  cases n with
  | zero => rfl
  | succ n => rw [fixLoop, findFrom_null_none h]

theorem fixLoop_null (h : Quiet a (nullString ++ l)) :
    fixLoop (n + 1) (a ++ nullString ++ l) = fixLoop n (a ++ nullText ++ l) := by
  rw [fixLoop, findFrom_null h]
  dsimp only
  rw [replaceAt_append]

/-- The value as `fixNULLfields` leaves it. -/
def fixItem (v : List Char) : List Char := if v = nullText then nullText else quoted v

def restOf (xs : List (List Char)) : List Char := (xs.flatMap fun x => [',', ' '] ++ x) ++ [')', ';']

theorem restOf_cons {xs : List (List Char)} : restOf (x :: xs) = [',', ' '] ++ x ++ restOf xs := by
  rw [restOf, restOf, List.flatMap_cons]
  simp only [List.append_assoc]

theorem fixLoop_rest (hvs : ∀ v ∈ vs, '\'' ∉ v) (ha : ∀ l, l.head? ≠ some 'N' → Quiet a l)
    (hn : vs.length ≤ n) :
    fixLoop n (a ++ restOf (vs.map quoted)) = a ++ restOf (vs.map fixItem) := by
  induction vs generalizing a n with
  | nil =>
    refine fixLoop_none (Quiet.append ?_ (quiet_of_notMem (by decide) _)) n
    exact ha _ (by decide)
  | cons v vs ih =>
    obtain ⟨hv, hvs⟩ := List.forall_mem_cons.mp hvs
    have hcomma : ∀ l, Quiet (a ++ [',', ' ']) l := fun l =>
      (ha _ (by simp)).append (quiet_of_notMem (by decide) l)
    rw [List.map_cons, List.map_cons, restOf_cons, restOf_cons, ← List.append_assoc,
      ← List.append_assoc, ← List.append_assoc, ← List.append_assoc]
    by_cases hnull : v = nullText
    · obtain ⟨n, rfl⟩ : ∃ k, n = k + 1 := ⟨n - 1, by rw [List.length_cons] at hn; omega⟩
      have hquoted : quoted v = nullString := hnull ▸ rfl
      have hfix : fixItem v = nullText := if_pos hnull
      rw [hquoted, hfix, fixLoop_null (hcomma _)]
      refine ih hvs (fun l _ => (hcomma _).append (quiet_of_notMem (by decide) l)) ?_
      exact Nat.le_of_succ_le_succ hn
    · have hfix : fixItem v = quoted v := if_neg hnull
      rw [hfix]
      exact ih hvs (fun l hl => (hcomma _).append (quiet_quoted hv hnull hl)) (Nat.le_of_succ_le hn)

theorem length_le_restOf (vs : List (List Char)) : vs.length ≤ (restOf (vs.map quoted)).length := by
  induction vs with
  | nil => exact Nat.zero_le _
  | cons v vs ih =>
    rw [List.map_cons, restOf_cons, List.length_append, List.length_append, List.length_cons]
    simp only [List.length_cons, List.length_nil]
    omega

theorem fixNULLfields_dumpLine (ht : '\'' ∉ t.toList) (hvs : ∀ v ∈ vs, '\'' ∉ v) :
    fixNULLfields (dumpLine t vs) = itemsLine t (vs.map fixItem) := by
  have hhead : '\'' ∉ insertInto ++ t.toList ++ ['`', ' '] ++ valuesPart := by
    simp only [List.mem_append, quote_notMem_valuesPart.1, quote_notMem_valuesPart.2, ht]
    decide
  cases vs with
  | nil =>
    rw [fixNULLfields, dumpLine, joinValues, List.append_nil]
    refine fixLoop_none (quiet_of_notMem ?_ []) _
    rw [List.mem_append, not_or]
    exact ⟨hhead, by decide⟩
  | cons v vs =>
    obtain ⟨hv, hvs⟩ := List.forall_mem_cons.mp hvs
    rw [fixNULLfields, dumpLine_items, List.map_cons, List.map_cons]
    change fixLoop (insertInto ++ t.toList ++ ['`', ' '] ++ valuesPart ++ quoted v ++
      restOf (vs.map quoted)).length (insertInto ++ t.toList ++ ['`', ' '] ++ valuesPart ++ quoted v ++
      restOf (vs.map quoted)) = insertInto ++ t.toList ++ ['`', ' '] ++ valuesPart ++ fixItem v ++
      restOf (vs.map fixItem)
    generalize insertInto ++ t.toList ++ ['`', ' '] ++ valuesPart = a at hhead ⊢
    have hlen := length_le_restOf vs
    by_cases hnull : v = nullText
    · have hquoted : quoted v = nullString := hnull ▸ rfl
      have hfix : fixItem v = nullText := if_pos hnull
      have hfuel : (a ++ quoted v ++ restOf (vs.map quoted)).length =
          (a ++ restOf (vs.map quoted)).length + 5 + 1 := by
        rw [hquoted]
        simp only [List.length_append]
        have hsix : nullString.length = 6 := rfl
        omega
      rw [hfuel, hquoted, hfix, fixLoop_null (quiet_of_notMem hhead _)]
      refine fixLoop_rest hvs (fun l _ => ?_) ?_
      · exact (quiet_of_notMem hhead _).append (quiet_of_notMem (by decide) l)
      · rw [List.length_append]
        omega
    · have hfix : fixItem v = quoted v := if_neg hnull
      rw [hfix]
      refine fixLoop_rest hvs (fun l hl => ?_) ?_
      · exact (quiet_of_notMem hhead _).append (quiet_quoted hv hnull hl)
      · rw [List.length_append]
        omega

/-! ## The codec -/

def escapedRow (row : List Field) : List (List Char) := row.map fun f => escapeString f.getString

theorem createDumpString_eq : createDumpString t row = dumpLine t (escapedRow row) := rfl

/-- A line as `fixNULLfields` may leave it, with these values for SQL's `NULL`. -/
def bareItems (vs : List (List Char)) (bare : List Bool) : List (List Char) :=
  List.zipWith (fun v b => if b then nullText else quoted v) vs bare

/-- What a line of the dump is good for: each value is delimited, read and changed by its number,
there is no value of a higher number, and only fields that are `NULL` come to stand for it. -/
structure Codec (t : String) (row : List Field) : Prop where
  delimits : ∀ us v vs, escapedRow row = us ++ v :: vs →
    ∃ fuel, findnth fuel (createDumpString t row) (us.length + 1) = some (some (place t us v))
  reads : ∀ us v vs, escapedRow row = us ++ v :: vs →
    ∃ fuel, getnth fuel (createDumpString t row) (us.length + 1) = some v
  changes : ∀ us v vs new, escapedRow row = us ++ v :: vs →
    ∃ fuel, changenth fuel (createDumpString t row) (us.length + 1) new false false =
      some (true, dumpLine t (us ++ new :: vs))
  lacking : ∀ n, row.length < n → ∃ fuel, findnth fuel (createDumpString t row) n = some none
  nulls : ∃ bare : List Bool, bare.length = row.length ∧
    (∀ i : Nat, bare[i]? = some true → row[i]? = some (none : Field)) ∧
    fixNULLfields (createDumpString t row) = itemsLine t (bareItems (escapedRow row) bare)

structure Fit (v : List Char) : Prop extends Plain v where
  notNull : v ≠ nullText

theorem substr_place : substr (lineBefore t us ++ v ++ post) (place t us v).1
    ((place t us v).2 - (place t us v).1) = v := by
  rw [substr, place, Nat.add_sub_cancel_left, List.append_assoc, List.drop_left, List.take_left]

theorem changenth_dumpLine {new : List Char}
    (h : findnth fuel (dumpLine t (us ++ v :: vs)) (us.length + 1) = some (some (place t us v))) :
    changenth fuel (dumpLine t (us ++ v :: vs)) (us.length + 1) new false false =
      some (true, dumpLine t (us ++ new :: vs)) := by
  rw [changenth, h]
  simp only [Option.map_some, Bool.false_and, Bool.false_eq_true, if_false, Option.some.injEq,
    Prod.mk.injEq, true_and]
  have hlen : (place t us v).2 - (place t us v).1 = v.length := Nat.add_sub_cancel_left ..
  rw [hlen, dumpLine_eq, dumpLine_eq]
  exact replaceAt_append

theorem escapeString_eq_self (h : '\\' ∉ escapeString v) : escapeString v = v := by
  induction v with
  | nil => rfl
  | cons c v ih =>
    rw [escapeString_cons, List.mem_append, not_or] at h
    have hc : escapeChar c = [c] := by
      have hfirst := h.1
      unfold escapeChar at hfirst ⊢
      split_ifs at hfirst ⊢ <;> simp_all
    rw [escapeString_cons, hc, ih h.2, List.singleton_append]

theorem escapeString_eq_null : escapeString v = nullText ↔ v = nullText := by
  refine ⟨fun h => ?_, fun h => by rw [h]; decide⟩
  have hself : escapeString v = v := escapeString_eq_self (h ▸ by decide)
  exact hself.symm.trans h

theorem bareItems_false (h : ∀ v ∈ vs, v ≠ nullText) :
    vs.map fixItem = bareItems vs (List.replicate vs.length false) := by
  induction vs with
  | nil => rfl
  | cons v vs ih =>
    obtain ⟨hv, hvs⟩ := List.forall_mem_cons.mp h
    rw [List.map_cons, ih hvs, List.length_cons, List.replicate_succ, bareItems, bareItems,
      List.zipWith_cons_cons, fixItem, if_neg hv]
    rfl

theorem codec_of_fit (ht : '\'' ∉ t.toList) (h : ∀ v, some v ∈ row → Fit v) : Codec t row := by
  have hfit : ∀ f ∈ row, Fit f.getString := by
    rintro (_ | v) hf
    · exact ⟨⟨by decide, by decide⟩, by decide⟩
    · exact h v hf
  have hplain : ∀ v ∈ escapedRow row, Plain v := by
    intro v hv
    obtain ⟨f, hf, rfl⟩ := List.mem_map.mp hv
    exact plain_escapeString.mpr (hfit f hf).toPlain
  have hfind : ∀ us v vs, escapedRow row = us ++ v :: vs →
      findnth 1 (dumpLine t (us ++ v :: vs)) (us.length + 1) = some (some (place t us v)) := by
    intro us v vs heq
    rw [heq] at hplain
    exact findnth_plain ht (fun u hu => hplain u (List.mem_append_left _ hu)) (hplain v (by simp))
  refine ⟨fun us v vs heq => ⟨1, ?_⟩, fun us v vs heq => ⟨1, ?_⟩, fun us v vs new heq => ⟨1, ?_⟩,
    fun n hn => ⟨1, findnth_beyond ht hplain ?_⟩, ?_⟩
  · rw [createDumpString_eq, heq]
    exact hfind us v vs heq
  · rw [createDumpString_eq, heq, getnth, hfind us v vs heq, Option.map_some, dumpLine_eq]
    exact congrArg some substr_place
  · rw [createDumpString_eq, heq]
    exact changenth_dumpLine (hfind us v vs heq)
  · rw [List.length_map]
    exact hn
  · refine ⟨List.replicate row.length false, List.length_replicate, fun i hi => ?_, ?_⟩
    · have hmem := List.mem_of_getElem? hi
      cases (List.mem_replicate.mp hmem).2
    · rw [createDumpString_eq, fixNULLfields_dumpLine ht fun v hv => (hplain v hv).noQuote]
      have hlen : (escapedRow row).length = row.length := List.length_map ..
      rw [← hlen, bareItems_false]
      intro v hv
      obtain ⟨f, hf, rfl⟩ := List.mem_map.mp hv
      exact mt escapeString_eq_null.mp (hfit f hf).notNull

theorem all_or_first {β : Type} (P : β → Prop) (l : List β) :
    (∀ x ∈ l, P x) ∨ ∃ pre x post, l = pre ++ x :: post ∧ (∀ y ∈ pre, P y) ∧ ¬ P x := by
  induction l with
  | nil => exact .inl nofun
  | cons x l ih =>
    by_cases hx : P x
    · rcases ih with hall | ⟨pre, y, post, rfl, hpre, hy⟩
      · exact .inl (List.forall_mem_cons.mpr ⟨hx, hall⟩)
      · exact .inr ⟨x :: pre, y, post, rfl, List.forall_mem_cons.mpr ⟨hx, hpre⟩, hy⟩
    · exact .inr ⟨[], x, l, rfl, nofun, hx⟩

theorem findnth_not_plain (ht : '\'' ∉ t.toList) (hus : ∀ u ∈ us, Plain u) (hx : ¬ Plain x) :
    findnth fuel (dumpLine t (us ++ escapeString x :: vs)) (us.length + 1) ≠
      some (some (place t us (escapeString x))) := by
  cases us with
  | nil =>
    rw [List.nil_append, findnth, valuesStart_dumpLine ht, firstQuote_not_plain hx]
    exact fun h => by cases h
  | cons u us =>
    obtain ⟨hu, hus⟩ := List.forall_mem_cons.mp hus
    rw [List.cons_append, findnth, valuesStart_dumpLine ht]
    cases fuel with
    | zero => exact fun h => by cases h
    | succ fuel =>
      obtain ⟨ws, w, hlast⟩ : ∃ ws w, ws ++ [w] = u :: us :=
        ⟨_, _, List.dropLast_append_getLast (List.cons_ne_nil u us)⟩
      have hskip := @skipValues_plain t u [] (escapeString x :: vs) us fuel ws w hus hlast 1
      rw [List.nil_append] at hskip
      rw [firstQuote_plain hu]
      have hline : u :: (us ++ escapeString x :: vs) = ws ++ w :: escapeString x :: vs := by
        rw [← List.cons_append, ← hlast, List.append_assoc, List.singleton_append]
      intro heq
      have hnext := hskip.symm.trans heq
      rw [skipValues, hline] at hnext
      cases hq : nextQuote (dumpLine t (ws ++ w :: escapeString x :: vs)) (fuel + 1)
          (place t ws w).2 with
      | none =>
        rw [hq] at hnext
        cases hnext
      | some found =>
        rw [hq] at hnext
        cases found with
        | none => cases hnext
        | some p =>
          obtain ⟨s, e⟩ := p
          have hplace : (s, e) = place t (u :: us) (escapeString x) :=
            Option.some.inj (Option.some.inj hnext)
          refine nextQuote_not_plain hx hq ?_
          rw [hlast]
          exact congrArg Prod.fst hplace

theorem bare_of_restOf (hlen : bare.length = vs.length)
    (h : restOf (vs.map fixItem) = restOf (bareItems vs bare)) :
    ∀ i : Nat, vs[i]? = some nullText → bare[i]? = some true := by
  induction vs generalizing bare with
  | nil =>
    intro i hi
    cases hi
  | cons v vs ih =>
    cases bare with
    | nil => cases hlen
    | cons b bare =>
      have hlen' : bare.length = vs.length := Nat.succ.inj hlen
      rw [List.map_cons, bareItems, List.zipWith_cons_cons, ← bareItems, restOf_cons, restOf_cons,
        List.append_assoc, List.append_assoc] at h
      have hitem := List.append_cancel_left h
      have hhead : b = decide (v = nullText) := by
        by_cases hnull : v = nullText
        · cases b with
          | true => simp [hnull]
          | false =>
            rw [fixItem, if_pos hnull] at hitem
            exact absurd (List.cons.inj hitem).1 (by decide)
        · cases b with
          | true =>
            rw [fixItem, if_neg hnull] at hitem
            exact absurd (List.cons.inj hitem).1 (by decide)
          | false => simp [hnull]
      have hsame : fixItem v = if b then nullText else quoted v := by
        rw [hhead, fixItem]
        simp only [decide_eq_true_eq]
      rw [hsame] at hitem
      intro i hi
      cases i with
      | zero =>
        have hv : v = nullText := Option.some.inj hi
        rw [hhead, hv]
        rfl
      | succ i => exact ih hlen' (List.append_cancel_left hitem) i hi

theorem restOf_of_itemsLine {xs ys : List (List Char)} (hlen : xs.length = ys.length)
    (h : itemsLine t xs = itemsLine t ys) : restOf xs = restOf ys := by
  cases xs with
  | nil =>
    cases ys with
    | nil => rfl
    | cons => cases hlen
  | cons x xs =>
    cases ys with
    | nil => cases hlen
    | cons y ys =>
      simp only [itemsLine, List.append_assoc, List.append_cancel_left_eq] at h
      rw [restOf_cons, restOf_cons, List.append_assoc, List.append_assoc]
      exact congrArg _ h

theorem fit_of_codec (ht : '\'' ∉ t.toList) (h : Codec t row) (hv : some v ∈ row) : Fit v := by
  have hplain : ∀ x ∈ row.map Field.getString, Plain x := by
    refine (all_or_first Plain _).resolve_right ?_
    rintro ⟨pre, x, post, heq, hpre, hx⟩
    have hrow : escapedRow row = pre.map escapeString ++ escapeString x :: post.map escapeString := by
      have hmap : escapedRow row = (row.map Field.getString).map escapeString := by
        rw [escapedRow, List.map_map]
        rfl
      rw [hmap, heq, List.map_append, List.map_cons]
    obtain ⟨fuel, hfound⟩ := h.delimits _ _ _ hrow
    rw [createDumpString_eq, hrow] at hfound
    refine findnth_not_plain ht (fun u hu => ?_) hx hfound
    obtain ⟨y, hy, rfl⟩ := List.mem_map.mp hu
    exact plain_escapeString.mpr (hpre y hy)
  refine ⟨hplain v (List.mem_map_of_mem (f := Field.getString) hv), ?_⟩
  rintro rfl
  obtain ⟨bare, hlen, hbare, hfix⟩ := h.nulls
  have hquotes : ∀ x ∈ escapedRow row, '\'' ∉ x := by
    intro x hx
    obtain ⟨f, hf, rfl⟩ := List.mem_map.mp hx
    exact mt quote_mem_escapeString.mp (hplain _ (List.mem_map_of_mem hf)).noQuote
  rw [createDumpString_eq, fixNULLfields_dumpLine ht hquotes] at hfix
  have hlen' : bare.length = (escapedRow row).length := hlen.trans (List.length_map ..).symm
  have hrest := restOf_of_itemsLine
    (by rw [List.length_map, bareItems, List.length_zipWith, hlen', Nat.min_self]) hfix
  obtain ⟨i, hi⟩ := List.getElem?_of_mem hv
  have hnull : (escapedRow row)[i]? = some nullText := by
    rw [escapedRow, List.getElem?_map, hi]
    decide
  have hnone := hbare i (bare_of_restOf hlen' hrest i hnull)
  rw [hi] at hnone
  cases hnone

theorem dumpTables_noQuote : ∀ table ∈ dumpTables, '\'' ∉ table.name.toList := by
  decide

theorem findnth_noValues (h : findFrom str (valuesPart ++ ['\'']) 0 = none) :
    (∀ n, 0 < n → ∃ fuel, findnth fuel str n = some none) ↔ '\'' ∉ str.drop 8 := by
  have hstart : valuesStart str = 8 := by rw [valuesStart, h]
  constructor
  · intro hall hq
    obtain ⟨fuel, hfound⟩ := hall 1 Nat.one_pos
    obtain ⟨pos, hpos⟩ : ∃ pos, findFrom str ['\''] 8 = some pos := by
      have hin : findIn ['\''] (str.drop 8) ≠ none := by
        rw [Ne, findIn_eq_none, not_not]
        exact (List.singleton_infix_iff ..).mpr hq
      obtain ⟨j, hj⟩ := Option.ne_none_iff_exists'.mp hin
      have hle : 8 ≤ str.length := by
        by_contra hlt
        rw [List.drop_eq_nil_of_le (by omega)] at hq
        cases hq
      exact ⟨j + 8, by rw [findFrom, if_pos hle, hj]; rfl⟩
    have hloop : ∀ fuel, firstQuote str 8 fuel ≠ some none := by
      intro fuel
      induction fuel with
      | zero => exact fun h => by cases h
      | succ fuel ih =>
        rw [firstQuote, hpos]
        dsimp only
        split_ifs
        · exact ih
        · exact fun h => by cases h
    rw [findnth, hstart] at hfound
    cases hquote : firstQuote str 8 fuel with
    | none =>
      rw [hquote] at hfound
      cases hfound
    | some found =>
      cases found with
      | none => exact hloop fuel hquote
      | some e =>
        rw [hquote] at hfound
        cases hfound
  · intro hno n _
    exact ⟨1, by rw [findnth, hstart, firstQuote, findFrom_quote_none hno]⟩

/-- For every row of a table of the dump, the line can be used exactly when each text is fit for it;
and in a line without values none is found exactly when no quote stands behind the eighth character. -/
theorem dump_codec {table : DumpTable} (htable : table ∈ dumpTables) (row : List Field)
    {line : List Char} (hline : findFrom line (valuesPart ++ ['\'']) 0 = none) :
    (Codec table.name row ↔ ∀ v, some v ∈ row → Fit v) ∧
    ((∀ n, 0 < n → ∃ fuel, findnth fuel line n = some none) ↔ '\'' ∉ line.drop 8) := by
  have ht := dumpTables_noQuote table htable
  exact ⟨⟨fun h v hv => fit_of_codec ht h hv, codec_of_fit ht⟩, findnth_noValues hline⟩

def mailRow : List Field := [some ['1'], some ['a', '\'', 'b']]

/-- For the row of a letter whose subject is plain, and for a line without values. -/
theorem dump_codec_plain : Codec "mail" [some ['1'], some ['a', 'b'], none] ∧
    ∀ n, 0 < n → ∃ fuel, findnth fuel ['=', '='] n = some none := by
  have hmail : (⟨"mail", .DTT_MAIL⟩ : DumpTable) ∈ dumpTables := by decide
  have hline : findFrom ['=', '='] (valuesPart ++ ['\'']) 0 = none := by decide
  have hall := dump_codec hmail [some ['1'], some ['a', 'b'], none] hline
  refine ⟨hall.1.mpr ?_, hall.2.mpr (by decide)⟩
  simp only [List.mem_cons, List.not_mem_nil, or_false, reduceCtorEq, Option.some.injEq]
  rintro v (rfl | rfl)
  · exact ⟨⟨by decide, by decide⟩, by decide⟩
  · exact ⟨⟨by decide, by decide⟩, by decide⟩

/-- The second value of the row with the apostrophe is not found. -/
theorem dump_codec_apostrophe : ¬ ∃ fuel,
    findnth fuel (createDumpString "mail" mailRow) 2 =
      some (some (place "mail" [['1']] ['a', '\\', '\'', 'b'])) := by
  rintro ⟨fuel, h⟩
  have hbad : ¬ Plain ['a', '\'', 'b'] := fun hp => hp.noQuote (by decide)
  refine @findnth_not_plain "mail" ['a', '\'', 'b'] [['1']] [] fuel (by decide) ?_ hbad h
  intro u hu
  rw [List.mem_singleton.mp hu]
  exact ⟨by decide, by decide⟩

end SkyfireBG
