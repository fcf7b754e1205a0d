import SkyfireBG.Lib.OrdMap

/-!
# SkyfireBG.Lib.Persist

Rows that are saved as changes: every entry in memory remembers in a state what became of it since
the last save, and a save turns the states into statements, each about the row of one key.

* `Statement.on`     — what a statement does to the row of its key.
* `find?_saveRows`   — what the statements of all entries do, when no two are about one key.
* `SaveRule.exact`   — after a save the rows are those of the entries, when states and rows agreed.
-/

namespace SkyfireBG

variable {ρ ε : Type}

inductive Statement (ρ : Type) where
  | insert (row : ρ)
  | update (change : ρ → ρ)
  | delete

namespace Statement

/-- An insertion fails on a row that is there, an update matches none that is not. -/
def on : Statement ρ → Option ρ → Option ρ
  | insert row, none => some row
  | insert _, some old => some old
  | update change, row => row.map change
  | delete, _ => none

def onAll (l : List (Statement ρ)) (row : Option ρ) : Option ρ := l.foldl (fun row s => s.on row) row

end Statement

section Rows

variable {κ : Type} [LinearOrder κ] {k k' : κ} {rows : OrdMap κ ρ}

/-- The row of `k` is changed. -/
def OrdMap.alter (k : κ) (f : Option ρ → Option ρ) (rows : OrdMap κ ρ) : OrdMap κ ρ :=
  match f (rows.find? k) with
  | some row => rows.set k row
  | none => rows.erase k

theorem OrdMap.find?_alter {f : Option ρ → Option ρ} :
    (rows.alter k f).find? k' = if k' = k then f (rows.find? k) else rows.find? k' := by
  rw [alter]
  cases f (rows.find? k) with
  | some row => exact find?_set
  | none => exact find?_erase

def saveRows (key : ε → κ) (statements : ε → List (Statement ρ)) (l : List ε) (rows : OrdMap κ ρ) :
    OrdMap κ ρ :=
  l.foldl (fun rows e => rows.alter (key e) (Statement.onAll (statements e))) rows

variable {key : ε → κ} {statements : ε → List (Statement ρ)} {l : List ε} {e : ε}

theorem find?_saveRows_of_none (h : ∀ e ∈ l, key e ≠ k) :
    (saveRows key statements l rows).find? k = rows.find? k := by
  induction l generalizing rows with
  | nil => rfl
  | cons x l ih =>
    obtain ⟨hx, hl⟩ := List.forall_mem_cons.mp h
    rw [saveRows, List.foldl_cons]
    exact (ih hl).trans (by rw [OrdMap.find?_alter, if_neg (Ne.symm hx)])

theorem find?_saveRows (key : ε → κ) (statements : ε → List (Statement ρ))
    (hnodup : (l.map key).Nodup) (he : e ∈ l) :
    (saveRows key statements l rows).find? (key e) =
      Statement.onAll (statements e) (rows.find? (key e)) := by
  induction l generalizing rows with
  | nil => cases he
  | cons x l ih =>
    rw [List.map_cons, List.nodup_cons] at hnodup
    rw [saveRows, List.foldl_cons]
    rcases List.mem_cons.mp he with rfl | hmem
    · refine (find?_saveRows_of_none fun y hy heq => hnodup.1 ?_).trans ?_
      · exact List.mem_map.mpr ⟨y, hy, heq⟩
      · rw [OrdMap.find?_alter, if_pos rfl]
    · refine (ih hnodup.2 hmem).trans ?_
      have hne : key e ≠ key x := fun heq => hnodup.1 (List.mem_map.mpr ⟨e, hmem, heq⟩)
      rw [OrdMap.find?_alter, if_neg hne]

end Rows

/-- What a save makes of an entry: its statements, and what stays of it in memory. -/
structure SaveRule (ε ρ : Type) where
  statements : ε → List (Statement ρ)
  next : ε → Option ε

namespace SaveRule

variable {κ : Type} [LinearOrder κ]

def entries (s : SaveRule ε ρ) (m : OrdMap κ ε) : OrdMap κ ε := m.filterMap fun _ => s.next

def rows (s : SaveRule ε ρ) (m : OrdMap κ ε) (t : OrdMap κ ρ) : OrdMap κ ρ :=
  saveRows Prod.fst (fun e => s.statements e.2) m.entries t

variable {s : SaveRule ε ρ} {m : OrdMap κ ε} {t : OrdMap κ ρ} {k : κ}

theorem find?_entries : (s.entries m).find? k = (m.find? k).bind s.next := OrdMap.find?_filterMap

theorem find?_rows : (s.rows m t).find? k =
    (m.find? k).elim (t.find? k) fun e => Statement.onAll (s.statements e) (t.find? k) := by
  cases hf : m.find? k with
  | none =>
    refine find?_saveRows_of_none fun e he heq => ?_
    exact OrdMap.find?_eq_none.mp hf e.2 (heq ▸ he)
  | some e =>
    exact find?_saveRows Prod.fst (fun e => s.statements e.2) m.keys_nodup
      (OrdMap.find?_eq_some.mp hf)

theorem exact (agree : Option ε → Option ρ → Prop) (kept : ε → Option ρ)
    (hsome : ∀ e row, agree (some e) row → Statement.onAll (s.statements e) row = kept e)
    (hnone : ∀ row, agree none row → row = none)
    (h : agree (m.find? k) (t.find? k)) : (s.rows m t).find? k = (m.find? k).bind kept := by
  rw [find?_rows]
  cases hf : m.find? k with
  | none =>
    rw [hf] at h
    exact hnone _ h
  | some e =>
    rw [hf] at h
    exact hsome e _ h

end SaveRule

end SkyfireBG
