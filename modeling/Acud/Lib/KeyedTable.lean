/-
Module: Acud.Lib.KeyedTable
Purpose: Tables of rows with a primary key, in the order the rows were stored.
Trusted boundary: none
Main exports:
  Table, Table.find?, Table.insertOrReplace, Table.deleteWhere, Table.insertAll
-/
import Mathlib.Data.List.Basic
import Mathlib.Data.List.Nodup
import Mathlib.Data.List.Perm.Subperm
import Mathlib.Tactic.Common

namespace Acud.Lib

/-!
A relational table with a primary key.  Rows are kept in storage order: a new
row goes to the end, and replacing a row removes the old one first, so the
replaced row also moves to the end.  That the key is a key is a field of the
table, so no operation can store two rows under one key.

`find?` is the read by key; `ext_find?` does not hold (two tables with the same
lookups may differ in storage order), so results that are about order speak of
`rows` and results that are about content speak of `find?`.
-/

variable {α κ : Type}

/-- Rows in storage order, at most one for each key. -/
structure Table (key : α → κ) where
  rows : List α
  keysDistinct : (rows.map key).Nodup

namespace Table

variable {key : α → κ}

/-- The table after `CREATE TABLE`. -/
def empty (key : α → κ) : Table key :=
  { rows := []
    keysDistinct := List.nodup_nil }

instance : Inhabited (Table key) := ⟨empty key⟩

@[simp] theorem rows_empty : (empty key).rows = [] := rfl

/-- `SELECT COUNT(*)`. -/
def count (table : Table key) : Nat :=
  table.rows.length

private theorem nodup_filter_keys (table : Table key) (keep : α → Bool) :
    ((table.rows.filter keep).map key).Nodup :=
  (table.keysDistinct).sublist ((List.filter_sublist).map key)

/-- `DELETE ... WHERE unwanted`. -/
def deleteWhere (table : Table key) (unwanted : α → Bool) : Table key :=
  { rows := table.rows.filter fun row => !unwanted row
    keysDistinct := table.nodup_filter_keys _ }

theorem mem_deleteWhere {table : Table key} {unwanted : α → Bool} {row : α} :
    row ∈ (table.deleteWhere unwanted).rows ↔
      row ∈ table.rows ∧ unwanted row = false := by
  simp [deleteWhere]

variable [DecidableEq κ]

/-- `SELECT ... WHERE key = ?`. -/
def find? (table : Table key) (wanted : κ) : Option α :=
  table.rows.find? fun row => key row = wanted

/-- `INSERT OR REPLACE`. -/
def insertOrReplace (table : Table key) (row : α) : Table key :=
  { rows := (table.rows.filter fun old => !decide (key old = key row)) ++ [row]
    keysDistinct := by
      rw [List.map_append, List.nodup_append]
      refine ⟨table.nodup_filter_keys _, by simp, ?_⟩
      intro first firstMember second secondMember
      simp only [List.mem_map, List.mem_filter, List.map_cons, List.map_nil,
        List.mem_singleton] at firstMember secondMember
      obtain ⟨old, ⟨_, different⟩, rfl⟩ := firstMember
      subst secondMember
      simpa using different }

theorem key_of_find? {table : Table key} {wanted : κ} {row : α}
    (found : table.find? wanted = some row) : key row = wanted := by
  simpa using List.find?_some found

theorem mem_of_find? {table : Table key} {wanted : κ} {row : α}
    (found : table.find? wanted = some row) : row ∈ table.rows :=
  List.mem_of_find?_eq_some found

theorem find?_eq_none {table : Table key} {wanted : κ} :
    table.find? wanted = none ↔ ∀ row ∈ table.rows, key row ≠ wanted := by
  simp [find?]

private theorem find?_eq_some_of_nodup {rows : List α}
    (distinct : (rows.map key).Nodup) {row : α} (member : row ∈ rows) :
    rows.find? (fun other => key other = key row) = some row := by
  induction rows with
  | nil => cases member
  | cons head tail inductionHypothesis =>
      rw [List.map_cons, List.nodup_cons] at distinct
      rcases List.mem_cons.mp member with same | later
      · subst same
        simp
      · have headDiffers : key head ≠ key row := by
          intro same
          exact distinct.1 (same ▸ List.mem_map_of_mem later)
        rw [List.find?_cons_of_neg (by simpa using headDiffers)]
        exact inductionHypothesis distinct.2 later

/-- A stored row is the one found under its key. -/
theorem find?_of_mem {table : Table key} {row : α} (member : row ∈ table.rows) :
    table.find? (key row) = some row :=
  find?_eq_some_of_nodup table.keysDistinct member

/-- Rows with one key are one row. -/
theorem eq_of_key_eq {table : Table key} {first second : α}
    (firstMember : first ∈ table.rows) (secondMember : second ∈ table.rows)
    (same : key first = key second) : first = second := by
  have foundFirst := find?_of_mem firstMember
  rw [same, find?_of_mem secondMember] at foundFirst
  exact (Option.some.inj foundFirst).symm

theorem mem_insertOrReplace {table : Table key} {row other : α} :
    other ∈ (table.insertOrReplace row).rows ↔
      (other ∈ table.rows ∧ key other ≠ key row) ∨ other = row := by
  simp [insertOrReplace]

/-- The row that was stored is found under its key. -/
@[simp] theorem find?_insertOrReplace_self (table : Table key) (row : α) :
    (table.insertOrReplace row).find? (key row) = some row :=
  find?_of_mem (mem_insertOrReplace.mpr (.inr rfl))

/-- Storing a row changes no other key. -/
theorem find?_insertOrReplace_of_ne (table : Table key) {row : α} {wanted : κ}
    (different : wanted ≠ key row) :
    (table.insertOrReplace row).find? wanted = table.find? wanted := by
  unfold insertOrReplace find?
  simp only
  rw [List.find?_append, List.find?_filter]
  have lastMisses :
      [row].find? (fun other => decide (key other = wanted)) = none := by
    simpa using Ne.symm different
  rw [lastMisses, Option.or_none]
  congr 1
  funext other
  by_cases same : key other = wanted
  · subst same
    simp [different]
  · simp [same]

theorem find?_insertOrReplace (table : Table key) (row : α) (wanted : κ) :
    (table.insertOrReplace row).find? wanted =
      if wanted = key row then some row else table.find? wanted := by
  split
  next same =>
    subst same
    exact table.find?_insertOrReplace_self row
  next different => exact table.find?_insertOrReplace_of_ne different

/-- Deleting rows by key hides that key and no other. -/
theorem find?_deleteWhere_key (table : Table key) (gone wanted : κ) :
    (table.deleteWhere fun row => key row = gone).find? wanted =
      if wanted = gone then none else table.find? wanted := by
  unfold deleteWhere find?
  simp only [List.find?_filter]
  split
  next same =>
    subst same
    simp
  next different =>
    congr 1
    funext other
    by_cases same : key other = wanted
    · subst same
      simp [different]
    · simp [same]

/-- Deleting rows by content: what is found is a stored row that was kept. -/
theorem find?_deleteWhere (table : Table key) (unwanted : α → Bool) (wanted : κ) :
    (table.deleteWhere unwanted).find? wanted =
      (table.find? wanted).filter fun row => !unwanted row := by
  cases found : table.find? wanted with
  | none =>
      rw [Option.filter_none, find?_eq_none]
      intro row member
      exact find?_eq_none.mp found row (mem_deleteWhere.mp member).1
  | some row =>
      have stored := mem_of_find? found
      have named := key_of_find? found
      cases keep : unwanted row with
      | false =>
          have kept : row ∈ (table.deleteWhere unwanted).rows :=
            mem_deleteWhere.mpr ⟨stored, keep⟩
          have foundKept := find?_of_mem kept
          rw [named] at foundKept
          simp [foundKept, Option.filter, keep]
      | true =>
          rw [Option.filter_some, if_neg (by simp [keep]), find?_eq_none]
          intro other member same
          have ⟨otherStored, otherKept⟩ := mem_deleteWhere.mp member
          have one := eq_of_key_eq otherStored stored (same.trans named.symm)
          rw [one, keep] at otherKept
          cases otherKept

/-- Tables with the same rows, in whatever order, answer the same. -/
theorem find?_congr {first second : Table key}
    (same : ∀ row, row ∈ first.rows ↔ row ∈ second.rows) (wanted : κ) :
    first.find? wanted = second.find? wanted := by
  cases found : second.find? wanted with
  | none =>
      rw [find?_eq_none] at found ⊢
      intro row member
      exact found row ((same row).mp member)
  | some row =>
      have stored := (same row).mpr (mem_of_find? found)
      rw [← key_of_find? found]
      exact find?_of_mem stored

/-! ### Many rows -/

/-- Store rows one after another. -/
def insertAll (table : Table key) (rows : List α) : Table key :=
  rows.foldl insertOrReplace table

@[simp] theorem insertAll_nil (table : Table key) : table.insertAll [] = table := rfl

@[simp] theorem insertAll_cons (table : Table key) (row : α) (rows : List α) :
    table.insertAll (row :: rows) = (table.insertOrReplace row).insertAll rows := rfl

/-- A row under a new key goes behind the others. -/
theorem rows_insertOrReplace_of_new {table : Table key} {row : α}
    (new : key row ∉ table.rows.map key) :
    (table.insertOrReplace row).rows = table.rows ++ [row] := by
  have kept : (table.rows.filter fun old => !decide (key old = key row)) = table.rows := by
    apply List.filter_eq_self.mpr
    intro old member
    have different : key old ≠ key row := by
      intro same
      exact new (same ▸ List.mem_map_of_mem member)
    simpa using different
  exact congrArg (· ++ [row]) kept

/-- Rows under new and distinct keys are all kept, in their order. -/
theorem rows_insertAll {table : Table key} {rows : List α}
    (distinct : ((table.rows ++ rows).map key).Nodup) :
    (table.insertAll rows).rows = table.rows ++ rows := by
  induction rows generalizing table with
  | nil => exact (List.append_nil _).symm
  | cons row rest inductionHypothesis =>
      have new : key row ∉ table.rows.map key := by
        intro member
        rw [List.map_append] at distinct
        exact (List.nodup_append.mp distinct).2.2 _ member _
          (List.mem_map_of_mem List.mem_cons_self) rfl
      have stored := rows_insertOrReplace_of_new new
      rw [insertAll_cons, inductionHypothesis, stored, List.append_assoc, List.singleton_append]
      rw [stored, List.append_assoc, List.singleton_append]
      exact distinct

theorem mem_keys_insertOrReplace {table : Table key} {row : α} {wanted : κ} :
    wanted ∈ (table.insertOrReplace row).rows.map key ↔
      wanted ∈ table.rows.map key ∨ wanted = key row := by
  constructor
  · intro member
    obtain ⟨other, stored, rfl⟩ := List.mem_map.mp member
    rcases mem_insertOrReplace.mp stored with ⟨kept, _⟩ | rfl
    · exact .inl (List.mem_map_of_mem kept)
    · exact .inr rfl
  · intro known
    by_cases same : wanted = key row
    · subst same
      exact List.mem_map_of_mem (mem_insertOrReplace.mpr (.inr rfl))
    · obtain ⟨other, stored, rfl⟩ := List.mem_map.mp (known.resolve_right same)
      exact List.mem_map_of_mem (mem_insertOrReplace.mpr (.inl ⟨stored, same⟩))

theorem mem_keys_insertAll {table : Table key} {rows : List α} {wanted : κ} :
    wanted ∈ (table.insertAll rows).rows.map key ↔
      wanted ∈ table.rows.map key ∨ wanted ∈ rows.map key := by
  induction rows generalizing table with
  | nil => simp
  | cons row rest inductionHypothesis =>
      rw [insertAll_cons, inductionHypothesis, mem_keys_insertOrReplace, List.map_cons,
        List.mem_cons, or_assoc]

/-- A table filled with rows has as many as were stored exactly when no two of them
share a key. -/
theorem count_insertAll_empty {rows : List α} :
    ((empty key).insertAll rows).count = rows.length ↔ (rows.map key).Nodup := by
  constructor
  · intro all
    have keys := ((empty key).insertAll rows).keysDistinct
    have within : ((empty key).insertAll rows).rows.map key ⊆ rows.map key := by
      intro wanted member
      simpa using mem_keys_insertAll.mp member
    have long : (rows.map key).length ≤ (((empty key).insertAll rows).rows.map key).length := by
      rw [List.length_map, List.length_map]
      exact Nat.le_of_eq all.symm
    have perm := (keys.subperm within).perm_of_length_le long
    exact perm.nodup_iff.mp keys
  · intro distinct
    exact congrArg List.length (@rows_insertAll _ _ key _ (empty key) _ distinct)

end Table

end Acud.Lib
