import Mathlib.Data.List.Nodup
import Mathlib.Data.List.Sort

/-!
# Keyed tables

Rows in the order of their insertion, no two with the same key. A change of rows
keeps their keys and their places, so that reading after a change is changing what
was read.

A map of a process and a table of a database are written to and put in order in
terms of their own: a map replaces the value of a key, a table sets columns of the
row in conflict; an array is sorted by a comparison of two values, a query by a
column. Setting all columns is replacing, and comparing a column is ordering by it.
-/

namespace GPay.Tables

universe u v
variable {ρ : Type u} {κ : Type v}

/-- A row is found by its key when no other row has it. -/
theorem find_row [DecidableEq κ] {key : ρ → κ} {rows : List ρ} (distinct : (rows.map key).Nodup)
    {row : ρ} (member : row ∈ rows) : rows.find? (fun other => key other = key row) = some row := by
  obtain ⟨other, found⟩ : ∃ other, rows.find? (fun other => key other = key row) = some other :=
    Option.isSome_iff_exists.mp (List.find?_isSome.mpr ⟨row, member, by simp⟩)
  have keyed : key other = key row := by simpa using List.find?_some found
  rw [found, List.inj_on_of_nodup_map distinct (List.mem_of_find?_eq_some found) member keyed]

/-- Looking a key up among some of the rows is looking it up and asking whether the row
is one of them. -/
theorem find_filter [DecidableEq κ] {key : ρ → κ} {rows : List ρ} (distinct : (rows.map key).Nodup)
    (kept : ρ → Bool) (id : κ) : (rows.filter kept).find? (fun row => key row = id) =
      (rows.find? (fun row => key row = id)).filter kept := by
  cases found : rows.find? (fun row => key row = id) with
  | none =>
    have absent := List.find?_eq_none.mp found
    exact List.find?_eq_none.mpr (fun row member => absent row (List.mem_of_mem_filter member))
  | some row =>
    have member := List.mem_of_find?_eq_some found
    have keyed : key row = id := by simpa using List.find?_some found
    cases keeps : kept row with
    | true =>
      have inside : row ∈ rows.filter kept := List.mem_filter.mpr ⟨member, keeps⟩
      have filtered :=
        find_row (distinct.sublist ((rows.filter_sublist (p := kept)).map key)) inside
      rw [keyed] at filtered
      rw [filtered, Option.filter_some_pos keeps]
    | false =>
      rw [Option.filter_some_neg keeps, List.find?_eq_none]
      intro other listed
      have inside := List.mem_filter.mp listed
      have differs : other ≠ row := fun same => by simp [same, keeps] at inside
      simpa using fun same => differs
        (List.inj_on_of_nodup_map distinct inside.1 member (same.trans keyed.symm))

/-- The rows of a table in the order of their insertion. The key of a row is a part of
the row, and no two rows have the same. -/
structure Table (ρ : Type u) {κ : Type v} (key : ρ → κ) where
  rows : List ρ
  distinct : (rows.map key).Nodup

namespace Table

variable {key : ρ → κ}

/-- A table is its rows: what else it carries is a proof. -/
@[ext] theorem ext {left right : Table ρ key} (same : left.rows = right.rows) : left = right := by
  cases left
  cases right
  congr

/-- The table without rows. -/
def empty : Table ρ key := ⟨[], List.nodup_nil⟩

/-- Change rows without changing their keys. -/
def modify (table : Table ρ key) (change : ρ → ρ) (kept : ∀ row, key (change row) = key row) :
    Table ρ key where
  rows := table.rows.map change
  distinct := by
    have same : (table.rows.map change).map key = table.rows.map key := by
      rw [List.map_map]
      exact List.map_congr_left (fun row _ => kept row)
    rw [same]
    exact table.distinct

/-- Add a row with a key of its own behind the others. -/
def insert (table : Table ρ key) (row : ρ) (fresh : key row ∉ table.rows.map key) :
    Table ρ key where
  rows := table.rows ++ [row]
  distinct := by
    rw [List.map_append, List.nodup_append]
    refine ⟨table.distinct, by simp, ?_⟩
    intro left inside right last same
    rw [List.map_singleton, List.mem_singleton] at last
    exact fresh (last ▸ same ▸ inside)

/-- Rows with one key are one row. -/
theorem unique (table : Table ρ key) {left right : ρ} (inLeft : left ∈ table.rows)
    (inRight : right ∈ table.rows) (same : key left = key right) : left = right :=
  List.inj_on_of_nodup_map table.distinct inLeft inRight same

variable [DecidableEq κ]

/-- The row with the given key. -/
def get (table : Table ρ key) (id : κ) : Option ρ := table.rows.find? (fun row => key row = id)

/-- `map.set(key, row)`: the row with the same key is replaced in its place, and a row
with a new key goes behind the others. -/
def put (table : Table ρ key) (row : ρ) : Table ρ key :=
  if present : key row ∈ table.rows.map key then
    table.modify (fun old => if key old = key row then row else old)
      (by intro old; split <;> simp_all)
  else table.insert row present

/-- `INSERT … ON CONFLICT (key) DO UPDATE SET …`: columns of the row with the same key
are set, and a row in conflict with none goes behind the others. -/
def upsert (table : Table ρ key) (row : ρ) (set : ρ → ρ) (kept : ∀ old, key (set old) = key old) :
    Table ρ key :=
  if conflict : key row ∈ table.rows.map key then
    table.modify (fun old => if key old = key row then set old else old)
      (by intro old; split <;> simp [kept])
  else table.insert row conflict

/-- Where the columns that are set are all columns but the key, the row in conflict is
replaced. -/
theorem upsert_eq_put (table : Table ρ key) {row : ρ} {set : ρ → ρ}
    (kept : ∀ old, key (set old) = key old) (all : ∀ old, key old = key row → set old = row) :
    table.upsert row set kept = table.put row := by
  apply ext
  unfold upsert put
  split
  · show table.rows.map _ = table.rows.map _
    apply List.map_congr_left
    intro old _
    split
    · rename_i same
      exact all old same
    · rfl
  · rfl

/-- A row is looked up if and only if it is stored under the key. -/
theorem get_eq_some_iff (table : Table ρ key) {id : κ} {row : ρ} :
    table.get id = some row ↔ row ∈ table.rows ∧ key row = id := by
  constructor
  · intro found
    exact ⟨List.mem_of_find?_eq_some found, by simpa using List.find?_some found⟩
  · rintro ⟨member, rfl⟩
    exact find_row table.distinct member

/-- Nothing is looked up if and only if no row has the key. -/
theorem get_eq_none_iff (table : Table ρ key) {id : κ} :
    table.get id = none ↔ id ∉ table.rows.map key := by
  rw [get, List.find?_eq_none]
  simp [eq_comm]

end Table

section Order

/-- `array.sort(compare)`: what compares as less comes first, and the sort is stable. -/
def sortBy (compare : ρ → ρ → Int) (rows : List ρ) : List ρ :=
  rows.insertionSort (fun left right => compare left right ≤ 0)

/-- `ORDER BY column DESC`. A query leaves the order of rows with one value open; here it
is the order in which they were inserted. -/
def orderByDesc (column : ρ → Int) (rows : List ρ) : List ρ :=
  rows.insertionSort (fun left right => column right ≤ column left)

/-- Comparing by the difference of a column, the later value first, is ordering by it. -/
theorem sort_by_difference (column : ρ → Int) (rows : List ρ) :
    sortBy (fun left right => column right - column left) rows = orderByDesc column rows := by
  have sorted := List.map_insertionSort (fun left right : ρ => column right - column left ≤ 0)
    (fun left right => column right ≤ column left) id rows
    (fun left _ right _ => by simp only [id_eq]; omega)
  rwa [List.map_id, List.map_id] at sorted

end Order

end GPay.Tables
