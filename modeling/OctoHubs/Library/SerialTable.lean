import OctoHubs.Library.Dict

/-! Tables whose rows get their ids from a sequence.
An id is given out once: every stored one is below the next one.
-/

namespace OctoHubs.Library

structure SerialTable (ν : Type*) where
  rows : Dict Nat ν
  nextId : Nat
  below : ∀ id, (rows.get? id).isSome = true → id < nextId

namespace SerialTable

variable {ν : Type*}

def empty : SerialTable ν where
  rows := ∅
  nextId := 1
  below _ found := nomatch found

instance : EmptyCollection (SerialTable ν) := ⟨empty⟩

theorem below_set (table : SerialTable ν) (row : ν) (id : Nat)
    (found : ((table.rows.set table.nextId row).get? id).isSome = true)
    : id < table.nextId + 1 := by
  rw [Dict.get?_set] at found
  split at found
  · next same => exact same ▸ Nat.lt_succ_self id
  · exact Nat.lt_succ_of_lt (table.below id found)

/-- Append a row under the next id. -/
def insert (table : SerialTable ν) (row : ν) : SerialTable ν where
  rows := table.rows.set table.nextId row
  nextId := table.nextId + 1
  below := table.below_set row

/-- Change rows in place. -/
def modify (table : SerialTable ν) (change : Nat → ν → ν) : SerialTable ν where
  rows := table.rows.map change
  nextId := table.nextId
  below id found := by
    rw [Dict.get?_map, Option.isSome_map] at found
    exact table.below id found

/-- Delete the rows that match. -/
def delete (table : SerialTable ν) (removes : Nat → ν → Bool) : SerialTable ν where
  rows := table.rows.filter (fun id row => !removes id row)
  nextId := table.nextId
  below id found := by
    rw [Dict.get?_filter] at found
    exact table.below id (Option.isSome_of_isSome_filter _ _ found)

variable (table : SerialTable ν) (id : Nat)

def get? : Option ν := table.rows.get? id

theorem get?_insert (row : ν)
    : (table.insert row).get? id = if id = table.nextId then some row else table.get? id :=
  Dict.get?_set table.rows table.nextId id row

theorem get?_modify (change : Nat → ν → ν)
    : (table.modify change).get? id = (table.get? id).map (change id) :=
  Dict.get?_map table.rows change id

theorem get?_delete (removes : Nat → ν → Bool)
    : (table.delete removes).get? id = (table.get? id).filter (fun row => !removes id row) :=
  Dict.get?_filter table.rows (fun id row => !removes id row) id

end SerialTable

end OctoHubs.Library
