import OctoHubs.Library.Merging

/-! Tables with a partial unique index.
A row is in the index when it has an index key, and no two rows may have the same one. The
index is checked at every single write, so that the order of the writes matters.
-/

namespace OctoHubs.Library

section UniqueIndex

variable {κ ν ι : Type*} [DecidableEq κ] (indexKey : ν → Option ι)

/-- The row is in the index and another row has its index key. -/
def Collides (rows : Dict κ ν) (write : κ × ν) : Prop :=
  ∃ other found,
    rows.get? other = some found
    ∧ other ≠ write.1
    ∧ indexKey found = indexKey write.2
    ∧ (indexKey write.2).isSome = true

/-- The rows with the writes in order, as they are without an index. -/
def overwrite (rows : Dict κ ν) (writes : List (κ × ν)) : Dict κ ν :=
  writes.foldl (fun rows write => rows.set write.1 write.2) rows

/-- No row of the table collides with another one. -/
def Indexed (rows : Dict κ ν) : Prop :=
  ∀ key row, rows.get? key = some row → ¬ Collides indexKey rows (key, row)

theorem get?_overwrite {rows : Dict κ ν} {writes : List (κ × ν)}
    (unique : (writes.map Prod.fst).Nodup) (key : κ)
    : (overwrite rows writes).get? key = (lookupItems key writes).or (rows.get? key) :=
  Dict.get?_foldl_set writes unique rows key

variable {indexKey}

theorem Indexed.set {rows : Dict κ ν} (indexed : Indexed indexKey rows) {write : κ × ν}
    (fits : ¬ Collides indexKey rows write)
    : Indexed indexKey (rows.set write.1 write.2) := by
  rintro key row found ⟨other, otherRow, otherFound, differs, same, present⟩
  rw [Dict.get?_set] at found otherFound
  split at found
  · next isWrite =>
      cases found
      rw [if_neg (isWrite ▸ differs)] at otherFound
      exact fits ⟨other, otherRow, otherFound, isWrite ▸ differs, same, present⟩
  · next notWrite =>
      split at otherFound
      · next isWrite =>
          cases otherFound
          exact fits ⟨key, row, found, notWrite, same.symm, by rw [same]; exact present⟩
      · exact indexed key row found ⟨other, otherRow, otherFound, differs, same, present⟩

variable [DecidableEq ι]

variable (indexKey) in
def collides (rows : Dict κ ν) (write : κ × ν) : Bool :=
  rows.items.any (fun item =>
    item.1 ≠ write.1 && indexKey item.2 = indexKey write.2 && (indexKey write.2).isSome)

theorem collides_iff {rows : Dict κ ν} {write : κ × ν}
    : collides indexKey rows write = true ↔ Collides indexKey rows write := by
  unfold collides Collides
  simp only [List.any_eq_true, Prod.exists, Bool.and_eq_true, decide_eq_true_eq,
    Dict.mem_items_iff, and_assoc]

variable (indexKey) in
def writeRow (rows : Dict κ ν) (write : κ × ν) : Option (Dict κ ν) :=
  if collides indexKey rows write then none else some (rows.set write.1 write.2)

variable (indexKey) in
def writeAll (rows : Dict κ ν) (writes : List (κ × ν)) : Option (Dict κ ν) :=
  writes.foldlM (writeRow indexKey) rows

theorem writeRow_eq_some_iff {rows next : Dict κ ν} {write : κ × ν}
    : writeRow indexKey rows write = some next
      ↔ ¬ Collides indexKey rows write ∧ next = rows.set write.1 write.2 := by
  unfold writeRow
  rw [← collides_iff]
  cases collides indexKey rows write with
  | true => simp
  | false =>
      simp only [Bool.false_eq_true, if_false, Option.some.injEq, not_false_eq_true, true_and]
      exact eq_comm

/-- Writes succeed exactly when none collides with the rows at its time, by induction on the
writes.
-/
theorem writeAll_eq_some_iff {rows next : Dict κ ν} {writes : List (κ × ν)}
    : writeAll indexKey rows writes = some next
      ↔ (∀ before write after,
          writes = before ++ write :: after
          → ¬ Collides indexKey (overwrite rows before) write)
        ∧ next = overwrite rows writes := by
  induction writes generalizing rows with
  | nil =>
      constructor
      · intro written
        cases written
        exact ⟨by simp, rfl⟩
      · rintro ⟨-, rfl⟩
        rfl
  | cons first rest ih =>
      have unfolded
          : writeAll indexKey rows (first :: rest)
            = (writeRow indexKey rows first).bind (writeAll indexKey · rest) := rfl
      rw [unfolded, Option.bind_eq_some_iff]
      simp only [writeRow_eq_some_iff, ih]
      constructor
      · rintro ⟨middle, ⟨fits, rfl⟩, later, rfl⟩
        refine ⟨?_, rfl⟩
        rintro before write after split
        cases before with
        | nil =>
            cases split
            exact fits
        | cons head before =>
            cases split
            exact later before write after rfl
      · rintro ⟨fits, rfl⟩
        refine ⟨_, ⟨fits [] first rest rfl, rfl⟩, ?_, rfl⟩
        rintro before write after rfl
        exact fits (first :: before) write after rfl

theorem writeAll_of_unindexed {rows : Dict κ ν} {writes : List (κ × ν)}
    (outside : ∀ write ∈ writes, indexKey write.2 = none)
    : writeAll indexKey rows writes = some (overwrite rows writes) := by
  rw [writeAll_eq_some_iff]
  refine ⟨?_, rfl⟩
  rintro before write after rfl ⟨other, found, -, -, -, present⟩
  rw [outside write (by simp)] at present
  cases present

end UniqueIndex

end OctoHubs.Library
