import Mathlib.Data.List.Nodup
import RpcRegistry.Directory.Local
import RpcRegistry.Proofs.Dict

/-!
What a table holds, seen through look-up. An entry is in the table exactly when its key maps to
its endpoint, so inserting and erasing are equations about look-up, and two tables that answer
every look-up alike are one table.
-/

namespace RpcRegistry.Directory

theorem Sorted.nodup_keys {entries : List Entry} (sorted : Sorted entries) :
    (entries.map Prod.fst).Nodup := by
  apply List.pairwise_map.2
  refine List.Pairwise.imp ?_ sorted
  intro left right below same
  rw [same] at below
  exact Nat.lt_irrefl _ below

theorem Sorted.nodup {entries : List Entry} (sorted : Sorted entries) : entries.Nodup :=
  List.Nodup.of_map Prod.fst sorted.nodup_keys

namespace Table

variable {table : Table} {key : Key} {endpoint : Endpoint}

theorem get_eq_some_iff : table.get? key = some endpoint ↔ (key, endpoint) ∈ table.entries :=
  find_key_eq_some_iff table.sorted.nodup_keys

@[simp]
theorem get_empty (key : Key) : empty.get? key = none := rfl

@[simp]
theorem get_insertNew (table : Table) (key other : Key) (endpoint : Endpoint)
    (absent : table.get? key = none) :
    (table.insertNew key endpoint absent).get? other =
      if other = key then some endpoint else table.get? other := by
  refine Option.ext fun found => ?_
  rw [get_eq_some_iff, insertNew, mem_insertEntry, ← get_eq_some_iff]
  by_cases same : other = key
  · subst same
    simp [absent, eq_comm]
  · simp [same]

@[simp]
theorem get_erase (table : Table) (drop : Key → Bool) (key : Key) :
    (table.erase drop).get? key = if drop key then none else table.get? key := by
  refine Option.ext fun found => ?_
  rw [get_eq_some_iff, erase, List.mem_filter, ← get_eq_some_iff]
  cases drop key <;> simp

theorem eq_of_entries {left right : Table} (same : left.entries = right.entries) :
    left = right := by
  cases left
  cases right
  simp_all

/-- A table is determined by what its keys map to. -/
@[ext]
theorem ext {left right : Table} (same : ∀ key, left.get? key = right.get? key) :
    left = right := by
  have members : ∀ entry, entry ∈ left.entries ↔ entry ∈ right.entries := by
    intro (key, endpoint)
    rw [← get_eq_some_iff, ← get_eq_some_iff, same]
  -- Look-ups fix the entries as a set, and sorted lists of one set are one list.
  have permuted : left.entries.Perm right.entries :=
    (List.perm_ext_iff_of_nodup left.sorted.nodup right.sorted.nodup).2 members
  refine eq_of_entries (permuted.eq_of_pairwise ?_ left.sorted right.sorted)
  intro first second _ _ below above
  exact absurd below (Nat.lt_asymm above)

theorem size_erase_eq_iff (table : Table) (drop : Key → Bool) :
    table.size - (table.erase drop).size = 0 ↔ ∀ entry ∈ table.entries, drop entry.1 = false := by
  have atMost : (table.erase drop).size ≤ table.size := List.length_filter_le _ _
  have kept : (table.erase drop).size = table.size ↔
      ∀ entry ∈ table.entries, drop entry.1 = false := by
    simp [erase, size, List.length_filter_eq_length_iff]
  rw [← kept]
  omega

theorem erase_eq_self (table : Table) (drop : Key → Bool)
    (kept : ∀ entry ∈ table.entries, drop entry.1 = false) : table.erase drop = table :=
  eq_of_entries (List.filter_eq_self.2 fun entry member => by simp [kept entry member])

end Table

end RpcRegistry.Directory
