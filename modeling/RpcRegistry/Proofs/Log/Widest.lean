import Mathlib.Data.Set.Finite.Basic
import RpcRegistry.Proofs.Log.Order

/-!
The widest threshold of a table of levels, which is handed on as a hint so that more verbose
records need not be asked about one by one. It is the maximum over the rows and the standard level,
while the levels that count are those that targets get. Both are one as long as every row and the
standard level decide about some target: a key governs itself, since whatever else matches it is
shorter, and among infinitely many texts without a colon there is one that is no key.
-/

namespace RpcRegistry.Log

/-- Names without a separator, one for each length. -/
def plainName (count : Nat) : String := String.ofList (List.replicate count 'x')

theorem matchesTarget_self (key : String) : matchesTarget key key = true :=
  (matchesTarget_iff key key).2 (Or.inl rfl)

theorem Governs.self {keys : List String} {key : String} (member : key ∈ keys) :
    Governs keys key key := by
  refine ⟨member, matchesTarget_self key, ?_⟩
  intro other _ matched
  obtain ⟨rest, continues⟩ := prefix_of_matchesTarget matched
  have sizes := utf8ByteSize_of_toList_append continues
  omega

/-- A target of a single segment is matched by itself alone. -/
theorem eq_of_matchesTarget_of_plain {target key : String} (plain : ':' ∉ target.toList)
    (matched : matchesTarget target key = true) : target = key := by
  rcases (matchesTarget_iff target key).1 matched with same | ⟨rest, rfl⟩
  · exact same
  · exact absurd (by simp) plain

theorem plainName_injective : Function.Injective plainName := by
  intro first second same
  have sameLength := congrArg String.length same
  simpa [plainName] using sameLength

theorem colon_not_mem_plainName (count : Nat) : ':' ∉ (plainName count).toList := by
  rw [plainName, String.toList_ofList]
  intro member
  cases List.eq_of_mem_replicate member

/-- However many keys there are, some target is left to the standard answer. -/
theorem exists_unmatched (keys : List String) :
    ∃ target, ∀ key ∈ keys, matchesTarget target key = false := by
  have infinite := Set.infinite_range_of_injective plainName_injective
  obtain ⟨target, ⟨count, rfl⟩, noKey⟩ := infinite.exists_notMem_finset keys.toFinset
  refine ⟨plainName count, ?_⟩
  intro key member
  apply Bool.eq_false_iff.2
  intro matched
  have isKey := eq_of_matchesTarget_of_plain (colon_not_mem_plainName count) matched
  rw [isKey, List.mem_toFinset] at noKey
  exact noKey member

namespace Threshold

theorem wider_eq_or (left right : Threshold) :
    wider left right = left ∨ wider left right = right := by
  unfold wider
  split
  · exact Or.inr rfl
  · exact Or.inl rfl

theorem admits_of_rank_le {left right : Threshold} {level : Level}
    (noMore : rank left ≤ rank right) (admitted : admits left level = true) :
    admits right level = true :=
  decide_eq_true (Nat.le_trans (of_decide_eq_true admitted) noMore)

end Threshold

namespace LevelTable

open Threshold

variable {standard : Threshold} {rows : List (String × Threshold)}

theorem widest_concat (standard : Threshold) (rows : List (String × Threshold))
    (row : String × Threshold) :
    widest ⟨standard, rows ++ [row]⟩ = wider (widest ⟨standard, rows⟩) row.2 := by
  simp only [widest, List.foldl_append, List.foldl_cons, List.foldl_nil]

theorem rank_le_widest (standard : Threshold) (rows : List (String × Threshold)) :
    rank standard ≤ rank (widest ⟨standard, rows⟩) ∧
      ∀ row ∈ rows, rank row.2 ≤ rank (widest ⟨standard, rows⟩) := by
  induction rows using List.reverseRecOn with
  | nil => exact ⟨Nat.le_refl _, fun _ member => nomatch member⟩
  | append_singleton rows last induction =>
      rw [widest_concat, rank_wider]
      constructor
      · exact le_max_of_le_left induction.1
      · intro row member
        rcases List.mem_append.1 member with earlier | isLast
        · exact le_max_of_le_left (induction.2 row earlier)
        · rw [List.mem_singleton.1 isLast]
          exact le_max_right _ _

theorem widest_eq_or (standard : Threshold) (rows : List (String × Threshold)) :
    widest ⟨standard, rows⟩ = standard ∨ ∃ row ∈ rows, widest ⟨standard, rows⟩ = row.2 := by
  induction rows using List.reverseRecOn with
  | nil => exact Or.inl rfl
  | append_singleton rows last induction =>
      rw [widest_concat]
      rcases wider_eq_or (widest ⟨standard, rows⟩) last.2 with isEarlier | isLast
      · rw [isEarlier]
        apply induction.imp_right
        rintro ⟨row, member, same⟩
        exact ⟨row, List.mem_append_left _ member, same⟩
      · exact Or.inr ⟨last, List.mem_append_right _ List.mem_cons_self, isLast⟩

/-- No target has more than the widest threshold, whatever the order of the rows. -/
theorem rank_lookup_le (table : LevelTable) (target : String) :
    rank (table.lookup target) ≤ rank table.widest := by
  unfold ByTarget.lookup
  cases found : table.rows.find? fun row => matchesTarget target row.1 with
  | none => exact (rank_le_widest table.standard table.rows).1
  | some row =>
      exact (rank_le_widest table.standard table.rows).2 row (List.mem_of_find?_eq_some found)

theorem lookup_own_key (distinct : (rows.map Prod.fst).Nodup) {row : String × Threshold}
    (member : row ∈ rows) : (ByTarget.ofRows standard rows).lookup row.1 = row.2 := by
  have ownKey : Governs (rows.map Prod.fst) row.1 row.1 :=
    Governs.self (List.mem_map_of_mem member)
  exact lookup_of_perm distinct (List.Perm.refl rows) ownKey member

end LevelTable

/-- The widest threshold of a table is the maximum of what targets get: the records of no target
pass beyond it, and some target has it. No row is in vain, as each decides about its own key, and
neither is the standard level, as some target matches no key. -/
theorem widest_is_maximum (standard : Threshold) {rows : List (String × Threshold)}
    (distinct : (rows.map Prod.fst).Nodup) :
    let table : LevelTable := .ofRows standard rows
    (∀ target, Threshold.rank (table.lookup target) ≤ Threshold.rank table.widest) ∧
    (∀ target level, table.admits target level = true →
      Threshold.admits table.widest level = true) ∧
    (∃ target, table.lookup target = table.widest) ∧
    (∀ key level, (key, level) ∈ rows → table.lookup key = level) ∧
    ∃ target, (∀ key ∈ rows.map Prod.fst, matchesTarget target key = false) ∧
      table.lookup target = standard := by
  intro table
  have noMore := LevelTable.rank_lookup_le table
  have ownKey : ∀ row ∈ rows, table.lookup row.1 = row.2 :=
    fun row member => LevelTable.lookup_own_key distinct member
  obtain ⟨free, unmatched⟩ := exists_unmatched (rows.map Prod.fst)
  have isStandard : table.lookup free = standard := ByTarget.lookup_ofRows_of_unmatched unmatched
  constructor
  · exact noMore
  constructor
  · intro target level admitted
    exact Threshold.admits_of_rank_le (noMore target) admitted
  constructor
  · rcases LevelTable.widest_eq_or table.standard table.rows with same | ⟨row, member, same⟩
    · refine ⟨free, ?_⟩
      rw [isStandard, ← ByTarget.standard_ofRows standard rows]
      exact same.symm
    · refine ⟨row.1, ?_⟩
      rw [ownKey row ((ByTarget.rows_ofRows_perm standard rows).mem_iff.1 member)]
      exact same.symm
  constructor
  · exact fun key level member => ownKey (key, level) member
  · exact ⟨free, unmatched, isStandard⟩

/-- One module has more than its parent, one has nothing, and the rest has what the default says. -/
def nestedLevels : List (String × Threshold) :=
  [("registrar", some .info), ("registrar::domain", some .trace), ("registrar::config", none)]

theorem widest_nestedLevels :
    let table : LevelTable := .ofRows (some .warn) nestedLevels
    (nestedLevels.map Prod.fst).Nodup ∧ table.widest = some .trace ∧
    (∃ target, table.lookup target = table.widest) ∧
    table.lookup "registrar::config" = none ∧
    table.admits "registrar::domain::mode" .debug = true ∧
    Threshold.admits table.widest .debug = true ∧
    ∃ target, (∀ key ∈ nestedLevels.map Prod.fst, matchesTarget target key = false) ∧
      table.lookup target = some .warn := by
  intro table
  have distinct : (nestedLevels.map Prod.fst).Nodup := by decide
  have admitted : table.admits "registrar::domain::mode" .debug = true := by decide
  obtain ⟨_, hidesNothing, attained, ownKey, standard⟩ :=
    widest_is_maximum (some .warn) distinct
  exact ⟨distinct, by decide, attained, ownKey "registrar::config" none (by decide), admitted,
    hidesNothing "registrar::domain::mode" .debug admitted, standard⟩

end RpcRegistry.Log
