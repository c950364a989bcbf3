import RpcRegistry.Log.Sinks
import RpcRegistry.Proofs.Log.ByTarget

/-!
Tables of targets in any order. Distinct keys have one order that the rows of a table can stand in,
so a table is the same whatever order its rows were added in, and whether they were put in place
one by one, sorted again after each, or sorted once at the end. What it answers is then said by
its keys alone: the longest one that a target names or lies below decides.
-/

namespace RpcRegistry.Log

/-- Where a segment may end: at the end of the text, or before a separator. -/
def Border (rest : List Char) : Prop := rest = [] ∨ ∃ below, rest = ':' :: ':' :: below

theorem governs_iff (key target : List Char) :
    governs key target = true ↔ ∃ rest, key ++ rest = target ∧ Border rest := by
  have atBorder : ∀ rest : List Char,
      (decide (rest = []) || rest.take 2 = [':', ':']) = true ↔ Border rest := by
    intro rest
    match rest with
    | [] => simp [Border]
    | [first] => simp [Border]
    | first :: second :: below => simp [Border]
  unfold governs
  cases found : key.isPrefixOf? target with
  | none =>
      simp only [Bool.false_eq_true, false_iff, not_exists, not_and]
      intro rest continues
      rw [List.isPrefixOf?_eq_some_iff_append_eq.2 continues] at found
      cases found
  | some rest =>
      have continues := List.isPrefixOf?_eq_some_iff_append_eq.1 found
      rw [atBorder]
      constructor
      · intro border
        exact ⟨rest, continues, border⟩
      · rintro ⟨other, otherContinues, border⟩
        rw [← continues] at otherContinues
        rwa [List.append_cancel_left otherContinues] at border

/-- A key matches the targets that it names or that go on behind it with two colons. -/
theorem matchesTarget_iff (target key : String) :
    matchesTarget target key = true ↔ target = key ∨ ∃ rest, target = key ++ "::" ++ rest := by
  rw [matchesTarget, governs_iff]
  constructor
  · rintro ⟨rest, continues, rfl | ⟨below, rfl⟩⟩
    · left
      apply String.toList_inj.1
      rw [← continues, List.append_nil]
    · right
      refine ⟨String.ofList below, String.toList_inj.1 ?_⟩
      rw [← continues]
      simp
  · rintro (rfl | ⟨rest, rfl⟩)
    · exact ⟨[], List.append_nil _, Or.inl rfl⟩
    · exact ⟨':' :: ':' :: rest.toList, by simp, Or.inr ⟨_, rfl⟩⟩

namespace ByTarget

variable {α : Type} {rows order : List (String × α)}

def mayPrecede (left right : String × α) : Bool := !precedes right.1 left.1

def sortedOnce (standard : α) (rows : List (String × α)) : ByTarget α :=
  ⟨standard, rows.mergeSort mayPrecede⟩

/-- Appends a row and puts all rows in order again. -/
def resort (table : ByTarget α) (row : String × α) : ByTarget α :=
  sortedOnce table.standard (table.rows ++ [row])

theorem mayPrecede_iff (left right : String × α) :
    mayPrecede left right = true ↔ precedes right.1 left.1 = false := by
  rw [mayPrecede, Bool.not_eq_true']

theorem ordered_mergeSort (rows : List (String × α)) : Ordered (rows.mergeSort mayPrecede) := by
  have sorted : (rows.mergeSort mayPrecede).Pairwise fun left right =>
      mayPrecede left right = true := by
    apply List.pairwise_mergeSort
    · intro first second third left right
      rw [mayPrecede_iff] at left right ⊢
      exact not_precedes_trans left right
    · intro left right
      cases before : precedes left.1 right.1 with
      | true => simp [mayPrecede, precedes_asymm before]
      | false => simp [mayPrecede, before]
  apply sorted.imp
  intro left right may
  exact (mayPrecede_iff left right).1 may

theorem eq_of_not_precedes {left right : String} (noLater : precedes right left = false)
    (noEarlier : precedes left right = false) : left = right := by
  simp only [precedes, Bool.or_eq_false_iff, Bool.and_eq_false_iff,
    decide_eq_false_iff_not] at noLater noEarlier
  have rightNotLess := noLater.2.resolve_left (by omega)
  have leftNotLess := noEarlier.2.resolve_left (by omega)
  exact String.le_antisymm (String.not_lt.1 rightNotLess) (String.not_lt.1 leftNotLess)

/-- Rows with distinct keys can be put in order in one way only. -/
theorem Ordered.eq_of_perm (distinct : (rows.map Prod.fst).Nodup) (left : Ordered rows)
    (right : Ordered order) (reordered : order.Perm rows) : order = rows := by
  apply reordered.eq_of_pairwise _ right left
  intro first second firstMember secondMember noLater noEarlier
  apply List.inj_on_of_nodup_map distinct (reordered.mem_iff.1 firstMember) secondMember
  exact eq_of_not_precedes noLater noEarlier

theorem eq_of_rows {left right : ByTarget α} (standard : left.standard = right.standard)
    (rows : left.rows = right.rows) : left = right := by
  cases left
  cases right
  simp_all

theorem sortedOnce_of_perm (standard : α) (distinct : (rows.map Prod.fst).Nodup)
    (reordered : order.Perm rows) : sortedOnce standard order = sortedOnce standard rows := by
  apply congrArg (ByTarget.mk standard)
  have sortedKeys := ((rows.mergeSort_perm mayPrecede).map Prod.fst).nodup_iff.2 distinct
  apply Ordered.eq_of_perm sortedKeys (ordered_mergeSort rows) (ordered_mergeSort order)
  exact (order.mergeSort_perm _).trans (reordered.trans (rows.mergeSort_perm _).symm)

theorem ofRows_eq_sortedOnce (standard : α) (distinct : (rows.map Prod.fst).Nodup) :
    ofRows standard rows = sortedOnce standard rows := by
  apply eq_of_rows (standard_ofRows standard rows)
  have sortedKeys := ((rows.mergeSort_perm mayPrecede).map Prod.fst).nodup_iff.2 distinct
  apply Ordered.eq_of_perm sortedKeys (ordered_mergeSort rows) (ordered_ofRows standard rows)
  exact (rows_ofRows_perm standard rows).trans (rows.mergeSort_perm _).symm

/-- Sorting after every row that is added comes to the same as sorting once. -/
theorem foldl_resort (standard : α) (distinct : (rows.map Prod.fst).Nodup) :
    rows.foldl resort (ofStandard standard) = sortedOnce standard rows := by
  induction rows using List.reverseRecOn with
  | nil => simp [sortedOnce, ofStandard]
  | append_singleton rows row induction =>
      rw [List.map_append, List.nodup_append'] at distinct
      rw [List.foldl_append, List.foldl_cons, List.foldl_nil, induction distinct.1, resort]
      apply sortedOnce_of_perm
      · rw [List.map_append, List.nodup_append']
        exact distinct
      · exact (rows.mergeSort_perm mayPrecede).append_right [row]

end ByTarget

def routes (opened : List String) : List (String × Option String) :=
  (opened.filter (· ≠ Settings.defaultKey)).map fun key => (key, some key)

theorem router_of_perm {opened order : List String} (reordered : order.Perm opened) :
    router order =
      .ofRows (if Settings.defaultKey ∈ opened then some Settings.defaultKey else none)
        (routes order) := by
  simp only [router, routes, List.contains_iff_mem, reordered.mem_iff]

section Lookup

variable {α : Type} {standard : α} {rows order : List (String × α)} {target key : String}

theorem lookup_of_perm (distinct : (rows.map Prod.fst).Nodup) (reordered : order.Perm rows)
    {value : α} (governs : Governs (rows.map Prod.fst) target key) (row : (key, value) ∈ rows) :
    (ByTarget.ofRows standard order).lookup target = value := by
  have sameKeys := reordered.map Prod.fst
  apply ByTarget.lookup_ofRows_of_governs
  · exact governs.of_subset sameKeys.subset (sameKeys.mem_iff.2 governs.member)
  · intro other member sameKey
    have same := List.inj_on_of_nodup_map distinct (reordered.mem_iff.1 member) row sameKey
    rw [same]

theorem lookup_of_perm_unmatched (reordered : order.Perm rows)
    (unmatched : ∀ key ∈ rows.map Prod.fst, matchesTarget target key = false) :
    (ByTarget.ofRows standard order).lookup target = standard := by
  apply ByTarget.lookup_ofRows_of_unmatched
  intro key member
  exact unmatched key ((reordered.map Prod.fst).mem_iff.1 member)

end Lookup

/-- For each target at most one key is the longest that matches. In whatever order the keys come,
the router gives that key's file and a table of levels that key's level, and what no key matches
is left to the default; all ways of keeping the rows in order come to one table. -/
theorem longest_key_decides (target : String) :
    (∀ key, matchesTarget target key = true ↔
      target = key ∨ ∃ rest, target = key ++ "::" ++ rest) ∧
    (∀ keys : List String, (∃ key ∈ keys, matchesTarget target key = true) →
      ∃! key, Governs keys target key) ∧
    (∀ opened order : List String, opened.Nodup → order.Perm opened →
      let keys := opened.filter (· ≠ Settings.defaultKey)
      let standard := if Settings.defaultKey ∈ opened then some Settings.defaultKey else none
      router order = .sortedOnce standard (keys.map fun key => (key, some key)) ∧
        (∀ key, Governs keys target key → (router order).lookup target = some key) ∧
        ((∀ key ∈ keys, matchesTarget target key = false) →
          (router order).lookup target = standard)) ∧
    ∀ (standard : Threshold) (rows order : List (String × Threshold)),
      (rows.map Prod.fst).Nodup → order.Perm rows →
      let keys := rows.map Prod.fst
      let table : LevelTable := .ofRows standard order
      table = .sortedOnce standard rows ∧ table = order.foldl .resort (.ofStandard standard) ∧
        (∀ key level, Governs keys target key → (key, level) ∈ rows →
          table.lookup target = level) ∧
        ((∀ key ∈ keys, matchesTarget target key = false) → table.lookup target = standard) := by
  constructor
  · exact matchesTarget_iff target
  constructor
  · rintro keys ⟨other, member, matched⟩
    obtain ⟨key, governs⟩ := Governs.exists_of_matches member matched
    exact ⟨key, governs, fun rival rivalGoverns => rivalGoverns.unique governs⟩
  constructor
  · intro opened order distinct reordered keys standard
    have routed := router_of_perm reordered
    have reroute : (routes order).Perm (routes opened) := (reordered.filter _).map _
    have distinctRoutes : ((routes opened).map Prod.fst).Nodup := by
      rw [routes, ByTarget.keys_selves]
      exact distinct.filter _
    have distinctOrder := (reroute.map Prod.fst).nodup_iff.2 distinctRoutes
    rw [routed]
    constructor
    · rw [ByTarget.ofRows_eq_sortedOnce _ distinctOrder]
      exact ByTarget.sortedOnce_of_perm _ distinctRoutes reroute
    constructor
    · intro key governs
      apply lookup_of_perm distinctRoutes reroute
      · rw [routes, ByTarget.keys_selves]
        exact governs
      · exact List.mem_map_of_mem governs.member
    · intro unmatched
      apply lookup_of_perm_unmatched reroute
      rw [routes, ByTarget.keys_selves]
      exact unmatched
  · intro standard rows order distinct reordered keys table
    have distinctOrder := (reordered.map Prod.fst).nodup_iff.2 distinct
    have onceOrder : table = .sortedOnce standard order :=
      ByTarget.ofRows_eq_sortedOnce standard distinctOrder
    constructor
    · rw [onceOrder]
      exact ByTarget.sortedOnce_of_perm standard distinct reordered
    constructor
    · rw [onceOrder, ByTarget.foldl_resort standard distinctOrder]
    constructor
    · intro key level governs row
      exact lookup_of_perm distinct reordered governs row
    · intro unmatched
      exact lookup_of_perm_unmatched reordered unmatched

end RpcRegistry.Log
