import Mathlib.Data.Finset.Max
import Mathlib.Data.List.Infix
import RpcRegistry.Log.ByTarget

/-!
What a table answers for a target. Two keys that both match a target are paths to it, so one of
them continues the other and they are one key as soon as they have one length: of the keys that
match, a single one is longest. The rows of a table stand by falling length, so the first row
that matches is the row of that key.
-/

namespace RpcRegistry.Log

theorem prefix_of_matchesTarget {target key : String} (matched : matchesTarget target key = true) :
    key.toList <+: target.toList := by
  unfold matchesTarget governs at matched
  split at matched
  · rename_i rest found
    exact ⟨rest, (List.isPrefixOf?_eq_some_iff_append_eq.1 found)⟩
  · cases matched

theorem utf8ByteSize_of_toList_append {long short : String} {rest : List Char}
    (continues : short.toList ++ rest = long.toList) :
    long.utf8ByteSize = short.utf8ByteSize + (String.ofList rest).utf8ByteSize := by
  have joined : long = short ++ String.ofList rest := by
    apply String.toList_inj.1
    rw [String.toList_append, String.toList_ofList, continues]
  rw [joined, String.utf8ByteSize_append]

theorem eq_of_prefix_of_utf8ByteSize {long short : String}
    (continues : short.toList <+: long.toList)
    (noLonger : long.utf8ByteSize ≤ short.utf8ByteSize) : short = long := by
  obtain ⟨rest, continues⟩ := continues
  have sizes := utf8ByteSize_of_toList_append continues
  have nothingLeft : (String.ofList rest).utf8ByteSize = 0 := by omega
  have noRest : rest = [] := by
    have empty := String.utf8ByteSize_eq_zero_iff.1 nothingLeft
    simpa using congrArg String.toList empty
  apply String.toList_inj.1
  rw [← continues, noRest, List.append_nil]

theorem eq_of_matchesTarget {target left right : String}
    (leftMatches : matchesTarget target left = true)
    (rightMatches : matchesTarget target right = true)
    (sameSize : left.utf8ByteSize = right.utf8ByteSize) : left = right := by
  have leftPath := prefix_of_matchesTarget leftMatches
  have rightPath := prefix_of_matchesTarget rightMatches
  rcases List.prefix_or_prefix_of_prefix leftPath rightPath with continues | continues
  · exact eq_of_prefix_of_utf8ByteSize continues sameSize.ge
  · exact (eq_of_prefix_of_utf8ByteSize continues sameSize.le).symm

/-- Of some keys the one that decides about a target: the longest that names it or a path above
it. -/
structure Governs (keys : List String) (target key : String) : Prop where
  member : key ∈ keys
  matched : matchesTarget target key = true
  longest : ∀ other ∈ keys, matchesTarget target other = true →
    other.utf8ByteSize ≤ key.utf8ByteSize

namespace Governs

variable {keys fewer : List String} {target key other : String}

theorem unique (left : Governs keys target key) (right : Governs keys target other) :
    key = other := by
  have leftNoLonger := right.longest key left.member left.matched
  have rightNoLonger := left.longest other right.member right.matched
  exact eq_of_matchesTarget left.matched right.matched (by omega)

theorem exists_of_matches (member : other ∈ keys) (matched : matchesTarget target other = true) :
    ∃ key, Governs keys target key := by
  let candidates := (keys.filter (matchesTarget target)).toFinset
  have isCandidate : ∀ candidate, candidate ∈ candidates ↔
      candidate ∈ keys ∧ matchesTarget target candidate = true := by
    intro candidate
    rw [List.mem_toFinset, List.mem_filter]
  have nonempty : candidates.Nonempty := ⟨other, (isCandidate other).2 ⟨member, matched⟩⟩
  obtain ⟨key, chosen, longest⟩ := candidates.exists_max_image String.utf8ByteSize nonempty
  obtain ⟨member, matched⟩ := (isCandidate key).1 chosen
  refine ⟨key, member, matched, ?_⟩
  intro rival rivalMember rivalMatched
  exact longest rival ((isCandidate rival).2 ⟨rivalMember, rivalMatched⟩)

/-- A key that is still there governs whatever it governed among more keys. -/
theorem of_subset (governs : Governs keys target key) (fewerKeys : fewer ⊆ keys)
    (member : key ∈ fewer) : Governs fewer target key :=
  ⟨member, governs.matched, fun rival rivalMember rivalMatched =>
    governs.longest rival (fewerKeys rivalMember) rivalMatched⟩

end Governs

namespace ByTarget

variable {α : Type} {rows : List (String × α)} {standard : α}

def Falling (rows : List (String × α)) : Prop :=
  rows.Pairwise fun earlier later => later.1.utf8ByteSize ≤ earlier.1.utf8ByteSize

def Ordered (rows : List (String × α)) : Prop :=
  rows.Pairwise fun earlier later => precedes later.1 earlier.1 = false

theorem insertRow_perm (row : String × α) (rows : List (String × α)) :
    (insertRow row rows).Perm (row :: rows) := by
  induction rows with
  | nil => exact List.Perm.refl _
  | cons head rest induction =>
      unfold insertRow
      split
      · exact List.Perm.refl _
      · exact (induction.cons head).trans (List.Perm.swap row head rest)

theorem precedes_asymm {left right : String} (before : precedes left right = true) :
    precedes right left = false := by
  simp only [precedes, Bool.or_eq_true, Bool.and_eq_true, decide_eq_true_eq] at before
  simp only [precedes, Bool.or_eq_false_iff, Bool.and_eq_false_iff, decide_eq_false_iff_not]
  rcases before with longer | ⟨sameSize, smaller⟩
  · constructor <;> omega
  · exact ⟨by omega, Or.inr (String.lt_asymm smaller)⟩

theorem not_precedes_trans {first second third : String}
    (left : precedes second first = false) (right : precedes third second = false) :
    precedes third first = false := by
  simp only [precedes, Bool.or_eq_false_iff, Bool.and_eq_false_iff,
    decide_eq_false_iff_not] at left right ⊢
  constructor
  · omega
  by_cases sameSize : third.utf8ByteSize = first.utf8ByteSize
  · have leftOrder := left.2.resolve_left (by omega)
    have rightOrder := right.2.resolve_left (by omega)
    exact Or.inr (String.not_lt.2 (String.le_trans (String.not_lt.1 leftOrder)
      (String.not_lt.1 rightOrder)))
  · exact Or.inl sameSize

theorem utf8ByteSize_of_not_precedes {left right : String} (behind : precedes left right = false) :
    left.utf8ByteSize ≤ right.utf8ByteSize := by
  simp only [precedes, Bool.or_eq_false_iff, decide_eq_false_iff_not] at behind
  omega

theorem Ordered.falling (ordered : Ordered rows) : Falling rows :=
  ordered.imp utf8ByteSize_of_not_precedes

theorem ordered_insertRow (row : String × α) (ordered : Ordered rows) :
    Ordered (insertRow row rows) := by
  induction rows with
  | nil => exact List.pairwise_singleton _ _
  | cons head rest induction =>
      obtain ⟨headFirst, restOrdered⟩ := List.pairwise_cons.1 ordered
      unfold insertRow
      split
      · rename_i before
        apply List.Pairwise.cons _ ordered
        intro later member
        rcases List.mem_cons.1 member with rfl | member
        · exact precedes_asymm before
        · exact not_precedes_trans (precedes_asymm before) (headFirst later member)
      · rename_i behind
        apply List.Pairwise.cons _ (induction restOrdered)
        intro later member
        rcases List.mem_cons.1 ((insertRow_perm row rest).mem_iff.1 member) with rfl | member
        · exact Bool.eq_false_iff.2 behind
        · exact headFirst later member

theorem ofRows_concat (standard : α) (rows : List (String × α)) (row : String × α) :
    ofRows standard (rows ++ [row]) = (ofRows standard rows).insert row.1 row.2 := by
  simp only [ofRows, List.foldl_append, List.foldl_cons, List.foldl_nil]

@[simp]
theorem standard_ofRows (standard : α) (rows : List (String × α)) :
    (ofRows standard rows).standard = standard := by
  induction rows using List.reverseRecOn with
  | nil => rfl
  | append_singleton rows row induction =>
      rw [ofRows_concat]
      exact induction

theorem rows_ofRows_perm (standard : α) (rows : List (String × α)) :
    (ofRows standard rows).rows.Perm rows := by
  induction rows using List.reverseRecOn with
  | nil => exact List.Perm.refl _
  | append_singleton rows row induction =>
      rw [ofRows_concat]
      have added := insertRow_perm row (ofRows standard rows).rows
      exact added.trans ((induction.cons row).trans (List.perm_append_singleton row rows).symm)

theorem ordered_ofRows (standard : α) (rows : List (String × α)) :
    Ordered (ofRows standard rows).rows := by
  induction rows using List.reverseRecOn with
  | nil => exact List.Pairwise.nil
  | append_singleton rows row induction =>
      rw [ofRows_concat]
      exact ordered_insertRow row induction

/-- In falling rows the first match has the longest key that matches. -/
theorem governs_of_find {target : String} {row : String × α} (falling : Falling rows)
    (found : rows.find? (fun row => matchesTarget target row.1) = some row) :
    Governs (rows.map Prod.fst) target row.1 := by
  obtain ⟨matched, before, after, split, earlierFail⟩ := List.find?_eq_some_iff_append.1 found
  subst split
  refine ⟨List.mem_map_of_mem (by simp), matched, ?_⟩
  intro rival member rivalMatched
  obtain ⟨other, otherMember, rfl⟩ := List.mem_map.1 member
  rcases List.mem_append.1 otherMember with early | late
  · have failed := earlierFail other early
    rw [rivalMatched] at failed
    cases failed
  · have rowLongest := List.pairwise_cons.1 (List.pairwise_append.1 falling).2.1
    rcases List.mem_cons.1 late with rfl | later
    · exact le_rfl
    · exact rowLongest.1 other later

theorem keys_selves (keys : List String) :
    (keys.map fun key => (key, some key)).map Prod.fst = keys := by
  rw [List.map_map]
  exact List.map_id keys

/-- The governing key decides what a table answers, as long as all its rows say the same. -/
theorem lookup_ofRows_of_governs {target key : String} {value : α}
    (governs : Governs (rows.map Prod.fst) target key)
    (said : ∀ row ∈ rows, row.1 = key → row.2 = value) :
    (ofRows standard rows).lookup target = value := by
  have sameRows := rows_ofRows_perm standard rows
  unfold lookup
  cases found : (ofRows standard rows).rows.find? fun row => matchesTarget target row.1 with
  | none =>
      obtain ⟨row, member, rfl⟩ := List.mem_map.1 governs.member
      have unmatched := List.find?_eq_none.1 found row (sameRows.mem_iff.2 member)
      exact absurd governs.matched unmatched
  | some row =>
      have rowGoverns := governs_of_find (ordered_ofRows standard rows).falling found
      have rowMember := sameRows.mem_iff.1 (List.mem_of_find?_eq_some found)
      have keySame := Governs.unique governs
        (rowGoverns.of_subset (sameRows.map Prod.fst).symm.subset (List.mem_map_of_mem rowMember))
      exact said row rowMember keySame.symm

theorem lookup_ofRows_of_unmatched {target : String}
    (unmatched : ∀ key ∈ rows.map Prod.fst, matchesTarget target key = false) :
    (ofRows standard rows).lookup target = standard := by
  have noRow :
      (ofRows standard rows).rows.find? (fun row => matchesTarget target row.1) = none := by
    apply List.find?_eq_none.2
    intro row member
    have among := (rows_ofRows_perm standard rows).mem_iff.1 member
    rw [unmatched row.1 (List.mem_map_of_mem among)]
    exact Bool.false_ne_true
  rw [lookup, noRow, standard_ofRows]

end ByTarget

end RpcRegistry.Log
