import RpcRegistry.Settings.Section

/-!
A threshold is known by the levels it lets through: one that lets through no more than another
has no higher rank, and ranks tell thresholds apart. In words it is off, the name of a level or
its rank, and no word is two of these.
-/

namespace RpcRegistry.Log

open RpcRegistry.Text

namespace Threshold

variable {left right : Threshold}

theorem rank_le_of_admits (passes : ∀ level, admits left level = true → admits right level = true) :
    rank left ≤ rank right := by
  cases left with
  | none => exact Nat.zero_le _
  | some level =>
      have own : admits (some level) level = true := decide_eq_true (Nat.le_refl level.rank)
      exact of_decide_eq_true (passes level own)

theorem rank_inj (same : rank left = rank right) : left = right := by
  rcases left with _ | left <;> rcases right with _ | right
  · rfl
  · cases right <;> cases same
  · cases left <;> cases same
  · exact congrArg some (Level.rank_inj same)

/-- A threshold is known by the levels it lets through. -/
theorem eq_of_admits (same : ∀ level, admits left level = true ↔ admits right level = true) :
    left = right := by
  have noMore := rank_le_of_admits fun level => (same level).1
  have noLess := rank_le_of_admits fun level => (same level).2
  exact rank_inj (Nat.le_antisymm noMore noLess)

theorem not_admits_none (level : Level) : admits none level ≠ true := by
  cases level <;> exact Bool.false_ne_true

end Threshold

namespace Level

theorem ofName_eq_some_iff {name : List Char} {level : Level} :
    ofName? name = some level ↔ lowerCase name = lowerCase level.name.toList := by
  unfold ofName?
  constructor
  · intro found
    have same := List.find?_some found
    exact (of_decide_eq_true same).symm
  · intro same
    rw [same]
    cases level <;> decide

theorem ofRank_eq_some_iff {rank : Nat} {level : Level} :
    ofRank? rank = some level ↔ rank = level.rank := by
  constructor
  · intro found
    unfold ofRank? at found
    have same := List.find?_some found
    exact (of_decide_eq_true same).symm
  · rintro rfl
    exact ofRank_rank level

end Level

namespace Threshold

variable {word : String} {threshold : Threshold}

def MeansOff (word : String) : Prop :=
  lowerCase word.toList = "off".toList ∨ lowerCase word.toList = "none".toList

/-- The threshold that a word means, in any case. -/
inductive NamedBy (word : String) : Threshold → Prop
  | off (isOff : MeansOff word) : NamedBy word none
  | name (level : Level) (same : lowerCase word.toList = lowerCase level.name.toList) :
      NamedBy word (some level)
  | rank (level : Level)
      (numeral : Numeral.unsigned? (UInt64.size - 1) (lowerCase word.toList) = some level.rank) :
      NamedBy word (some level)

theorem ofText_of_off (isOff : MeansOff word) : ofText? word = some none := if_pos isOff

theorem ofText_of_not_off (notOff : ¬ MeansOff word) :
    ofText? word = ((Level.ofName? (lowerCase word.toList)).or
      ((Numeral.unsigned? (UInt64.size - 1) (lowerCase word.toList)).bind Level.ofRank?)).map
        some := by
  unfold ofText?
  unfold MeansOff at notOff
  simp only [if_neg notOff]
  cases Level.ofName? (lowerCase word.toList) <;> rfl

theorem namedBy_of_ofText (isRead : ofText? word = some threshold) : NamedBy word threshold := by
  by_cases isOff : MeansOff word
  · rw [ofText_of_off isOff] at isRead
    cases isRead
    exact .off isOff
  · rw [ofText_of_not_off isOff] at isRead
    obtain ⟨level, found, rfl⟩ := Option.map_eq_some_iff.1 isRead
    rcases Option.or_eq_some_iff.1 found with isName | ⟨_, isRank⟩
    · have same := Level.ofName_eq_some_iff.1 isName
      rw [lowerCase_lowerCase] at same
      exact .name level same
    · obtain ⟨rank, numeral, found⟩ := Option.bind_eq_some_iff.1 isRank
      cases Level.ofRank_eq_some_iff.1 found
      exact .rank level numeral

theorem ofText_of_namedBy (means : NamedBy word threshold) : ofText? word = some threshold := by
  cases means with
  | off isOff => exact ofText_of_off isOff
  | name level same =>
      have notOff : ¬ MeansOff word := by
        rw [MeansOff, same]
        cases level <;> decide
      have isName : Level.ofName? (lowerCase word.toList) = some level := by
        rw [Level.ofName_eq_some_iff, lowerCase_lowerCase, same]
      rw [ofText_of_not_off notOff, isName, Option.some_or, Option.map_some]
  | rank level numeral =>
      -- Neither a word for off nor the name of a level is a numeral.
      have notOff : ¬ MeansOff word := by
        intro isOff
        rcases isOff with same | same <;> rw [same] at numeral <;> cases numeral
      have notName : Level.ofName? (lowerCase word.toList) = none := by
        apply Option.eq_none_iff_forall_ne_some.2
        intro other isName
        rw [Level.ofName_eq_some_iff, lowerCase_lowerCase] at isName
        rw [isName] at numeral
        cases other <;> cases numeral
      rw [ofText_of_not_off notOff, notName, Option.none_or, numeral, Option.bind_some,
        Level.ofRank_rank, Option.map_some]

end Threshold

end RpcRegistry.Log
