import Mathlib.Data.List.TakeWhile
import RpcRegistry.Path

/-!
Absolute paths. Joining to an absolute path gives one, so what a path is normalised to is absolute,
and normalising it again changes nothing. A file name has the extension that stands behind its last
dot, unless nothing stands in front of that dot.
-/

namespace RpcRegistry.Path

section

variable {base part directory : List Char} {home working raw path : String}

theorem startsAtRoot_append (absolute : startsAtRoot base = true) (part : List Char) :
    startsAtRoot (base ++ part) = true := by
  cases base with
  | nil => cases absolute
  | cons c base => exact absolute

theorem startsAtRoot_joinChars (absolute : startsAtRoot base = true) (part : List Char) :
    startsAtRoot (joinChars base part) = true := by
  unfold joinChars
  split
  · assumption
  · split <;> exact startsAtRoot_append absolute _

theorem startsAtRoot_under (absolute : startsAtRoot directory = true) (part : List Char) :
    startsAtRoot (under directory part) = true := by
  have joined : ∀ parts : List (List Char),
      startsAtRoot (parts.foldl joinChars directory) = true := by
    intro parts
    induction parts generalizing directory with
    | nil => exact absolute
    | cons first rest induction => exact induction (startsAtRoot_joinChars absolute first)
  unfold under
  dsimp only
  split
  · exact startsAtRoot_joinChars (joined _) []
  · exact joined _

theorem isAbsolute_normalize (absolute : isAbsolute working = true)
    (done : normalize home working raw = .ok path) : isAbsolute path = true := by
  unfold normalize at done
  dsimp only at done
  split at done
  · cases done
    assumption
  · split at done
    · cases done
    · cases done
      rw [isAbsolute, String.toList_ofList]
      exact startsAtRoot_under absolute _

theorem normalize_of_isAbsolute (absolute : isAbsolute path = true) :
    normalize home working path = .ok path := by
  have kept : expandTilde home path = path := by
    unfold expandTilde
    split
    · rename_i isTilde
      rw [isAbsolute, isTilde] at absolute
      cases absolute
    · rename_i rest isTilde
      rw [isAbsolute, isTilde] at absolute
      cases absolute
    · rfl
  rw [normalize, kept]
  exact if_pos absolute

end

/-- A text is cut at its first dot into what has no dot and what stands behind the dot. -/
theorem cut_at_dot_iff {text before behind : List Char} (notEmpty : behind ≠ []) :
    (text.takeWhile (· ≠ '.') = before ∧ (text.dropWhile (· ≠ '.')).drop 1 = behind) ↔
      '.' ∉ before ∧ text = before ++ '.' :: behind := by
  constructor
  · rintro ⟨rfl, rfl⟩
    have noDot : '.' ∉ text.takeWhile (· ≠ '.') := by
      intro dot
      simpa using List.mem_takeWhile_imp dot
    obtain ⟨first, rest, isRest⟩ : ∃ first rest, text.dropWhile (· ≠ '.') = first :: rest := by
      apply List.exists_cons_of_ne_nil
      intro nothing
      rw [nothing] at notEmpty
      exact notEmpty rfl
    have isDot : first = '.' := by
      have atDot := List.head_dropWhile_not (· ≠ '.') (isRest ▸ List.cons_ne_nil first rest)
      simp only [isRest, List.head_cons] at atDot
      simpa using atDot
    have whole := List.takeWhile_append_dropWhile (p := (· ≠ '.')) (l := text)
    rw [isRest, isDot] at whole
    rw [isRest]
    exact ⟨noDot, whole.symm⟩
  · rintro ⟨noDot, rfl⟩
    have beforeDot : ∀ c ∈ before, decide (c ≠ '.') = true := by
      intro c member
      apply decide_eq_true
      rintro rfl
      exact noDot member
    rw [List.takeWhile_append_of_pos beforeDot, List.dropWhile_append_of_pos beforeDot]
    simp

theorem splitExtension_eq_iff {fileName name extension : String} :
    splitExtension fileName = (name, some extension) ↔
      name ≠ "" ∧ '.' ∉ extension.toList ∧ fileName = name ++ "." ++ extension := by
  have inReverse : fileName = name ++ "." ++ extension ↔
      fileName.toList.reverse = extension.toList.reverse ++ '.' :: name.toList.reverse := by
    rw [← String.toList_inj, ← List.reverse_inj]
    simp
  rw [inReverse]
  unfold splitExtension
  dsimp only
  constructor
  · intro isSplit
    split at isSplit
    · cases isSplit
    · rename_i notEmpty
      obtain ⟨noDot, isCut⟩ := (cut_at_dot_iff notEmpty).1 ⟨rfl, rfl⟩
      obtain ⟨rfl, isExtension⟩ := Prod.mk.inj isSplit
      obtain rfl := Option.some.inj isExtension
      simp only [String.toList_ofList, List.reverse_reverse, List.mem_reverse]
      refine ⟨?_, noDot, isCut⟩
      simpa using notEmpty
  · rintro ⟨notEmpty, noDot, isCut⟩
    have notNil : name.toList.reverse ≠ [] := by simpa using notEmpty
    obtain ⟨isBefore, isBehind⟩ := (cut_at_dot_iff notNil).2 ⟨by simpa using noDot, isCut⟩
    rw [isBefore, isBehind, if_neg notNil]
    simp

end RpcRegistry.Path
