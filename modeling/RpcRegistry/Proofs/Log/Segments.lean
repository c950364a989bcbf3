import RpcRegistry.Proofs.Log.Order

/-!
Keys and targets as module paths. A path is the text of its segments with two colons between them.
A segment holds no colon, so it ends exactly at the next border of the text, and two paths can be
compared segment by segment: one text continues the other up to a border just if the segments of
the other come first.
-/

namespace RpcRegistry.Log

def modulePath (segments : List String) : String := "::".intercalate segments

/-- The text of the segments below another one, each with its separator in front of it. -/
def belowText (segments : List String) : List Char :=
  segments.flatMap fun segment => ':' :: ':' :: segment.toList

theorem belowText_cons (first : String) (below : List String) :
    belowText (first :: below) = ':' :: ':' :: (first.toList ++ belowText below) := rfl

theorem belowText_of_ne_nil {segments : List String} (named : segments ≠ []) :
    belowText segments = ':' :: ':' :: (modulePath segments).toList := by
  induction segments with
  | nil => exact absurd rfl named
  | cons first below induction =>
      unfold modulePath at induction ⊢
      cases below with
      | nil => simp [belowText]
      | cons second below =>
          have later := induction (List.cons_ne_nil second below)
          rw [belowText_cons, later, String.intercalate_cons_cons]
          simp

theorem border_belowText (segments : List String) : Border (belowText segments) := by
  cases segments with
  | nil => exact Or.inl rfl
  | cons segment below => exact Or.inr ⟨segment.toList ++ belowText below, rfl⟩

theorem border_append {rest : List Char} (border : Border rest) (segments : List String) :
    Border (belowText segments ++ rest) := by
  rcases border_belowText segments with none | ⟨below, isBelow⟩
  · rw [none]
    exact border
  · exact Or.inr ⟨below ++ rest, by rw [isBelow]; rfl⟩

section Segment

variable {segment other rest otherRest : List Char}

/-- A segment is what stands before the first colon. -/
theorem takeWhile_segment (plain : ':' ∉ segment) (border : Border rest) :
    (segment ++ rest).takeWhile (· ≠ ':') = segment := by
  have noColon : ∀ c ∈ segment, decide (c ≠ ':') = true := by
    intro c member
    apply decide_eq_true
    rintro rfl
    exact plain member
  rw [List.takeWhile_append_of_pos noColon]
  rcases border with rfl | ⟨below, rfl⟩ <;> simp

theorem eq_of_segment_append (plain : ':' ∉ segment) (otherPlain : ':' ∉ other)
    (border : Border rest) (otherBorder : Border otherRest)
    (same : segment ++ rest = other ++ otherRest) : segment = other ∧ rest = otherRest := by
  have sameSegment : segment = other := by
    rw [← takeWhile_segment plain border, same, takeWhile_segment otherPlain otherBorder]
  rw [sameSegment] at same
  exact ⟨sameSegment, List.append_cancel_left same⟩

end Segment

section Paths

variable {first second : String} {key target : List String} {rest : List Char}

theorem belowText_cons_append_iff (firstPlain : ':' ∉ first.toList)
    (secondPlain : ':' ∉ second.toList) (border : Border rest) :
    belowText (first :: key) ++ rest = belowText (second :: target) ↔
      first = second ∧ belowText key ++ rest = belowText target := by
  simp only [belowText_cons, List.cons_append, List.append_assoc, List.cons.injEq, true_and]
  constructor
  · intro same
    obtain ⟨sameSegment, sameBelow⟩ := eq_of_segment_append firstPlain secondPlain
      (border_append border key) (border_belowText target) same
    exact ⟨String.toList_inj.1 sameSegment, sameBelow⟩
  · rintro ⟨rfl, sameBelow⟩
    rw [sameBelow]

/-- The text of some segments ends at a border of the text of others just if they come first among
those. -/
theorem belowText_continues_iff (keyPlain : ∀ segment ∈ key, ':' ∉ segment.toList)
    (targetPlain : ∀ segment ∈ target, ':' ∉ segment.toList) :
    (∃ rest, belowText key ++ rest = belowText target ∧ Border rest) ↔ key <+: target := by
  induction key generalizing target with
  | nil => exact iff_of_true ⟨belowText target, rfl, border_belowText target⟩ List.nil_prefix
  | cons first key induction =>
      cases target with
      | nil =>
          apply iff_of_false
          · rintro ⟨rest, continues, _⟩
            cases continues
          · exact fun isPrefix => List.cons_ne_nil _ _ (List.prefix_nil.1 isPrefix)
      | cons second target =>
          rw [List.forall_mem_cons] at keyPlain targetPlain
          rw [List.cons_prefix_cons, ← induction keyPlain.2 targetPlain.2]
          constructor
          · rintro ⟨rest, continues, border⟩
            obtain ⟨sameSegment, sameBelow⟩ :=
              (belowText_cons_append_iff keyPlain.1 targetPlain.1 border).1 continues
            exact ⟨sameSegment, rest, sameBelow, border⟩
          · rintro ⟨sameSegment, rest, sameBelow, border⟩
            have continues := (belowText_cons_append_iff keyPlain.1 targetPlain.1 border).2
              ⟨sameSegment, sameBelow⟩
            exact ⟨rest, continues, border⟩

/-- A path is not above one that has a longer name in place of its last one. -/
theorem not_prefix_of_longer_name {above below : List String} {name ending : String}
    (more : ending ≠ "") : ¬ above ++ [name] <+: above ++ (name ++ ending) :: below := by
  rw [List.prefix_append_right_inj, List.cons_prefix_cons]
  rintro ⟨sameName, _⟩
  apply more
  have sameText := congrArg String.toList sameName
  rw [String.toList_append, List.self_eq_append_right] at sameText
  exact String.toList_eq_nil_iff.1 sameText

end Paths

/-- A key governs the module that it names and the modules below that one: the segments of the key
come first in the target. A sibling whose name starts with the name of the key's module is not
governed, and neither is anything below the sibling. The segments may even be empty, as long as
they hold no colon. -/
theorem matchesTarget_modulePath {key target : List String} (keyNamed : key ≠ [])
    (targetNamed : target ≠ []) (plain : ∀ segment ∈ key ++ target, ':' ∉ segment.toList) :
    (matchesTarget (modulePath target) (modulePath key) = true ↔ key <+: target) ∧
    ∀ above name ending below, key = above ++ [name] →
      target = above ++ (name ++ ending) :: below → ending ≠ "" →
        matchesTarget (modulePath target) (modulePath key) = false := by
  have bySegments : matchesTarget (modulePath target) (modulePath key) = true ↔
      key <+: target := by
    obtain ⟨keyPlain, targetPlain⟩ := List.forall_mem_append.1 plain
    rw [matchesTarget, governs_iff, ← belowText_continues_iff keyPlain targetPlain,
      belowText_of_ne_nil keyNamed, belowText_of_ne_nil targetNamed]
    simp only [List.cons_append, List.cons.injEq, true_and]
  constructor
  · exact bySegments
  · rintro above name ending below rfl rfl more
    apply Bool.eq_false_iff.2
    rw [Ne, bySegments]
    exact not_prefix_of_longer_name more

/-- The key of `registrar` governs what is in that module and nothing in a sibling whose name goes
on behind its own. -/
theorem matchesTarget_registrar :
    ["registrar"] ≠ [] ∧ ["registrar", "domain"] ≠ [] ∧ ["registrar_sdk", "uaddr"] ≠ [] ∧
    (∀ segment ∈ ["registrar"] ++ ["registrar", "domain"], ':' ∉ segment.toList) ∧
    (∀ segment ∈ ["registrar"] ++ ["registrar_sdk", "uaddr"], ':' ∉ segment.toList) ∧
    matchesTarget (modulePath ["registrar", "domain"]) (modulePath ["registrar"]) = true ∧
    matchesTarget (modulePath ["registrar_sdk", "uaddr"]) (modulePath ["registrar"]) = false := by
  have keyNamed : ["registrar"] ≠ [] := List.cons_ne_nil _ _
  have belowNamed : ["registrar", "domain"] ≠ [] := List.cons_ne_nil _ _
  have siblingNamed : ["registrar_sdk", "uaddr"] ≠ [] := List.cons_ne_nil _ _
  have belowPlain :
      ∀ segment ∈ ["registrar"] ++ ["registrar", "domain"], ':' ∉ segment.toList := by decide
  have siblingPlain :
      ∀ segment ∈ ["registrar"] ++ ["registrar_sdk", "uaddr"], ':' ∉ segment.toList := by decide
  have below := (matchesTarget_modulePath keyNamed belowNamed belowPlain).1
  have sibling := (matchesTarget_modulePath keyNamed siblingNamed siblingPlain).2
  exact ⟨keyNamed, belowNamed, siblingNamed, belowPlain, siblingPlain,
    below.2 (List.prefix_append ["registrar"] ["domain"]),
    sibling [] "registrar" "_sdk" ["uaddr"] rfl (by decide) (by decide)⟩

end RpcRegistry.Log
