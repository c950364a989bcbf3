import Mathlib.Data.List.Induction
import RpcRegistry.Proofs.Path

/-!
Paths component by component. Joining a relative path to a base puts its components behind those of
the base, and its text behind the text of the base with one slash in between. So a relative path
that is made absolute reads as the working directory followed by its components, and whatever is
resolved under a directory stays below it.
-/

namespace RpcRegistry.Path

def withoutEndSlash (text : List Char) : List Char :=
  if endsInSlash text then text.dropLast else text

/-- The text of a relative path behind a directory: each component with a slash in front of it, and
the slash at its end. -/
def tailText (path : List Char) : List Char :=
  (components path).flatMap (fun name => '/' :: name) ++ if endsInSlash path then ['/'] else []

def appended (directory path : List Char) : List Char :=
  if tailText path = [] then directory else withoutEndSlash directory ++ tailText path

section

variable {base part name directory : List Char} {home working raw path file : String}

theorem exists_of_endsInSlash (ends : endsInSlash base = true) :
    ∃ front, base = front ++ ['/'] :=
  List.getLast?_eq_some_iff.1 (of_decide_eq_true ends)

theorem endsInSlash_concat (front : List Char) : endsInSlash (front ++ ['/']) = true :=
  decide_eq_true List.getLast?_concat

theorem withoutEndSlash_concat (front : List Char) :
    withoutEndSlash (front ++ ['/']) = front := by
  rw [withoutEndSlash, if_pos (endsInSlash_concat front), List.dropLast_concat]

theorem withoutEndSlash_of_plain (plain : endsInSlash base = false) :
    withoutEndSlash base = base :=
  if_neg (Bool.eq_false_iff.1 plain)

theorem components_append_slash (base part : List Char) :
    components (base ++ '/' :: part) = components base ++ components part := by
  unfold components
  rw [List.splitOn_append_cons_self, List.filter_append]

theorem components_withoutEndSlash (base : List Char) :
    components (withoutEndSlash base) = components base := by
  cases ends : endsInSlash base with
  | true =>
      obtain ⟨front, rfl⟩ := exists_of_endsInSlash ends
      rw [withoutEndSlash_concat, components_append_slash]
      exact (List.append_nil _).symm
  | false => rw [withoutEndSlash_of_plain ends]

/-- A relative part stands behind one slash, whether or not the base brings it along. -/
theorem joinChars_of_relative (base_ne : base ≠ []) (relative : startsAtRoot part = false) :
    joinChars base part = withoutEndSlash base ++ '/' :: part := by
  rw [joinChars, if_neg (Bool.eq_false_iff.1 relative)]
  cases ends : endsInSlash base with
  | true =>
      rw [if_pos (Or.inr (of_decide_eq_true ends))]
      obtain ⟨front, rfl⟩ := exists_of_endsInSlash ends
      rw [withoutEndSlash_concat, List.append_assoc, List.singleton_append]
  | false =>
      rw [if_neg (not_or.2 ⟨base_ne, of_decide_eq_false ends⟩), withoutEndSlash_of_plain ends]

theorem components_joinChars (base_ne : base ≠ []) (relative : startsAtRoot part = false) :
    components (joinChars base part) = components base ++ components part := by
  rw [joinChars_of_relative base_ne relative, components_append_slash,
    components_withoutEndSlash]

theorem slash_not_mem_of_splitOn (member : name ∈ base.splitOn '/') : '/' ∉ name := by
  induction base generalizing name with
  | nil =>
      rw [List.splitOn_nil, List.mem_singleton] at member
      rw [member]
      exact List.not_mem_nil
  | cons c base induction =>
      rw [List.splitOn_cons_eq_if_modifyHead] at member
      split at member
      · cases member with
        | head => exact List.not_mem_nil
        | tail _ member => exact induction member
      · rename_i notSlash
        cases parts : base.splitOn '/' with
        | nil => exact absurd parts (List.splitOn_ne_nil _ _)
        | cons first rest =>
            rw [parts, List.modifyHead_cons] at member
            rw [parts] at induction
            cases member with
            | head =>
                rw [List.mem_cons, not_or]
                exact ⟨fun same => notSlash (beq_iff_eq.2 same.symm),
                  induction List.mem_cons_self⟩
            | tail _ member => exact induction (List.mem_cons_of_mem _ member)

theorem startsAtRoot_of_not_mem (noSlash : '/' ∉ name) : startsAtRoot name = false := by
  apply decide_eq_false
  intro isHead
  exact noSlash (List.mem_of_mem_head? isHead)

theorem endsInSlash_of_component (named : name ≠ []) (noSlash : '/' ∉ name) (front : List Char) :
    endsInSlash (front ++ '/' :: name) = false := by
  apply decide_eq_false
  rw [← List.dropLast_concat_getLast named, ← List.cons_append, ← List.append_assoc,
    List.getLast?_concat, Option.some.injEq]
  intro isSlash
  apply noSlash
  rw [← isSlash]
  exact List.getLast_mem named

theorem component_of_mem (member : name ∈ components base) : name ≠ [] ∧ '/' ∉ name := by
  have among := List.mem_filter.1 member
  exact ⟨(of_decide_eq_true among.2).1, slash_not_mem_of_splitOn among.1⟩

/-- Components that are joined one by one stand behind the directory one by one. -/
theorem withoutEndSlash_foldl (directory_ne : directory ≠ []) (names : List (List Char))
    (each : ∀ name ∈ names, name ≠ [] ∧ '/' ∉ name) :
    names.foldl joinChars directory ≠ [] ∧
      withoutEndSlash (names.foldl joinChars directory) =
        withoutEndSlash directory ++ names.flatMap (fun name => '/' :: name) ∧
      (names ≠ [] → endsInSlash (names.foldl joinChars directory) = false) := by
  induction names using List.reverseRecOn with
  | nil => exact ⟨directory_ne, (List.append_nil _).symm, fun nonempty => absurd rfl nonempty⟩
  | append_singleton names name induction =>
      have earlier := induction fun other member => each other (List.mem_append_left _ member)
      have last := each name (by simp)
      have isJoined : (names ++ [name]).foldl joinChars directory =
          withoutEndSlash directory ++ names.flatMap (fun name => '/' :: name) ++ '/' :: name := by
        rw [List.foldl_append, List.foldl_cons, List.foldl_nil, ← earlier.2.1]
        exact joinChars_of_relative earlier.1 (startsAtRoot_of_not_mem last.2)
      have plain := endsInSlash_of_component last.1 last.2
        (withoutEndSlash directory ++ names.flatMap fun name => '/' :: name)
      rw [isJoined]
      constructor
      · simp
      constructor
      · rw [withoutEndSlash_of_plain plain, List.flatMap_append, List.flatMap_singleton,
          List.append_assoc]
      · exact fun _ => plain

theorem under_eq_appended (directory_ne : directory ≠ []) (path : List Char) :
    under directory path = appended directory path := by
  have folded := withoutEndSlash_foldl directory_ne (components path) fun _ => component_of_mem
  unfold under appended tailText
  cases ends : endsInSlash path with
  | true =>
      rw [if_pos rfl, if_pos rfl, if_neg (by simp), joinChars_of_relative folded.1 rfl, folded.2.1,
        List.append_assoc]
  | false =>
      rw [if_neg Bool.false_ne_true, if_neg Bool.false_ne_true, List.append_nil]
      cases names : components path with
      | nil => rfl
      | cons first rest =>
          have plain := folded.2.2 (by simp [names])
          rw [names] at folded plain
          rw [if_neg (by simp), ← folded.2.1, withoutEndSlash_of_plain plain]

theorem ne_nil_of_startsAtRoot (absolute : startsAtRoot base = true) : base ≠ [] := by
  intro empty
  rw [empty] at absolute
  cases absolute

theorem joinChars_ne_nil (base_ne : base ≠ []) (part : List Char) : joinChars base part ≠ [] := by
  cases absolute : startsAtRoot part with
  | true =>
      rw [joinChars, if_pos absolute]
      exact ne_nil_of_startsAtRoot absolute
  | false =>
      rw [joinChars_of_relative base_ne absolute]
      simp

theorem toList_ne_nil (given : raw ≠ "") : raw.toList ≠ [] :=
  fun empty => given (String.toList_eq_nil_iff.1 empty)

theorem expandTilde_ne_empty (homeGiven : home ≠ "") (given : raw ≠ "") :
    expandTilde home raw ≠ "" := by
  unfold expandTilde
  split
  · exact homeGiven
  · rename_i rest _
    intro empty
    apply joinChars_ne_nil (toList_ne_nil homeGiven) rest
    rw [← String.toList_ofList (l := joinChars home.toList rest), empty]
    rfl
  · exact given

theorem normalize_eq_error_iff (homeGiven : home ≠ "") :
    (∃ error, normalize home working raw = .error error) ↔ raw = "" := by
  constructor
  · rintro ⟨error, failed⟩
    by_contra given
    rw [normalize] at failed
    split at failed
    · cases failed
    · rw [if_neg (expandTilde_ne_empty homeGiven given)] at failed
      cases failed
  · rintro rfl
    exact ⟨⟨""⟩, rfl⟩

/-- A relative expansion stands behind the working directory. -/
theorem toList_normalize (absolute : isAbsolute working = true)
    (relative : isAbsolute (expandTilde home raw) = false)
    (done : normalize home working raw = .ok path) :
    path.toList = appended working.toList (expandTilde home raw).toList := by
  rw [normalize, if_neg (Bool.eq_false_iff.1 relative)] at done
  split at done
  · cases done
  · cases done
    rw [String.toList_ofList, under_eq_appended (ne_nil_of_startsAtRoot absolute)]

theorem isAbsolute_join (absolute : isAbsolute working = true) (file : String) :
    isAbsolute (join working file) = true := by
  rw [isAbsolute, join, String.toList_ofList]
  exact startsAtRoot_joinChars absolute file.toList

theorem components_join (absolute : isAbsolute working = true)
    (relative : isAbsolute file = false) :
    components (join working file).toList =
      components working.toList ++ components file.toList := by
  rw [join, String.toList_ofList]
  exact components_joinChars (ne_nil_of_startsAtRoot absolute) relative

end

/-- Whatever text is normalised, unless it is empty, becomes an absolute path that stays as it is.
An absolute text is left alone, a relative one stands behind the working directory, and what is
resolved under the path is absolute and, if it is not so by itself, has the components of the path
in front of its own. -/
theorem normalize_resolves {home working : String} (raw : String) (homeGiven : home ≠ "")
    (absolute : isAbsolute working = true) :
    ((∃ error, normalize home working raw = .error error) ↔ raw = "") ∧
    (isAbsolute raw = true → normalize home working raw = .ok raw) ∧
    ∀ path, normalize home working raw = .ok path →
      isAbsolute path = true ∧ normalize home working path = .ok path ∧
      (isAbsolute (expandTilde home raw) = false →
        path.toList = appended working.toList (expandTilde home raw).toList) ∧
      ∀ file, isAbsolute (join path file) = true ∧
        (isAbsolute file = false →
          components path.toList <+: components (join path file).toList) := by
  constructor
  · exact normalize_eq_error_iff homeGiven
  constructor
  · exact normalize_of_isAbsolute
  intro path done
  have pathAbsolute := isAbsolute_normalize absolute done
  constructor
  · exact pathAbsolute
  constructor
  · exact normalize_of_isAbsolute pathAbsolute
  constructor
  · exact fun relative => toList_normalize absolute relative done
  intro file
  constructor
  · exact isAbsolute_join pathAbsolute file
  · intro relative
    rw [components_join pathAbsolute relative]
    exact List.prefix_append _ _

/-- Neither the home directory nor what stands behind the tilde is a plain path. -/
theorem normalize_resolves_below_tilde :
    "h" ≠ "" ∧ isAbsolute "/w" = true ∧
    normalize "h" "/w" "~/./a//../b/" = .ok "/w/h/a/../b/" ∧
    isAbsolute (expandTilde "h" "~/./a//../b/") = false ∧
    "/w/h/a/../b/".toList = appended "/w".toList (expandTilde "h" "~/./a//../b/").toList ∧
    normalize "h" "/w" "/w/h/a/../b/" = .ok "/w/h/a/../b/" ∧
    components "/w/h/a/../b/".toList <+:
      components (join "/w/h/a/../b/" "../x.log").toList := by
  have homeGiven : "h" ≠ "" := by decide
  have absolute : isAbsolute "/w" = true := by decide
  have done : normalize "h" "/w" "~/./a//../b/" = .ok "/w/h/a/../b/" := by decide +kernel
  have relative : isAbsolute (expandTilde "h" "~/./a//../b/") = false := by decide
  have resolved := (normalize_resolves "~/./a//../b/" homeGiven absolute).2.2 _ done
  exact ⟨homeGiven, absolute, done, relative, resolved.2.2.1 relative, resolved.2.1,
    (resolved.2.2.2 "../x.log").2 (by decide)⟩

end RpcRegistry.Path
