import RpcRegistry.Proofs.Path.Components

/-!
Paths written below a tilde. What stands behind the tilde and its slash is joined to the home
directory, and joining has an absolute path replace its base. So such a path stays below the home
directory unless a further slash makes its tail absolute, and then it is the tail alone that counts.
-/

namespace RpcRegistry.Path

section

variable {home working rest path : String}

theorem expandTilde_below (home rest : String) :
    expandTilde home ("~/" ++ rest) = join home rest := by
  have isTilde : ("~/" ++ rest).toList = '~' :: '/' :: rest.toList := by
    rw [String.toList_append]
    rfl
  rw [expandTilde, isTilde]
  rfl

theorem join_of_absolute (absolute : isAbsolute rest = true) : join home rest = rest := by
  rw [isAbsolute] at absolute
  rw [join, joinChars, if_pos absolute, String.ofList_toList]

/-- A path that is absolute once its tilde is replaced is normalised by that alone. -/
theorem normalize_below (homeAbsolute : isAbsolute home = true) (working rest : String) :
    normalize home working ("~/" ++ rest) = .ok (join home rest) := by
  rw [normalize, expandTilde_below]
  exact if_pos (isAbsolute_join homeAbsolute rest)

/-- An absolute path whose first components are those of the home directory. A component that leads
upwards is one like any other. -/
structure BelowHome (home path : String) : Prop where
  absolute : isAbsolute path = true
  leads : components home.toList <+: components path.toList

theorem belowHome_join_iff (homeAbsolute : isAbsolute home = true) :
    BelowHome home (join home rest) ↔
      isAbsolute rest = false ∨ components home.toList <+: components rest.toList := by
  cases restAbsolute : isAbsolute rest with
  | true =>
      rw [join_of_absolute restAbsolute]
      constructor
      · intro below
        exact Or.inr below.leads
      · rintro (relative | leads)
        · cases relative
        · exact ⟨restAbsolute, leads⟩
  | false =>
      have leads : components home.toList <+: components (join home rest).toList := by
        rw [components_join homeAbsolute restAbsolute]
        exact List.prefix_append _ _
      constructor
      · exact fun _ => Or.inl rfl
      · exact fun _ => ⟨isAbsolute_join homeAbsolute rest, leads⟩

end

/-- What is written below the tilde is found below the home directory, where the tilde is replaced
and where the path is normalised too. -/
structure StaysBelowHome (home working rest : String) : Prop where
  expanded : BelowHome home (expandTilde home ("~/" ++ rest))
  normalized : ∃ path, normalize home working ("~/" ++ rest) = .ok path ∧ BelowHome home path

/-- With an absolute home directory, a path below the tilde is normalised to what the tilde is
replaced by. A relative tail adds its components to those of the home directory, an absolute one
takes the place of the whole path. So the path stays below the home directory exactly if its tail is
relative, or leads there by itself. -/
theorem staysBelowHome_iff {home : String} (homeAbsolute : isAbsolute home = true)
    (working rest : String) :
    normalize home working ("~/" ++ rest) = .ok (expandTilde home ("~/" ++ rest)) ∧
    (isAbsolute rest = false →
      components (expandTilde home ("~/" ++ rest)).toList =
        components home.toList ++ components rest.toList) ∧
    (isAbsolute rest = true → expandTilde home ("~/" ++ rest) = rest) ∧
    (StaysBelowHome home working rest ↔
      isAbsolute rest = false ∨ components home.toList <+: components rest.toList) := by
  have normalized := normalize_below homeAbsolute working rest
  have expanded := expandTilde_below home rest
  rw [expanded]
  constructor
  · exact normalized
  constructor
  · exact components_join homeAbsolute
  constructor
  · exact join_of_absolute
  · rw [← belowHome_join_iff homeAbsolute]
    constructor
    · intro stays
      rw [← expanded]
      exact stays.expanded
    · intro below
      exact ⟨expanded ▸ below, join home rest, normalized, below⟩

/-- A tail that leads upwards stays below the home directory component by component. -/
theorem staysBelowHome_of_upwards :
    isAbsolute "/home/./u/" = true ∧
    normalize "/home/./u/" "/w" "~/.././/x" = .ok "/home/./u/.././/x" ∧
    components "/home/./u/.././/x".toList =
      ["home".toList, "u".toList, "..".toList, "x".toList] ∧
    StaysBelowHome "/home/./u/" "/w" ".././/x" := by
  have homeAbsolute : isAbsolute "/home/./u/" = true := by decide
  obtain ⟨normalized, added, _, stays⟩ := staysBelowHome_iff homeAbsolute "/w" ".././/x"
  refine ⟨homeAbsolute, ?_, ?_, ?_⟩
  · exact normalized
  · exact added rfl
  · exact stays.2 (Or.inl rfl)

/-- A second slash behind the tilde leads out of the home directory. -/
theorem not_staysBelowHome_of_slash :
    isAbsolute "/home/u" = true ∧ ¬ StaysBelowHome "/home/u" "/w" "/etc" := by
  constructor
  · decide
  · intro stays
    have leads := stays.expanded.leads
    revert leads
    decide

end RpcRegistry.Path
