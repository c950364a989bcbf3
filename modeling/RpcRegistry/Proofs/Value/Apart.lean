import Mathlib.Data.List.Infix
import RpcRegistry.Proofs.Value.Path

/-!
Layers that are apart: nowhere does one of them hold anything but a dictionary where another
settles the path. Merged in any order, such layers hold what any one of them holds. Values put
under paths of which none continues another are apart.
-/

namespace RpcRegistry.Value

/-- What either value holds that is no dictionary, the other leaves open. -/
structure Apart (left right : Value) : Prop where
  left_alone : ∀ path held, path ≠ [] → held.isDict = false →
    left.at? path = some held → ¬ Settles right path
  right_alone : ∀ path held, path ≠ [] → held.isDict = false →
    right.at? path = some held → ¬ Settles left path

section

variable {lower upper value held : Value} {below entries : List (String × Value)}
  {key : String} {path given : List String} {layers : List Value}

theorem not_settles_empty (path_ne : path ≠ []) : ¬ Settles (.dict []) path := by
  intro settled
  cases path with
  | nil => exact path_ne rfl
  | cons key path =>
      obtain ⟨inner, bound, _⟩ := settles_dict.1 settled
      cases bound

/-- What stands under a key that both values bind is a dictionary in both, and these are apart
again. -/
theorem Apart.inner {left right : Value} (apart : Apart (.dict below) (.dict entries))
    (under : Entries.get? key below = some left) (above : Entries.get? key entries = some right) :
    left.isDict = true ∧ right.isDict = true ∧ Apart left right := by
  have leftAt : ∀ path, (Value.dict below).at? (key :: path) = left.at? path := by
    intro path
    rw [at_dict, under, Option.bind_some]
  have rightAt : ∀ path, (Value.dict entries).at? (key :: path) = right.at? path := by
    intro path
    rw [at_dict, above, Option.bind_some]
  have leftDict : left.isDict ≠ false := fun notDict =>
    apart.left_alone [key] left (List.cons_ne_nil _ _) notDict
      (by rw [leftAt, at_nil]) (settles_of_at (by rw [rightAt, at_nil]))
  have rightDict : right.isDict ≠ false := fun notDict =>
    apart.right_alone [key] right (List.cons_ne_nil _ _) notDict
      (by rw [rightAt, at_nil]) (settles_of_at (by rw [leftAt, at_nil]))
  refine ⟨eq_true_of_ne_false leftDict, eq_true_of_ne_false rightDict, ?_, ?_⟩
  · intro path held _ notDict found settled
    exact apart.left_alone (key :: path) held (List.cons_ne_nil _ _) notDict
      ((leftAt path).trans found) (settles_dict.2 ⟨right, above, settled⟩)
  · intro path held _ notDict found settled
    exact apart.right_alone (key :: path) held (List.cons_ne_nil _ _) notDict
      ((rightAt path).trans found) (settles_dict.2 ⟨left, under, settled⟩)

theorem settles_merge (ordered : Ordered (.dict entries))
    (apart : Apart (.dict below) (.dict entries)) :
    Settles ((Value.dict below).merge (.dict entries)) path ↔
      Settles (.dict below) path ∨ Settles (.dict entries) path := by
  induction path generalizing below entries with
  | nil => exact iff_of_true (settles_of_at (at_nil _)) (Or.inl (settles_of_at (at_nil _)))
  | cons key path induction =>
      rw [merge_dict, settles_dict, settles_dict, settles_dict,
        get_mergeEntries ordered.sorted_entries.nodup_keys]
      cases above : Entries.get? key entries with
      | none => simp
      | some right =>
          cases under : Entries.get? key below with
          | none => simp [joined]
          | some left =>
              obtain ⟨leftDict, rightDict, innerApart⟩ := apart.inner under above
              obtain ⟨innerBelow, rfl⟩ := eq_dict_of_isDict leftDict
              obtain ⟨innerEntries, rfl⟩ := eq_dict_of_isDict rightDict
              have inside := induction (ordered.get above) innerApart
              simpa [joined] using inside

theorem at_merge_of_apart (ordered : Ordered upper) (apart : Apart lower upper)
    (path_ne : path ≠ []) (notDict : held.isDict = false) :
    (lower.merge upper).at? path = some held ↔
      lower.at? path = some held ∨ upper.at? path = some held := by
  rw [at_merge ordered notDict]
  constructor
  · rintro (found | ⟨_, found⟩)
    · exact Or.inr found
    · exact Or.inl found
  · rintro (found | found)
    · exact Or.inr ⟨apart.left_alone path held path_ne notDict found, found⟩
    · exact Or.inl found

/-- A dictionary that holds what any of some layers holds, and settles what any of them
settles. -/
structure Joint (layers : List Value) (whole : Value) : Prop where
  ordered : Ordered whole
  isDict : whole.isDict = true
  held : ∀ path held, path ≠ [] → held.isDict = false →
    (whole.at? path = some held ↔ ∃ layer ∈ layers, layer.at? path = some held)
  settled : ∀ path, path ≠ [] → (Settles whole path ↔ ∃ layer ∈ layers, Settles layer path)

theorem Joint.apart {whole layer : Value} (joint : Joint layers whole)
    (apart : ∀ other ∈ layers, Apart other layer) : Apart whole layer := by
  constructor
  · intro path held path_ne notDict found
    obtain ⟨other, member, found⟩ := (joint.held path held path_ne notDict).1 found
    exact (apart other member).left_alone path held path_ne notDict found
  · intro path held path_ne notDict found settled
    obtain ⟨other, member, settled⟩ := (joint.settled path path_ne).1 settled
    exact (apart other member).right_alone path held path_ne notDict found settled

/-- One more layer that is apart from the earlier ones joins them. -/
theorem Joint.merge {whole layer : Value} (joint : Joint layers whole)
    (layerOrdered : Ordered layer) (layerDict : layer.isDict = true)
    (apart : ∀ other ∈ layers, Apart other layer) :
    Joint (layers ++ [layer]) (whole.merge layer) := by
  have wholeApart := joint.apart apart
  obtain ⟨below, rfl⟩ := eq_dict_of_isDict joint.isDict
  obtain ⟨entries, rfl⟩ := eq_dict_of_isDict layerDict
  constructor
  · exact joint.ordered.merge layerOrdered
  · rfl
  · intro path held path_ne notDict
    rw [at_merge_of_apart layerOrdered wholeApart path_ne notDict,
      joint.held path held path_ne notDict]
    simp [or_and_right, exists_or]
  · intro path path_ne
    rw [settles_merge layerOrdered wholeApart, joint.settled path path_ne]
    simp [or_and_right, exists_or]

theorem joint_foldl_merge
    (dictionaries : ∀ layer ∈ layers, Ordered layer ∧ layer.isDict = true)
    (apart : layers.Pairwise Apart) : Joint layers (layers.foldl Value.merge (.dict [])) := by
  induction layers using List.reverseRecOn with
  | nil =>
      refine ⟨ordered_empty, rfl, ?_, ?_⟩
      · intro path held path_ne _
        exact iff_of_false (fun found => not_settles_empty path_ne (settles_of_at found)) nofun
      · exact fun path path_ne => iff_of_false (not_settles_empty path_ne) nofun
  | append_singleton layers layer induction =>
      obtain ⟨apartBefore, _, apartLast⟩ := List.pairwise_append.1 apart
      obtain ⟨layerOrdered, layerDict⟩ := dictionaries layer (by simp)
      have joint := induction
        (fun other member => dictionaries other (List.mem_append_left _ member)) apartBefore
      rw [List.foldl_append, List.foldl_cons, List.foldl_nil]
      exact joint.merge layerOrdered layerDict fun other member =>
        apartLast other member layer (by simp)

theorem at_nested_append (value : Value) (given path : List String) :
    (nested given value).at? (given ++ path) = value.at? path := by
  induction given with
  | nil => rfl
  | cons key given induction =>
      rw [List.cons_append, nested, at_dict]
      simpa [Entries.get?] using induction

theorem comparable_of_settles_nested (settled : Settles (nested given value) path) :
    given <+: path ∨ path <+: given := by
  induction given generalizing path with
  | nil => exact Or.inl List.nil_prefix
  | cons key given induction =>
      cases path with
      | nil => exact Or.inr List.nil_prefix
      | cons first path =>
          obtain ⟨inner, bound, settled⟩ := settles_dict.1 settled
          obtain ⟨rfl, rfl⟩ : key = first ∧ nested given value = inner := by
            simpa [Entries.get?] using bound
          rw [List.cons_prefix_cons, List.cons_prefix_cons]
          simpa using induction settled

theorem prefix_of_at_nested (notDict : held.isDict = false)
    (found : (nested given value).at? path = some held) : given <+: path := by
  induction given generalizing path with
  | nil => exact List.nil_prefix
  | cons key given induction =>
      cases path with
      | nil =>
          rw [at_nil] at found
          rw [← Option.some.inj found] at notDict
          cases notDict
      | cons first path =>
          rw [nested, at_dict] at found
          obtain ⟨inner, bound, found⟩ := Option.bind_eq_some_iff.1 found
          obtain ⟨rfl, rfl⟩ : key = first ∧ nested given value = inner := by
            simpa [Entries.get?] using bound
          exact (List.prefix_cons_inj key).2 (induction found)

theorem apart_nested {other : List String} {left right : Value} (notBelow : ¬ given <+: other)
    (notAbove : ¬ other <+: given) : Apart (nested given left) (nested other right) := by
  have alone : ∀ {given other : List String} {left right : Value}, ¬ given <+: other →
      ¬ other <+: given → ∀ path held, held.isDict = false →
      (nested given left).at? path = some held → ¬ Settles (nested other right) path := by
    intro given other left right notBelow notAbove path held notDict found settled
    have continues := prefix_of_at_nested notDict found
    rcases comparable_of_settles_nested settled with otherContinues | otherStops
    · rcases List.prefix_or_prefix_of_prefix continues otherContinues with below | above
      · exact notBelow below
      · exact notAbove above
    · exact notBelow (continues.trans otherStops)
  exact ⟨fun path held _ => alone notBelow notAbove path held,
    fun path held _ => alone notAbove notBelow path held⟩

end

end RpcRegistry.Value
