import RpcRegistry.Proofs.Success
import RpcRegistry.Proofs.Value.Ordered
import RpcRegistry.Yaml.Lenient.Document

/-!
The dictionaries that the lenient reader makes have their entries in order, in whatever order the
text gives them.
-/

namespace RpcRegistry.Yaml.Lenient

open RpcRegistry.Value

/-- Whatever a reading gives, if it gives anything, has a property. -/
def Gives {α : Type} (reading : Counting α) (P : α → Prop) : Prop :=
  ∀ aliases result after, reading.run aliases = .ok (result, after) → P result

section

variable {α β : Type} {reading : Counting α} {P : α → Prop} {Q : β → Prop}

theorem gives_pure {result : α} (holds : P result) : Gives (pure result) P := by
  intro aliases found after read
  cases read
  exact holds

theorem gives_throw (problem : Problem) : Gives (throw problem) P := by
  intro aliases found after read
  cases read

theorem gives_anything (reading : Counting α) : Gives reading fun _ => True :=
  fun _ _ _ _ => trivial

theorem Gives.bind {next : α → Counting β} (gives : Gives reading P)
    (nextGives : ∀ result, P result → Gives (next result) Q) :
    Gives (reading >>= next) Q := by
  intro aliases found after read
  rw [StateT.run_bind] at read
  cases first : reading.run aliases with
  | error problem =>
      rw [first] at read
      cases read
  | ok middle =>
      rw [first] at read
      exact nextGives middle.1 (gives aliases middle.1 middle.2 first) middle.2 found after read

theorem gives_mapM {items : List β} {read : β → Counting α}
    (each : ∀ item ∈ items, Gives (read item) P) :
    Gives (items.mapM read) fun results => ∀ result ∈ results, P result := by
  induction items with
  | nil =>
      rw [List.mapM_nil]
      exact gives_pure nofun
  | cons item rest induction =>
      rw [List.mapM_cons]
      refine (each item List.mem_cons_self).bind fun first firstHolds => ?_
      refine (induction fun other member => each other (List.mem_cons_of_mem _ member)).bind
        fun later laterHold => ?_
      exact gives_pure (List.forall_mem_cons.2 ⟨firstHolds, laterHold⟩)

theorem gives_lift {outcome : Except Problem α}
    (holds : ∀ result, outcome = .ok result → P result) :
    Gives (liftM outcome : Counting α) P := by
  intro aliases found after read
  cases outcome with
  | error problem => cases read
  | ok result =>
      cases read
      exact holds _ rfl

end

theorem ordered_coreValue (text : List Char) : Ordered (Core.value text) := by
  have noParts : (Core.value text).isUndivided = true := by
    simp only [Core.value]
    repeat' split
    all_goals rfl
  exact .undivided noParts

theorem ordered_checked {found : Option Value} {value : Value}
    (noParts : ∀ value, found = some value → value.isUndivided)
    (isChecked : (match found with
      | some value => Except.ok value
      | none => Except.error Problem.wrongShape) = .ok value) : Ordered value := by
  cases found with
  | none => cases isChecked
  | some value =>
      cases isChecked
      exact .undivided (noParts value rfl)

theorem ordered_taggedValue {tag contents : List Char} {value : Value}
    (read : taggedValue tag contents = .ok value) : Ordered value := by
  have ofMap : ∀ {α : Type} {make : α → Value} {found : Option α},
      (∀ part, (make part).isUndivided) →
      ∀ value, found.map make = some value → value.isUndivided := by
    intro α make found noParts value made
    obtain ⟨part, _, rfl⟩ := Option.map_eq_some_iff.1 made
    exact noParts part
  unfold taggedValue at read
  split at read
  · exact ordered_checked (ofMap fun _ => rfl) read
  split at read
  · exact ordered_checked (ofMap fun _ => rfl) read
  split at read
  · exact ordered_checked (ofMap fun _ => rfl) read
  split at read
  · refine ordered_checked ?_ read
    intro value isNull
    split at isNull <;> cases isNull
    rfl
  · cases read
    exact .undivided rfl

theorem ordered_scalarValue {properties : Properties} {style : Style} {contents : List Char}
    {value : Value} (read : scalarValue properties style contents = .ok value) :
    Ordered value := by
  unfold scalarValue at read
  split at read
  · exact ordered_taggedValue read
  · obtain rfl := Except.ok.inj read
    split
    · exact ordered_coreValue contents
    · exact .undivided rfl

theorem ordered_named (properties : Properties) {value : Value} (ordered : Ordered value) :
    Ordered (named properties value) := ordered_nested _ ordered

theorem gives_scalar (properties : Properties) (style : Style) (contents : List Char) :
    Gives (do
      let value ← scalarValue properties style contents
      pure (named properties value)) Ordered :=
  (gives_lift fun _ read => ordered_scalarValue read).bind fun _ ordered =>
    gives_pure (ordered_named properties ordered)

theorem value_zero (root node : Node) :
    value root 0 node = followed root node >>= fun target =>
      match target with
      | .scalar properties style contents => do
          let value ← scalarValue properties style contents
          pure (named properties value)
      | _ => throw .tooDeep := by
  delta value
  refine congrArg (Bind.bind (followed root node)) (funext fun target => ?_)
  cases target <;> rfl

theorem value_succ (root : Node) (depth : Nat) (node : Node) :
    value root (depth + 1) node = followed root node >>= fun target =>
      match target with
      | .scalar properties style contents => do
          let value ← scalarValue properties style contents
          pure (named properties value)
      | .sequence properties items => do
          let values ← items.mapM (value root depth)
          pure (named properties (.list values))
      | .mapping properties entries => do
          let pairs ← entries.mapM fun entry => do
            let key ← keyText root entry.1
            let value ← value root depth entry.2
            pure (key, value)
          pure (named properties (Value.ofEntries pairs))
      | _ => throw .tooDeep := by
  delta value
  refine congrArg (Bind.bind (followed root node)) (funext fun target => ?_)
  cases target <;> rfl

/-- A node is read to the depth that is left, so the induction is on that depth. -/
theorem gives_value (root : Node) (depth : Nat) (node : Node) :
    Gives (value root depth node) Ordered := by
  induction depth generalizing node with
  | zero =>
      rw [value_zero]
      refine (gives_anything (followed root node)).bind fun target _ => ?_
      cases target with
      | scalar properties style contents => exact gives_scalar properties style contents
      | «alias» target => exact gives_throw _
      | sequence properties items => exact gives_throw _
      | mapping properties entries => exact gives_throw _
  | succ depth induction =>
      rw [value_succ]
      refine (gives_anything (followed root node)).bind fun target _ => ?_
      cases target with
      | scalar properties style contents => exact gives_scalar properties style contents
      | «alias» target => exact gives_throw _
      | sequence properties items =>
          refine (gives_mapM fun item _ => induction item).bind fun values ordered => ?_
          exact gives_pure (ordered_named properties (.list ordered))
      | mapping properties entries =>
          refine (gives_mapM (P := fun pair => Ordered pair.2) fun entry _ => ?_).bind
            fun pairs ordered => gives_pure (ordered_named properties (ordered_ofEntries ordered))
          exact (gives_anything (keyText root entry.1)).bind fun key _ =>
            (induction entry.2).bind fun value ordered => gives_pure ordered

theorem ordered_entries {node : Option Node} {found : List (String × Value)}
    (read : entries node = .ok found) : Ordered (.dict found) := by
  unfold entries at read
  split at read
  · cases read
    exact ordered_empty
  · split at read <;> cases read
    exact ordered_empty
  · obtain ⟨result, given, read⟩ := exists_of_bind_ok read
    have given : Except.map Prod.fst (StateT.run _ 0) = .ok result := given
    obtain ⟨⟨value, after⟩, reading, rfl⟩ := exists_of_map_ok given
    split at read
    · rename_i isDict
      cases read
      rw [← isDict]
      exact gives_value _ _ _ _ _ _ reading
    · cases read
  · cases read

/-- Every mapping of a text has its entries in order. -/
theorem ordered_readEntries {text : String} {found : List (String × Value)}
    (read : readEntries text = .ok found) : Ordered (.dict found) := by
  obtain ⟨tokens, _, read⟩ := exists_of_bind_ok read
  obtain ⟨node, _, read⟩ := exists_of_bind_ok read
  exact ordered_entries read

end RpcRegistry.Yaml.Lenient
