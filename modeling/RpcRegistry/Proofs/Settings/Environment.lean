import RpcRegistry.Proofs.Success
import RpcRegistry.Proofs.Value.Apart
import RpcRegistry.Settings.Environment

/-!
The layer of the environment. What the text of a variable spells is a value with its dictionaries
in order. As long as no variable names the path of another one or a path below it, the layer holds
what each variable sets and nothing else.
-/

namespace RpcRegistry.Environment

open Value

theorem ordered_text (text : String) : Ordered (.text text) := .undivided rfl

theorem ordered_bareValue (text : List Char) : Ordered (bareValue text) := by
  have noParts : (bareValue text).isUndivided = true := by
    simp only [bareValue]
    split <;> rfl
  exact .undivided noParts

theorem ordered_readScalar {text rest : List Char} {value : Value}
    (read : readScalar text = .ok (value, rest)) : Ordered value := by
  unfold readScalar at read
  split at read
  · cases read
    exact .undivided rfl
  · cases read
    exact .undivided rfl
  · obtain ⟨_, _, read⟩ := exists_of_bind_ok read
    cases read
    exact ordered_text _
  · cases read
    exact ordered_text _
  · cases read
  · cases read
    exact ordered_bareValue _

/-- What the three readers read with some fuel has its dictionaries in order. -/
structure ReadsOrdered (fuel : Nat) : Prop where
  value : ∀ text value rest, readValue fuel text = .ok (value, rest) → Ordered value
  items : ∀ text items rest, readItems fuel text = .ok (items, rest) → ∀ item ∈ items, Ordered item
  entries : ∀ text entries rest, readEntries fuel text = .ok (entries, rest) →
    ∀ entry ∈ entries, Ordered entry.2

section

variable {fuel : Nat} {text rest : List Char}

theorem ReadsOrdered.value_succ {value : Value} (ordered : ReadsOrdered fuel)
    (read : readValue (fuel + 1) text = .ok (value, rest)) : Ordered value := by
  unfold readValue at read
  dsimp only at read
  split at read
  · obtain ⟨⟨found, after⟩, read, done⟩ := exists_of_bind_ok read
    obtain ⟨⟨items, _⟩, readRest, isFound⟩ := exists_of_map_ok read
    cases done
    obtain rfl : Value.list items = found := congrArg Prod.fst isFound
    exact .list (ordered.items _ _ _ readRest)
  · obtain ⟨⟨found, after⟩, read, done⟩ := exists_of_bind_ok read
    obtain ⟨⟨entries, _⟩, readRest, isFound⟩ := exists_of_map_ok read
    cases done
    obtain rfl : ofEntries entries = found := congrArg Prod.fst isFound
    exact ordered_ofEntries (ordered.entries _ _ _ readRest)
  · obtain ⟨⟨found, after⟩, readParts, done⟩ := exists_of_bind_ok read
    cases done
    exact ordered_readScalar readParts

theorem ReadsOrdered.items_succ {items : List Value} (ordered : ReadsOrdered fuel)
    (read : readItems (fuel + 1) text = .ok (items, rest)) : ∀ item ∈ items, Ordered item := by
  unfold readItems at read
  split at read
  · cases read
    exact nofun
  · obtain ⟨⟨item, after⟩, readItem, read⟩ := exists_of_bind_ok read
    dsimp only at read
    have itemOrdered := ordered.value _ _ _ readItem
    split at read
    · obtain ⟨⟨later, _⟩, readRest, done⟩ := exists_of_bind_ok read
      cases done
      exact List.forall_mem_cons.2 ⟨itemOrdered, ordered.items _ _ _ readRest⟩
    · cases read
      exact List.forall_mem_singleton.2 itemOrdered
    · cases read

theorem ReadsOrdered.entries_succ {entries : List (String × Value)} (ordered : ReadsOrdered fuel)
    (read : readEntries (fuel + 1) text = .ok (entries, rest)) :
    ∀ entry ∈ entries, Ordered entry.2 := by
  unfold readEntries at read
  split at read
  · cases read
    exact nofun
  · obtain ⟨⟨key, afterKey⟩, _, read⟩ := exists_of_bind_ok read
    obtain ⟨⟨value, after⟩, readOwn, read⟩ := exists_of_bind_ok read
    dsimp only at read
    have valueOrdered := ordered.value _ _ _ readOwn
    split at read
    · obtain ⟨⟨later, _⟩, readRest, done⟩ := exists_of_bind_ok read
      cases done
      exact List.forall_mem_cons.2 ⟨valueOrdered, ordered.entries _ _ _ readRest⟩
    · cases read
      exact List.forall_mem_singleton.2 valueOrdered
    · cases read

end

/-- A value, the items of a list and the entries of a dictionary are read with one fuel, so the
three readers go together. -/
theorem readsOrdered (fuel : Nat) : ReadsOrdered fuel := by
  induction fuel with
  | zero => exact ⟨nofun, nofun, nofun⟩
  | succ fuel ordered =>
      constructor
      · exact fun _ _ _ => ordered.value_succ
      · exact fun _ _ _ => ordered.items_succ
      · exact fun _ _ _ => ordered.entries_succ

theorem ordered_valueOfText {text : String} {value : Value}
    (read : valueOfText? text = some value) : Ordered value := by
  unfold valueOfText? at read
  split at read
  · rename_i found spelled
    cases read
    exact (readsOrdered _).value _ _ _ spelled
  · cases read
  · cases read
    exact ordered_text _

theorem path_ne_nil {name : String} {path : List String} (named : path? name = some path) :
    path ≠ [] := by
  simp only [path?, Option.bind_eq_bind] at named
  split at named
  · rw [Option.bind_some] at named
    split at named
    · cases named
    · obtain rfl := Option.some.inj named
      rw [Ne, List.map_eq_nil_iff]
      exact List.splitOn_ne_nil _ _
  · cases named

/-- What a variable sets: its value under the path its name stands for. -/
structure Sets (given : Variable) (path : List String) (value : Value) : Prop where
  path : path? given.name = some path
  value : valueOfText? given.value = some value

theorem Sets.exists_iff {given : Variable} {path : List String} {value layer : Value}
    (sets : Sets given path value) :
    (∃ path value, Sets given path value ∧ layer = nested path value) ↔
      layer = nested path value := by
  constructor
  · rintro ⟨otherPath, otherValue, other, rfl⟩
    obtain rfl := Option.some.inj (sets.path.symm.trans other.path)
    obtain rfl := Option.some.inj (sets.value.symm.trans other.value)
    rfl
  · exact fun same => ⟨path, value, sets, same⟩

def SetBy (environment : List Variable) (layer : Value) : Prop :=
  ∃ given ∈ environment, ∃ path value, Sets given path value ∧ layer = nested path value

/-- No variable names the path of another one, or a path below it. -/
def Unmixed (environment : List Variable) : Prop :=
  (environment.filterMap fun given => path? given.name).Pairwise fun left right =>
    ¬ left <+: right ∧ ¬ right <+: left

/-- Every variable that names a path has a text that can be read. -/
def Legible (environment : List Variable) : Prop :=
  ∀ given ∈ environment, ∀ path, path? given.name = some path → ∃ value, Sets given path value

section

variable {environment : List Variable} {layers : List Value}

theorem isSome_layersOf_iff : (layersOf? environment).isSome ↔ Legible environment := by
  induction environment with
  | nil => simp [layersOf?, Legible]
  | cons given rest induction =>
      rw [Legible, List.forall_mem_cons, ← Legible, ← induction, layersOf?]
      cases named : path? given.name with
      | none => simp
      | some path =>
          have readable : (∀ other, some path = some other → ∃ value, Sets given other value) ↔
              ∃ value, valueOfText? given.value = some value := by
            simp only [Option.some.injEq, forall_eq']
            exact exists_congr fun value => ⟨Sets.value, fun spelled => ⟨named, spelled⟩⟩
          rw [readable]
          cases spelled : valueOfText? given.value <;> cases layersOf? rest <;>
            simp [layerAt?, spelled]

theorem isSome_layer_iff : (layer? environment).isSome ↔ Legible environment := by
  rw [layer?, Option.isSome_map, isSome_layersOf_iff]

theorem mem_layersOf (read : layersOf? environment = some layers) (layer : Value) :
    layer ∈ layers ↔ SetBy environment layer := by
  rw [SetBy]
  induction environment generalizing layers with
  | nil =>
      cases read
      simp
  | cons given rest induction =>
      rw [layersOf?] at read
      split at read
      · rename_i unnamed
        rw [induction read, List.exists_mem_cons_iff]
        refine (or_iff_right ?_).symm
        rintro ⟨path, value, sets, _⟩
        rw [sets.path] at unnamed
        cases unnamed
      · rename_i path named
        obtain ⟨first, readFirst, read⟩ := Option.bind_eq_some_iff.1 read
        obtain ⟨later, readLater, done⟩ := Option.bind_eq_some_iff.1 read
        cases done
        obtain ⟨value, spelled, rfl⟩ := Option.map_eq_some_iff.1 readFirst
        have sets : Sets given path value := ⟨named, spelled⟩
        rw [List.mem_cons, induction readLater, List.exists_mem_cons_iff, sets.exists_iff]

theorem apart_layersOf (read : layersOf? environment = some layers)
    (unmixed : Unmixed environment) : layers.Pairwise Apart := by
  induction environment generalizing layers with
  | nil =>
      cases read
      exact List.Pairwise.nil
  | cons given rest induction =>
      rw [layersOf?] at read
      split at read
      · rename_i unnamed
        exact induction read (by simpa [Unmixed, List.filterMap_cons, unnamed] using unmixed)
      · rename_i path named
        obtain ⟨first, readFirst, read⟩ := Option.bind_eq_some_iff.1 read
        obtain ⟨later, readLater, done⟩ := Option.bind_eq_some_iff.1 read
        cases done
        obtain ⟨value, _, rfl⟩ := Option.map_eq_some_iff.1 readFirst
        rw [Unmixed, List.filterMap_cons, named, List.pairwise_cons] at unmixed
        refine List.pairwise_cons.2 ⟨?_, induction readLater unmixed.2⟩
        intro layer member
        obtain ⟨other, among, otherPath, otherValue, sets, rfl⟩ :=
          (mem_layersOf readLater layer).1 member
        have paths := unmixed.1 otherPath (List.mem_filterMap.2 ⟨other, among, sets.path⟩)
        exact apart_nested paths.1 paths.2

theorem dictionaries_layersOf (read : layersOf? environment = some layers) :
    ∀ layer ∈ layers, Ordered layer ∧ layer.isDict = true := by
  intro layer member
  obtain ⟨given, _, path, value, sets, rfl⟩ := (mem_layersOf read layer).1 member
  refine ⟨ordered_nested path (ordered_valueOfText sets.value), ?_⟩
  cases path with
  | nil => exact absurd rfl (path_ne_nil sets.path)
  | cons key path => rfl

/-- The layer of the environment is made up of what its variables set. -/
theorem joint_layer (read : layersOf? environment = some layers) (unmixed : Unmixed environment) :
    ∃ layer, layer? environment = some layer ∧ Joint layers layer := by
  refine ⟨_, by rw [layer?, read, Option.map_some], ?_⟩
  exact joint_foldl_merge (dictionaries_layersOf read) (apart_layersOf read unmixed)

/-- What a variable sets stands at its path in the layer of the environment. -/
theorem Sets.at_layer {layer value : Value} {path : List String} {given : Variable}
    (isLayer : layer? environment = some layer) (unmixed : Unmixed environment)
    (member : given ∈ environment) (sets : Sets given path value)
    (notDict : value.isDict = false) : layer.at? path = some value := by
  obtain ⟨spelled, read, _⟩ := Option.map_eq_some_iff.1 isLayer
  obtain ⟨whole, isWhole, joint⟩ := joint_layer read unmixed
  obtain rfl := Option.some.inj (isLayer.symm.trans isWhole)
  refine (joint.held path value (path_ne_nil sets.path) notDict).2 ⟨nested path value, ?_, ?_⟩
  · exact (mem_layersOf read _).2 ⟨given, member, path, value, sets, rfl⟩
  · simpa using at_nested_append value path []

theorem ordered_layer {layer : Value} (isLayer : layer? environment = some layer) :
    Ordered layer := by
  obtain ⟨spelled, read, rfl⟩ := Option.map_eq_some_iff.1 isLayer
  have each := fun layer member => (dictionaries_layersOf read layer member).1
  clear read isLayer
  induction spelled using List.reverseRecOn with
  | nil => exact ordered_empty
  | append_singleton earlier last induction =>
      rw [List.foldl_append, List.foldl_cons, List.foldl_nil]
      exact (induction fun layer member => each layer (List.mem_append_left _ member)).merge
        (each last (by simp))

end

end RpcRegistry.Environment
