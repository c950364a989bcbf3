import RpcRegistry.Proofs.Dict
import RpcRegistry.Proofs.FileTree

/-!
What directories list, and what depends on the order in which they do. Look-ups ask for a location
and so give the same answers in every order, and directories are made in the same places; all that
changes with the order of a tree is the order of the files in a listing.
-/

namespace RpcRegistry.FileTree

def Distinct (tree : FileTree) : Prop := (tree.nodes.map Prod.fst).Nodup

/-- A file that a directory holds under a name, and that is found under it. -/
structure HoldsFile (tree : FileTree) (directory name : String) (text : Option String) : Prop where
  listed : ∃ location, tree.find? directory = some (location, .directory) ∧
    (location ++ [name], .file text) ∈ tree.nodes
  found : tree.isFile (Path.join directory name) = true

/-- Two trees with the same nodes, which they may list in different orders. -/
structure Relisted (left right : FileTree) : Prop where
  working : left.working = right.working
  nodes : left.nodes.Perm right.nodes
  node : ∀ location, left.node? location = right.node? location

section

variable {tree left right : FileTree} {directory name path : String} {text : Option String}
  {location : Location} {listing : List (String × Option String)}

theorem fileIn_eq_some_iff {node : Location × FileNode} :
    fileIn? location node = some (name, text) ↔ node = (location ++ [name], .file text) := by
  obtain ⟨entry, kind⟩ := node
  cases kind with
  | directory => exact iff_of_false nofun fun same => nomatch congrArg Prod.snd same
  | file own =>
      rw [fileIn?, Option.ite_none_right_eq_some]
      constructor
      · intro found
        obtain ⟨last, isLast, same⟩ := Option.map_eq_some_iff.1 found.2
        obtain ⟨front, rfl⟩ := List.getLast?_eq_some_iff.1 isLast
        obtain ⟨rfl, rfl⟩ := Prod.mk.inj same
        rw [← found.1, List.dropLast_concat]
      · intro same
        obtain ⟨rfl, isFile⟩ := Prod.mk.inj same
        obtain rfl := FileNode.file.inj isFile
        exact ⟨List.dropLast_concat, by rw [List.getLast?_concat, Option.map_some]⟩

theorem filesIn_of_directory (found : tree.find? directory = some (location, .directory)) :
    tree.filesIn directory = .ok ((tree.nodes.filterMap (fileIn? location)).filter fun entry =>
      tree.isFile (Path.join directory entry.1)) := by
  rw [filesIn, found]

theorem exists_directory_of_filesIn (listed : tree.filesIn directory = .ok listing) :
    ∃ location, tree.find? directory = some (location, .directory) := by
  unfold filesIn at listed
  split at listed
  · rename_i location found
    exact ⟨location, found⟩
  · cases listed
  · cases listed

theorem mem_filesIn (listed : tree.filesIn directory = .ok listing) :
    (name, text) ∈ listing ↔ tree.HoldsFile directory name text := by
  obtain ⟨location, found⟩ := exists_directory_of_filesIn listed
  rw [filesIn_of_directory found] at listed
  cases listed
  rw [List.mem_filter, List.mem_filterMap]
  simp only [fileIn_eq_some_iff, exists_eq_right]
  constructor
  · exact fun member => ⟨⟨location, found, member.1⟩, member.2⟩
  · intro held
    obtain ⟨other, otherFound, member⟩ := held.listed
    rw [found, Option.some.injEq, Prod.mk.injEq] at otherFound
    rw [← otherFound.1] at member
    exact ⟨member, held.found⟩

theorem isDirectory_iff : tree.isDirectory directory = true ↔
    ∃ location, tree.find? directory = some (location, .directory) := by
  unfold isDirectory
  constructor
  · intro isDirectory
    split at isDirectory
    · rename_i location found
      exact ⟨location, found⟩
    · cases isDirectory
  · rintro ⟨location, found⟩
    rw [found]

theorem exists_filesIn (isDirectory : tree.isDirectory directory = true) :
    ∃ listing, tree.filesIn directory = .ok listing := by
  obtain ⟨location, found⟩ := isDirectory_iff.1 isDirectory
  exact ⟨_, filesIn_of_directory found⟩

theorem has_of_isDirectory (isDirectory : tree.isDirectory directory = true) :
    tree.has directory = true := by
  obtain ⟨location, found⟩ := isDirectory_iff.1 isDirectory
  rw [has, found]
  rfl

/-! Making directories adds directories, behind what is there. -/

theorem nodes_ensureDirectory (tree : FileTree) (path : String) :
    ∃ made : List Location, (tree.ensureDirectory path).2.nodes =
      tree.nodes ++ made.map fun location => (location, .directory) := by
  unfold ensureDirectory
  split
  · rename_i after isMade
    unfold makeDirectory at isMade
    obtain ⟨place, _, isMade⟩ := exists_of_bind_ok isMade
    cases place with
    | absent location =>
        cases isMade
        exact ⟨[location], rfl⟩
    | present location node => cases isMade
  · exact ⟨[], (List.append_nil _).symm⟩

theorem nodes_makeDirectories (fuel : Nat) (tree : FileTree) (path : String) :
    ∃ made : List Location, (tree.makeDirectories fuel path).2.nodes =
      tree.nodes ++ made.map fun location => (location, .directory) := by
  induction fuel generalizing path with
  | zero => exact ⟨[], (List.append_nil _).symm⟩
  | succ fuel induction =>
      unfold makeDirectories
      split
      · exact ⟨[], (List.append_nil _).symm⟩
      · split
        · split
          · exact ⟨[], (List.append_nil _).symm⟩
          · rename_i parent _
            obtain ⟨above, isAbove⟩ := induction parent
            split
            · rename_i after isMade
              rw [isMade] at isAbove
              obtain ⟨own, isOwn⟩ := nodes_ensureDirectory after path
              refine ⟨above ++ own, ?_⟩
              rw [isOwn, isAbove, List.map_append, List.append_assoc]
            · exact ⟨above, isAbove⟩
        · exact nodes_ensureDirectory tree path

theorem nodes_createDirectory {problem : Option FileError} {after : FileTree}
    (created : tree.createDirectory path = (problem, after)) :
    ∃ made : List Location, after.nodes =
      tree.nodes ++ made.map fun location => (location, .directory) := by
  have nodes := nodes_makeDirectories (path.length + 1) tree path
  rwa [← createDirectory, created] at nodes

/-- A file that only directories stand behind is listed last. -/
theorem filesIn_of_last {front : List (Location × FileNode)} {made : List Location}
    (found : tree.find? directory = some (location, .directory))
    (isFile : tree.isFile (Path.join directory name) = true)
    (nodes : tree.nodes = front ++ [(location ++ [name], .file text)] ++
      made.map fun location => (location, .directory)) :
    ∃ before, tree.filesIn directory = .ok (before ++ [(name, text)]) := by
  have noFiles : (made.map fun location => (location, FileNode.directory)).filterMap
      (fileIn? location) = [] := by
    rw [List.filterMap_map]
    exact List.filterMap_eq_nil_iff.2 fun _ _ => rfl
  have own : fileIn? location (location ++ [name], .file text) = some (name, text) :=
    fileIn_eq_some_iff.2 rfl
  refine ⟨(front.filterMap (fileIn? location)).filter fun entry =>
    tree.isFile (Path.join directory entry.1), ?_⟩
  rw [filesIn_of_directory found, nodes, List.filterMap_append, List.filterMap_append, noFiles,
    List.append_nil, List.filter_append, List.filterMap_cons_some own, List.filterMap_nil,
    List.filter_singleton, isFile]
  rfl

/-! Look-ups do not see the order. -/

theorem node_eq (tree : FileTree) (location : Location) : tree.node? location =
    if location = [] then some .directory
    else (tree.nodes.find? fun row => row.1 = location).map Prod.snd := rfl

theorem node_add (tree : FileTree) (location other : Location) (node : FileNode) :
    (tree.add location node).node? other =
      (tree.node? other).or (if location = other then some node else none) := by
  rw [node_eq, node_eq]
  by_cases isRoot : other = []
  · rw [if_pos isRoot, if_pos isRoot, Option.some_or]
  · rw [if_neg isRoot, if_neg isRoot, add, List.find?_append, Option.map_or,
      List.find?_singleton]
    congr 1
    by_cases own : location = other
    · simp [own]
    · simp [own]

theorem Distinct.relisted (distinct : left.Distinct) (working : left.working = right.working)
    (nodes : left.nodes.Perm right.nodes) : Relisted left right := by
  refine ⟨working, nodes, fun location => ?_⟩
  rw [node_eq, node_eq, find_key_of_perm distinct nodes]

namespace Relisted

theorem symm (relisted : Relisted left right) : Relisted right left :=
  ⟨relisted.working.symm, relisted.nodes.symm, fun location => (relisted.node location).symm⟩

theorem walk (relisted : Relisted left right) (location : Location) (names : List String) :
    left.walk location names = right.walk location names := by
  induction names generalizing location with
  | nil => rw [FileTree.walk, FileTree.walk, relisted.node]
  | cons name rest induction =>
      rw [FileTree.walk, FileTree.walk, relisted.node, relisted.node]
      simp only [induction]

theorem locate (relisted : Relisted left right) (path : String) :
    left.locate path = right.locate path := by
  unfold FileTree.locate
  simp only [relisted.walk, relisted.working]

theorem find (relisted : Relisted left right) (path : String) :
    left.find? path = right.find? path := by
  rw [FileTree.find?, FileTree.find?, relisted.locate]

theorem has (relisted : Relisted left right) (path : String) : left.has path = right.has path := by
  rw [FileTree.has, FileTree.has, relisted.find]

theorem isDirectory (relisted : Relisted left right) (path : String) :
    left.isDirectory path = right.isDirectory path := by
  rw [FileTree.isDirectory, FileTree.isDirectory, relisted.find]

theorem file (relisted : Relisted left right) (path : String) :
    left.file? path = right.file? path := by
  rw [FileTree.file?, FileTree.file?, relisted.find]

theorem isFile (relisted : Relisted left right) (path : String) :
    left.isFile path = right.isFile path := by
  rw [FileTree.isFile, FileTree.isFile, relisted.file]

theorem holdsFile (relisted : Relisted left right) :
    left.HoldsFile directory name text ↔ right.HoldsFile directory name text := by
  constructor
  · intro held
    obtain ⟨location, found, member⟩ := held.listed
    rw [relisted.find] at found
    exact ⟨⟨location, found, relisted.nodes.mem_iff.1 member⟩,
      (relisted.isFile _).symm.trans held.found⟩
  · intro held
    obtain ⟨location, found, member⟩ := held.listed
    rw [← relisted.find] at found
    exact ⟨⟨location, found, relisted.nodes.mem_iff.2 member⟩,
      (relisted.isFile _).trans held.found⟩

theorem add (relisted : Relisted left right) (location : Location) (node : FileNode) :
    Relisted (left.add location node) (right.add location node) := by
  refine ⟨relisted.working, relisted.nodes.append_right _, fun other => ?_⟩
  rw [node_add, node_add, relisted.node]

theorem ensureDirectory (relisted : Relisted left right) (path : String) :
    ∃ problem leftAfter rightAfter, left.ensureDirectory path = (problem, leftAfter) ∧
      right.ensureDirectory path = (problem, rightAfter) ∧ Relisted leftAfter rightAfter := by
  unfold FileTree.ensureDirectory FileTree.makeDirectory
  rw [relisted.locate, relisted.isDirectory]
  cases right.locate path with
  | error problem => exact ⟨_, left, right, rfl, rfl, relisted⟩
  | ok place =>
      cases place with
      | absent location => exact ⟨none, _, _, rfl, rfl, relisted.add location .directory⟩
      | present location node => exact ⟨_, left, right, rfl, rfl, relisted⟩

theorem makeDirectories (relisted : Relisted left right) (fuel : Nat) (path : String) :
    ∃ problem leftAfter rightAfter, left.makeDirectories fuel path = (problem, leftAfter) ∧
      right.makeDirectories fuel path = (problem, rightAfter) ∧
        Relisted leftAfter rightAfter := by
  induction fuel generalizing path with
  | zero => exact ⟨some .notFound, left, right, rfl, rfl, relisted⟩
  | succ fuel induction =>
      obtain ⟨problem, leftAfter, rightAfter, isLeft, isRight, alike⟩ :=
        relisted.ensureDirectory path
      unfold FileTree.makeDirectories
      rw [isLeft, isRight]
      split
      · exact ⟨none, left, right, rfl, rfl, relisted⟩
      · by_cases parentMissing : problem = some .notFound
        · rw [parentMissing]
          cases Path.parent? path with
          | none => exact ⟨some .notFound, left, right, rfl, rfl, relisted⟩
          | some parent =>
              obtain ⟨above, leftAbove, rightAbove, isLeft, isRight, alike⟩ := induction parent
              dsimp only
              rw [isLeft, isRight]
              cases above with
              | none => exact alike.ensureDirectory path
              | some above => exact ⟨some above, leftAbove, rightAbove, rfl, rfl, alike⟩
        · refine ⟨problem, leftAfter, rightAfter, ?_, ?_, alike⟩
          · split
            · cases ‹(problem, leftAfter) = _›
              exact absurd rfl parentMissing
            · rfl
          · split
            · cases ‹(problem, rightAfter) = _›
              exact absurd rfl parentMissing
            · rfl

theorem createDirectory (relisted : Relisted left right) (path : String) :
    ∃ problem leftAfter rightAfter, left.createDirectory path = (problem, leftAfter) ∧
      right.createDirectory path = (problem, rightAfter) ∧ Relisted leftAfter rightAfter :=
  relisted.makeDirectories (path.length + 1) path

end Relisted

end

end RpcRegistry.FileTree
