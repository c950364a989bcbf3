import RpcRegistry.FileTree
import RpcRegistry.Proofs.Success

/-!
Making directories. It never moves the working directory, and where a directory is already there
nothing is made.
-/

namespace RpcRegistry

theorem Location.isAbsolute_path (location : Location) :
    Path.isAbsolute location.path = true := by
  unfold Location.path
  split
  · rfl
  · cases location with
    | nil => contradiction
    | cons name rest =>
        rw [List.map_cons, String.join_cons, Path.isAbsolute, String.toList_append,
          String.toList_append]
        rfl

namespace FileTree

variable {tree after : FileTree} {path : String}

theorem working_makeDirectory (made : tree.makeDirectory path = .ok after) :
    after.working = tree.working := by
  unfold makeDirectory at made
  obtain ⟨place, _, made⟩ := exists_of_bind_ok made
  cases place with
  | absent location =>
      cases made
      rfl
  | present location node => cases made

theorem working_ensureDirectory (path : String) :
    (tree.ensureDirectory path).2.working = tree.working := by
  unfold ensureDirectory
  split
  · rename_i made
    exact working_makeDirectory made
  · rfl

theorem working_makeDirectories (fuel : Nat) (tree : FileTree) (path : String) :
    (tree.makeDirectories fuel path).2.working = tree.working := by
  induction fuel generalizing path with
  | zero => rfl
  | succ fuel induction =>
      unfold makeDirectories
      split
      · rfl
      · split
        · split
          · rfl
          · rename_i parent _
            have below := induction parent
            split
            · rename_i made isMade
              rw [working_ensureDirectory]
              rwa [isMade] at below
            · exact below
        · exact working_ensureDirectory path

theorem working_createDirectory {problem : Option FileError}
    (made : tree.createDirectory path = (problem, after)) : after.working = tree.working := by
  have kept := working_makeDirectories (path.length + 1) tree path
  rwa [← createDirectory, made] at kept

theorem createDirectory_of_isDirectory (there : tree.isDirectory path = true) :
    tree.createDirectory path = (none, tree) := by
  have notMade : ∃ problem, tree.makeDirectory path = .error problem := by
    unfold isDirectory find? at there
    unfold makeDirectory
    cases located : tree.locate path with
    | error problem => exact ⟨problem, rfl⟩
    | ok place =>
        rw [located] at there
        cases place with
        | present location node => exact ⟨.alreadyExists, rfl⟩
        | absent location => cases there
  have settled : tree.ensureDirectory path = (none, tree) := by
    obtain ⟨problem, notMade⟩ := notMade
    rw [ensureDirectory, notMade]
    exact congrArg (·, tree) (if_pos there)
  unfold createDirectory makeDirectories
  rw [settled]
  exact ite_self _

end FileTree

end RpcRegistry
