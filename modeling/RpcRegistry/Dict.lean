/-!
Dictionaries with text keys, kept in the order of their keys, so that two dictionaries with the
same bindings are equal. The operations act on plain lists of entries too, because a dictionary
inside a value tree is such a list.
-/

namespace RpcRegistry

namespace Entries

variable {α : Type}

def get? (key : String) (entries : List (String × α)) : Option α :=
  (entries.find? fun entry => entry.1 = key).map (·.2)

def insert (key : String) (value : α) : List (String × α) → List (String × α)
  | [] => [(key, value)]
  | head :: rest =>
      if key < head.1 then (key, value) :: head :: rest
      else if key = head.1 then (key, value) :: rest
      else head :: insert key value rest

def Sorted (entries : List (String × α)) : Prop :=
  entries.Pairwise fun left right => left.1 < right.1

/-- The entries in order; of two with one key the later counts. -/
def ofList (entries : List (String × α)) : List (String × α) :=
  entries.foldl (fun built entry => insert entry.1 entry.2 built) []

theorem mem_insert {key : String} {value : α} {entry : String × α}
    {entries : List (String × α)} (member : entry ∈ insert key value entries) :
    entry = (key, value) ∨ entry ∈ entries := by
  induction entries with
  | nil => simpa [insert] using member
  | cons head rest induction =>
      unfold insert at member
      grind

theorem sorted_insert {key : String} {value : α} {entries : List (String × α)}
    (sorted : Sorted entries) : Sorted (insert key value entries) := by
  induction entries with
  | nil => simp [insert, Sorted]
  | cons head rest induction =>
      have headBelow := (List.pairwise_cons.1 sorted).1
      have restSorted := (List.pairwise_cons.1 sorted).2
      unfold insert
      split
      · rename_i before
        refine List.pairwise_cons.2 ⟨fun other member => ?_, sorted⟩
        rcases List.mem_cons.1 member with rfl | member
        · exact before
        · exact String.lt_trans before (headBelow other member)
      · split
        · rename_i same
          refine List.pairwise_cons.2 ⟨fun other member => ?_, restSorted⟩
          simpa [same] using headBelow other member
        · refine List.pairwise_cons.2 ⟨fun other member => ?_, induction restSorted⟩
          rcases mem_insert member with rfl | member
          · grind
          · exact headBelow other member

theorem get_insert (key other : String) (value : α) (entries : List (String × α)) :
    get? other (insert key value entries) =
      if other = key then some value else get? other entries := by
  induction entries with
  | nil =>
      simp only [insert, get?, List.find?_cons, List.find?_nil]
      grind
  | cons head rest induction =>
      unfold insert
      simp only [get?] at *
      split
      · grind
      · grind

theorem sorted_ofList (entries : List (String × α)) : Sorted (ofList entries) := by
  have keeps : ∀ built, Sorted built →
      Sorted (entries.foldl (fun built entry => insert entry.1 entry.2 built) built) := by
    induction entries with
    | nil => exact fun built sorted => sorted
    | cons entry rest induction => exact fun built sorted => induction _ (sorted_insert sorted)
  exact keeps [] List.Pairwise.nil

end Entries

structure Dict (α : Type) where
  entries : List (String × α)
  sorted : Entries.Sorted entries

namespace Dict

variable {α : Type}

def empty : Dict α := ⟨[], List.Pairwise.nil⟩

def get? (dict : Dict α) (key : String) : Option α := Entries.get? key dict.entries

def insert (dict : Dict α) (key : String) (value : α) : Dict α :=
  ⟨Entries.insert key value dict.entries, Entries.sorted_insert dict.sorted⟩

def ofList (entries : List (String × α)) : Dict α :=
  ⟨Entries.ofList entries, Entries.sorted_ofList entries⟩

def isEmpty (dict : Dict α) : Bool := dict.entries.isEmpty

def modify (dict : Dict α) (key : String) (change : α → α) : Dict α :=
  match dict.get? key with
  | some value => dict.insert key (change value)
  | none => dict

@[ext]
theorem ext {left right : Dict α} (same : left.entries = right.entries) : left = right := by
  cases left
  cases right
  simp_all

@[simp]
theorem get_insert (dict : Dict α) (key other : String) (value : α) :
    (dict.insert key value).get? other = if other = key then some value else dict.get? other :=
  Entries.get_insert key other value dict.entries

end Dict

end RpcRegistry
