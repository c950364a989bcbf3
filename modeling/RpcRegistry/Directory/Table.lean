import RpcRegistry.Binder

/-!
The table of a directory: one endpoint for each program, version and network, kept in that order.
The order is part of the type, so a listing is sorted and has no key twice.
-/

namespace RpcRegistry

structure Key where
  program : Program
  version : Version
  netId : NetId
  deriving DecidableEq, Repr

namespace Key

def ordinal (key : Key) : Nat :=
  (key.program.toNat * UInt32.size + key.version.toNat) * 6 + key.netId.index

theorem ordinal_inj {left right : Key} (same : left.ordinal = right.ordinal) : left = right := by
  have leftVersion := left.version.toNat_lt
  have rightVersion := right.version.toNat_lt
  have leftIndex := left.netId.index_lt
  have rightIndex := right.netId.index_lt
  unfold ordinal UInt32.size at same
  have netId : left.netId.index = right.netId.index := by omega
  have version : left.version.toNat = right.version.toNat := by omega
  have program : left.program.toNat = right.program.toNat := by omega
  cases left
  cases right
  simp only [mk.injEq]
  exact ⟨UInt32.toNat_inj.1 program, UInt32.toNat_inj.1 version, NetId.index_inj netId⟩

/-- The keys a withdrawal reaches: those of its program and version, on its network if it has
one. -/
def covered (netId : Option NetId) (program : Program) (version : Version) (key : Key) : Bool :=
  key.program = program && key.version = version &&
    match netId with
    | none => true
    | some netId => key.netId = netId

end Key

namespace Directory

abbrev Entry := Key × Endpoint

def Sorted (entries : List Entry) : Prop :=
  entries.Pairwise fun left right => left.1.ordinal < right.1.ordinal

def insertEntry (entry : Entry) : List Entry → List Entry
  | [] => [entry]
  | head :: rest =>
      if entry.1.ordinal < head.1.ordinal then entry :: head :: rest
      else head :: insertEntry entry rest

theorem mem_insertEntry {entry other : Entry} {entries : List Entry} :
    other ∈ insertEntry entry entries ↔ other = entry ∨ other ∈ entries := by
  induction entries with
  | nil => simp [insertEntry]
  | cons head rest induction =>
      unfold insertEntry
      split
      · simp
      · simp only [List.mem_cons, induction]
        grind

theorem sorted_insertEntry {entry : Entry} {entries : List Entry} (sorted : Sorted entries)
    (absent : ∀ other ∈ entries, other.1 ≠ entry.1) : Sorted (insertEntry entry entries) := by
  induction entries with
  | nil => simp [insertEntry, Sorted]
  | cons head rest induction =>
      have headBelow := (List.pairwise_cons.1 sorted).1
      have restSorted := (List.pairwise_cons.1 sorted).2
      unfold insertEntry
      split
      · rename_i before
        refine List.pairwise_cons.2 ⟨?_, sorted⟩
        intro other member
        rcases List.mem_cons.1 member with rfl | member
        · exact before
        · exact Nat.lt_trans before (headBelow other member)
      · rename_i notBefore
        have distinct : head.1.ordinal ≠ entry.1.ordinal := fun same =>
          absent head (by simp) (Key.ordinal_inj same)
        refine List.pairwise_cons.2
          ⟨?_, induction restSorted fun other member => absent other (by simp [member])⟩
        intro other member
        rcases mem_insertEntry.1 member with rfl | member
        · omega
        · exact headBelow other member

end Directory

structure Directory.Table where
  entries : List Directory.Entry
  sorted : Directory.Sorted entries

namespace Directory.Table

def empty : Table := ⟨[], List.Pairwise.nil⟩

def get? (table : Table) (key : Key) : Option Endpoint :=
  (table.entries.find? (·.1 = key)).map (·.2)

def size (table : Table) : Nat := table.entries.length

def insertNew (table : Table) (key : Key) (endpoint : Endpoint)
    (absent : table.get? key = none) : Table :=
  ⟨insertEntry (key, endpoint) table.entries, by
    refine sorted_insertEntry table.sorted fun other member same => ?_
    simp only [get?, Option.map_eq_none_iff, List.find?_eq_none] at absent
    exact absent other member (by simpa using same)⟩

def erase (table : Table) (drop : Key → Bool) : Table :=
  ⟨table.entries.filter fun entry => !drop entry.1, table.sorted.filter _⟩

end Directory.Table

end RpcRegistry
