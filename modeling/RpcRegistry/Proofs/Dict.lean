import Mathlib.Data.List.Nodup
import RpcRegistry.Dict

/-!
What a list of keyed rows holds, seen through look-up: where no key occurs twice, a row is there
exactly when its key maps to its value. The strict order of a dictionary's keys sees to that.
-/

namespace RpcRegistry

theorem mem_of_find_key {κ α : Type} [DecidableEq κ] {rows : List (κ × α)} {key : κ} {value : α}
    (found : (rows.find? fun row => row.1 = key).map Prod.snd = some value) :
    (key, value) ∈ rows := by
  obtain ⟨row, located, rfl⟩ := Option.map_eq_some_iff.1 found
  have sameKey : row.1 = key := by simpa using List.find?_some located
  have member := List.mem_of_find?_eq_some located
  rwa [← sameKey]

theorem find_key_eq_some_iff {κ α : Type} [DecidableEq κ] {rows : List (κ × α)} {key : κ}
    {value : α} (distinct : (rows.map Prod.fst).Nodup) :
    (rows.find? fun row => row.1 = key).map Prod.snd = some value ↔ (key, value) ∈ rows := by
  constructor
  · exact mem_of_find_key
  · intro member
    have isFound : (rows.find? fun row => row.1 = key).isSome := by
      rw [List.find?_isSome]
      exact ⟨(key, value), member, by simp⟩
    obtain ⟨row, located⟩ := Option.isSome_iff_exists.1 isFound
    have sameKey : row.1 = key := by simpa using List.find?_some located
    have sameRow : row = (key, value) :=
      List.inj_on_of_nodup_map distinct (List.mem_of_find?_eq_some located) member sameKey
    rw [located, sameRow]
    rfl

/-- What a key is bound to does not depend on the order of the rows. -/
theorem find_key_of_perm {κ α : Type} [DecidableEq κ] {left right : List (κ × α)} {key : κ}
    (distinct : (left.map Prod.fst).Nodup) (order : left.Perm right) :
    (left.find? fun row => row.1 = key).map Prod.snd =
      (right.find? fun row => row.1 = key).map Prod.snd := by
  have stillDistinct := (order.map Prod.fst).nodup_iff.1 distinct
  apply Option.ext
  intro value
  rw [find_key_eq_some_iff distinct, find_key_eq_some_iff stillDistinct, order.mem_iff]

namespace Entries

variable {α : Type} {entries : List (String × α)} {key : String} {value : α}

theorem Sorted.nodup_keys (sorted : Sorted entries) : (entries.map Prod.fst).Nodup := by
  apply List.pairwise_map.2
  refine List.Pairwise.imp ?_ sorted
  intro left right below same
  rw [same] at below
  exact String.lt_irrefl _ below

theorem mem_of_get (found : get? key entries = some value) : (key, value) ∈ entries :=
  mem_of_find_key found

theorem Sorted.get_eq_some_iff (sorted : Sorted entries) :
    get? key entries = some value ↔ (key, value) ∈ entries :=
  find_key_eq_some_iff sorted.nodup_keys

theorem get_cons (entry : String × α) : get? key (entry :: entries) =
    if key = entry.1 then some entry.2 else get? key entries := by
  by_cases own : key = entry.1
  · simp [get?, own]
  · simp [get?, own, Ne.symm own]

theorem get_eq_none_iff : get? key entries = none ↔ key ∉ entries.map Prod.fst := by
  rw [get?, Option.map_eq_none_iff, List.find?_eq_none]
  simp only [List.mem_map, decide_eq_true_eq, not_exists, not_and]

theorem get_map {β : Type} (change : String → α → β) :
    get? key (entries.map fun entry => (entry.1, change entry.1 entry.2)) =
      (get? key entries).map (change key) := by
  induction entries with
  | nil => rfl
  | cons entry rest induction =>
      rw [List.map_cons, get_cons, get_cons]
      by_cases own : key = entry.1
      · rw [if_pos own, if_pos own, own]
        rfl
      · rw [if_neg own, if_neg own, induction]

theorem forall_keys_iff {names : List String} :
    (∀ entry ∈ entries, entry.1 ∈ names) ↔ ∀ key, key ∉ names → get? key entries = none := by
  constructor
  · intro known key unknown
    refine get_eq_none_iff.2 fun isKey => unknown ?_
    obtain ⟨entry, member, rfl⟩ := List.mem_map.1 isKey
    exact known entry member
  · intro unbound entry member
    by_contra unknown
    exact get_eq_none_iff.1 (unbound entry.1 unknown) (List.mem_map_of_mem member)

/-- Entries in order are known by what they bind. -/
theorem Sorted.ext {left right : List (String × α)} (leftSorted : Sorted left)
    (rightSorted : Sorted right) (same : ∀ key, get? key left = get? key right) : left = right := by
  have distinct : ∀ {entries : List (String × α)}, Sorted entries → entries.Nodup :=
    fun sorted => List.Nodup.of_map _ sorted.nodup_keys
  have sameMembers : left.Perm right := by
    rw [List.perm_ext_iff_of_nodup (distinct leftSorted) (distinct rightSorted)]
    rintro ⟨key, value⟩
    rw [← leftSorted.get_eq_some_iff, same, rightSorted.get_eq_some_iff]
  refine sameMembers.eq_of_pairwise ?_ leftSorted rightSorted
  intro earlier later _ _ below above
  exact absurd (String.lt_trans below above) (String.lt_irrefl _)

theorem mem_ofList {entry : String × α} (member : entry ∈ ofList entries) : entry ∈ entries := by
  suffices among : ∀ built : List (String × α),
      entry ∈ entries.foldl (fun built entry => insert entry.1 entry.2 built) built →
        entry ∈ entries ∨ entry ∈ built from (among [] member).resolve_right List.not_mem_nil
  clear member
  induction entries with
  | nil => exact fun built member => Or.inr member
  | cons head rest induction =>
      intro built member
      rcases induction _ member with inRest | inserted
      · exact Or.inl (List.mem_cons_of_mem _ inRest)
      · rcases mem_insert inserted with rfl | inBuilt
        · exact Or.inl List.mem_cons_self
        · exact Or.inr inBuilt

theorem get_ofList (distinct : (entries.map Prod.fst).Nodup) :
    get? key (ofList entries) = get? key entries := by
  suffices keeps : ∀ built, (∀ entry ∈ entries, get? entry.1 built = none) →
      get? key (entries.foldl (fun built entry => insert entry.1 entry.2 built) built) =
        (get? key entries).or (get? key built) by
    rw [ofList, keeps [] fun _ _ => rfl]
    cases get? key entries <;> rfl
  induction entries with
  | nil => exact fun built _ => rfl
  | cons entry rest induction =>
      intro built fresh
      obtain ⟨headFresh, restDistinct⟩ := List.nodup_cons.1 distinct
      have stillFresh : ∀ other ∈ rest, get? other.1 (insert entry.1 entry.2 built) = none := by
        intro other member
        have apart : other.1 ≠ entry.1 := fun same =>
          headFresh (same ▸ List.mem_map_of_mem member)
        rw [get_insert, if_neg apart, fresh other (List.mem_cons_of_mem _ member)]
      rw [List.foldl_cons, induction restDistinct _ stillFresh, get_insert, get_cons]
      by_cases own : key = entry.1
      · have notLater : get? key rest = none := get_eq_none_iff.2 (own ▸ headFresh)
        rw [if_pos own, if_pos own, notLater]
        rfl
      · rw [if_neg own, if_neg own]

section Reading

variable {β : Type} {read : α → Option β} {built : List (String × β)}

/-- Entries in order are a dictionary as they stand. -/
theorem Sorted.ofList_eq (sorted : Sorted entries) : ofList entries = entries :=
  (sorted_ofList entries).ext sorted fun _ => get_ofList sorted.nodup_keys

theorem keys_of_mapM
    (done : (entries.mapM fun entry => (read entry.2).map (entry.1, ·)) = some built) :
    built.map Prod.fst = entries.map Prod.fst := by
  induction entries generalizing built with
  | nil =>
      rw [List.mapM_nil] at done
      cases done
      rfl
  | cons entry rest induction =>
      rw [List.mapM_cons] at done
      obtain ⟨first, readFirst, done⟩ := Option.bind_eq_some_iff.1 done
      obtain ⟨later, readLater, done⟩ := Option.bind_eq_some_iff.1 done
      obtain ⟨value, _, rfl⟩ := Option.map_eq_some_iff.1 readFirst
      cases done
      rw [List.map_cons, List.map_cons, induction readLater]

theorem Sorted.of_keys (sorted : Sorted entries)
    (sameKeys : built.map Prod.fst = entries.map Prod.fst) : Sorted built := by
  apply List.pairwise_map.1
  rw [sameKeys]
  exact List.pairwise_map.2 sorted

/-- Reading all values keeps what is bound to what. -/
theorem get_of_mapM
    (done : (entries.mapM fun entry => (read entry.2).map (entry.1, ·)) = some built) :
    (get? key entries).map read = (get? key built).map some := by
  induction entries generalizing built with
  | nil =>
      rw [List.mapM_nil] at done
      cases done
      rfl
  | cons entry rest induction =>
      rw [List.mapM_cons] at done
      obtain ⟨first, readFirst, done⟩ := Option.bind_eq_some_iff.1 done
      obtain ⟨later, readLater, done⟩ := Option.bind_eq_some_iff.1 done
      obtain ⟨value, readOwn, rfl⟩ := Option.map_eq_some_iff.1 readFirst
      cases done
      rw [get_cons, get_cons]
      by_cases own : key = entry.1
      · rw [if_pos own, if_pos own, Option.map_some, readOwn]
        rfl
      · rw [if_neg own, if_neg own]
        exact induction readLater

theorem isSome_of_mapM
    (done : (entries.mapM fun entry => (read entry.2).map (entry.1, ·)) = some built)
    {entry : String × α} (member : entry ∈ entries) : (read entry.2).isSome := by
  induction entries generalizing built with
  | nil => cases member
  | cons head rest induction =>
      rw [List.mapM_cons] at done
      obtain ⟨first, readFirst, done⟩ := Option.bind_eq_some_iff.1 done
      obtain ⟨later, readLater, _⟩ := Option.bind_eq_some_iff.1 done
      obtain ⟨value, readOwn, _⟩ := Option.map_eq_some_iff.1 readFirst
      rcases List.mem_cons.1 member with rfl | member
      · exact Option.isSome_of_eq_some readOwn
      · exact induction readLater member

theorem exists_of_mapM (each : ∀ entry ∈ entries, (read entry.2).isSome) :
    ∃ built, (entries.mapM fun entry => (read entry.2).map (entry.1, ·)) = some built := by
  induction entries with
  | nil => exact ⟨[], List.mapM_nil⟩
  | cons entry rest induction =>
      obtain ⟨value, readOwn⟩ := Option.isSome_iff_exists.1 (each entry List.mem_cons_self)
      obtain ⟨later, readLater⟩ :=
        induction fun other member => each other (List.mem_cons_of_mem _ member)
      refine ⟨(entry.1, value) :: later, ?_⟩
      rw [List.mapM_cons, readOwn, Option.map_some, readLater]
      rfl

end Reading

end Entries

namespace Dict

variable {α : Type} {left right : Dict α}

/-- A dictionary is known by what it binds. -/
theorem ext_get (same : ∀ key, left.get? key = right.get? key) : left = right :=
  Dict.ext (left.sorted.ext right.sorted same)

theorem get_of_perm (dict : Dict α) {entries : List (String × α)}
    (order : entries.Perm dict.entries) (key : String) :
    Entries.get? key entries = dict.get? key :=
  find_key_of_perm ((order.map Prod.fst).nodup_iff.2 dict.sorted.nodup_keys) order

theorem get_modify (dict : Dict α) (key other : String) (change : α → α) :
    (dict.modify key change).get? other =
      if other = key then (dict.get? key).map change else dict.get? other := by
  unfold modify
  cases bound : dict.get? key with
  | some value => exact dict.get_insert key other (change value)
  | none =>
      dsimp only
      split
      · rename_i own
        rw [own]
        exact bound
      · rfl

theorem modify_of_unbound {dict : Dict α} {key : String} (unbound : dict.get? key = none)
    (change : α → α) : dict.modify key change = dict := by
  rw [modify, unbound]

end Dict

end RpcRegistry
