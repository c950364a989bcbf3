import Mathlib.Data.List.Perm.Basic
import RpcRegistry.Proofs.Directory.History

/-!
Withdrawing a program version from every network at once. The rows that go are those that
withdrawals network by network take away, in whatever order these come, and it is refused exactly
where each of them is.
-/

namespace RpcRegistry

variable {networks : List NetId} {program : Program} {version : Version} {key : Key}

def Call.withdrawals (networks : List NetId) (program : Program) (version : Version) : List Call :=
  networks.map fun netId => .unregister (some netId) program version

namespace Key

theorem withdraws_everywhere :
    (Call.unregister none program version).withdraws key =
      (key.program = program && key.version = version) := by
  simp only [Call.withdraws, decide_true, Bool.true_or, Bool.and_true]

theorem withdraws_everywhere_iff :
    (Call.unregister none program version).withdraws key = true ↔
      key.program = program ∧ key.version = version := by
  rw [withdraws_everywhere, Bool.and_eq_true, decide_eq_true_eq, decide_eq_true_eq]

theorem withdraws_on_iff {netId : NetId} :
    (Call.unregister (some netId) program version).withdraws key = true ↔
      (key.program = program ∧ key.version = version) ∧ key.netId = netId := by
  rw [← covered_eq_withdraws]
  simp [covered]

/-- Withdrawals on all networks reach what one withdrawal from everywhere does. -/
theorem any_withdrawals (complete : ∀ netId, netId ∈ networks) :
    (Call.withdrawals networks program version).any (·.withdraws key) =
      (Call.unregister none program version).withdraws key := by
  rw [Bool.eq_iff_iff, withdraws_everywhere_iff, Call.withdrawals, List.any_map, List.any_eq_true]
  simp only [Function.comp_apply, withdraws_on_iff]
  constructor
  · rintro ⟨netId, _, reached, _⟩
    exact reached
  · intro reached
    exact ⟨key.netId, complete key.netId, reached, rfl⟩

end Key

namespace LocalDirectory

variable (directory : LocalDirectory)

/-- A withdrawal takes the rows it reaches out of the listing and leaves the others in place. -/
theorem mappings_unregister (netId : Option NetId) (program : Program) (version : Version) :
    let call := Call.unregister netId program version
    (binder call directory).state.mappings =
      directory.mappings.filter fun row => !call.withdraws row.key := by
  simp only [binder, unregister, mappings, Directory.Table.erase, List.filter_map,
    Key.covered_eq_withdraws]
  rfl

theorem answer_unregister_iff {netId : Option NetId} :
    (binder (.unregister netId program version) directory).answer = none ↔
      ∃ row ∈ directory.mappings,
        (Call.unregister netId program version).withdraws row.key = true := by
  rw [answer_eq, ← List.any_eq_true, Call.answerOn]
  split
  · rename_i found
    simp only [found]
  · rename_i notFound
    simp only [notFound, reduceCtorEq, Bool.false_eq_true]

/-- A withdrawal on one network decides nothing about another network. -/
theorem answer_unregister_after_other {first second : NetId} (apart : second ≠ first) :
    (binder (.unregister (some second) program version)
        (binder (.unregister (some first) program version) directory).state).answer =
      (binder (.unregister (some second) program version) directory).answer := by
  rw [answer_eq, answer_eq, mappings_unregister, Call.answerOn, Call.answerOn, List.any_filter]
  -- A row that the second withdrawal reaches is none that the first one took.
  have kept : ∀ row : Mapping,
      (!(Call.unregister (some first) program version).withdraws row.key &&
          (Call.unregister (some second) program version).withdraws row.key) =
        (Call.unregister (some second) program version).withdraws row.key := by
    intro row
    rw [Bool.and_eq_right_iff_imp, Bool.not_eq_true']
    intro reached
    apply Bool.eq_false_iff.2
    intro taken
    exact apart ((Key.withdraws_on_iff.1 reached).2.symm.trans (Key.withdraws_on_iff.1 taken).2)
  simp only [kept]

/-- Of withdrawals on different networks, each is answered as if it were the only one. -/
theorem exchanges_withdrawals (distinct : networks.Nodup) :
    binder.exchanges (Call.withdrawals networks program version) directory =
      (Call.withdrawals networks program version).map fun call =>
        (call, (binder call directory).answer) := by
  apply Binder.exchanges_of_undisturbed
  apply List.pairwise_map.2
  refine List.Pairwise.imp ?_ distinct
  intro first second apart directory
  exact directory.answer_unregister_after_other apart.symm

/-- Withdrawals on all networks leave what one withdrawal from everywhere leaves. -/
theorem after_withdrawals (complete : ∀ netId, netId ∈ networks) :
    binder.after (Call.withdrawals networks program version) directory =
      (binder (.unregister none program version) directory).state := by
  have silent : ∀ key, ∀ call ∈ Call.withdrawals networks program version,
      call.announced? key = none := by
    intro key call member
    obtain ⟨netId, _, rfl⟩ := List.mem_map.1 member
    rfl
  apply LocalDirectory.ext
  · rw [owner_after, owner_step]
  · intro key
    rw [get_after_of_silent (silent key), Key.any_withdrawals complete, get_step]
    exact congrArg (ite _ none) (Option.or_none).symm

/-- There is a row to withdraw on some network where any row is reached from everywhere. -/
theorem exists_granted_iff (complete : ∀ netId, netId ∈ networks) :
    (∃ netId ∈ networks,
        (binder (.unregister (some netId) program version) directory).answer = none) ↔
      (binder (.unregister none program version) directory).answer = none := by
  simp only [answer_unregister_iff, Key.withdraws_on_iff, Key.withdraws_everywhere_iff]
  constructor
  · rintro ⟨netId, _, row, listed, reached, _⟩
    exact ⟨row, listed, reached⟩
  · rintro ⟨row, listed, reached⟩
    exact ⟨row.key.netId, complete row.key.netId, row, listed, reached, rfl⟩

end LocalDirectory

/-- A program version that is withdrawn from every network at once, or from one network after the
other in any order: the directory is the same afterwards, with the rows of other programs and
versions where they were and no row of this one. The one withdrawal is granted just if one of the
six is, and each of these is answered as if it were the only one. -/
theorem LocalDirectory.unregister_network_by_network (directory : LocalDirectory)
    (program : Program) (version : Version) {order : List NetId} (permuted : order.Perm NetId.all) :
    let everywhere := Call.unregister none program version
    let each := Call.withdrawals order program version
    binder.after each directory = (binder everywhere directory).state ∧
      ((binder everywhere directory).answer = none ↔
        ∃ exchange ∈ binder.exchanges each directory, exchange.2 = none) ∧
      binder.exchanges each directory =
        each.map (fun call => (call, (binder call directory).answer)) ∧
      (binder everywhere directory).state.mappings =
        directory.mappings.filter
          fun row => !(row.program = program && row.version = version) := by
  intro everywhere each
  have complete : ∀ netId, netId ∈ order := fun netId => permuted.mem_iff.2 netId.mem_all
  have distinct : order.Nodup := permuted.nodup_iff.2 (by decide)
  have alone : binder.exchanges each directory =
      each.map fun call => (call, (binder call directory).answer) :=
    directory.exchanges_withdrawals distinct
  constructor
  · exact directory.after_withdrawals complete
  constructor
  · rw [alone, ← directory.exists_granted_iff complete]
    simp only [each, Call.withdrawals, List.map_map, List.mem_map, exists_exists_and_eq_and,
      Function.comp_apply]
  constructor
  · exact alone
  · rw [mappings_unregister]
    simp only [Key.withdraws_everywhere]
    rfl

/-- Rows on two of the networks, between rows of another version and of another program. -/
theorem LocalDirectory.unregister_in_reverse :
    let directory := binder.after
      [.register .tcp 100005 1 (.inet 32767), .register .tcp 100005 3 (.inet 32767),
        .register .ticlts 100005 3 (.socketPath "/run/m"), .register .udp 100024 3 (.inet 710)]
      (ofOwner "superuser")
    let each := Call.withdrawals NetId.all.reverse 100005 3
    NetId.all.reverse.Perm NetId.all ∧
      binder.after each directory = (binder (.unregister none 100005 3) directory).state ∧
      (binder.exchanges each directory).map Prod.snd =
        [none, some (.notRegistered 100005 3), some (.notRegistered 100005 3), none,
          some (.notRegistered 100005 3), some (.notRegistered 100005 3)] ∧
      (binder (.unregister none 100005 3) directory).answer = none ∧
      (binder.after each directory).mappings =
        [⟨100005, 1, .tcp, .inet 32767, "superuser"⟩,
          ⟨100024, 3, .udp, .inet 710, "superuser"⟩] := by
  intro directory each
  have permuted : NetId.all.reverse.Perm NetId.all := List.reverse_perm NetId.all
  obtain ⟨same, granted, alone, rows⟩ :=
    directory.unregister_network_by_network 100005 3 permuted
  have answers : (binder.exchanges each directory).map Prod.snd =
      [none, some (.notRegistered 100005 3), some (.notRegistered 100005 3), none,
        some (.notRegistered 100005 3), some (.notRegistered 100005 3)] := by
    rw [alone]
    decide
  have anyGranted : ∃ exchange ∈ binder.exchanges each directory, exchange.2 = none := by
    rw [alone]
    decide
  refine ⟨permuted, same, answers, granted.2 anyGranted, ?_⟩
  rw [same, rows]
  decide

end RpcRegistry
