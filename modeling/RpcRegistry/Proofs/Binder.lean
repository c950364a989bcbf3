import RpcRegistry.Binder

/-!
A binder over several calls: the state they leave and the answers they get, one call after the
other.
-/

namespace RpcRegistry.Binder

variable {σ : Type}

def after (binder : Binder σ) (calls : List Call) (state : σ) : σ :=
  calls.foldl (fun state call => (binder call state).state) state

def exchanges (binder : Binder σ) : List Call → σ → List (Call × Answer)
  | [], _ => []
  | call :: rest, state =>
      let reply := binder call state
      (call, reply.answer) :: exchanges binder rest reply.state

variable (binder : Binder σ) (calls later : List Call) (call : Call) (state : σ)

@[simp]
theorem after_nil : binder.after [] state = state := rfl

@[simp]
theorem after_cons : binder.after (call :: calls) state =
    binder.after calls (binder call state).state := rfl

theorem after_append : binder.after (calls ++ later) state =
    binder.after later (binder.after calls state) := by
  simp [after, List.foldl_append]

theorem after_concat : binder.after (calls ++ [call]) state =
    (binder call (binder.after calls state)).state := by
  rw [after_append, after_cons, after_nil]

@[simp]
theorem map_fst_exchanges : (binder.exchanges calls state).map Prod.fst = calls := by
  induction calls generalizing state with
  | nil => rfl
  | cons call rest induction => exact congrArg (List.cons call) (induction _)

@[simp]
theorem length_exchanges : (binder.exchanges calls state).length = calls.length := by
  rw [← List.length_map Prod.fst, map_fst_exchanges]

theorem mem_of_mem_exchanges {exchange : Call × Answer}
    (member : exchange ∈ binder.exchanges calls state) : exchange.1 ∈ calls := by
  rw [← map_fst_exchanges binder calls state]
  exact List.mem_map_of_mem member

theorem filter_exchanges_of_all {p : Call → Bool} (all : ∀ call ∈ calls, p call = true) :
    (binder.exchanges calls state).filter (fun exchange => p exchange.1) =
      binder.exchanges calls state := by
  apply List.filter_eq_self.2
  intro exchange member
  exact all _ (mem_of_mem_exchanges binder calls state member)

theorem filter_exchanges_of_none {p : Call → Bool} (all : ∀ call ∈ calls, p call = false) :
    (binder.exchanges calls state).filter (fun exchange => p exchange.1) = [] := by
  apply List.filter_eq_nil_iff.2
  intro exchange member
  rw [all _ (mem_of_mem_exchanges binder calls state member)]
  exact Bool.false_ne_true

theorem exchanges_append : binder.exchanges (calls ++ later) state =
    binder.exchanges calls state ++ binder.exchanges later (binder.after calls state) := by
  induction calls generalizing state with
  | nil => rfl
  | cons call rest induction => exact congrArg (List.cons _) (induction _)

/-- Calls that leave the answers to those behind them as they are: each is answered as if it were
the only one. -/
theorem exchanges_of_undisturbed {binder : Binder σ} {calls : List Call}
    (undisturbed : calls.Pairwise fun first second =>
      ∀ state, (binder second (binder first state).state).answer = (binder second state).answer)
    (state : σ) : binder.exchanges calls state =
      calls.map fun call => (call, (binder call state).answer) := by
  induction calls generalizing state with
  | nil => rfl
  | cons first rest induction =>
      obtain ⟨unmoved, later⟩ := List.pairwise_cons.1 undisturbed
      rw [exchanges, induction later, List.map_cons]
      apply congrArg (List.cons _)
      apply List.map_congr_left
      intro second member
      rw [unmoved second member]

end RpcRegistry.Binder
