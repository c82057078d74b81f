import Mathlib.Logic.Basic

/-!
# Transactions

A transaction works on a copy of a state, statement by statement. A statement that throws
leaves in the copy what the statements before it have written, and ROLLBACK throws the copy
away. An *atomic operation* is one function from the state to its result and the next state,
with no next state where it throws.

Results:

* `transaction_error`: a transaction that throws changes nothing;
* `Performs`: a sequence of statements computes an atomic operation, with one rule for each
  way to compose statements;
* `Performs.transaction_eq`: the transaction of such a sequence is that operation.
-/

namespace Transaction

variable {σ ε α β : Type}

/-- Statements over a working copy, which outlives a throw. -/
abbrev Work (σ ε α : Type) := ExceptT ε (StateM σ) α

/-- The result of some statements on a working copy, and what they leave in it. -/
def Work.exec (work : Work σ ε α) (s : σ) : Except ε α × σ := work s

/-- BEGIN, the statements, and COMMIT; ROLLBACK where one of them throws. -/
def transaction (work : Work σ ε α) (s : σ) : Except ε α × σ :=
  match work.exec s with
  | (.ok a, t) => (.ok a, t)
  | (.error e, _) => (.error e, s)

/-- One statement, which throws or writes. -/
def statement (f : σ → Except ε (α × σ)) : Work σ ε α := fun s =>
  match f s with
  | .ok (a, t) => (.ok a, t)
  | .error e => (.error e, s)

/-- A statement that reads, or code between two statements. -/
def query (f : σ → Except ε α) : Work σ ε α := statement fun s => (f s).map fun a => (a, s)

/-- A statement that always succeeds. -/
def write (f : σ → σ) : Work σ ε Unit := statement fun s => .ok ((), f s)

/-- Statements behind a condition. -/
def Work.when (c : Prop) [Decidable c] (work : Work σ ε Unit) : Work σ ε Unit :=
  if c then work else pure ()

/-- A transaction that throws changes nothing. -/
theorem transaction_error {work : Work σ ε α} {s : σ} {e : ε}
    (h : (transaction work s).1 = .error e) : (transaction work s).2 = s := by
  unfold transaction at h ⊢
  split at h
  · injection h
  · rfl

/-- The statements compute the operation: they end with its result and its next state, or
throw where it throws. -/
structure Performs (work : Work σ ε α) (f : σ → Except ε (α × σ)) : Prop where
  returns : ∀ s a t, f s = .ok (a, t) → work.exec s = (.ok a, t)
  throws : ∀ s e, f s = .error e → (work.exec s).1 = .error e

theorem performs_statement (f : σ → Except ε (α × σ)) : Performs (statement f) f where
  returns s a t h := by
    simp only [statement, Work.exec, h]
  throws s e h := by
    simp only [statement, Work.exec, h]

theorem performs_pure (a : α) : Performs (pure a : Work σ ε α) fun s => .ok (a, s) where
  returns s b t h := by
    injection h with h
    injection h with hb ht
    rw [← hb, ← ht]
    rfl
  throws _ _ h := by injection h

theorem performs_throw (e : ε) : Performs (throw e : Work σ ε α) fun _ => .error e where
  returns _ _ _ h := by injection h
  throws _ _ h := by
    injection h with h
    rw [h]
    rfl

/-- A sequence goes on where its first part left the working copy. -/
theorem exec_bind (work : Work σ ε α) (rest : α → Work σ ε β) (s : σ) :
    (work >>= rest).exec s = match work.exec s with
      | (.ok a, t) => (rest a).exec t
      | (.error e, t) => (.error e, t) := by
  unfold Work.exec
  simp only [bind, ExceptT.bind, ExceptT.mk, StateT.bind, ExceptT.bindCont]
  rcases work s with ⟨_ | _, t⟩ <;> rfl

/-- Statements after statements. -/
theorem Performs.bind {work : Work σ ε α} {rest : α → Work σ ε β}
    {f : σ → Except ε (α × σ)} {g : α → σ → Except ε (β × σ)} (hWork : Performs work f)
    (hRest : ∀ a, Performs (rest a) (g a)) :
    Performs (work >>= rest) fun s => f s >>= fun result => g result.1 result.2 where
  returns s b u h := by
    cases hf : f s with
    | error e =>
      rw [hf] at h
      injection h
    | ok result =>
      obtain ⟨a, t⟩ := result
      rw [hf] at h
      rw [exec_bind, hWork.returns s a t hf]
      exact (hRest a).returns t b u h
  throws s e h := by
    cases hf : f s with
    | error e' =>
      rw [hf] at h
      injection h with h
      have hFirst := hWork.throws s e' hf
      rw [exec_bind]
      generalize work.exec s = outcome at hFirst
      obtain ⟨answer, t⟩ := outcome
      simp only at hFirst
      rw [hFirst, h]
    | ok result =>
      obtain ⟨a, t⟩ := result
      rw [hf] at h
      rw [exec_bind, hWork.returns s a t hf]
      exact (hRest a).throws t e h

/-- Reading, then going on. -/
theorem Performs.query_bind {f : σ → Except ε α} {rest : α → Work σ ε β}
    {g : α → σ → Except ε (β × σ)} (h : ∀ a, Performs (rest a) (g a)) :
    Performs (query f >>= rest) fun s => f s >>= fun a => g a s := by
  have hBoth := (performs_statement fun s => (f s).map fun a => (a, s)).bind h
  have hEq : (fun s => (f s).map (fun a => (a, s)) >>= fun result => g result.1 result.2) =
      fun s => f s >>= fun a => g a s := by
    funext s
    cases f s <;> rfl
  exact hEq ▸ hBoth

/-- Writing, then going on. -/
theorem Performs.write_bind {f : σ → σ} {rest : Work σ ε β} {g : σ → Except ε (β × σ)}
    (h : Performs rest g) : Performs (write f >>= fun _ => rest) fun s => g (f s) :=
  (performs_statement fun s => .ok ((), f s)).bind fun _ => h

/-- A part that returns nothing, then going on. -/
theorem Performs.unit_bind {work : Work σ ε Unit} {f : σ → Except ε σ} {rest : Work σ ε β}
    {g : σ → Except ε (β × σ)} (hWork : Performs work fun s => (f s).map fun t => ((), t))
    (h : Performs rest g) : Performs (work >>= fun _ => rest) fun s => f s >>= g := by
  have hBoth := hWork.bind fun _ => h
  have hEq : (fun s => (f s).map (fun t => ((), t)) >>= fun result => g result.2) =
      fun s => f s >>= g := by
    funext s
    cases f s <;> rfl
  exact hEq ▸ hBoth

theorem Performs.congr {work : Work σ ε α} {f g : σ → Except ε (α × σ)}
    (h : Performs work f) (hEq : ∀ s, f s = g s) : Performs work g :=
  (funext hEq : f = g) ▸ h

/-- A write behind a condition, then going on. -/
theorem Performs.when_write_bind {c : Prop} [Decidable c] {f : σ → σ} {rest : Work σ ε β}
    {g : σ → Except ε (β × σ)} (h : Performs rest g) :
    Performs (Work.when c (write f) >>= fun _ => rest) fun s => g (if c then f s else s) := by
  unfold Work.when
  split
  · exact h.write_bind
  · exact (performs_pure ()).bind fun _ => h

/-- A check behind a condition, then going on. -/
theorem Performs.when_query_bind {c : Prop} [Decidable c] {f : σ → Except ε Unit}
    {rest : Work σ ε β} {g : σ → Except ε (β × σ)} (h : Performs rest g) :
    Performs (Work.when c (query f) >>= fun _ => rest) fun s =>
      if c then f s >>= fun _ => g s else g s := by
  unfold Work.when
  split
  · exact Performs.query_bind fun _ => h
  · exact (performs_pure ()).bind fun _ => h

/-- A loop of statements is a loop of operations. -/
theorem performs_forM {body : β → Work σ ε Unit} {step : σ → β → Except ε σ}
    (h : ∀ x, Performs (body x) fun s => (step s x).map fun t => ((), t)) (l : List β) :
    Performs (l.forM body) fun s => (l.foldlM step s).map fun t => ((), t) := by
  induction l with
  | nil => exact performs_pure ()
  | cons x rest ih =>
    refine ((h x).bind fun _ => ih).congr fun s => ?_
    rw [List.foldlM_cons]
    cases step s x <;> rfl

/-- **Atomicity.** The transaction of some statements is the operation they compute: its
result and its next state, or its error and the state as it was. -/
theorem Performs.transaction_eq {work : Work σ ε α} {f : σ → Except ε (α × σ)}
    (h : Performs work f) (s : σ) :
    transaction work s = match f s with
      | .ok (a, t) => (.ok a, t)
      | .error e => (.error e, s) := by
  unfold transaction
  cases hf : f s with
  | ok result =>
    obtain ⟨a, t⟩ := result
    rw [h.returns s a t hf]
  | error e =>
    have hThrows := h.throws s e hf
    generalize work.exec s = outcome at hThrows
    obtain ⟨answer, t⟩ := outcome
    simp only at hThrows
    rw [hThrows]

end Transaction
