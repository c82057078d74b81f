import SocialPromotion.Lib.Program

/-!
# Questions that earlier replies permit

What a program may ask can depend on what it was told before: it uses a token only after the reply
that gave it one. A *permission* says of an operation and of the exchanges before it whether it is
allowed, and a program obeys it where it asks nothing else, whatever the replies.

* `Obeys`: the rule, with what holds where the program ends;
* `Obeys.bind`, `Obeys.catching`, `Obeys.ask_bind`, `Obeys.lift_bind`: one rule for each way to
  build a program;
* `Asks.obeys`: a program whose questions are allowed wherever they come obeys;
* `Obeys.embed`: a program obeys within a wider vocabulary as it does in its own.
-/

namespace Program

variable {Op Reply ε α β : Type}

/-- Each question is permitted by the exchanges before it, and the program ends as `ends` says. -/
def Obeys (permits : List (Op × Reply) → Op → Prop)
    (ends : List (Op × Reply) → Except ε α → Prop) :
    List (Op × Reply) → Program Op Reply ε α → Prop
  | history, .pure a => ends history (.ok a)
  | history, .throw e => ends history (.error e)
  | history, .call op next =>
    permits history op ∧ ∀ reply, Obeys permits ends (history ++ [(op, reply)]) (next reply)

/-- Nothing is said about the end. -/
def anyEnd (_ : List (Op × Reply)) (_ : Except ε α) : Prop := True

namespace Obeys

variable {permits : List (Op × Reply) → Op → Prop} {history : List (Op × Reply)}
  {ends ends' : List (Op × Reply) → Except ε α → Prop} {p : Program Op Reply ε α}

theorem mono (h : Obeys permits ends history p) (hEnds : ∀ xs r, ends xs r → ends' xs r) :
    Obeys permits ends' history p := by
  induction p generalizing history with
  | pure a => exact hEnds _ _ h
  | throw e => exact hEnds _ _ h
  | call op next ih => exact ⟨h.1, fun reply => ih reply (h.2 reply)⟩

/-- A sequence obeys where its first part ends so that its second part does. -/
theorem bind {f : α → Program Op Reply ε β} {goal : List (Op × Reply) → Except ε β → Prop}
    (h : Obeys permits ends history p)
    (hNext : ∀ xs a, ends xs (.ok a) → Obeys permits goal xs (f a))
    (hError : ∀ xs e, ends xs (.error e) → goal xs (.error e)) :
    Obeys permits goal history (p >>= f) := by
  induction p generalizing history with
  | pure a => exact hNext _ a h
  | throw e => exact hError _ e h
  | call op next ih => exact ⟨h.1, fun reply => ih reply (h.2 reply)⟩

theorem catching {handler : ε → Program Op Reply ε α}
    {goal : List (Op × Reply) → Except ε α → Prop} (h : Obeys permits ends history p)
    (hOk : ∀ xs a, ends xs (.ok a) → goal xs (.ok a))
    (hHandler : ∀ xs e, ends xs (.error e) → Obeys permits goal xs (handler e)) :
    Obeys permits goal history (p.catching handler) := by
  induction p generalizing history with
  | pure a => exact hOk _ a h
  | throw e => exact hHandler _ e h
  | call op next ih => exact ⟨h.1, fun reply => ih reply (h.2 reply)⟩

theorem ofExcept {result : Except ε α} (h : ends history result) :
    Obeys permits ends history (ofExcept result : Program Op Reply ε α) := by
  cases result <;> exact h

/-- What follows a check may use that it passed. -/
theorem lift_bind {result : Except ε α} {f : α → Program Op Reply ε β}
    {goal : List (Op × Reply) → Except ε β → Prop}
    (h : ∀ a, result = .ok a → Obeys permits goal history (f a))
    (hError : ∀ e, result = .error e → goal history (.error e)) :
    Obeys permits goal history ((liftM result : Program Op Reply ε α) >>= f) := by
  cases result with
  | ok a => exact h a rfl
  | error e => exact hError e rfl

theorem ask_bind {op : Op} {f : Reply → Program Op Reply ε β}
    {goal : List (Op × Reply) → Except ε β → Prop} (h : permits history op)
    (hNext : ∀ reply, Obeys permits goal (history ++ [(op, reply)]) (f reply)) :
    Obeys permits goal history (Program.ask op >>= f) :=
  ⟨h, hNext⟩

end Obeys

/-- A program whose questions are permitted after all of its own. -/
theorem Asks.obeys (allowed : Op → Prop) {permits : List (Op × Reply) → Op → Prop}
    {ends : List (Op × Reply) → Except ε α → Prop} {history : List (Op × Reply)}
    {p : Program Op Reply ε α} (h : p.Asks allowed)
    (hPermits : ∀ more op, (∀ x ∈ more, allowed x.1) → allowed op → permits (history ++ more) op)
    (hEnds : ∀ more r, (∀ x ∈ more, allowed x.1) → ends (history ++ more) r) :
    Obeys permits ends history p := by
  have hStart : history = history ++ [] := (List.append_nil history).symm
  have hNone : ∀ x ∈ ([] : List (Op × Reply)), allowed x.1 := List.forall_mem_nil _
  rw [hStart]
  generalize ([] : List (Op × Reply)) = more at hNone ⊢
  -- by induction on the program, `more` being what it has asked so far
  induction p generalizing more with
  | pure a => exact hEnds more _ hNone
  | throw e => exact hEnds more _ hNone
  | call op next ih =>
    refine ⟨hPermits more op hNone h.1, fun reply => ?_⟩
    rw [List.append_assoc]
    refine ih reply (h.2 reply) _ fun x hMem => ?_
    rcases List.mem_append.mp hMem with hMem | hMem
    · exact hNone x hMem
    · rw [List.mem_singleton.mp hMem]
      exact h.1

/-- Every program obeys where everything is permitted. -/
theorem Obeys.any {permits : List (Op × Reply) → Op → Prop} {history : List (Op × Reply)}
    {p : Program Op Reply ε α} (h : ∀ xs op, permits xs op) : Obeys permits anyEnd history p := by
  induction p generalizing history with
  | pure a => trivial
  | throw e => trivial
  | call op next ih => exact ⟨h history op, fun reply => ih reply⟩

/-! ## A wider vocabulary -/

/-- A program whose questions are asked as `inject` says and whose replies are read by `project`. -/
def embed {Op' Reply' : Type} (inject : Op → Op') (project : Reply' → Reply) :
    Program Op Reply ε α → Program Op' Reply' ε α
  | .pure a => .pure a
  | .throw e => .throw e
  | .call op next => .call (inject op) fun reply => embed inject project (next (project reply))

theorem Obeys.embed {Op' Reply' : Type} {inject : Op → Op'} {project : Reply' → Reply}
    {permits : List (Op × Reply) → Op → Prop} {wide : List (Op' × Reply') → Op' → Prop}
    {p : Program Op Reply ε α}
    (hPermits : ∀ (xs : List (Op × Reply')) op, permits (xs.map (Prod.map id project)) op →
      wide (xs.map (Prod.map inject id)) (inject op))
    (xs : List (Op × Reply')) (h : Obeys permits anyEnd (xs.map (Prod.map id project)) p) :
    Obeys wide anyEnd (xs.map (Prod.map inject id)) (p.embed inject project) := by
  -- by induction on the program, `xs` being what it has asked so far
  induction p generalizing xs with
  | pure a => trivial
  | throw e => trivial
  | call op next ih =>
    refine ⟨hPermits xs op h.1, fun reply => ?_⟩
    have hNext := ih (project reply) (xs ++ [(op, reply)]) (by
      rw [List.map_append]
      exact h.2 (project reply))
    rw [List.map_append] at hNext
    exact hNext

end Program
