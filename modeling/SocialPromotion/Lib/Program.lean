import Mathlib.Logic.Basic

/-!
# Programs that ask

A program asks the outside one question after the other and goes on with each reply; it ends
with a value, or by throwing. Run against a sequence of replies it leaves a conversation: the
questions with their replies, and how it ended. A process is one program, or several that run
side by side and one that goes on with all their values.

Results:

* `Program.Asks` with a rule for each way to build a program, and `Asks.exchanges`: a program
  asks nothing but what its text allows, whatever the replies;
* `Program.Passes` and `Program.Stops` with their rules for sequences: how far a program gets
  and with which questions;
* `Program.Hindered.bind`: the first hindrance of a sequence is the first of its parts;
* `Process.threads`: the exchanges of a process, program by program;
* `Process.run_all_reaches`: programs side by side fail with the one that fails first, and
  otherwise hand on all their values.
-/

/-- Questions `Op`, replies `Reply`, thrown values `ε`. -/
inductive Program (Op Reply ε α : Type)
  | pure (a : α)
  | throw (error : ε)
  | call (op : Op) (next : Reply → Program Op Reply ε α)

namespace Program

variable {Op Reply ε α β κ : Type}

def bind (p : Program Op Reply ε α) (f : α → Program Op Reply ε β) : Program Op Reply ε β :=
  match p with
  | .pure a => f a
  | .throw e => .throw e
  | .call op next => .call op fun reply => (next reply).bind f

/-- `try p catch handler`. -/
def catching (p : Program Op Reply ε α) (handler : ε → Program Op Reply ε α) :
    Program Op Reply ε α :=
  match p with
  | .pure a => .pure a
  | .throw e => handler e
  | .call op next => .call op fun reply => (next reply).catching handler

def ofExcept : Except ε α → Program Op Reply ε α
  | .ok a => .pure a
  | .error e => .throw e

/-- One question, for its reply. -/
def ask (op : Op) : Program Op Reply ε Reply := .call op .pure

instance : Monad (Program Op Reply ε) where
  pure := .pure
  bind := bind

theorem bind_bind (p : Program Op Reply ε α) (f : α → Program Op Reply ε β)
    (g : β → Program Op Reply ε κ) : (p.bind f).bind g = p.bind fun a => (f a).bind g := by
  induction p with
  | pure a => rfl
  | throw e => rfl
  | call op next ih => exact congrArg (call op) (funext ih)

theorem bind_return (p : Program Op Reply ε α) : p.bind .pure = p := by
  induction p with
  | pure a => rfl
  | throw e => rfl
  | call op next ih => exact congrArg (call op) (funext ih)

instance : LawfulMonad (Program Op Reply ε) :=
  LawfulMonad.mk' _ bind_return (fun _ _ => rfl) bind_bind

instance : MonadExcept ε (Program Op Reply ε) where
  throw := .throw
  tryCatch := catching

instance : MonadLift (Except ε) (Program Op Reply ε) where
  monadLift := ofExcept

/-! ## Conversations -/

end Program

structure Conversation (Op Reply ε α : Type) where
  exchanges : List (Op × Reply)
  result : Except ε α

namespace Program

variable {Op Reply ε α β κ : Type}

/-- The conversation of a program whose next question is number `n`. -/
def run (replies : Nat → Reply) : Nat → Program Op Reply ε α → Conversation Op Reply ε α
  | _, .pure a => ⟨[], .ok a⟩
  | _, .throw e => ⟨[], .error e⟩
  | n, .call op next =>
    let rest := run replies (n + 1) (next (replies n))
    ⟨(op, replies n) :: rest.exchanges, rest.result⟩

/-- What is thrown in the first part, the second part never sees. -/
theorem run_bind_error {replies : Nat → Reply} {n : Nat} {p : Program Op Reply ε α}
    {f : α → Program Op Reply ε β} {e : ε} (h : (p.run replies n).result = .error e) :
    (p >>= f).run replies n = ⟨(p.run replies n).exchanges, .error e⟩ := by
  induction p generalizing n with
  | pure a => injection h
  | throw e' =>
    obtain rfl : e' = e := Except.error.inj h
    rfl
  | call op next ih =>
    have hNext := ih (replies n) h
    rw [show (call op next >>= f).run replies n =
      let rest := (next (replies n) >>= f).run replies (n + 1)
      ⟨(op, replies n) :: rest.exchanges, rest.result⟩ from rfl, hNext]
    rfl

theorem run_bind_ok {replies : Nat → Reply} {n : Nat} {p : Program Op Reply ε α}
    {f : α → Program Op Reply ε β} {a : α} (h : (p.run replies n).result = .ok a) :
    (p >>= f).run replies n =
      let rest := (f a).run replies (n + (p.run replies n).exchanges.length)
      ⟨(p.run replies n).exchanges ++ rest.exchanges, rest.result⟩ := by
  induction p generalizing n with
  | pure a' =>
    obtain rfl : a' = a := Except.ok.inj h
    rfl
  | throw e => injection h
  | call op next ih =>
    have hNext := ih (replies n) h
    rw [show (call op next >>= f).run replies n =
      let rest := (next (replies n) >>= f).run replies (n + 1)
      ⟨(op, replies n) :: rest.exchanges, rest.result⟩ from rfl, hNext]
    simp only [run, List.length_cons, List.cons_append, Nat.add_right_comm n 1, Nat.add_assoc]

/-- One question whose reply decides the result at once. -/
theorem run_ask_lift {replies : Nat → Reply} {n : Nat} (op : Op) (decide : Reply → Except ε α) :
    (ask op >>= fun reply => ofExcept (decide reply)).run replies n =
      ⟨[(op, replies n)], decide (replies n)⟩ := by
  have hRun : (ask op >>= fun reply => ofExcept (decide reply)).run replies n =
      let rest := (ofExcept (decide (replies n)) : Program Op Reply ε α).run replies (n + 1)
      ⟨(op, replies n) :: rest.exchanges, rest.result⟩ := rfl
  rw [hRun]
  cases decide (replies n) <;> rfl

theorem run_catching_ok {replies : Nat → Reply} {n : Nat} {p : Program Op Reply ε α} {a : α}
    (handler : ε → Program Op Reply ε α) (h : (p.run replies n).result = .ok a) :
    (p.catching handler).run replies n = p.run replies n := by
  induction p generalizing n with
  | pure a' => rfl
  | throw e => injection h
  | call op next ih =>
    have hNext := ih (replies n) h
    rw [show ((call op next).catching handler).run replies n =
      let rest := ((next (replies n)).catching handler).run replies (n + 1)
      ⟨(op, replies n) :: rest.exchanges, rest.result⟩ from rfl, hNext]
    rfl

theorem run_catching_error {replies : Nat → Reply} {n : Nat} {p : Program Op Reply ε α} {e : ε}
    (handler : ε → Program Op Reply ε α) (h : (p.run replies n).result = .error e) :
    (p.catching handler).run replies n =
      let rest := (handler e).run replies (n + (p.run replies n).exchanges.length)
      ⟨(p.run replies n).exchanges ++ rest.exchanges, rest.result⟩ := by
  induction p generalizing n with
  | pure a => injection h
  | throw e' =>
    obtain rfl : e' = e := Except.error.inj h
    rfl
  | call op next ih =>
    have hNext := ih (replies n) h
    rw [show ((call op next).catching handler).run replies n =
      let rest := ((next (replies n)).catching handler).run replies (n + 1)
      ⟨(op, replies n) :: rest.exchanges, rest.result⟩ from rfl, hNext]
    simp only [run, List.length_cons, List.cons_append, Nat.add_right_comm n 1, Nat.add_assoc]

/-! ## What a program may ask -/

/-- Every question in the text of the program is allowed. -/
def Asks (allowed : Op → Prop) : Program Op Reply ε α → Prop
  | .pure _ | .throw _ => True
  | .call op next => allowed op ∧ ∀ reply, (next reply).Asks allowed

namespace Asks

variable {allowed : Op → Prop} {p : Program Op Reply ε α}

theorem bind {f : α → Program Op Reply ε β} (h : p.Asks allowed)
    (hNext : ∀ a, (f a).Asks allowed) : (p >>= f).Asks allowed := by
  induction p with
  | pure a => exact hNext a
  | throw e => trivial
  | call op next ih => exact ⟨h.1, fun reply => ih reply (h.2 reply)⟩

theorem catching {handler : ε → Program Op Reply ε α} (h : p.Asks allowed)
    (hHandler : ∀ e, (handler e).Asks allowed) : (p.catching handler).Asks allowed := by
  induction p with
  | pure a => trivial
  | throw e => exact hHandler e
  | call op next ih => exact ⟨h.1, fun reply => ih reply (h.2 reply)⟩

theorem ofExcept (result : Except ε α) : (ofExcept result : Program Op Reply ε α).Asks allowed := by
  cases result <;> trivial

theorem ask {op : Op} (h : allowed op) : (ask op : Program Op Reply ε Reply).Asks allowed :=
  ⟨h, fun _ => trivial⟩

theorem mono {allowed' : Op → Prop} (h : p.Asks allowed) (hMono : ∀ op, allowed op → allowed' op) :
    p.Asks allowed' := by
  induction p with
  | pure | throw => trivial
  | call op next ih => exact ⟨hMono op h.1, fun reply => ih reply (h.2 reply)⟩

/-- The questions a run puts are among those of the text. -/
theorem exchanges (h : p.Asks allowed) {replies : Nat → Reply} {n : Nat} {x : Op × Reply}
    (hMem : x ∈ (p.run replies n).exchanges) : allowed x.1 := by
  induction p generalizing n with
  | pure | throw => cases hMem
  | call op next ih =>
    cases hMem with
    | head => exact h.1
    | tail _ hRest => exact ih (replies n) (h.2 _) hRest

end Asks

/-! ## What a program may throw -/

/-- Every error in the text of the program is allowed. -/
def Throws (allowed : ε → Prop) : Program Op Reply ε α → Prop
  | .pure _ => True
  | .throw e => allowed e
  | .call _ next => ∀ reply, (next reply).Throws allowed

namespace Throws

variable {allowed : ε → Prop} {p : Program Op Reply ε α}

theorem bind {f : α → Program Op Reply ε β} (h : p.Throws allowed)
    (hNext : ∀ a, (f a).Throws allowed) : (p >>= f).Throws allowed := by
  induction p with
  | pure a => exact hNext a
  | throw e => exact h
  | call op next ih => exact fun reply => ih reply (h reply)

theorem catching {handler : ε → Program Op Reply ε α} (h : ∀ e, (handler e).Throws allowed) :
    (p.catching handler).Throws allowed := by
  induction p with
  | pure a => trivial
  | throw e => exact h e
  | call op next ih => exact ih

theorem ofExcept {result : Except ε α} (h : ∀ e, result = .error e → allowed e) :
    (ofExcept result : Program Op Reply ε α).Throws allowed := by
  cases result with
  | ok a => trivial
  | error e => exact h e rfl

/-- The error a run ends with is among those of the text. -/
theorem result (h : p.Throws allowed) {replies : Nat → Reply} {n : Nat} {e : ε}
    (hError : (p.run replies n).result = .error e) : allowed e := by
  induction p generalizing n with
  | pure a => injection hError
  | throw e' =>
    obtain rfl : e' = e := Except.error.inj hError
    exact h
  | call op next ih => exact ih (replies n) (h _) hError

end Throws

/-! ## How far a program gets -/

/-- From question `n` the program gets to its value, with quiet exchanges up to `m`. -/
structure Passes (quiet : Op × Reply → Prop) (replies : Nat → Reply) (p : Program Op Reply ε α)
    (n m : Nat) (a : α) : Prop where
  result : (p.run replies n).result = .ok a
  quiet : ∀ x ∈ (p.run replies n).exchanges, quiet x
  next : n + (p.run replies n).exchanges.length = m

/-- From question `n` the program throws, after quiet exchanges. -/
structure Stops (quiet : Op × Reply → Prop) (replies : Nat → Reply) (p : Program Op Reply ε α)
    (n : Nat) (e : ε) : Prop where
  result : (p.run replies n).result = .error e
  quiet : ∀ x ∈ (p.run replies n).exchanges, quiet x

variable {quiet : Op × Reply → Prop} {replies : Nat → Reply} {n m k : Nat} {a : α} {b : β} {e : ε}
  {p : Program Op Reply ε α} {f : α → Program Op Reply ε β}

theorem Passes.bind (h : p.Passes quiet replies n m a) (hNext : (f a).Passes quiet replies m k b) :
    (p >>= f).Passes quiet replies n k b := by
  have hRun := run_bind_ok (f := f) h.result
  rw [h.next] at hRun
  refine ⟨by rw [hRun]; exact hNext.result, fun x hMem => ?_, ?_⟩
  · rw [hRun] at hMem
    exact (List.mem_append.mp hMem).elim (h.quiet x) (hNext.quiet x)
  · rw [hRun, List.length_append, ← Nat.add_assoc, h.next]
    exact hNext.next

theorem Passes.bind_stops (h : p.Passes quiet replies n m a)
    (hNext : (f a).Stops quiet replies m e) : (p >>= f).Stops quiet replies n e := by
  have hRun := run_bind_ok (f := f) h.result
  rw [h.next] at hRun
  refine ⟨by rw [hRun]; exact hNext.result, fun x hMem => ?_⟩
  rw [hRun] at hMem
  exact (List.mem_append.mp hMem).elim (h.quiet x) (hNext.quiet x)

theorem Stops.bind (h : p.Stops quiet replies n e) : (p >>= f).Stops quiet replies n e := by
  have hRun := run_bind_error (f := f) h.result
  exact ⟨by rw [hRun], fun x hMem => h.quiet x (by rwa [hRun] at hMem)⟩

/-- A handler that throws again what it was given. -/
theorem Stops.catching {handler : ε → Program Op Reply ε α} (h : p.Stops quiet replies n e)
    (hHandler : ∀ m, (handler e).Stops quiet replies m e) :
    (p.catching handler).Stops quiet replies n e := by
  have hRun := run_catching_error handler h.result
  have hRethrown := hHandler (n + (p.run replies n).exchanges.length)
  refine ⟨by rw [hRun]; exact hRethrown.result, fun x hMem => ?_⟩
  rw [hRun] at hMem
  exact (List.mem_append.mp hMem).elim (h.quiet x) (hRethrown.quiet x)

theorem Passes.catching {handler : ε → Program Op Reply ε α} (h : p.Passes quiet replies n m a) :
    (p.catching handler).Passes quiet replies n m a := by
  have hRun := run_catching_ok handler h.result
  exact ⟨by rw [hRun]; exact h.result, by rw [hRun]; exact h.quiet, by rw [hRun]; exact h.next⟩

/-- A handler that goes on. -/
theorem Stops.caught {handler : ε → Program Op Reply ε α} (h : p.Stops quiet replies n e)
    (hHandler : (handler e).Passes quiet replies (n + (p.run replies n).exchanges.length) m a) :
    (p.catching handler).Passes quiet replies n m a := by
  have hRun := run_catching_error handler h.result
  refine ⟨by rw [hRun]; exact hHandler.result, fun x hMem => ?_, ?_⟩
  · rw [hRun] at hMem
    exact (List.mem_append.mp hMem).elim (h.quiet x) (hHandler.quiet x)
  · rw [hRun, List.length_append, ← Nat.add_assoc]
    exact hHandler.next

theorem Passes.pure (quiet : Op × Reply → Prop) (replies : Nat → Reply) (n : Nat) (a : α) :
    (Program.pure a : Program Op Reply ε α).Passes quiet replies n n a :=
  ⟨rfl, nofun, rfl⟩

theorem Stops.throw (quiet : Op × Reply → Prop) (replies : Nat → Reply) (n : Nat) (e : ε) :
    (Program.throw e : Program Op Reply ε α).Stops quiet replies n e :=
  ⟨rfl, nofun⟩

theorem Passes.ask {op : Op} (h : quiet (op, replies n)) :
    (Program.ask op : Program Op Reply ε Reply).Passes quiet replies n (n + 1) (replies n) := by
  refine ⟨rfl, fun x hMem => ?_, rfl⟩
  obtain rfl : x = (op, replies n) := List.mem_singleton.mp hMem
  exact h

/-! ## Hindrances -/

/-- Either nothing hinders the program, and it gets to question `m`; or something does, and
what it throws shows what. -/
def Hindered (quiet : Op × Reply → Prop) (shows : κ → ε → Prop) (replies : Nat → Reply)
    (p : Program Op Reply ε α) (n : Nat) : Option κ → Nat → Prop
  | none, m => ∃ a, p.Passes quiet replies n m a
  | some hindrance, _ => ∃ e, p.Stops quiet replies n e ∧ shows hindrance e

/-- Either nothing hinders the program before an exchange that is not quiet, or something
does. -/
def Reaches (quiet : Op × Reply → Prop) (shows : κ → ε → Prop) (replies : Nat → Reply)
    (p : Program Op Reply ε α) (n : Nat) : Option κ → Prop
  | none => ∃ x ∈ (p.run replies n).exchanges, ¬ quiet x
  | some hindrance => ∃ e, p.Stops quiet replies n e ∧ shows hindrance e

end Program

/-- The same of a whole conversation. -/
def Conversation.Reaches {Op Reply ε α κ : Type} (quiet : Op × Reply → Prop)
    (shows : κ → ε → Prop) (c : Conversation Op Reply ε α) : Option κ → Prop
  | none => ∃ x ∈ c.exchanges, ¬ quiet x
  | some hindrance => ∃ e, c.result = .error e ∧ (∀ x ∈ c.exchanges, quiet x) ∧ shows hindrance e

namespace Program

variable {Op Reply ε α β κ : Type} {quiet : Op × Reply → Prop} {replies : Nat → Reply}
  {n m k : Nat} {a : α} {e : ε} {p : Program Op Reply ε α} {f : α → Program Op Reply ε β}

theorem Passes.bind_hindered {shows : κ → ε → Prop} {o : Option κ}
    (h : p.Passes quiet replies n m a) (hNext : (f a).Hindered quiet shows replies m o k) :
    (p >>= f).Hindered quiet shows replies n o k := by
  cases o with
  | some hindrance =>
    obtain ⟨e, hStops, hShows⟩ := hNext
    exact ⟨e, h.bind_stops hStops, hShows⟩
  | none =>
    obtain ⟨b, hRest⟩ := hNext
    exact ⟨b, h.bind hRest⟩

theorem Passes.bind_reaches {shows : κ → ε → Prop} {o : Option κ}
    (h : p.Passes quiet replies n m a) (hNext : (f a).Reaches quiet shows replies m o) :
    (p >>= f).Reaches quiet shows replies n o := by
  cases o with
  | some hindrance =>
    obtain ⟨e, hStops, hShows⟩ := hNext
    exact ⟨e, h.bind_stops hStops, hShows⟩
  | none =>
    obtain ⟨x, hMem, hLoud⟩ := hNext
    have hRun := run_bind_ok (f := f) h.result
    rw [h.next] at hRun
    exact ⟨x, by rw [hRun]; exact List.mem_append_right _ hMem, hLoud⟩

namespace Hindered

variable {shows : κ → ε → Prop} {first second : Option κ}

/-- A program gets to its value exactly where nothing hinders it. -/
theorem result_ok_iff {o : Option κ} (h : p.Hindered quiet shows replies n o m) :
    (∃ a, (p.run replies n).result = .ok a) ↔ o = none := by
  cases o with
  | none =>
    obtain ⟨a, hPasses⟩ := h
    exact iff_of_true ⟨a, hPasses.result⟩ rfl
  | some hindrance =>
    obtain ⟨e, hStops, -⟩ := h
    refine iff_of_false (fun ⟨a, hResult⟩ => ?_) (Option.some_ne_none _)
    rw [hStops.result] at hResult
    cases hResult

/-- The first hindrance of a sequence is the one of its first part, if there is one. -/
theorem bind (h : p.Hindered quiet shows replies n first m)
    (hNext : ∀ a, (f a).Hindered quiet shows replies m second k) :
    (p >>= f).Hindered quiet shows replies n (first <|> second) k := by
  cases first with
  | some hindrance =>
    obtain ⟨e, hStops, hShows⟩ := h
    exact ⟨e, hStops.bind, hShows⟩
  | none =>
    obtain ⟨a, hPasses⟩ := h
    exact hPasses.bind_hindered (hNext a)

theorem bind_reaches (h : p.Hindered quiet shows replies n first m)
    (hNext : ∀ a, (f a).Reaches quiet shows replies m second) :
    (p >>= f).Reaches quiet shows replies n (first <|> second) := by
  cases first with
  | some hindrance =>
    obtain ⟨e, hStops, hShows⟩ := h
    exact ⟨e, hStops.bind, hShows⟩
  | none =>
    obtain ⟨a, hPasses⟩ := h
    exact hPasses.bind_reaches (hNext a)

theorem catching {handler : ε → Program Op Reply ε α}
    (h : p.Hindered quiet shows replies n first m)
    (hHandler : ∀ e m, (handler e).Stops quiet replies m e) :
    (p.catching handler).Hindered quiet shows replies n first m := by
  cases first with
  | none =>
    obtain ⟨a, hPasses⟩ := h
    exact ⟨a, hPasses.catching⟩
  | some hindrance =>
    obtain ⟨e, hStops, hShows⟩ := h
    exact ⟨e, hStops.catching (hHandler e), hShows⟩

theorem pure (a : α) : (Program.pure a : Program Op Reply ε α).Hindered quiet shows replies n
    none n := ⟨a, Passes.pure quiet replies n a⟩

theorem throw {hindrance : κ} (h : shows hindrance e) :
    (Program.throw e : Program Op Reply ε α).Hindered quiet shows replies n (some hindrance) m :=
  ⟨e, Stops.throw quiet replies n e, h⟩

/-- The code after a question, which its reply decides. -/
theorem ask_bind {op : Op} {f : Reply → Program Op Reply ε β} {hindrance : Option κ}
    (h : quiet (op, replies n))
    (hNext : (f (replies n)).Hindered quiet shows replies (n + 1) hindrance m) :
    (ask op >>= f).Hindered quiet shows replies n hindrance m := by
  have hAsk : (ask op : Program Op Reply ε Reply).Passes quiet replies n (n + 1) (replies n) :=
    Passes.ask h
  exact hAsk.bind_hindered hNext

end Hindered

namespace Reaches

variable {shows : κ → ε → Prop} {hindrance : Option κ}

/-- Whatever follows. -/
theorem bind (h : p.Reaches quiet shows replies n hindrance) :
    (p >>= f).Reaches quiet shows replies n hindrance := by
  cases hindrance with
  | some hindrance =>
    obtain ⟨e, hStops, hShows⟩ := h
    exact ⟨e, hStops.bind, hShows⟩
  | none =>
    obtain ⟨x, hMem, hLoud⟩ := h
    refine ⟨x, ?_, hLoud⟩
    cases hResult : (p.run replies n).result with
    | error e => rwa [run_bind_error hResult]
    | ok a =>
      rw [run_bind_ok hResult]
      exact List.mem_append_left _ hMem

theorem catching {handler : ε → Program Op Reply ε α}
    (h : p.Reaches quiet shows replies n hindrance)
    (hHandler : ∀ e m, (handler e).Stops quiet replies m e) :
    (p.catching handler).Reaches quiet shows replies n hindrance := by
  cases hindrance with
  | some hindrance =>
    obtain ⟨e, hStops, hShows⟩ := h
    exact ⟨e, hStops.catching (hHandler e), hShows⟩
  | none =>
    obtain ⟨x, hMem, hLoud⟩ := h
    refine ⟨x, ?_, hLoud⟩
    cases hResult : (p.run replies n).result with
    | ok a => rwa [run_catching_ok handler hResult]
    | error e =>
      rw [run_catching_error handler hResult]
      exact List.mem_append_left _ hMem

theorem conversation (h : p.Reaches quiet shows replies n hindrance) :
    (p.run replies n).Reaches quiet shows hindrance := by
  cases hindrance with
  | none => exact h
  | some hindrance =>
    obtain ⟨e, hStops, hShows⟩ := h
    exact ⟨e, hStops.result, hStops.quiet, hShows⟩

/-- Quiet exchanges before change nothing. -/
theorem after {before : List (Op × Reply)} (h : p.Reaches quiet shows replies n hindrance)
    (hBefore : ∀ x ∈ before, quiet x) :
    (Conversation.mk (before ++ (p.run replies n).exchanges)
      (p.run replies n).result).Reaches quiet shows hindrance := by
  cases hindrance with
  | none =>
    obtain ⟨x, hMem, hLoud⟩ := h
    exact ⟨x, List.mem_append_right _ hMem, hLoud⟩
  | some hindrance =>
    obtain ⟨e, hStops, hShows⟩ := h
    exact ⟨e, hStops.result, fun x hMem =>
      (List.mem_append.mp hMem).elim (hBefore x) (hStops.quiet x), hShows⟩

end Reaches

end Program

/-- Exactly a conversation that nothing hindered has an exchange that is not quiet. -/
theorem Conversation.Reaches.iff {Op Reply ε α κ : Type} {quiet : Op × Reply → Prop}
    {shows : κ → ε → Prop} {c : Conversation Op Reply ε α} {hindrance : Option κ}
    (h : c.Reaches quiet shows hindrance) :
    (∃ x ∈ c.exchanges, ¬ quiet x) ↔ hindrance = none := by
  cases hindrance with
  | none => exact iff_of_true h rfl
  | some hindrance =>
    obtain ⟨e, -, hQuiet, -⟩ := h
    exact iff_of_false (fun ⟨x, hMem, hLoud⟩ => hLoud (hQuiet x hMem)) (Option.some_ne_none _)

/-! ## Programs side by side -/

/-- The first of the listed results that failed, and then the first of all. -/
def firstRejected {κ β : Type} (failure? : β → Option κ) (order : List Nat) (results : List β) :
    Option κ :=
  (order ++ List.range results.length).findSome? fun i => results[i]?.bind failure?

/-- One program, or several side by side and one that goes on with their values. -/
inductive Process (Op Reply ε β α : Type)
  | single (program : Program Op Reply ε α)
  | all (tasks : List (Program Op Reply ε β)) (next : List β → Program Op Reply ε α)

/-- What the outside replies: to the main program, to each of the programs side by side, and
the order in which those settle. -/
structure Replies (Reply : Type) where
  main : Nat → Reply
  task : Nat → Nat → Reply
  settled : List Nat

namespace Process

variable {Op Reply ε α β κ : Type}

def failure? : Except ε β → Option ε
  | .ok _ => none
  | .error e => some e

/-- The conversations of programs side by side, each with its own replies. -/
def runTasks (replies : Nat → Nat → Reply) (tasks : List (Program Op Reply ε β)) :
    List (Conversation Op Reply ε β) :=
  tasks.mapIdx fun i task => task.run (replies i) 0

/-- A failing program does not stop the others, but the whole fails with it as soon as it
fails; only where none fails does the process go on. -/
def run (replies : Replies Reply) : Process Op Reply ε β α → Conversation Op Reply ε α
  | .single program => program.run replies.main 0
  | .all tasks next =>
    let conversations := runTasks replies.task tasks
    let exchanges := conversations.flatMap Conversation.exchanges
    match firstRejected failure? replies.settled (conversations.map Conversation.result) with
    | some e => ⟨exchanges, .error e⟩
    | none =>
      let values := conversations.filterMap fun c => c.result.toOption
      let rest := (next values).run replies.main 0
      ⟨exchanges ++ rest.exchanges, rest.result⟩

/-- The exchanges of each program on its own: of those side by side, and of the one that goes
on, which has none where one of them fails. -/
def threads (replies : Replies Reply) : Process Op Reply ε β α → List (List (Op × Reply))
  | .single program => [(program.run replies.main 0).exchanges]
  | .all tasks next =>
    let conversations := runTasks replies.task tasks
    conversations.map Conversation.exchanges ++
      match firstRejected failure? replies.settled (conversations.map Conversation.result) with
      | some _ => []
      | none =>
        [((next (conversations.filterMap fun c => c.result.toOption)).run replies.main 0).exchanges]

/-- Together they are the exchanges of the process. -/
theorem flatten_threads (replies : Replies Reply) (p : Process Op Reply ε β α) :
    (p.threads replies).flatten = (p.run replies).exchanges := by
  cases p with
  | single program => exact List.flatten_singleton
  | all tasks next =>
    unfold threads run
    dsimp only
    rw [List.flatten_append, ← List.flatMap_def]
    cases firstRejected failure? replies.settled
        ((runTasks replies.task tasks).map Conversation.result) with
    | some e => exact List.append_nil _
    | none =>
      dsimp only
      rw [List.flatten_singleton]

/-- Either a task fails, and nothing follows, or the process goes on with some values. -/
theorem run_all_cases (replies : Replies Reply) (tasks : List (Program Op Reply ε β))
    (next : List β → Program Op Reply ε α) :
    let exchanges := (runTasks replies.task tasks).flatMap Conversation.exchanges
    (∃ e, (Process.all tasks next).run replies = ⟨exchanges, .error e⟩) ∨
      ∃ values, (Process.all tasks next).run replies =
        let rest := (next values).run replies.main 0
        ⟨exchanges ++ rest.exchanges, rest.result⟩ := by
  cases hFirst : firstRejected failure? replies.settled
    ((runTasks replies.task tasks).map Conversation.result) with
  | some e => exact Or.inl ⟨e, by simp only [run, hFirst]⟩
  | none =>
    refine Or.inr ⟨(runTasks replies.task tasks).filterMap fun c => c.result.toOption, ?_⟩
    simp only [run, hFirst]

theorem mem_runTasks {replies : Nat → Nat → Reply} {tasks : List (Program Op Reply ε β)}
    {c : Conversation Op Reply ε β} (h : c ∈ runTasks replies tasks) :
    ∃ (i : Nat) (task : Program Op Reply ε β), tasks[i]? = some task ∧
      c = task.run (replies i) 0 := by
  obtain ⟨i, hLt, rfl⟩ := List.mem_iff_getElem.mp h
  have hTaskLt : i < tasks.length := by rwa [runTasks, List.length_mapIdx] at hLt
  exact ⟨i, _, List.getElem?_eq_getElem hTaskLt, by simp only [runTasks, List.getElem_mapIdx]⟩

/-- Every question in the text of the process is allowed. -/
def Asks (allowed : Op → Prop) : Process Op Reply ε β α → Prop
  | .single program => program.Asks allowed
  | .all tasks next =>
    (∀ task ∈ tasks, task.Asks allowed) ∧ ∀ values, (next values).Asks allowed

theorem asks_runTasks {allowed : Op → Prop} (replies : Nat → Nat → Reply)
    {tasks : List (Program Op Reply ε β)} (h : ∀ task ∈ tasks, task.Asks allowed) :
    ∀ x ∈ (runTasks replies tasks).flatMap Conversation.exchanges, allowed x.1 := by
  intro x hMem
  obtain ⟨c, hConversation, hExchange⟩ := List.mem_flatMap.mp hMem
  obtain ⟨i, task, hTask, rfl⟩ := mem_runTasks hConversation
  exact (h task (List.mem_of_getElem? hTask)).exchanges hExchange

theorem Asks.exchanges {allowed : Op → Prop} {p : Process Op Reply ε β α} (h : p.Asks allowed)
    {replies : Replies Reply} {x : Op × Reply} (hMem : x ∈ (p.run replies).exchanges) :
    allowed x.1 := by
  cases p with
  | single program => exact Program.Asks.exchanges h hMem
  | all tasks next =>
    obtain ⟨e, hRun⟩ | ⟨values, hRun⟩ := run_all_cases replies tasks next
    · rw [hRun] at hMem
      exact asks_runTasks replies.task h.1 x hMem
    · rw [hRun] at hMem
      obtain hTasks | hRest := List.mem_append.mp hMem
      · exact asks_runTasks replies.task h.1 x hTasks
      · exact (h.2 values).exchanges hRest

/-- Whatever becomes of the others, each program has its exchanges. -/
theorem mem_run_all {replies : Replies Reply} {tasks : List (Program Op Reply ε β)}
    {next : List β → Program Op Reply ε α} {i : Nat} {task : Program Op Reply ε β}
    (hTask : tasks[i]? = some task) {x : Op × Reply}
    (hMem : x ∈ (task.run (replies.task i) 0).exchanges) :
    x ∈ ((Process.all tasks next).run replies).exchanges := by
  have hConversation : task.run (replies.task i) 0 ∈ runTasks replies.task tasks := by
    refine List.mem_iff_getElem?.mpr ⟨i, ?_⟩
    rw [runTasks, List.getElem?_mapIdx, hTask]
    rfl
  have hTasks : x ∈ (runTasks replies.task tasks).flatMap Conversation.exchanges :=
    List.mem_flatMap.mpr ⟨_, hConversation, hMem⟩
  obtain ⟨e, hRun⟩ | ⟨values, hRun⟩ := run_all_cases replies tasks next
  · rw [hRun]
    exact hTasks
  · rw [hRun]
    exact List.mem_append_left _ hTasks

/-! ### Their failures -/

/-- A result is a value, or its error shows what hindered. -/
def Shown (shows : κ → ε → Prop) : Option κ → Except ε β → Prop
  | none, result => ∃ b, result = .ok b
  | some hindrance, result => ∃ e, result = .error e ∧ shows hindrance e

/-- Where every result shows its own hindrance, the first rejection shows the first one. -/
theorem firstRejected_shows (order : List Nat) {shows : κ → ε → Prop}
    {hindrances : List (Option κ)} {results : List (Except ε β)}
    (hLength : hindrances.length = results.length)
    (h : ∀ (i : Nat) o r, hindrances[i]? = some o → results[i]? = some r → Shown shows o r) :
    match firstRejected (fun hindrance => hindrance) order hindrances with
    | none => firstRejected failure? order results = none
    | some hindrance => ∃ e, firstRejected failure? order results = some e ∧ shows hindrance e := by
  unfold firstRejected
  rw [hLength]
  induction order ++ List.range results.length with
  | nil => rfl
  | cons i rest ih =>
    rw [List.findSome?_cons, List.findSome?_cons]
    by_cases hLt : i < results.length
    · obtain ⟨o, hHindrance⟩ : ∃ o, hindrances[i]? = some o :=
        ⟨_, List.getElem?_eq_getElem (hLength ▸ hLt)⟩
      have hResult := List.getElem?_eq_getElem hLt
      have hShown := h i _ _ hHindrance hResult
      rw [hHindrance, hResult]
      simp only [Option.bind_some]
      cases o with
      | none =>
        obtain ⟨b, hOk⟩ := hShown
        rw [hOk]
        exact ih
      | some hindrance =>
        obtain ⟨e, hError, hShows⟩ := hShown
        rw [hError]
        exact ⟨e, rfl, hShows⟩
    · rw [List.getElem?_eq_none (Nat.not_lt.mp hLt),
        List.getElem?_eq_none (hLength ▸ Nat.not_lt.mp hLt)]
      exact ih

section All

variable {quiet : Op × Reply → Prop} {shows : κ → ε → Prop} {replies : Replies Reply}
  {tasks : List (Program Op Reply ε β)} {next : List β → Program Op Reply ε α}
  {hindrances : List (Option κ)}

theorem length_runTasks : (runTasks replies.task tasks).length = tasks.length :=
  List.length_mapIdx

theorem runTasks_getElem? (i : Nat) : (runTasks replies.task tasks)[i]? =
    tasks[i]?.map fun task => task.run (replies.task i) 0 :=
  List.getElem?_mapIdx

/-- Every task is hindered by what the list says at its place. -/
def TasksHindered (quiet : Op × Reply → Prop) (shows : κ → ε → Prop) (replies : Nat → Nat → Reply)
    (tasks : List (Program Op Reply ε β)) (hindrances : List (Option κ)) : Prop :=
  hindrances.length = tasks.length ∧ ∀ (i : Nat) o task, hindrances[i]? = some o →
    tasks[i]? = some task → ∃ m, task.Hindered quiet shows (replies i) 0 o m

theorem TasksHindered.shown (h : TasksHindered quiet shows replies.task tasks hindrances)
    (i : Nat) (o : Option κ) (r : Except ε β) (hHindrance : hindrances[i]? = some o)
    (hResult : ((runTasks replies.task tasks).map Conversation.result)[i]? = some r) :
    Shown shows o r := by
  rw [List.getElem?_map, runTasks_getElem?, Option.map_map] at hResult
  obtain ⟨task, hTask, rfl⟩ := Option.map_eq_some_iff.mp hResult
  obtain ⟨m, hHindered⟩ := h.2 i o task hHindrance hTask
  cases o with
  | none =>
    obtain ⟨b, hPasses⟩ := hHindered
    exact ⟨b, hPasses.result⟩
  | some hindrance =>
    obtain ⟨e, hStops, hShows⟩ := hHindered
    exact ⟨e, hStops.result, hShows⟩

theorem TasksHindered.exchanges (h : TasksHindered quiet shows replies.task tasks hindrances) :
    ∀ x ∈ (runTasks replies.task tasks).flatMap Conversation.exchanges, quiet x := by
  intro x hMem
  obtain ⟨c, hConversation, hExchange⟩ := List.mem_flatMap.mp hMem
  obtain ⟨i, task, hTask, rfl⟩ := mem_runTasks hConversation
  have hLt : i < hindrances.length := h.1 ▸ (List.getElem?_eq_some_iff.mp hTask).1
  obtain ⟨m, hHindered⟩ := h.2 i _ task (List.getElem?_eq_getElem hLt) hTask
  cases hAt : hindrances[i] with
  | none =>
    rw [hAt] at hHindered
    obtain ⟨b, hPasses⟩ := hHindered
    exact hPasses.quiet x hExchange
  | some hindrance =>
    rw [hAt] at hHindered
    obtain ⟨e, hStops, -⟩ := hHindered
    exact hStops.quiet x hExchange

/-- Programs side by side are hindered by what hinders the first of them to fail, and then by
what hinders the program that goes on with their values. -/
theorem run_all_reaches {o : Option κ} (h : TasksHindered quiet shows replies.task tasks hindrances)
    (hNext : ∀ values, (next values).Reaches quiet shows replies.main 0 o) :
    ((Process.all tasks next).run replies).Reaches quiet shows
      (firstRejected (fun hindrance => hindrance) replies.settled hindrances <|> o) := by
  have hShown := firstRejected_shows replies.settled
    (by rw [List.length_map, length_runTasks]; exact h.1) h.shown
  cases hFirst : firstRejected (fun hindrance => hindrance) replies.settled hindrances with
  | some hindrance =>
    rw [hFirst] at hShown
    obtain ⟨e, hError, hShows⟩ := hShown
    have hRun : (Process.all tasks next).run replies =
        ⟨(runTasks replies.task tasks).flatMap Conversation.exchanges, .error e⟩ := by
      simp only [run, hError]
    rw [hRun]
    exact ⟨e, rfl, h.exchanges, hShows⟩
  | none =>
    rw [hFirst] at hShown
    have hRun : (Process.all tasks next).run replies =
        let values := (runTasks replies.task tasks).filterMap fun c => c.result.toOption
        let rest := (next values).run replies.main 0
        ⟨(runTasks replies.task tasks).flatMap Conversation.exchanges ++ rest.exchanges,
          rest.result⟩ := by
      simp only [run, hShown]
    rw [hRun]
    exact (hNext _).after h.exchanges

end All

end Process
