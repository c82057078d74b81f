import Mathlib.Data.List.Pairwise
import SocialPromotion.Lib.History
import SocialPromotion.Lib.Permission

/-!
# Processes over a shared state

Any number of calls, each a program, put their questions to one *machine*, in any order. The machine
answers a question out of the state that all of them share, and what the world contributes to the
answer is left open. The record of a run has every exchange, with its call and with the state that
the question met.

* `step_cases`: what a step does;
* `Conducted`: each process is where its exchanges have brought it;
* `conducted`: where every program obeys its permission, so does every recorded exchange;
* `made`: every recorded exchange was made in a state reached with the record before it;
* `holds`: an invariant of the shared state and the record, with one obligation for an
  exchange and one for what the machine does of itself.
-/

namespace Processes

open LTS

/-- `Op` are questions, `World` what the world adds to an answer, `Own` what happens of itself. -/
structure Machine (σ Op Reply World Own : Type) where
  /-- The reply to a question of a process, and the next state. -/
  answer : σ → Nat → Op → World → Option (Reply × σ)
  own : σ → Own → Option σ

/-- A call, and what is left of its program. -/
structure Running (Call Op Reply ε α : Type) where
  call : Call
  rest : Program Op Reply ε α

structure State (σ Call Op Reply ε α : Type) where
  shared : σ
  running : List (Running Call Op Reply ε α)

inductive Event (Call World Own : Type)
  | start (call : Call)
  | answer (process : Nat) (world : World)
  | own (event : Own)

/-- One exchange of a process with the machine. -/
structure Exchange (σ Call Op Reply World : Type) where
  process : Nat
  call : Call
  question : Op
  world : World
  reply : Reply
  /-- The state that the question met. -/
  found : σ

variable {σ Call Op Reply ε α World Own : Type}

/-- The calls start with their programs. -/
def system (M : Machine σ Op Reply World Own) (program : Call → Program Op Reply ε α)
    (Initial : σ → Prop) : System (State σ Call Op Reply ε α) (Event Call World Own) where
  Initial s := Initial s.shared ∧ s.running = []
  step s
    | .start call => some { s with running := s.running ++ [⟨call, program call⟩] }
    | .answer i world =>
      match s.running[i]? with
      | some ⟨call, .call op next⟩ => (M.answer s.shared i op world).map fun answer =>
          ⟨answer.2, s.running.set i ⟨call, next answer.1⟩⟩
      | _ => none
    | .own event => (M.own s.shared event).map fun shared => { s with shared }

/-- What the record keeps of a step. -/
def exchanged (M : Machine σ Op Reply World Own) (s : State σ Call Op Reply ε α) :
    Event Call World Own → State σ Call Op Reply ε α → List (Exchange σ Call Op Reply World)
  | .answer i world, _ =>
    match s.running[i]? with
    | some ⟨call, .call op _⟩ => (M.answer s.shared i op world).toList.map fun answer =>
        ⟨i, call, op, world, answer.1, s.shared⟩
    | _ => []
  | _, _ => []

/-- The system with its record. -/
abbrev recorded (M : Machine σ Op Reply World Own) (program : Call → Program Op Reply ε α)
    (Initial : σ → Prop) :
    System (State σ Call Op Reply ε α × List (Exchange σ Call Op Reply World))
      (Event Call World Own) :=
  (system M program Initial).logged (exchanged M)

/-- The exchanges of one process. -/
def history (i : Nat) (log : List (Exchange σ Call Op Reply World)) : List (Op × Reply) :=
  (log.filter fun x => x.process = i).map fun x => (x.question, x.reply)

section History

variable {i : Nat} {log : List (Exchange σ Call Op Reply World)}
  {x : Exchange σ Call Op Reply World}

theorem history_concat_self : history x.process (log ++ [x]) =
    history x.process log ++ [(x.question, x.reply)] := by
  simp [history]

theorem history_concat_other (h : x.process ≠ i) : history i (log ++ [x]) = history i log := by
  simp [history, h]

theorem mem_history {e : Op × Reply} :
    e ∈ history i log ↔ ∃ x ∈ log, x.process = i ∧ (x.question, x.reply) = e := by
  simp [history, and_assoc]

theorem mem_history_of_mem (h : x ∈ log) : (x.question, x.reply) ∈ history x.process log :=
  mem_history.mpr ⟨x, h, rfl, rfl⟩

end History

variable {M : Machine σ Op Reply World Own} {program : Call → Program Op Reply ε α}
  {Initial : σ → Prop} {permits : Call → List (Op × Reply) → Op → Prop}

/-- An exchange that a step can make. -/
structure Answered (M : Machine σ Op Reply World Own) (s t : State σ Call Op Reply ε α)
    (x : Exchange σ Call Op Reply World) (next : Reply → Program Op Reply ε α) : Prop where
  asks : s.running[x.process]? = some ⟨x.call, .call x.question next⟩
  found : x.found = s.shared
  answer : M.answer x.found x.process x.question x.world = some (x.reply, t.shared)
  running : t.running = s.running.set x.process ⟨x.call, next x.reply⟩

/-- A call starts, a question is answered, or the machine moves of itself. -/
theorem step_cases {s t : State σ Call Op Reply ε α}
    {log log' : List (Exchange σ Call Op Reply World)} {e : Event Call World Own}
    (h : (recorded M program Initial).step (s, log) e = some (t, log')) :
    (∃ call, t = { s with running := s.running ++ [⟨call, program call⟩] } ∧ log' = log) ∨
    (∃ x next, Answered M s t x next ∧ log' = log ++ [x]) ∨
    ∃ own shared, M.own s.shared own = some shared ∧ t = { s with shared } ∧ log' = log := by
  obtain ⟨hStep, hLog⟩ := logged_step.mp h
  cases e with
  | start call =>
    injection hStep with hStep
    exact .inl ⟨call, hStep.symm, hLog.trans (List.append_nil log)⟩
  | own event =>
    obtain ⟨shared, hOwn, rfl⟩ := Option.map_eq_some_iff.mp hStep
    exact .inr (.inr ⟨event, shared, hOwn, rfl, hLog.trans (List.append_nil log)⟩)
  | answer i world =>
    dsimp only [system] at hStep
    dsimp only [exchanged] at hLog
    split at hStep
    · rename_i call op next hRunning
      obtain ⟨⟨reply, shared⟩, hAnswer, rfl⟩ := Option.map_eq_some_iff.mp hStep
      rw [hRunning] at hLog
      dsimp only at hLog
      rw [hAnswer] at hLog
      exact .inr (.inl ⟨⟨i, call, op, world, reply, s.shared⟩, next, ⟨hRunning, rfl, hAnswer, rfl⟩,
        hLog⟩)
    · cases hStep

/-! ## Permitted exchanges -/

/-- Each process obeys its permission after its exchanges, and so did each exchange. -/
structure Conducted (permits : Call → List (Op × Reply) → Op → Prop)
    (s : State σ Call Op Reply ε α) (log : List (Exchange σ Call Op Reply World)) : Prop where
  obeys : ∀ (i : Nat) (r : Running Call Op Reply ε α), s.running[i]? = some r →
    Program.Obeys (permits r.call) Program.anyEnd (history i log) r.rest
  asked : Lawful (fun before x => permits x.call (history x.process before) x.question) log
  /-- An exchange is one of a process, under its call. -/
  calls : ∀ x ∈ log, ∃ r, s.running[x.process]? = some r ∧ r.call = x.call

theorem Conducted.start {s : State σ Call Op Reply ε α}
    {log : List (Exchange σ Call Op Reply World)} {call : Call} (h : Conducted permits s log)
    (hProgram : Program.Obeys (permits call) Program.anyEnd [] (program call)) :
    Conducted permits { s with running := s.running ++ [⟨call, program call⟩] } log where
  obeys i r hRunning := by
    rcases Nat.lt_or_ge i s.running.length with hLt | hGe
    · rw [List.getElem?_append_left hLt] at hRunning
      exact h.obeys i r hRunning
    · -- the call that starts has no exchanges yet
      obtain ⟨hIndex, -⟩ := List.getElem?_eq_some_iff.mp hRunning
      rw [List.length_append, List.length_singleton] at hIndex
      obtain rfl : i = s.running.length := Nat.le_antisymm (Nat.le_of_lt_succ hIndex) hGe
      rw [List.getElem?_concat_length] at hRunning
      injection hRunning with hRunning
      have hNone : history s.running.length log = [] := by
        rw [history, List.map_eq_nil_iff, List.filter_eq_nil_iff]
        intro x hMem hProcess
        obtain ⟨r', hRunning', -⟩ := h.calls x hMem
        rw [of_decide_eq_true hProcess, List.getElem?_eq_none (Nat.le_refl _)] at hRunning'
        cases hRunning'
      rw [← hRunning, hNone]
      exact hProgram
  asked := h.asked
  calls x hMem := by
    obtain ⟨r, hRunning, hCall⟩ := h.calls x hMem
    obtain ⟨hLt, -⟩ := List.getElem?_eq_some_iff.mp hRunning
    exact ⟨r, by rw [List.getElem?_append_left hLt, hRunning], hCall⟩

theorem Conducted.own {s : State σ Call Op Reply ε α} {shared : σ}
    {log : List (Exchange σ Call Op Reply World)} (h : Conducted permits s log) :
    Conducted permits { s with shared } log :=
  ⟨h.obeys, h.asked, h.calls⟩

/-- The question of an exchange is permitted. -/
theorem Conducted.permitted {s t : State σ Call Op Reply ε α}
    {log : List (Exchange σ Call Op Reply World)} {x : Exchange σ Call Op Reply World}
    {next : Reply → Program Op Reply ε α} (h : Conducted permits s log)
    (hAnswered : Answered M s t x next) :
    permits x.call (history x.process log) x.question :=
  (h.obeys _ _ hAnswered.asks).1

/-- The exchanges of a process before are those of its call. -/
theorem Conducted.call_eq {s t : State σ Call Op Reply ε α}
    {log : List (Exchange σ Call Op Reply World)} {x y : Exchange σ Call Op Reply World}
    {next : Reply → Program Op Reply ε α} (h : Conducted permits s log)
    (hAnswered : Answered M s t x next) (hMem : y ∈ log) (hSame : y.process = x.process) :
    y.call = x.call := by
  obtain ⟨r, hRunning, hCall⟩ := h.calls y hMem
  rw [hSame, hAnswered.asks] at hRunning
  injection hRunning with hRunning
  rw [← hCall, ← hRunning]

/-- An answer keeps every process within what it may still ask. -/
theorem Conducted.answered {s t : State σ Call Op Reply ε α}
    {log : List (Exchange σ Call Op Reply World)} {x : Exchange σ Call Op Reply World}
    {next : Reply → Program Op Reply ε α} (h : Conducted permits s log)
    (hAnswered : Answered M s t x next) : Conducted permits t (log ++ [x]) where
  obeys i r hRunning := by
    rw [hAnswered.running] at hRunning
    by_cases hSame : x.process = i
    · subst hSame
      obtain ⟨hLt, -⟩ := List.getElem?_eq_some_iff.mp hAnswered.asks
      rw [List.getElem?_set_self hLt] at hRunning
      injection hRunning with hRunning
      rw [← hRunning, history_concat_self]
      exact (h.obeys _ _ hAnswered.asks).2 x.reply
    · rw [List.getElem?_set_ne hSame] at hRunning
      rw [history_concat_other hSame]
      exact h.obeys i r hRunning
  asked := h.asked.concat (h.permitted hAnswered)
  calls y hMem := by
    have hBefore : ∃ r, s.running[y.process]? = some r ∧ r.call = y.call := by
      rcases List.mem_append.mp hMem with hMem | hMem
      · exact h.calls y hMem
      · rw [List.mem_singleton.mp hMem]
        exact ⟨_, hAnswered.asks, rfl⟩
    obtain ⟨r, hRunning, hCall⟩ := hBefore
    rw [hAnswered.running]
    by_cases hSame : x.process = y.process
    · obtain ⟨hLt, -⟩ := List.getElem?_eq_some_iff.mp hAnswered.asks
      refine ⟨_, by rw [← hSame]; exact List.getElem?_set_self hLt, ?_⟩
      have hAsks := hAnswered.asks
      rw [hSame, hRunning] at hAsks
      injection hAsks with hAsks
      rw [← hCall, hAsks]
    · exact ⟨r, by rw [List.getElem?_set_ne hSame, hRunning], hCall⟩

/-- **Every exchange was permitted.** -/
theorem conducted {s : State σ Call Op Reply ε α} {log : List (Exchange σ Call Op Reply World)}
    (hProgram : ∀ call, Program.Obeys (permits call) Program.anyEnd [] (program call))
    (h : Reachable (recorded M program Initial) anyStep (s, log)) : Conducted permits s log := by
  refine h.invariant (I := fun s => Conducted permits s.1 s.2) ?_ ?_
  · rintro ⟨s, log⟩ ⟨⟨-, hRunning⟩, rfl⟩
    refine ⟨fun i r hSome => ?_, lawful_nil, List.forall_mem_nil _⟩
    rw [hRunning] at hSome
    cases hSome
  · rintro ⟨s, log⟩ e ⟨t, log'⟩ hConducted - hStep
    rcases step_cases hStep with ⟨call, rfl, rfl⟩ | ⟨x, next, hAnswered, rfl⟩ |
      ⟨own, shared, -, rfl, rfl⟩
    · exact hConducted.start (hProgram call)
    · exact hConducted.answered hAnswered
    · exact hConducted.own

/-- An exchange was made in a state that was reached with a record. -/
def MadeAfter (M : Machine σ Op Reply World Own) (program : Call → Program Op Reply ε α)
    (Initial : σ → Prop) (before : List (Exchange σ Call Op Reply World))
    (x : Exchange σ Call Op Reply World) : Prop :=
  ∃ s t next, Reachable (recorded M program Initial) anyStep (s, before) ∧ Answered M s t x next

/-- Every exchange was made in a state that was reached with the record before it. -/
theorem made {s : State σ Call Op Reply ε α} {log : List (Exchange σ Call Op Reply World)}
    (h : Reachable (recorded M program Initial) anyStep (s, log)) :
    Lawful (MadeAfter M program Initial) log := by
  refine h.invariant_of (I := fun s => Lawful (MadeAfter M program Initial) s.2) ?_ ?_
  · rintro ⟨s, log⟩ ⟨-, rfl⟩
    exact lawful_nil
  · rintro ⟨s, log⟩ e ⟨t, log'⟩ hReach hLawful - hStep
    rcases step_cases hStep with ⟨call, -, rfl⟩ | ⟨x, next, hAnswered, rfl⟩ | ⟨-, -, -, -, rfl⟩
    · exact hLawful
    · exact hLawful.concat ⟨s, t, next, hReach, hAnswered⟩
    · exact hLawful

/-- **Invariants of the shared state and the record.** -/
theorem holds {s : State σ Call Op Reply ε α} {log : List (Exchange σ Call Op Reply World)}
    {I : σ → List (Exchange σ Call Op Reply World) → Prop}
    (hProgram : ∀ call, Program.Obeys (permits call) Program.anyEnd [] (program call))
    (hInit : ∀ shared, Initial shared → I shared [])
    (hOwn : ∀ shared log own shared', I shared log → M.own shared own = some shared' →
      I shared' log)
    (hAnswer : ∀ (s : State σ Call Op Reply ε α) log x shared,
      Reachable (recorded M program Initial) anyStep (s, log) → I s.shared log →
      x.found = s.shared → permits x.call (history x.process log) x.question →
      (∀ y ∈ log, y.process = x.process → y.call = x.call) →
      M.answer s.shared x.process x.question x.world = some (x.reply, shared) →
      I shared (log ++ [x]))
    (h : Reachable (recorded M program Initial) anyStep (s, log)) : I s.shared log := by
  refine h.invariant_of (I := fun s => I s.1.shared s.2) ?_ ?_
  · rintro ⟨s, log⟩ ⟨⟨hShared, -⟩, rfl⟩
    exact hInit _ hShared
  · rintro ⟨s, log⟩ e ⟨t, log'⟩ hReach hHolds - hStep
    rcases step_cases hStep with ⟨call, rfl, rfl⟩ | ⟨x, next, hAnswered, rfl⟩ |
      ⟨own, shared, hMove, rfl, rfl⟩
    · exact hHolds
    · have hConducted := conducted hProgram hReach
      exact hAnswer s log x t.shared hReach hHolds hAnswered.found
        (hConducted.permitted hAnswered) (fun y => hConducted.call_eq hAnswered)
        (hAnswered.found ▸ hAnswered.answer)
    · exact hOwn _ _ _ _ hHolds hMove

end Processes
