import Mathlib.Data.List.Pairwise
import SocialPromotion.Sending.Billing
import SocialPromotion.Sending.Requests

/-!
# What the usage ledger says about the requests to X

`billed` reads the id in the body of an answer inside the `try` of the request, and builds the URL
inside it too. A body without an object `data` is settled `failed` though the request resolved, and
without a URL there is a reservation for no request.

* `BilledExchanges`: what one program of a run exchanges with the ledger and with X;
* `XRun.row_of_inserted`: the row of a reservation goes by the settlement with its id alone;
* `ledger_faithful`: the ledger is faithful in exactly the runs in which the URLs are configured,
  the answers that resolve have a `data`, and the database does what it is asked;
* `XRun.serial`: the run of some operations one after the other;
* `media_post_settled`: the three requests of a post with two images are settled `succeeded`;
* `resolved_settled_failed`: a run with a request that resolved and is settled `failed`.
-/

namespace SocialPromotion

/-! ## Lists with one such element -/

section Lists

variable {α : Type} {p : α → Prop} {a b : α} {l₁ l₂ m₁ m₂ : List α}

/-- Two splits of a list at an element with `p` are one, where no other element of one has it. -/
theorem split_unique (h : l₁ ++ a :: l₂ = m₁ ++ b :: m₂) (hA : p a) (hBefore : ∀ x ∈ m₁, ¬ p x)
    (hAfter : ∀ x ∈ m₂, ¬ p x) : l₁ = m₁ ∧ a = b ∧ l₂ = m₂ := by
  induction l₁ generalizing m₁ with
  | nil =>
    cases m₁ with
    | nil =>
      obtain ⟨hHead, hTail⟩ := List.cons.inj h
      exact ⟨rfl, hHead, hTail⟩
    | cons c m₁ =>
      obtain ⟨hHead, -⟩ := List.cons.inj h
      exact absurd hA (hHead ▸ hBefore c List.mem_cons_self)
  | cons c l₁ ih =>
    cases m₁ with
    | nil =>
      obtain ⟨-, hTail⟩ := List.cons.inj h
      exact absurd hA (hAfter a (hTail ▸ List.mem_append_right l₁ List.mem_cons_self))
    | cons d m₁ =>
      obtain ⟨hHead, hTail⟩ := List.cons.inj h
      obtain ⟨hSame, hRest⟩ := ih hTail fun x hMem => hBefore x (List.mem_cons_of_mem d hMem)
      exact ⟨by rw [hHead, hSame], hRest⟩

end Lists

/-! ## The rows of the ledger -/

namespace XLedger

variable {ledger : XLedger} {id : Text} {row : UsageRow} {x : XExchange} {xs ys : List XExchange}

theorem lookup_map_apply : (ledger.map fun e => (e.1, e.2.apply e.1 x)).lookup id =
    (ledger.lookup id).map fun row => row.apply id x := by
  induction ledger with
  | nil => rfl
  | cons e rest ih =>
    rw [List.map_cons, List.lookup_cons, List.lookup_cons]
    cases hSame : id == e.1 with
    | true => rw [eq_of_beq hSame]; rfl
    | false => exact ih

variable (xs) in
/-- A row stays in its place. -/
theorem lookup_foldl (h : ledger.lookup id = some row) :
    (xs.foldl apply ledger).lookup id = some (xs.foldl (fun row x => row.apply id x) row) := by
  induction xs generalizing ledger row with
  | nil => exact h
  | cons x xs ih =>
    refine ih ?_
    rw [apply, List.lookup_append, lookup_map_apply, h]
    rfl

/-- An id that was not drawn has no row. -/
theorem lookup_after_eq_none (hNew : id ∉ xs.filterMap XExchange.inserted) :
    (after xs).lookup id = none := by
  unfold after
  have hEmpty : (([] : XLedger)).lookup id = none := rfl
  generalize ([] : XLedger) = ledger at hEmpty
  induction xs generalizing ledger with
  | nil => exact hEmpty
  | cons x xs ih =>
    rw [List.filterMap_cons] at hNew
    refine ih (fun hMem => hNew ?_) _ ?_
    · cases x.inserted with
      | none => exact hMem
      | some drawn => exact List.mem_cons_of_mem _ hMem
    · rw [apply, List.lookup_append, lookup_map_apply, hEmpty, Option.map_none, Option.none_or,
        insertedRow]
      split
      · rename_i reservation drawn hQuestion hInserted
        rw [hInserted] at hNew
        have hNe : id ≠ drawn := fun hSame => hNew (hSame ▸ List.mem_cons_self)
        rw [List.lookup_cons, beq_eq_false_iff_ne.mpr hNe]
        rfl
      · rfl

end XLedger

namespace UsageRow

variable {id : Text} {row : UsageRow} {x : XExchange} {xs : List XExchange}

/-- A row that is settled stays as it is. -/
theorem apply_of_settled (h : row.outcome ≠ none) : row.apply id x = row := by
  unfold UsageRow.apply
  split
  · rw [if_neg fun hOpen => h hOpen.2.2]
  · rfl

/-- Only a settlement with its id writes a row. -/
theorem apply_of_other (h : ∀ outcome reference, x.question ≠ .settle id outcome reference) :
    row.apply id x = row := by
  unfold UsageRow.apply
  split
  · rename_i settled outcome reference hQuestion
    refine if_neg ?_
    rintro ⟨-, rfl, -⟩
    exact h outcome reference hQuestion
  · rfl

theorem foldl_of_settled (h : row.outcome ≠ none) :
    xs.foldl (fun row x => row.apply id x) row = row := by
  induction xs with
  | nil => rfl
  | cons x xs ih =>
    rw [List.foldl_cons, apply_of_settled h]
    exact ih

theorem foldl_of_others
    (h : ∀ x ∈ xs, ∀ outcome reference, x.question ≠ .settle id outcome reference) :
    xs.foldl (fun row x => row.apply id x) row = row := by
  induction xs with
  | nil => rfl
  | cons x xs ih =>
    rw [List.foldl_cons, apply_of_other (h x List.mem_cons_self)]
    exact ih fun y hMem => h y (List.mem_cons_of_mem x hMem)

end UsageRow

/-! ## The exchanges of one program -/

/-- What a program of an operation exchanges with the ledger and with X, in a run. -/
inductive BilledExchanges (s : Surroundings) (operation : XOperation) : List XExchange → Prop
  | unbilled {l : List XExchange} (hQuiet : ∀ x ∈ l, x.question.IsQuiet) :
    BilledExchanges s operation l
  | unreserved {before after : List XExchange} {y : XExchange} {reservation : XUsageReservation}
    (hBefore : ∀ x ∈ before, x.question.IsQuiet) (hAfter : ∀ x ∈ after, x.question.IsQuiet)
    (hY : y.question = .reserve reservation)
    (hNone : ∀ id, PgXUsageLedger.reservationId y.reply.reserve ≠ .ok id) :
    BilledExchanges s operation (before ++ y :: after)
  | unattempted {before after : List XExchange} {y z : XExchange} {id : Text}
    {reservation : XUsageReservation}
    (hBefore : ∀ x ∈ before, x.question.IsQuiet) (hAfter : ∀ x ∈ after, x.question.IsQuiet)
    (hY : y.question = .reserve reservation)
    (hId : PgXUsageLedger.reservationId y.reply.reserve = .ok id)
    (hUrl : operation.hasUrl s = false) (hZ : z.question = .settle id .failed none) :
    BilledExchanges s operation (before ++ y :: z :: after)
  | attempted {before after : List XExchange} {y x z : XExchange} {id : Text}
    {reservation : XUsageReservation} {request : HttpRequest}
    (hBefore : ∀ x ∈ before, x.question.IsQuiet) (hAfter : ∀ x ∈ after, x.question.IsQuiet)
    (hY : y.question = .reserve reservation)
    (hId : PgXUsageLedger.reservationId y.reply.reserve = .ok id)
    (hUrl : operation.hasUrl s = true) (hX : x.question = .fetch request)
    (hOperation : xOperation request = reservation.operation)
    (hZ : z.question = .settle id (settledAs x.reply.http).1 (settledAs x.reply.http).2) :
    BilledExchanges s operation (before ++ y :: x :: z :: after)

/-- The exchanges of a program without what the database did. -/
theorem BilledExchanges.of_billed {s : Surroundings} {operation : XOperation}
    {l : List XExchange} (h : Billed s operation (l.map fun x => (x.question, x.reply))) :
    BilledExchanges s operation l := by
  obtain ⟨before, core, after, hSplit, hBefore, hAfter, hCore⟩ := h
  obtain ⟨l₁, last, rfl, hFirst, rfl⟩ := List.map_eq_append_iff.mp hSplit
  obtain ⟨first, middle, rfl, rfl, rfl⟩ := List.map_eq_append_iff.mp hFirst
  have hBefore : ∀ x ∈ first, x.question.IsQuiet := fun x hMem =>
    hBefore _ (List.mem_map_of_mem hMem)
  have hAfter : ∀ x ∈ last, x.question.IsQuiet := fun x hMem =>
    hAfter _ (List.mem_map_of_mem hMem)
  rw [List.append_assoc]
  generalize hMiddle : middle.map (fun x => (x.question, x.reply)) = core at hCore
  cases hCore with
  | unbilled =>
    rw [List.map_eq_nil_iff.mp hMiddle]
    exact .unbilled fun x hMem => (List.mem_append.mp hMem).elim (hBefore x) (hAfter x)
  | unreserved hNone =>
    obtain ⟨y, rest, rfl, hY, hRest⟩ := List.map_eq_cons_iff.mp hMiddle
    rw [List.map_eq_nil_iff.mp hRest]
    injection hY with hQuestion hReply
    exact .unreserved hBefore hAfter hQuestion (hReply ▸ hNone)
  | unattempted hId hUrl =>
    obtain ⟨y, rest, rfl, hY, hRest⟩ := List.map_eq_cons_iff.mp hMiddle
    obtain ⟨z, rest, rfl, hZ, hRest⟩ := List.map_eq_cons_iff.mp hRest
    rw [List.map_eq_nil_iff.mp hRest]
    injection hY with hQuestion hReply
    injection hZ with hSettle
    exact .unattempted hBefore hAfter hQuestion (hReply ▸ hId) hUrl hSettle
  | attempted hId hUrl hOperation =>
    obtain ⟨y, rest, rfl, hY, hRest⟩ := List.map_eq_cons_iff.mp hMiddle
    obtain ⟨x, rest, rfl, hX, hRest⟩ := List.map_eq_cons_iff.mp hRest
    obtain ⟨z, rest, rfl, hZ, hRest⟩ := List.map_eq_cons_iff.mp hRest
    rw [List.map_eq_nil_iff.mp hRest]
    injection hY with hQuestion hReply
    injection hX with hFetch hAnswer
    injection hZ with hSettle
    exact .attempted hBefore hAfter hQuestion (hReply ▸ hId) hUrl hFetch hOperation
      (hAnswer ▸ hSettle)

theorem ne_fetch_of_quiet {question : Request} (h : question.IsQuiet) (request : HttpRequest) :
    question ≠ .fetch request := by
  rintro rfl
  exact h

theorem ne_reserve_of_quiet {question : Request} (h : question.IsQuiet)
    (reservation : XUsageReservation) : question ≠ .reserve reservation := by
  rintro rfl
  exact h

theorem ne_settle_of_quiet {question : Request} (h : question.IsQuiet) (id : Text)
    (outcome : XUsageOutcome) (reference : Option Text) :
    question ≠ .settle id outcome reference := by
  rintro rfl
  exact h

/-- A settlement has the id that the reservation before it got. -/
theorem BilledExchanges.reserve_of_settle {s : Surroundings} {operation : XOperation}
    {l : List XExchange} {z : XExchange} {id : Text} {outcome : XUsageOutcome}
    {reference : Option Text} (h : BilledExchanges s operation l) (hIn : z ∈ l)
    (hZ : z.question = .settle id outcome reference) :
    ∃ y reservation, y ∈ l ∧ y.question = .reserve reservation ∧
      PgXUsageLedger.reservationId y.reply.reserve = .ok id := by
  cases h with
  | unbilled hQuiet => exact absurd hZ (ne_settle_of_quiet (hQuiet z hIn) _ _ _)
  | @unreserved before after y reservation hBefore hAfter hY hNone =>
    rw [List.mem_append, List.mem_cons] at hIn
    rcases hIn with hIn | rfl | hIn
    · exact absurd hZ (ne_settle_of_quiet (hBefore z hIn) _ _ _)
    · rw [hY] at hZ
      cases hZ
    · exact absurd hZ (ne_settle_of_quiet (hAfter z hIn) _ _ _)
  | @unattempted before after y z' id' reservation hBefore hAfter hY hId hUrl hSettle =>
    simp only [List.mem_append, List.mem_cons] at hIn
    rcases hIn with hIn | rfl | rfl | hIn
    · exact absurd hZ (ne_settle_of_quiet (hBefore z hIn) _ _ _)
    · rw [hY] at hZ
      cases hZ
    · rw [hSettle] at hZ
      injection hZ with hSame
      exact ⟨y, reservation, by simp, hY, hSame ▸ hId⟩
    · exact absurd hZ (ne_settle_of_quiet (hAfter z hIn) _ _ _)
  | @attempted before after y x z' id' reservation request hBefore hAfter hY hId hUrl hX hOperation
      hSettle =>
    simp only [List.mem_append, List.mem_cons] at hIn
    rcases hIn with hIn | rfl | rfl | rfl | hIn
    · exact absurd hZ (ne_settle_of_quiet (hBefore z hIn) _ _ _)
    · rw [hY] at hZ
      cases hZ
    · rw [hX] at hZ
      cases hZ
    · rw [hSettle] at hZ
      injection hZ with hSame
      exact ⟨y, reservation, by simp, hY, hSame ▸ hId⟩
    · exact absurd hZ (ne_settle_of_quiet (hAfter z hIn) _ _ _)

/-! ## A run -/

namespace XRun

variable {s : Surroundings} {run : XRun s} {i : Nat} {id : Text}

/-- The exchanges of a program, in their order. -/
def exchangesOf (run : XRun s) (i : Nat) : List XExchange :=
  run.schedule.filter fun x => x.thread = i

/-- **Every program of a run** is billed as its operation is. -/
theorem billed_exchanges (run : XRun s) (i : Nat) :
    run.exchangesOf i = [] ∨ ∃ operation, run.operationOf i = some operation ∧
      BilledExchanges s operation (run.exchangesOf i) := by
  have hPairs := run.interleaved i
  cases hThread : (xThreads s run.calls)[i]? with
  | none =>
    rw [hThread] at hPairs
    exact .inl (List.map_eq_nil_iff.mp hPairs)
  | some thread =>
    rw [hThread] at hPairs
    refine .inr ⟨thread.1, by rw [operationOf, hThread]; rfl, .of_billed ?_⟩
    have hSame : (run.exchangesOf i).map (fun x => (x.question, x.reply)) = thread.2 := hPairs
    rw [hSame]
    obtain ⟨call, -, hMem⟩ := List.mem_flatMap.mp (List.mem_of_getElem? hThread)
    obtain ⟨exchanges, hExchanges, rfl⟩ := List.mem_map.mp hMem
    exact billed_threads hExchanges

theorem mem_exchangesOf {x : XExchange} :
    x ∈ run.exchangesOf i ↔ x ∈ run.schedule ∧ x.thread = i := by
  rw [exchangesOf, List.mem_filter, decide_eq_true_eq]

/-- What inserts a row is an INSERT. -/
theorem question_of_inserted {y : XExchange} (hMem : y ∈ run.schedule)
    (hInserted : y.inserted = some id) : ∃ reservation, y.question = .reserve reservation := by
  have hExecuted := run.executed y hMem
  unfold XExchange.Executed at hExecuted
  split at hExecuted
  · exact ⟨_, by assumption⟩
  · rw [hExecuted.1] at hInserted
    cases hInserted
  · rw [hExecuted] at hInserted
    cases hInserted

/-- The id that the code got is that of the row. -/
theorem inserted_of_reservationId {y : XExchange} {reservation : XUsageReservation}
    (hMem : y ∈ run.schedule) (hY : y.question = .reserve reservation)
    (hId : PgXUsageLedger.reservationId y.reply.reserve = .ok id) : y.inserted = some id := by
  have hExecuted := run.executed y hMem
  unfold XExchange.Executed at hExecuted
  rw [hY] at hExecuted
  refine hExecuted id ?_
  unfold PgXUsageLedger.reservationId at hId
  split at hId
  · cases hId
  · rename_i hReply
    injection hId with hId
    rw [hReply, hId]
  · cases hId

/-- An id is drawn once. -/
theorem inserted_unique {y y' : XExchange} (hMem : y ∈ run.schedule) (hMem' : y' ∈ run.schedule)
    (hInserted : y.inserted = some id) (hInserted' : y'.inserted = some id) : y = y' := by
  by_contra hNe
  have hApart := List.pairwise_filterMap.mp run.fresh
  have hSymm : Std.Symm fun a b : XExchange =>
      ∀ c, a.inserted = some c → ∀ d, b.inserted = some d → c ≠ d :=
    ⟨fun a b hBoth c hC d hD hSame => hBoth d hD c hC hSame.symm⟩
  have hDistinct := hApart.forall hMem hMem' hNe
  exact hDistinct id hInserted id hInserted' rfl

/-- A settlement has the id of the reservation of its program. -/
theorem settle_origin {z : XExchange} {outcome : XUsageOutcome} {reference : Option Text}
    (hMem : z ∈ run.schedule) (hZ : z.question = .settle id outcome reference) :
    ∃ y ∈ run.schedule, y.thread = z.thread ∧ y.inserted = some id := by
  rcases run.billed_exchanges z.thread with hEmpty | ⟨operation, -, hBilled⟩
  · have hIn : z ∈ run.exchangesOf z.thread := mem_exchangesOf.mpr ⟨hMem, rfl⟩
    rw [hEmpty] at hIn
    cases hIn
  · obtain ⟨y, reservation, hIn, hY, hId⟩ :=
      hBilled.reserve_of_settle (mem_exchangesOf.mpr ⟨hMem, rfl⟩) hZ
    obtain ⟨hSchedule, hThread⟩ := mem_exchangesOf.mp hIn
    exact ⟨y, hSchedule, hThread, inserted_of_reservationId hSchedule hY hId⟩

/-- The row of a reservation goes by what comes after it. -/
theorem row_of_inserted {before after : List XExchange} {y : XExchange}
    {reservation : XUsageReservation} (hSplit : run.schedule = before ++ y :: after)
    (hY : y.question = .reserve reservation) (hInserted : y.inserted = some id) :
    run.ledger.lookup id = some (after.foldl (fun row x => row.apply id x)
      ⟨reservation.operation, none, none⟩) := by
  have hNew : id ∉ before.filterMap XExchange.inserted := by
    have hFresh := run.fresh
    rw [hSplit, List.filterMap_append, List.nodup_append] at hFresh
    exact fun hMem => hFresh.2.2 id hMem id
      (List.mem_filterMap.mpr ⟨y, List.mem_cons_self, hInserted⟩) rfl
  rw [ledger, hSplit, XLedger.after, List.foldl_append]
  refine XLedger.lookup_foldl after ?_
  rw [show before.foldl XLedger.apply [] = XLedger.after before from rfl, XLedger.apply, List.lookup_append, XLedger.lookup_map_apply,
    XLedger.lookup_after_eq_none hNew, Option.map_none, Option.none_or, XLedger.insertedRow]
  simp [hY, hInserted]

/-- The only settlement of a program decides the row of its reservation. -/
theorem row_of_settled {before after : List XExchange} (middle : List XExchange)
    {y z : XExchange}
    {reservation : XUsageReservation} {outcome : XUsageOutcome} {reference : Option Text}
    (hExchanges : run.exchangesOf i = before ++ y :: (middle ++ z :: after))
    (hY : y.question = .reserve reservation) (hInserted : y.inserted = some id)
    (hZ : z.question = .settle id outcome reference)
    (hMiddle : ∀ x ∈ middle, ∀ outcome reference, x.question ≠ .settle id outcome reference)
    (hAfter : ∀ x ∈ after, ∀ outcome reference, x.question ≠ .settle id outcome reference) :
    run.ledger.lookup id = some (if z.updated = true then ⟨reservation.operation, some outcome,
      reference⟩ else ⟨reservation.operation, none, none⟩) := by
  obtain ⟨first, rest, hSchedule, -, hRest⟩ := List.filter_eq_append_iff.mp hExchanges
  obtain ⟨gap, last, rfl, hGap, hYThread, hLast⟩ := List.filter_eq_cons_iff.mp hRest
  have hSplit : run.schedule = (first ++ gap) ++ y :: last := by
    rw [hSchedule, List.append_assoc]
  have hYThread : y.thread = i := of_decide_eq_true hYThread
  have hZIn : z ∈ last := by
    have hMem : z ∈ last.filter fun x => x.thread = i := by
      rw [hLast]
      exact List.mem_append_right _ List.mem_cons_self
    exact (List.mem_filter.mp hMem).1
  have hZThread : z.thread = i := by
    have hMem : z ∈ last.filter fun x => x.thread = i := by
      rw [hLast]
      exact List.mem_append_right _ List.mem_cons_self
    exact of_decide_eq_true (List.mem_filter.mp hMem).2
  obtain ⟨l₁, l₂, rfl⟩ := List.append_of_mem hZIn
  -- in its program, the settlement is the only one with this id
  have hParts : l₁.filter (fun x => x.thread = i) = middle ∧
      l₂.filter (fun x => x.thread = i) = after := by
    rw [List.filter_append, List.filter_cons_of_pos (by simp [hZThread])] at hLast
    obtain ⟨hFirst, -, hSecond⟩ := split_unique
      (p := fun x : XExchange => ∃ outcome reference, x.question = .settle id outcome reference)
      hLast ⟨outcome, reference, hZ⟩ (fun x hMem ⟨o, r, hX⟩ => hMiddle x hMem o r hX)
      fun x hMem ⟨o, r, hX⟩ => hAfter x hMem o r hX
    exact ⟨hFirst, hSecond⟩
  -- and no other program settles it
  have hThread : ∀ {x : XExchange} {o : XUsageOutcome} {r : Option Text}, x ∈ run.schedule →
      x.question = .settle id o r → x.thread = i := by
    intro x o r hMem hX
    obtain ⟨y', hY', hSame, hInserted'⟩ := settle_origin hMem hX
    have hYIn : y ∈ run.schedule := by
      rw [hSplit]
      exact List.mem_append_right _ List.mem_cons_self
    rw [← hSame, ← hYThread, inserted_unique hYIn hY' hInserted hInserted']
  have hFirst : ∀ x ∈ l₁, ∀ o r, x.question ≠ .settle id o r := by
    intro x hMem o r hX
    have hIn : x ∈ run.schedule := by
      rw [hSplit]
      exact List.mem_append_right _ (List.mem_cons_of_mem _ (List.mem_append_left _ hMem))
    refine hMiddle x ?_ o r hX
    rw [← hParts.1]
    exact List.mem_filter.mpr ⟨hMem, decide_eq_true (hThread hIn hX)⟩
  have hSecond : ∀ x ∈ l₂, ∀ o r, x.question ≠ .settle id o r := by
    intro x hMem o r hX
    have hIn : x ∈ run.schedule := by
      rw [hSplit]
      exact List.mem_append_right _ (List.mem_cons_of_mem _ (List.mem_append_right _
        (List.mem_cons_of_mem _ hMem)))
    refine hAfter x ?_ o r hX
    rw [← hParts.2]
    exact List.mem_filter.mpr ⟨hMem, decide_eq_true (hThread hIn hX)⟩
  rw [row_of_inserted hSplit hY hInserted, List.foldl_append, List.foldl_cons,
    UsageRow.foldl_of_others hFirst, UsageRow.foldl_of_others hSecond, UsageRow.apply, hZ]
  simp

/-- **Once settled, a row never changes.** -/
theorem settled_row_kept {earlier later : List XExchange} {row : UsageRow}
    (hPrefix : earlier <+: later) (hRow : (XLedger.after earlier).lookup id = some row)
    (hSettled : row.outcome ≠ none) : (XLedger.after later).lookup id = some row := by
  obtain ⟨rest, rfl⟩ := hPrefix
  rw [XLedger.after, List.foldl_append]
  have hKept := XLedger.lookup_foldl rest hRow
  rw [UsageRow.foldl_of_settled hSettled] at hKept
  exact hKept

/-! ## The requests and their reservations -/

/-- A request `x` between its reservation `y` and the settlement `z` of it. -/
structure Attempt (run : XRun s) (id : Text) (reservation : XUsageReservation)
    (request : HttpRequest) (y x z : XExchange) : Prop where
  operation : ∃ operation, run.operationOf y.thread = some operation ∧ operation.hasUrl s = true
  exchanges : ∃ before after, run.exchangesOf y.thread = before ++ y :: x :: z :: after ∧
    (∀ x ∈ before, x.question.IsQuiet) ∧ ∀ x ∈ after, x.question.IsQuiet
  reserved : y.question = .reserve reservation
  acknowledged : PgXUsageLedger.reservationId y.reply.reserve = .ok id
  requested : x.question = .fetch request
  priced : xOperation request = reservation.operation
  settled : z.question = .settle id (settledAs x.reply.http).1 (settledAs x.reply.http).2

/-- No request to X comes from the program. -/
def Idle (run : XRun s) (i : Nat) : Prop :=
  ∀ x ∈ run.exchangesOf i, ∀ request, x.question ≠ .fetch request

namespace Attempt

variable {reservation : XUsageReservation} {request : HttpRequest} {y x z : XExchange}

theorem mem (h : run.Attempt id reservation request y x z) :
    y ∈ run.schedule ∧ (x ∈ run.schedule ∧ x.thread = y.thread) ∧
      z ∈ run.schedule ∧ z.thread = y.thread := by
  obtain ⟨before, after, hExchanges, -⟩ := h.exchanges
  have hIn : ∀ w, w = y ∨ w = x ∨ w = z → w ∈ run.schedule ∧ w.thread = y.thread := by
    intro w hIs
    refine mem_exchangesOf.mp ?_
    rw [hExchanges]
    rcases hIs with rfl | rfl | rfl <;> simp
  exact ⟨(hIn y (.inl rfl)).1, hIn x (.inr (.inl rfl)), hIn z (.inr (.inr rfl))⟩

theorem inserted (h : run.Attempt id reservation request y x z) : y.inserted = some id :=
  inserted_of_reservationId h.mem.1 h.reserved h.acknowledged

/-- The row at the end. -/
theorem row (h : run.Attempt id reservation request y x z) :
    run.ledger.lookup id = some (if z.updated = true then ⟨reservation.operation,
      some (settledAs x.reply.http).1, (settledAs x.reply.http).2⟩
      else ⟨reservation.operation, none, none⟩) := by
  obtain ⟨before, after, hExchanges, -, hAfter⟩ := h.exchanges
  refine row_of_settled [x] hExchanges h.reserved h.inserted h.settled ?_
    fun w hMem => ne_settle_of_quiet (hAfter w hMem) id
  intro w hMem outcome reference hSettle
  rw [List.mem_singleton.mp hMem, h.requested] at hSettle
  cases hSettle

/-- The request of a program is its only one. -/
theorem fetch_unique (h : run.Attempt id reservation request y x z) {x' : XExchange}
    {request' : HttpRequest} (hMem : x' ∈ run.schedule) (hThread : x'.thread = y.thread)
    (hX : x'.question = .fetch request') : x' = x := by
  obtain ⟨before, after, hExchanges, hBefore, hAfter⟩ := h.exchanges
  have hIn := mem_exchangesOf.mpr ⟨hMem, hThread⟩
  rw [hExchanges] at hIn
  simp only [List.mem_append, List.mem_cons] at hIn
  rcases hIn with hIn | rfl | rfl | rfl | hIn
  · exact absurd hX (ne_fetch_of_quiet (hBefore x' hIn) _)
  · rw [h.reserved] at hX
    cases hX
  · rfl
  · rw [h.settled] at hX
    cases hX
  · exact absurd hX (ne_fetch_of_quiet (hAfter x' hIn) _)

/-- So is its settlement. -/
theorem settle_unique (h : run.Attempt id reservation request y x z) {z' : XExchange}
    {id' : Text} {outcome : XUsageOutcome} {reference : Option Text} (hMem : z' ∈ run.schedule)
    (hThread : z'.thread = y.thread) (hZ : z'.question = .settle id' outcome reference) :
    z' = z := by
  obtain ⟨before, after, hExchanges, hBefore, hAfter⟩ := h.exchanges
  have hIn := mem_exchangesOf.mpr ⟨hMem, hThread⟩
  rw [hExchanges] at hIn
  simp only [List.mem_append, List.mem_cons] at hIn
  rcases hIn with hIn | rfl | rfl | rfl | hIn
  · exact absurd hZ (ne_settle_of_quiet (hBefore z' hIn) _ _ _)
  · rw [h.reserved] at hZ
    cases hZ
  · rw [h.requested] at hZ
    cases hZ
  · rfl
  · exact absurd hZ (ne_settle_of_quiet (hAfter z' hIn) _ _ _)

end Attempt

/-- A request has its reservation. -/
theorem attempt_of_fetch {x : XExchange} {request : HttpRequest} (hMem : x ∈ run.schedule)
    (hX : x.question = .fetch request) :
    ∃ id reservation y z, run.Attempt id reservation request y x z := by
  have hIn := mem_exchangesOf.mpr ⟨hMem, rfl⟩
  rcases run.billed_exchanges x.thread with hEmpty | ⟨operation, hOperation, hBilled⟩
  · rw [hEmpty] at hIn
    cases hIn
  generalize hExchanges : run.exchangesOf x.thread = l at hIn hBilled
  cases hBilled with
  | unbilled hQuiet => exact absurd hX (ne_fetch_of_quiet (hQuiet x hIn) _)
  | unreserved hBefore hAfter hY hNone =>
    simp only [List.mem_append, List.mem_cons] at hIn
    rcases hIn with hIn | rfl | hIn
    · exact absurd hX (ne_fetch_of_quiet (hBefore x hIn) _)
    · rw [hY] at hX
      cases hX
    · exact absurd hX (ne_fetch_of_quiet (hAfter x hIn) _)
  | unattempted hBefore hAfter hY hId hUrl hZ =>
    simp only [List.mem_append, List.mem_cons] at hIn
    rcases hIn with hIn | rfl | rfl | hIn
    · exact absurd hX (ne_fetch_of_quiet (hBefore x hIn) _)
    · rw [hY] at hX
      cases hX
    · rw [hZ] at hX
      cases hX
    · exact absurd hX (ne_fetch_of_quiet (hAfter x hIn) _)
  | @attempted before after y x' z id reservation request' hBefore hAfter hY hId hUrl hFetch hPriced
      hZ =>
    have hThread : y.thread = x.thread := by
      have hYIn : y ∈ run.exchangesOf x.thread := by
        rw [hExchanges]
        simp
      exact (mem_exchangesOf.mp hYIn).2
    have hAttempt : run.Attempt id reservation request' y x' z := by
      refine ⟨⟨operation, ?_, hUrl⟩, ⟨before, after, ?_, hBefore, hAfter⟩, hY, hId, hFetch,
        hPriced, hZ⟩
      · rw [hThread]
        exact hOperation
      · rw [hThread]
        exact hExchanges
    obtain rfl := hAttempt.fetch_unique hMem hThread.symm hX
    rw [hX] at hFetch
    injection hFetch with hSame
    exact ⟨id, reservation, y, z, hSame ▸ hAttempt⟩

/-- **What becomes of a row that is inserted.** The code never learns its id; or it has no URL to
ask; or it attempts the request. -/
theorem inserted_cases {y : XExchange} (hMem : y ∈ run.schedule) (hInserted : y.inserted = some id) :
    (run.Idle y.thread ∧ PgXUsageLedger.reservationId y.reply.reserve ≠ .ok id) ∨
    (run.Idle y.thread ∧ PgXUsageLedger.reservationId y.reply.reserve = .ok id ∧
      ∃ operation, run.operationOf y.thread = some operation ∧ operation.hasUrl s = false) ∨
    ∃ reservation request x z, run.Attempt id reservation request y x z := by
  obtain ⟨reservation, hReserve⟩ := question_of_inserted hMem hInserted
  have hIn := mem_exchangesOf.mpr ⟨hMem, rfl⟩
  have hLearns : ∀ {id'}, PgXUsageLedger.reservationId y.reply.reserve = .ok id' → id' = id := by
    intro id' hId
    have hDrawn := inserted_of_reservationId hMem hReserve hId
    rw [hInserted] at hDrawn
    injection hDrawn with hDrawn
    exact hDrawn.symm
  rcases run.billed_exchanges y.thread with hEmpty | ⟨operation, hOperation, hBilled⟩
  · rw [hEmpty] at hIn
    cases hIn
  unfold Idle
  generalize hExchanges : run.exchangesOf y.thread = l at hIn hBilled
  cases hBilled with
  | unbilled hQuiet => exact absurd hReserve (ne_reserve_of_quiet (hQuiet y hIn) _)
  | unreserved hBefore hAfter hY hNone =>
    simp only [List.mem_append, List.mem_cons] at hIn
    rcases hIn with hIn | rfl | hIn
    · exact absurd hReserve (ne_reserve_of_quiet (hBefore y hIn) _)
    · refine .inl ⟨fun x hX request hFetch => ?_, hNone id⟩
      simp only [List.mem_append, List.mem_cons] at hX
      rcases hX with hX | rfl | hX
      · exact ne_fetch_of_quiet (hBefore x hX) _ hFetch
      · rw [hY] at hFetch
        cases hFetch
      · exact ne_fetch_of_quiet (hAfter x hX) _ hFetch
    · exact absurd hReserve (ne_reserve_of_quiet (hAfter y hIn) _)
  | unattempted hBefore hAfter hY hId hUrl hZ =>
    simp only [List.mem_append, List.mem_cons] at hIn
    rcases hIn with hIn | rfl | rfl | hIn
    · exact absurd hReserve (ne_reserve_of_quiet (hBefore y hIn) _)
    · refine .inr (.inl ⟨fun x hX request hFetch => ?_, hLearns hId ▸ hId, operation, hOperation,
        hUrl⟩)
      simp only [List.mem_append, List.mem_cons] at hX
      rcases hX with hX | rfl | rfl | hX
      · exact ne_fetch_of_quiet (hBefore x hX) _ hFetch
      · rw [hY] at hFetch
        cases hFetch
      · rw [hZ] at hFetch
        cases hFetch
      · exact ne_fetch_of_quiet (hAfter x hX) _ hFetch
    · rw [hZ] at hReserve
      cases hReserve
    · exact absurd hReserve (ne_reserve_of_quiet (hAfter y hIn) _)
  | @attempted before after y' x z id' reservation' request hBefore hAfter hY hId hUrl hFetch hPriced
      hZ =>
    simp only [List.mem_append, List.mem_cons] at hIn
    rcases hIn with hIn | rfl | rfl | rfl | hIn
    · exact absurd hReserve (ne_reserve_of_quiet (hBefore y hIn) _)
    · have hSame := hLearns hId
      rw [hSame] at hId hZ
      exact .inr (.inr ⟨reservation', request, x, z, ⟨operation, hOperation, hUrl⟩,
        ⟨before, after, hExchanges, hBefore, hAfter⟩, hY, hId, hFetch, hPriced, hZ⟩)
    · rw [hFetch] at hReserve
      cases hReserve
    · rw [hZ] at hReserve
      cases hReserve
    · exact absurd hReserve (ne_reserve_of_quiet (hAfter y hIn) _)

/-! ## Faithfulness -/

/-- The ledger of the run says what became of the requests to X. -/
structure Faithful (run : XRun s) : Prop where
  /-- Before a request there is one reservation of its program, for its operation, and no other
  request. -/
  reserved : ∀ {before after : List XExchange} {x : XExchange} {request : HttpRequest},
    run.schedule = before ++ x :: after → x.question = .fetch request →
    (∃ y reservation, before.filter (fun y => y.thread = x.thread ∧ y.inserted.isSome) = [y] ∧
      y.question = .reserve reservation ∧ reservation.operation = xOperation request) ∧
    ∀ x' ∈ before, x'.thread = x.thread → ∀ request', x'.question ≠ .fetch request'
  /-- After a reservation there is a request of its program. -/
  attempted : ∀ {before after : List XExchange} {y : XExchange},
    run.schedule = before ++ y :: after → y.inserted.isSome →
    ∃ x ∈ after, x.thread = y.thread ∧ ∃ request, x.question = .fetch request
  /-- The reservation of a request that resolved is settled `succeeded`, and one that is settled
  `failed` is that of a request that rejected. -/
  settled : ∀ {y x : XExchange} {id : Text} {request : HttpRequest}, y ∈ run.schedule →
    x ∈ run.schedule → y.inserted = some id → x.thread = y.thread → x.question = .fetch request →
    ∃ row, run.ledger.lookup id = some row ∧
      ((resolvedBody x.reply.http).isSome → row.outcome = some .succeeded) ∧
      (row.outcome = some .failed → resolvedBody x.reply.http = none)
  /-- Once settled, a row never changes. -/
  kept : ∀ {earlier later : List XExchange} {id : Text} {row : UsageRow},
    earlier <+: later → later <+: run.schedule →
    (XLedger.after earlier).lookup id = some row → row.outcome ≠ none →
    (XLedger.after later).lookup id = some row

/-- The URLs are configured, the answers have a `data`, and the database does what it is asked. -/
structure Unhindered (run : XRun s) : Prop where
  /-- An INSERT that is executed tells its id. -/
  acknowledged : ∀ y ∈ run.schedule, ∀ id, y.inserted = some id →
    PgXUsageLedger.reservationId y.reply.reserve = .ok id
  /-- An operation with a reservation has a URL. -/
  configured : ∀ y ∈ run.schedule, y.inserted.isSome → ∀ operation,
    run.operationOf y.thread = some operation → operation.hasUrl s = true
  /-- The body of an answer with which a request resolves is an object with an object `data`. -/
  hasData : ∀ x ∈ run.schedule, ∀ request body, x.question = .fetch request →
    resolvedBody x.reply.http = some body → (XAdapter.data body).isOk = true
  /-- The UPDATE after such a request is executed. -/
  updated : ∀ x ∈ run.schedule, ∀ z ∈ run.schedule, ∀ request id outcome reference,
    x.thread = z.thread → x.question = .fetch request → (resolvedBody x.reply.http).isSome →
    z.question = .settle id outcome reference → z.updated = true

/-- A request that resolved with a `data` is settled `succeeded`. -/
theorem settledAs_of_resolved {answer : FetchAnswer} {body : Json}
    (hBody : resolvedBody answer = some body) :
    (settledAs answer).1 = if (XAdapter.data body).isOk then .succeeded else .failed := by
  unfold resolvedBody at hBody
  unfold settledAs
  cases hReceived : FetchXHttpClient.received answer with
  | error error =>
    rw [hReceived] at hBody
    cases hBody
  | ok response =>
    rw [hReceived] at hBody
    injection hBody with hBody
    rw [← hBody]
    dsimp only
    cases XAdapter.data response.body <;> rfl

/-- One that rejected is settled `failed`. -/
theorem resolved_of_succeeded {answer : FetchAnswer} (h : (settledAs answer).1 ≠ .failed) :
    (resolvedBody answer).isSome := by
  unfold settledAs at h
  unfold resolvedBody
  cases hReceived : FetchXHttpClient.received answer with
  | error error =>
    rw [hReceived] at h
    exact absurd rfl h
  | ok response => rfl

/-- Before a request its program has made one reservation, whatever the replies. -/
theorem reserved_always {before after : List XExchange} {x : XExchange} {request : HttpRequest}
    (hSplit : run.schedule = before ++ x :: after) (hX : x.question = .fetch request) :
    (∃ y reservation, before.filter (fun y => y.thread = x.thread ∧ y.inserted.isSome) = [y] ∧
      y.question = .reserve reservation ∧ reservation.operation = xOperation request) ∧
    ∀ x' ∈ before, x'.thread = x.thread → ∀ request', x'.question ≠ .fetch request' := by
  have hMem : ∀ x' ∈ before ++ x :: after, x' ∈ run.schedule := fun x' hIn => hSplit ▸ hIn
  obtain ⟨id, reservation, y, z, hAttempt⟩ := attempt_of_fetch (hMem x (by simp)) hX
  obtain ⟨first, last, hExchanges, hFirst, hLast⟩ := hAttempt.exchanges
  have hThread : x.thread = y.thread := hAttempt.mem.2.1.2
  -- before the request, the program has its quiet exchanges and the reservation
  have hBefore : before.filter (fun x => x.thread = y.thread) = first ++ [y] := by
    have hBoth : before.filter (fun x => x.thread = y.thread) ++ x ::
        after.filter (fun x => x.thread = y.thread) = (first ++ [y]) ++ x :: (z :: last) := by
      rw [exchangesOf, hSplit, List.filter_append, List.filter_cons_of_pos (by simp [hThread])]
        at hExchanges
      rw [hExchanges, List.append_assoc]
      rfl
    refine (split_unique (p := fun x : XExchange => ∃ request, x.question = .fetch request) hBoth
      ⟨request, hX⟩ ?_ ?_).1
    · rintro x' hIn ⟨request', hFetch⟩
      rcases List.mem_append.mp hIn with hIn | hIn
      · exact ne_fetch_of_quiet (hFirst x' hIn) _ hFetch
      · rw [List.mem_singleton.mp hIn, hAttempt.reserved] at hFetch
        cases hFetch
    · rintro x' hIn ⟨request', hFetch⟩
      rcases List.mem_cons.mp hIn with rfl | hIn
      · rw [hAttempt.settled] at hFetch
        cases hFetch
      · exact ne_fetch_of_quiet (hLast x' hIn) _ hFetch
  refine ⟨⟨y, reservation, ?_, hAttempt.reserved, hAttempt.priced.symm⟩, ?_⟩
  · have hInserts : ∀ x' ∈ first, x'.inserted.isSome = false := by
      intro x' hIn
      have hIn' : x' ∈ before := by
        have hBoth : x' ∈ first ++ [y] := List.mem_append_left _ hIn
        rw [← hBefore] at hBoth
        exact (List.mem_filter.mp hBoth).1
      cases hInserted : x'.inserted with
      | none => rfl
      | some id' =>
        obtain ⟨reservation', hReserve⟩ :=
          question_of_inserted (hMem x' (List.mem_append_left _ hIn')) hInserted
        exact absurd hReserve (ne_reserve_of_quiet (hFirst x' hIn) _)
    have hFilter : before.filter (fun y' => y'.thread = x.thread ∧ y'.inserted.isSome) =
        (before.filter fun x => x.thread = y.thread).filter fun x => x.inserted.isSome := by
      rw [List.filter_filter, hThread]
      refine List.filter_congr fun x' _ => ?_
      simp [Bool.and_comm]
    rw [hFilter, hBefore, List.filter_append, List.filter_eq_nil_iff.mpr fun x' hIn => by
      rw [hInserts x' hIn]
      exact Bool.false_ne_true]
    simp [hAttempt.inserted]
  · intro x' hIn hSame request' hFetch
    have hBoth : x' ∈ first ++ [y] := by
      rw [← hBefore]
      exact List.mem_filter.mpr ⟨hIn, decide_eq_true (hSame.trans hThread)⟩
    rcases List.mem_append.mp hBoth with hFirstIn | hY
    · exact ne_fetch_of_quiet (hFirst x' hFirstIn) _ hFetch
    · rw [List.mem_singleton.mp hY, hAttempt.reserved] at hFetch
      cases hFetch

/-- A faithful ledger tells of no hindrance. -/
theorem Faithful.unhindered (h : run.Faithful) : run.Unhindered := by
  -- a program with a reservation is not idle
  have hNotIdle : ∀ y ∈ run.schedule, y.inserted.isSome → ¬ run.Idle y.thread := by
    intro y hMem hInserted hIdle
    obtain ⟨before, after, hSplit⟩ := List.append_of_mem hMem
    obtain ⟨x, hIn, hThread, request, hX⟩ := h.attempted hSplit hInserted
    refine hIdle x (mem_exchangesOf.mpr ⟨?_, hThread⟩) request hX
    rw [hSplit]
    exact List.mem_append_right _ (List.mem_cons_of_mem _ hIn)
  have hAttempts : ∀ y ∈ run.schedule, ∀ id, y.inserted = some id →
      ∃ reservation request x z, run.Attempt id reservation request y x z := by
    intro y hMem id hInserted
    have hSome : y.inserted.isSome := by
      rw [hInserted]
      rfl
    rcases inserted_cases hMem hInserted with ⟨hIdle, -⟩ | ⟨hIdle, -⟩ | hAttempt
    · exact absurd hIdle (hNotIdle y hMem hSome)
    · exact absurd hIdle (hNotIdle y hMem hSome)
    · exact hAttempt
  -- a request that resolved is settled with its data, and the UPDATE is executed
  have hRows : ∀ {id reservation request y x z}, run.Attempt id reservation request y x z →
      (resolvedBody x.reply.http).isSome →
      z.updated = true ∧ (settledAs x.reply.http).1 = .succeeded := by
    intro id reservation request y x z hAttempt hResolved
    obtain ⟨row, hRow, hSucceeded, -⟩ := h.settled hAttempt.mem.1 hAttempt.mem.2.1.1
      hAttempt.inserted hAttempt.mem.2.1.2 hAttempt.requested
    have hOutcome := hSucceeded hResolved
    rw [hAttempt.row] at hRow
    injection hRow with hRow
    rw [← hRow] at hOutcome
    split at hOutcome
    · injection hOutcome with hOutcome
      exact ⟨by assumption, hOutcome⟩
    · cases hOutcome
  constructor
  case acknowledged =>
    intro y hMem id hInserted
    obtain ⟨reservation, request, x, z, hAttempt⟩ := hAttempts y hMem id hInserted
    exact hAttempt.acknowledged
  case configured =>
    intro y hMem hInserted operation hOperation
    obtain ⟨id, hId⟩ := Option.isSome_iff_exists.mp hInserted
    obtain ⟨reservation, request, x, z, hAttempt⟩ := hAttempts y hMem id hId
    obtain ⟨operation', hSame, hUrl⟩ := hAttempt.operation
    rw [hOperation] at hSame
    injection hSame with hSame
    exact hSame ▸ hUrl
  case hasData =>
    intro x hMem request body hX hBody
    obtain ⟨id, reservation, y, z, hAttempt⟩ := attempt_of_fetch hMem hX
    have hSucceeded := (hRows hAttempt (by rw [hBody]; rfl)).2
    rw [settledAs_of_resolved hBody] at hSucceeded
    by_contra hNoData
    rw [if_neg hNoData] at hSucceeded
    cases hSucceeded
  case updated =>
    intro x hMem z hMemZ request id outcome reference hThread hX hResolved hZ
    obtain ⟨id', reservation, y, z', hAttempt⟩ := attempt_of_fetch hMem hX
    have hSame := hAttempt.settle_unique hMemZ (hThread.symm.trans hAttempt.mem.2.1.2) hZ
    exact hSame ▸ (hRows hAttempt hResolved).1

/-- Without a hindrance the ledger is faithful. -/
theorem Unhindered.faithful (h : run.Unhindered) : run.Faithful := by
  have hAttempts : ∀ y ∈ run.schedule, ∀ id, y.inserted = some id →
      ∃ reservation request x z, run.Attempt id reservation request y x z := by
    intro y hMem id hInserted
    rcases inserted_cases hMem hInserted with ⟨-, hUnknown⟩ | ⟨-, -, operation, hOperation, hUrl⟩ |
      hAttempt
    · exact absurd (h.acknowledged y hMem id hInserted) hUnknown
    · have hHas := h.configured y hMem (by rw [hInserted]; rfl) operation hOperation
      rw [hUrl] at hHas
      cases hHas
    · exact hAttempt
  constructor
  case reserved => exact reserved_always
  case kept => exact fun hPrefix _ hRow hSettled => settled_row_kept hPrefix hRow hSettled
  case attempted =>
    intro before after y hSplit hInserted
    obtain ⟨id, hId⟩ := Option.isSome_iff_exists.mp hInserted
    have hMem : y ∈ run.schedule := by
      rw [hSplit]
      exact List.mem_append_right _ List.mem_cons_self
    obtain ⟨reservation, request, x, z, hAttempt⟩ := hAttempts y hMem id hId
    obtain ⟨first, last, hExchanges, hFirst, hLast⟩ := hAttempt.exchanges
    -- the reservation is the only one of its program, so that the request comes after it
    have hAfter : after.filter (fun x => x.thread = y.thread) = x :: z :: last := by
      rw [exchangesOf, hSplit, List.filter_append, List.filter_cons_of_pos (by simp)] at hExchanges
      refine (split_unique (p := fun x : XExchange => ∃ reservation,
        x.question = .reserve reservation) hExchanges ⟨reservation, hAttempt.reserved⟩ ?_ ?_).2.2
      · rintro x' hIn ⟨reservation', hReserve⟩
        exact ne_reserve_of_quiet (hFirst x' hIn) _ hReserve
      · rintro x' hIn ⟨reservation', hReserve⟩
        simp only [List.mem_cons] at hIn
        rcases hIn with rfl | rfl | hIn
        · rw [hAttempt.requested] at hReserve
          cases hReserve
        · rw [hAttempt.settled] at hReserve
          cases hReserve
        · exact ne_reserve_of_quiet (hLast x' hIn) _ hReserve
    have hIn : x ∈ after.filter fun x => x.thread = y.thread := by
      rw [hAfter]
      exact List.mem_cons_self
    exact ⟨x, (List.mem_filter.mp hIn).1, hAttempt.mem.2.1.2, request, hAttempt.requested⟩
  case settled =>
    intro y x id request hY hX hInserted hThread hFetch
    obtain ⟨reservation, request', x', z, hAttempt⟩ := hAttempts y hY id hInserted
    obtain rfl := hAttempt.fetch_unique hX hThread hFetch
    refine ⟨_, hAttempt.row, fun hResolved => ?_, fun hFailed => ?_⟩
    · obtain ⟨body, hBody⟩ := Option.isSome_iff_exists.mp hResolved
      have hUpdated := h.updated x hX z hAttempt.mem.2.2.1 request id _ _
        (hThread.trans hAttempt.mem.2.2.2.symm) hFetch hResolved hAttempt.settled
      rw [if_pos hUpdated, settledAs_of_resolved hBody, if_pos (h.hasData x hX request body hFetch
        hBody)]
    · cases hBody : resolvedBody x.reply.http with
      | none => rfl
      | some body =>
        rw [settledAs_of_resolved hBody, if_pos (h.hasData x hX request body hFetch hBody)]
          at hFailed
        split at hFailed <;> cases hFailed

end XRun

/-- **When the usage ledger is faithful.** In a run of operations of the X adapter, each request to X
comes after one reservation for its operation, each reservation is followed by its request, the
reservation of a request that resolved is settled `succeeded` and one that is settled `failed` is
that of a request that rejected, and a settled row never changes, if and only if an operation that
reserves has a URL, a body with which a request resolves has an object `data`, and the database
tells the ids that it inserts and executes the settlements of the requests that resolve. -/
theorem ledger_faithful {s : Surroundings} (run : XRun s) : run.Faithful ↔ run.Unhindered :=
  ⟨XRun.Faithful.unhindered, XRun.Unhindered.faithful⟩

/-! ## Operations one after the other -/

namespace XExchange

/-- The database does what it acknowledges, and nothing else. -/
def acknowledged (thread : Nat) (e : Request × Reply) : XExchange where
  thread := thread
  question := e.1
  reply := e.2
  inserted := match e.1, e.2.reserve with
    | .reserve _, .ok id => id
    | _, _ => none
  updated := e.2.settle.isOk

theorem acknowledged_executed (thread : Nat) (e : Request × Reply) :
    (acknowledged thread e).Executed := by
  obtain ⟨question, reply⟩ := e
  cases question
  case reserve reservation =>
    intro id hReply
    replace hReply : reply.reserve = .ok (some id) := hReply
    simp only [acknowledged, hReply]
  case settle id outcome externalReference =>
    refine ⟨rfl, fun hReply => ?_⟩
    replace hReply : reply.settle = .ok () := hReply
    simp only [acknowledged, hReply]
    rfl
  all_goals rfl

/-- The exchanges of some programs one after the other, numbered from `n` on. -/
def serial (n : Nat) : List (List (Request × Reply)) → List XExchange
  | [] => []
  | exchanges :: rest => exchanges.map (acknowledged n) ++ serial (n + 1) rest

theorem le_thread_of_serial {threads : List (List (Request × Reply))} {n : Nat} {x : XExchange}
    (h : x ∈ serial n threads) : n ≤ x.thread := by
  induction threads generalizing n with
  | nil => cases h
  | cons exchanges rest ih =>
    rcases List.mem_append.mp h with hHere | hLater
    · obtain ⟨e, -, rfl⟩ := List.mem_map.mp hHere
      exact Nat.le_refl n
    · exact Nat.le_of_succ_le (ih hLater)

/-- Each of them is found under its number. -/
theorem filter_serial (threads : List (List (Request × Reply))) (n i : Nat) :
    ((serial n threads).filter fun x => x.thread = n + i).map (fun x => (x.question, x.reply)) =
      threads[i]?.getD [] := by
  induction threads generalizing n i with
  | nil => rfl
  | cons exchanges rest ih =>
    rw [serial, List.filter_append, List.map_append]
    cases i with
    | zero =>
      have hLater : (serial (n + 1) rest).filter (fun x => x.thread = n + 0) = [] := by
        refine List.filter_eq_nil_iff.mpr fun x hMem hThread => ?_
        have hLe := le_thread_of_serial hMem
        have hSame := of_decide_eq_true hThread
        omega
      have hHere : (exchanges.map (acknowledged n)).filter (fun x => x.thread = n + 0) =
          exchanges.map (acknowledged n) := by
        refine List.filter_eq_self.mpr fun x hMem => ?_
        obtain ⟨e, -, rfl⟩ := List.mem_map.mp hMem
        exact decide_eq_true rfl
      rw [hLater, hHere, List.map_map]
      exact (List.append_nil _).trans (List.map_id exchanges)
    | succ i =>
      have hHere : (exchanges.map (acknowledged n)).filter
          (fun x => x.thread = n + (i + 1)) = [] := by
        refine List.filter_eq_nil_iff.mpr fun x hMem hThread => ?_
        obtain ⟨e, -, rfl⟩ := List.mem_map.mp hMem
        have hSame : n = n + (i + 1) := of_decide_eq_true hThread
        omega
      rw [hHere, List.getElem?_cons_succ, ← ih (n + 1) i]
      simp only [List.map_nil, List.nil_append, Nat.add_assoc, Nat.add_comm 1 i]

theorem mem_serial {threads : List (List (Request × Reply))} {n : Nat} {x : XExchange}
    (h : x ∈ serial n threads) : ∃ thread e, x = acknowledged thread e := by
  induction threads generalizing n with
  | nil => cases h
  | cons exchanges rest ih =>
    rcases List.mem_append.mp h with hHere | hLater
    · obtain ⟨e, -, hSame⟩ := List.mem_map.mp hHere
      exact ⟨n, e, hSame.symm⟩
    · exact ih hLater

end XExchange

/-- The run in which the programs of some operations come one after the other. -/
def XRun.serial {s : Surroundings} (calls : List (XOperation × Replies Reply))
    (hFresh : ((XExchange.serial 0 ((xThreads s calls).map Prod.snd)).filterMap
      XExchange.inserted).Nodup) : XRun s where
  calls := calls
  schedule := XExchange.serial 0 ((xThreads s calls).map Prod.snd)
  interleaved i := by
    have hThread := XExchange.filter_serial ((xThreads s calls).map Prod.snd) 0 i
    rw [Nat.zero_add, List.getElem?_map] at hThread
    exact hThread
  executed x hMem := by
    obtain ⟨thread, e, rfl⟩ := XExchange.mem_serial hMem
    exact XExchange.acknowledged_executed thread e
  fresh := hFresh

/-- Nothing in an exchange hinders the ledger. -/
def XExchange.isUnhindered {s : Surroundings} (run : XRun s) (x : XExchange) : Bool :=
  x.inserted.all (fun id => PgXUsageLedger.reservationId x.reply.reserve = .ok id) &&
    (run.operationOf x.thread).all (XOperation.hasUrl s) &&
    match x.question with
    | .fetch _ => (resolvedBody x.reply.http).all fun body => (XAdapter.data body).isOk
    | .settle _ _ _ => x.updated
    | _ => true

theorem XRun.unhindered_of_all {s : Surroundings} {run : XRun s}
    (h : run.schedule.all (XExchange.isUnhindered run) = true) : run.Unhindered := by
  have hEach : ∀ x ∈ run.schedule, x.isUnhindered run = true := List.all_eq_true.mp h
  simp only [XExchange.isUnhindered, Bool.and_eq_true] at hEach
  constructor
  case acknowledged =>
    intro y hMem id hInserted
    have hReserved := (hEach y hMem).1.1
    rw [hInserted, Option.all_some] at hReserved
    exact of_decide_eq_true hReserved
  case configured =>
    intro y hMem _ operation hOperation
    have hUrl := (hEach y hMem).1.2
    rwa [hOperation] at hUrl
  case hasData =>
    intro x hMem request body hFetch hBody
    have hData := (hEach x hMem).2
    rwa [hFetch, hBody] at hData
  case updated =>
    intro x _ z hMem request id outcome reference _ _ _ hSettle
    have hUpdated := (hEach z hMem).2
    rwa [hSettle] at hUpdated

/-! ## A post with two images -/

namespace Gallery

def image : PostMedia := ⟨.image, "https://media.test/1.png".toList⟩

def post : SocialPost :=
  { Deployment.formatted .x (.x ['H', 'i']) with media := [image, image] }

/-- The row of a reservation has the id `id`, and X answers with the id `9`. -/
def reply (id : Char) : Reply :=
  { Deployment.reply .x (.response {
      status := 201
      headers := fun _ => none
      json := .ok (.object [("data", .object [("id", .string ['9'])])]) }) with
    media := .response 200 (fun name => if name = "content-type" then some "image/png".toList
      else none) (.ok ⟨1, ['1']⟩)
    reserve := .ok (some [id]) }

def call : XOperation × Replies Reply :=
  (.publish post, {
    main := fun _ => reply 'p'
    task := fun i _ => reply (if i = 0 then 'a' else 'b')
    settled := [0, 1] })

def run : XRun Deployment.surroundings := .serial [call] (by decide +kernel)

end Gallery

/-- Both uploads and the post are settled `succeeded`. -/
theorem media_post_settled :
    Gallery.run.ledger = [(['a'], ⟨.mediaUpload, some .succeeded, some ['9']⟩),
      (['b'], ⟨.mediaUpload, some .succeeded, some ['9']⟩),
      (['p'], ⟨.postCreate, some .succeeded, some ['9']⟩)] ∧
    Gallery.run.Faithful := by
  have hQuiet : Gallery.run.schedule.all (XExchange.isUnhindered Gallery.run) = true := by
    decide +kernel
  exact ⟨by decide +kernel, (ledger_faithful Gallery.run).mpr (XRun.unhindered_of_all hQuiet)⟩

/-! ## A deletion that is answered 204 -/

namespace Deletion

/-- `deletePost` with an answer without content, which the client takes as a body of `null`. -/
def call : XOperation × Replies Reply :=
  (.deletePost ['1'] 7, Deployment.replies .x (.response {
    status := 204
    headers := fun _ => none
    json := .error ⟨true, none, none⟩ }))

def run : XRun Deployment.surroundings := .serial [call] (by decide +kernel)

theorem ledger_run : run.ledger = [(['r'], ⟨.postDelete, some .failed, none⟩)] := by
  decide +kernel

/-- A request that resolved. -/
def isResolved (x : XExchange) : Bool :=
  match x.question with
  | .fetch _ => (resolvedBody x.reply.http).isSome
  | _ => false

end Deletion

/-- A post is deleted, X answers 204, and the reservation is settled `failed`. -/
theorem resolved_settled_failed : ¬ Deletion.run.Faithful := by
  intro h
  obtain ⟨x, hX, hResolved⟩ := List.any_eq_true.mp
    (by decide +kernel : Deletion.run.schedule.any Deletion.isResolved = true)
  obtain ⟨y, hY, hInserted⟩ := List.any_eq_true.mp
    (by decide +kernel : Deletion.run.schedule.any (fun y => y.inserted = some ['r']) = true)
  have hThread : ∀ x ∈ Deletion.run.schedule, x.thread = 0 := by
    intro x hMem
    exact of_decide_eq_true (List.all_eq_true.mp
      (by decide +kernel : Deletion.run.schedule.all (fun x => x.thread = 0) = true) x hMem)
  unfold Deletion.isResolved at hResolved
  split at hResolved
  · rename_i request hFetch
    obtain ⟨row, hRow, hSucceeded, -⟩ := h.settled hY hX (of_decide_eq_true hInserted)
      ((hThread x hX).trans (hThread y hY).symm) hFetch
    rw [Deletion.ledger_run] at hRow
    injection hRow with hRow
    rw [← hRow] at hSucceeded
    cases hSucceeded hResolved
  · cases hResolved

end SocialPromotion
