import SocialPromotion.Model.XUsage

/-!
# How an X request is billed

Each program of the X adapter has at most one exchange with X, between a reservation in the ledger
and the settlement of it.

* `Billing`: the four forms that the exchanges with the ledger and with X can have;
* `billed_threads`: every program of every operation has one of them, whatever the replies.
-/

namespace SocialPromotion

open Program

/-- Neither a request to a provider nor a statement on the ledger. -/
def Request.IsQuiet : Request → Prop
  | .fetch _ | .reserve _ | .settle _ _ _ => False
  | _ => True

namespace FetchXHttpClient

/-- What `request` makes of the answer. -/
def received (answer : FetchAnswer) : Except ThrownError ClientResponse := do
  let response ← okResponse "X" answer
  let body ← jsonBody true response
  return { status := response.status, headers := response.headers, body }

end FetchXHttpClient

open FetchXHttpClient

/-- The body of an answer with which the HTTP request resolves. -/
def resolvedBody (answer : FetchAnswer) : Option Json :=
  (received answer).toOption.map ClientResponse.body

/-- The text of a post that a request creates. -/
def postedText (request : HttpRequest) : Text :=
  match request.payload with
  | .json members =>
    match Json.member "text" members with
    | some (.string text) => text
    | _ => []
  | _ => []

/-- The operation of the price list that a request to X is. -/
def xOperation (request : HttpRequest) : XUsageOperation :=
  match request.method with
  | .get => .postRead
  | .delete => .postDelete
  | .post =>
    if request.url.path = ["2".toList, "media".toList, "upload".toList] then .mediaUpload
    else if XAdapter.containsUrl (postedText request) then .postCreateWithUrl
    else .postCreate

/-- How a request is settled once it is answered. -/
def settledAs (answer : FetchAnswer) : XUsageOutcome × Option Text :=
  match received answer with
  | .error _ => (.failed, none)
  | .ok response =>
    match XAdapter.data response.body with
    | .error _ => (.failed, none)
    | .ok members => (.succeeded, Json.nonEmptyString (Json.member "id" members))

/-- What a program of an operation exchanges with the ledger and with X. -/
inductive Billing (s : Surroundings) (operation : XOperation) : List (Request × Reply) → Prop
  | unbilled : Billing s operation []
  | unreserved {reservation : XUsageReservation} {reply : Reply}
      (hNone : ∀ id, PgXUsageLedger.reservationId reply.reserve ≠ .ok id) :
      Billing s operation [(.reserve reservation, reply)]
  | unattempted {reservation : XUsageReservation} {reply settlement : Reply} {id : Text}
      (hId : PgXUsageLedger.reservationId reply.reserve = .ok id)
      (hUrl : operation.hasUrl s = false) :
      Billing s operation [(.reserve reservation, reply), (.settle id .failed none, settlement)]
  | attempted {reservation : XUsageReservation} {request : HttpRequest}
      {reply answer settlement : Reply} {id : Text}
      (hId : PgXUsageLedger.reservationId reply.reserve = .ok id)
      (hUrl : operation.hasUrl s = true) (hOperation : xOperation request = reservation.operation) :
      Billing s operation [(.reserve reservation, reply), (.fetch request, answer),
        (.settle id (settledAs answer.http).1 (settledAs answer.http).2, settlement)]

/-- The billing of a program, among exchanges that are quiet. -/
def Billed (s : Surroundings) (operation : XOperation) (exchanges : List (Request × Reply)) :
    Prop :=
  ∃ before core after, exchanges = before ++ core ++ after ∧ (∀ x ∈ before, x.1.IsQuiet) ∧
    (∀ x ∈ after, x.1.IsQuiet) ∧ Billing s operation core

/-- A program that is billed so, whatever the replies. -/
def Bills (s : Surroundings) (operation : XOperation) {α : Type} (p : Promise α) : Prop :=
  ∀ replies n, Billed s operation (p.run replies n).exchanges

section Rules

variable {s : Surroundings} {o : XOperation} {α β : Type} {p : Promise α} {f : α → Promise β}

theorem Billed.of_billing {core : List (Request × Reply)} (h : Billing s o core) :
    Billed s o core :=
  ⟨[], core, [], by simp, by simp, by simp, h⟩

theorem Billed.prepend {before exchanges : List (Request × Reply)} (h : Billed s o exchanges)
    (hQuiet : ∀ x ∈ before, x.1.IsQuiet) : Billed s o (before ++ exchanges) := by
  obtain ⟨first, core, after, rfl, hFirst, hAfter, hCore⟩ := h
  refine ⟨before ++ first, core, after, by simp only [List.append_assoc], ?_, hAfter, hCore⟩
  intro x hMem
  exact (List.mem_append.mp hMem).elim (hQuiet x) (hFirst x)

theorem Billed.append {exchanges after : List (Request × Reply)} (h : Billed s o exchanges)
    (hQuiet : ∀ x ∈ after, x.1.IsQuiet) : Billed s o (exchanges ++ after) := by
  obtain ⟨before, core, last, rfl, hBefore, hLast, hCore⟩ := h
  refine ⟨before, core, last ++ after, by simp only [List.append_assoc], hBefore, ?_, hCore⟩
  intro x hMem
  exact (List.mem_append.mp hMem).elim (hLast x) (hQuiet x)

/-- A program that is quiet all along. -/
theorem Bills.of_quiet (h : p.Asks Request.IsQuiet) : Bills s o p := by
  intro replies n
  have hEmpty : Billed s o [] := .of_billing .unbilled
  exact hEmpty.append fun x hMem => h.exchanges hMem

theorem Bills.after (h : p.Asks Request.IsQuiet) (hNext : ∀ a, Bills s o (f a)) :
    Bills s o (p >>= f) := by
  intro replies n
  cases hResult : (p.run replies n).result with
  | error e =>
    rw [run_bind_error hResult]
    exact Bills.of_quiet h replies n
  | ok a =>
    rw [run_bind_ok hResult]
    exact (hNext a _ _).prepend fun x hMem => h.exchanges hMem

theorem Bills.before (h : Bills s o p) (hNext : ∀ a, (f a).Asks Request.IsQuiet) :
    Bills s o (p >>= f) := by
  intro replies n
  cases hResult : (p.run replies n).result with
  | error e =>
    rw [run_bind_error hResult]
    exact h replies n
  | ok a =>
    rw [run_bind_ok hResult]
    exact (h replies n).append fun x hMem => (hNext a).exchanges hMem

end Rules

/-! ## The quiet parts -/

section Quiet

variable {s : Surroundings} {α : Type}

theorem quiet_lift (result : Except ThrownError α) :
    (liftM result : Promise α).Asks Request.IsQuiet :=
  Asks.ofExcept result

theorem quiet_newDate : newDate.Asks Request.IsQuiet := (Asks.ask trivial).bind fun _ => trivial

theorem quiet_credential (scopes : PublishingCredential → List String) (missing : String → String)
    (account : AccountId) :
    (writeCredential XCredentialService s scopes missing account).Asks Request.IsQuiet := by
  refine Asks.bind ?_ fun credential => (quiet_lift _).bind fun _ => trivial
  refine Asks.bind ((quiet_lift _).bind fun _ => (Asks.ask trivial).bind fun _ => quiet_lift _)
    fun account => ?_
  cases account with
  | none => trivial
  | some account => exact quiet_newDate.bind fun _ => quiet_lift _

theorem quiet_read (media : PostMedia) : (FetchXMediaSource.read s media).Asks Request.IsQuiet :=
  (quiet_lift _).bind fun _ => (quiet_lift _).bind fun _ => (Asks.ask trivial).bind fun _ =>
    quiet_lift _

end Quiet

/-! ## One billed request -/

/-- A request either has no URL, or it is sent. -/
def HasRequest (s : Surroundings) (o : XOperation) (operation : XUsageOperation)
    (request : Promise ClientResponse) : Prop :=
  (o.hasUrl s = false ∧ ∃ error, request = .throw error) ∨
    (o.hasUrl s = true ∧ ∃ input, xOperation input = operation ∧
      request = .call (.fetch input) fun reply => .ofExcept (received reply.http))

section Request

variable {s : Surroundings} {o : XOperation} {operation : XUsageOperation}
  {request : Promise ClientResponse} {input : HttpRequest}

theorem request_eq (h : input.method = .get → (s.cfg.parseUrl input.url.text).isSome) :
    FetchXHttpClient.request s input =
      .call (.fetch input) fun reply => .ofExcept (received reply.http) := by
  have hUrl : withQuery s "X API URL is invalid." input = .ok () := by
    unfold withQuery
    rw [if_neg]
    rintro ⟨hGet, hNone⟩
    have hSome := h hGet
    rw [hNone] at hSome
    cases hSome
  unfold FetchXHttpClient.request requestJson
  rw [hUrl]
  show Program.call _ _ = _
  congr 1
  funext reply
  unfold received
  show (Program.ofExcept (okResponse "X" reply.http)).bind _ = _
  cases okResponse "X" reply.http with
  | error error => rfl
  | ok response =>
    show (Program.ofExcept (jsonBody true response)).bind _ =
      .ofExcept ((jsonBody true response).bind _)
    cases jsonBody true response <;> rfl

/-- The URL of a GET does not parse. -/
theorem request_throws (hGet : input.method = .get)
    (hNone : s.cfg.parseUrl input.url.text = none) :
    ∃ error, FetchXHttpClient.request s input = .throw error := by
  refine ⟨.serviceUnavailable "X API URL is invalid.", ?_⟩
  unfold FetchXHttpClient.request requestJson withQuery
  rw [if_pos ⟨hGet, hNone⟩]
  rfl

theorem settle_eq (hDatabase : (s.setting "DATABASE_URL").isSome) (id : Text)
    (outcome : XUsageOutcome) (reference : Option Text) :
    XAdapter.settleWithoutBreakingPublication s id outcome reference =
      .call (.settle id outcome reference) fun _ => .pure () := by
  unfold XAdapter.settleWithoutBreakingPublication PgXUsageLedger.settle
    PgXUsageLedger.requireDatabase require
  rw [if_pos hDatabase]
  show Program.call _ _ = _
  congr 1
  funext reply
  show (Program.ofExcept (reply.settle.mapError PlainError.toThrown)).catching _ = _
  cases reply.settle <;> rfl

/-- The request and the settlement of it. -/
theorem billed_attempt (hDatabase : (s.setting "DATABASE_URL").isSome) (h : HasRequest s o operation request)
    (reservation : XUsageReservation) (hOperation : reservation.operation = operation)
    {reply : Reply} {id : Text} (hId : PgXUsageLedger.reservationId reply.reserve = .ok id)
    (replies : Nat → Reply) (n : Nat) :
    Billing s o ((.reserve reservation, reply) :: ((Program.catching
      (do
        let response ← request
        let members ← XAdapter.data response.body
        XAdapter.settleWithoutBreakingPublication s id .succeeded
          (Json.nonEmptyString (Json.member "id" members))
        return response)
      fun error => do
        XAdapter.settleWithoutBreakingPublication s id .failed none
        Program.throw error : Promise ClientResponse).run replies n).exchanges) := by
  simp only [settle_eq hDatabase]
  rcases h with ⟨hUrl, error, rfl⟩ | ⟨hUrl, input, hInput, rfl⟩
  · exact .unattempted hId hUrl
  · have hAttempted : ∀ settlement : Reply, Billing s o [(.reserve reservation, reply),
        (.fetch input, replies n), (.settle id (settledAs (replies n).http).1
          (settledAs (replies n).http).2, settlement)] :=
      fun _ => .attempted hId hUrl (hInput.trans hOperation.symm)
    have hSettled := hAttempted (replies (n + 1))
    unfold settledAs at hSettled
    -- the attempt goes on with what it received, and with its data
    show Billing s o ((.reserve reservation, reply) :: (.fetch input, replies n) ::
      ((Program.catching ((Program.ofExcept (received (replies n).http)).bind _) _).run replies
        (n + 1)).exchanges)
    cases hReceived : received (replies n).http with
    | error error =>
      simp only [hReceived] at hSettled
      exact hSettled
    | ok response =>
      simp only [hReceived] at hSettled
      show Billing s o ((.reserve reservation, reply) :: (.fetch input, replies n) ::
        ((Program.catching ((Program.ofExcept (XAdapter.data response.body)).bind _) _).run replies
          (n + 1)).exchanges)
      cases hData : XAdapter.data response.body with
      | error error =>
        simp only [hData] at hSettled
        exact hSettled
      | ok members =>
        simp only [hData] at hSettled
        exact hSettled

/-- **One billed request.** -/
theorem bills_billed (credential : PublishingCredential) (h : HasRequest s o operation request) :
    Bills s o (XAdapter.billed s credential operation request) := by
  unfold XAdapter.billed
  refine Bills.after (quiet_lift _) fun quote replies n => ?_
  unfold PgXUsageLedger.reserve PgXUsageLedger.requireDatabase require
  by_cases hDatabase : (s.setting "DATABASE_URL").isSome = true
  · rw [if_pos hDatabase]
    refine .of_billing ?_
    cases hId : PgXUsageLedger.reservationId (replies n).reserve with
    | error error =>
      have hRun : Billing s o [(.reserve ⟨credential.socialAccountId, operation,
          quote.estimatedCostMicrousd, quote.pricingVersion⟩, replies n)] :=
        .unreserved fun id hSome => by rw [hId] at hSome; cases hSome
      show Billing s o (_ :: ((Program.ofExcept (PgXUsageLedger.reservationId
        (replies n).reserve)).bind _ |>.run replies (n + 1)).exchanges)
      rw [hId]
      exact hRun
    | ok id =>
      show Billing s o (_ :: ((Program.ofExcept (PgXUsageLedger.reservationId
        (replies n).reserve)).bind _ |>.run replies (n + 1)).exchanges)
      rw [hId]
      exact billed_attempt hDatabase h ⟨_, operation, _, _⟩ rfl hId replies (n + 1)
  · rw [if_neg hDatabase]
    exact .of_billing .unbilled

/-- A request to a URL under `X_API_BASE_URL` that is no GET. -/
theorem hasRequest_base {request : Text → HttpRequest}
    (hHas : o.hasUrl s = (configuredUrl s "X_API_BASE_URL").isOk)
    (hMethod : ∀ base, (request base).method ≠ .get)
    (hOperation : ∀ base, xOperation (request base) = operation) :
    HasRequest s o operation (do
      let base ← configuredUrl s "X_API_BASE_URL"
      FetchXHttpClient.request s (request base)) := by
  unfold HasRequest
  rw [hHas]
  cases configuredUrl s "X_API_BASE_URL" with
  | error error => exact .inl ⟨rfl, error, rfl⟩
  | ok base =>
    refine .inr ⟨rfl, request base, hOperation base, ?_⟩
    exact request_eq fun hGet => absurd hGet (hMethod base)

end Request

/-! ## The operations -/

section Operations

variable {s : Surroundings} {o : XOperation}

theorem bills_uploadMedia (hHas : o.hasUrl s = (configuredUrl s "X_API_BASE_URL").isOk)
    (account : AccountId) (media : PostMedia) :
    Bills s o (XAdapter.uploadMedia s account media) := by
  refine Bills.after (quiet_credential ..) fun credential => ?_
  refine Bills.after (quiet_read media) fun base64 => ?_
  refine Bills.before (bills_billed credential ?_) fun response => quiet_lift _
  exact hasRequest_base hHas (fun _ => nofun) fun _ => rfl

theorem bills_createPost (hHas : o.hasUrl s = (configuredUrl s "X_API_BASE_URL").isOk)
    (account : AccountId) (text : Text) (mediaIds : List Text) :
    Bills s o (XAdapter.createPost s account text mediaIds) := by
  refine Bills.after (quiet_credential ..) fun credential => ?_
  refine Bills.before (bills_billed credential ?_) fun response => ?_
  · exact hasRequest_base hHas (fun _ => nofun) fun _ => rfl
  · refine (quiet_lift _).bind fun members => ?_
    split
    · exact quiet_newDate.bind fun _ => trivial
    · trivial

theorem bills_publishText (hHas : o.hasUrl s = (configuredUrl s "X_API_BASE_URL").isOk)
    (account : AccountId) (text : Text) : Bills s o (XAdapter.publishText s account text) :=
  Bills.after (quiet_lift _) fun _ => bills_createPost hHas account text []

theorem bills_deletePost (remotePostId : Text) (account : AccountId) :
    Bills s (.deletePost remotePostId account) (XAdapter.deletePost s remotePostId account) := by
  refine Bills.after (quiet_credential ..) fun credential => ?_
  refine Bills.before (bills_billed credential ?_) fun response => ?_
  · exact hasRequest_base rfl (fun _ => nofun) fun _ => rfl
  · refine (quiet_lift _).bind fun members => ?_
    split <;> trivial

theorem bills_getPost (remotePostId : Text) (account : AccountId) :
    Bills s (.getPost remotePostId account) (XAdapter.getPost s remotePostId account) := by
  refine Bills.after (quiet_credential ..) fun credential => ?_
  refine Bills.before (bills_billed credential ?_) fun response => ?_
  · unfold HasRequest XOperation.hasUrl
    dsimp only
    cases configuredUrl s "X_API_BASE_URL" with
    | error error => exact .inl ⟨rfl, error, rfl⟩
    | ok base =>
      cases hUrl : s.cfg.parseUrl (XAdapter.postUrl base remotePostId).text with
      | none =>
        obtain ⟨error, hThrows⟩ : ∃ error, FetchXHttpClient.request s ⟨.x, .get,
            XAdapter.postUrl base remotePostId, credential.accessToken,
            .parameters [("tweet.fields", "id,text".toList)]⟩ = .throw error :=
          request_throws rfl hUrl
        exact .inl ⟨by simp only [hUrl, Option.isSome_none], error, hThrows⟩
      | some url =>
        refine .inr ⟨by simp only [hUrl, Option.isSome_some], _, rfl, request_eq fun _ => ?_⟩
        rw [hUrl]
        rfl
  · exact (quiet_lift _).bind fun members => trivial

theorem bills_getAnalytics (remotePostId : Text) (account : AccountId) :
    Bills s (.getAnalytics remotePostId account)
      (XAdapter.getAnalytics s remotePostId account) := by
  refine Bills.after (quiet_credential ..) fun credential => ?_
  cases hTemplate : s.setting "X_ANALYTICS_URL" with
  | none => exact Bills.of_quiet trivial
  | some template =>
    refine Bills.before (bills_billed credential ?_) fun response => ?_
    · have hHas : (XOperation.getAnalytics remotePostId account).hasUrl s =
          (s.setting "X_ANALYTICS_URL").all fun template =>
            (s.cfg.parseUrl (XAdapter.analyticsUrl template remotePostId).text).isSome := rfl
      unfold HasRequest
      rw [hHas, hTemplate, Option.all_some]
      cases hUrl : s.cfg.parseUrl (XAdapter.analyticsUrl template remotePostId).text with
      | none => exact .inl ⟨rfl, request_throws rfl hUrl⟩
      | some url =>
        refine .inr ⟨rfl, _, rfl, request_eq fun _ => ?_⟩
        rw [hUrl]
        rfl
    · exact (quiet_lift _).bind fun metrics => quiet_newDate.bind fun _ => quiet_lift _

/-- Programs side by side are billed one by one. -/
theorem billed_all {replies : Replies Reply} {tasks : List (Promise Text)}
    {next : List Text → Promise PublishResult} (hTasks : ∀ task ∈ tasks, Bills s o task)
    (hNext : ∀ values, Bills s o (next values)) {exchanges : List (Request × Reply)}
    (hMem : exchanges ∈ (Process.all tasks next).threads replies) : Billed s o exchanges := by
  unfold Process.threads at hMem
  rcases List.mem_append.mp hMem with hTask | hRest
  · obtain ⟨conversation, hConversation, rfl⟩ := List.mem_map.mp hTask
    obtain ⟨i, task, hIs, rfl⟩ := Process.mem_runTasks hConversation
    exact hTasks task (List.mem_of_getElem? hIs) _ _
  · split at hRest
    · cases hRest
    · rw [List.mem_singleton] at hRest
      exact hRest ▸ hNext _ _ _

theorem billed_publishMedia (hHas : o.hasUrl s = (configuredUrl s "X_API_BASE_URL").isOk)
    {replies : Replies Reply} {account : AccountId} {text : Text} {media : List PostMedia}
    {exchanges : List (Request × Reply)}
    (hMem : exchanges ∈ (XAdapter.publishMedia s account text media).threads replies) :
    Billed s o exchanges := by
  unfold XAdapter.publishMedia at hMem
  have hEmpty : Billed s o [] := .of_billing .unbilled
  split at hMem
  · exact List.mem_singleton.mp hMem ▸ hEmpty
  split at hMem
  · exact List.mem_singleton.mp hMem ▸ hEmpty
  refine billed_all (fun task hTask => ?_) (fun mediaIds => ?_) hMem
  · obtain ⟨file, -, rfl⟩ := List.mem_map.mp hTask
    exact bills_uploadMedia hHas account file
  · exact bills_createPost hHas account text mediaIds

/-- **Every program of every operation** is billed, whatever the replies. -/
theorem billed_threads {replies : Replies Reply} {exchanges : List (Request × Reply)}
    (hMem : exchanges ∈ o.threads s replies) : Billed s o exchanges := by
  have hEmpty : Billed s o [] := .of_billing .unbilled
  cases o with
  | publish post =>
    have hMem : exchanges ∈ (XAdapter.publish s post).threads replies := hMem
    unfold XAdapter.publish at hMem
    split at hMem
    · exact List.mem_singleton.mp hMem ▸ hEmpty
    split at hMem
    · exact List.mem_singleton.mp hMem ▸ hEmpty
    split at hMem
    · exact List.mem_singleton.mp hMem ▸ bills_publishText rfl _ _ _ _
    · exact billed_publishMedia rfl hMem
  | publishText account text =>
    exact List.mem_singleton.mp hMem ▸ bills_publishText rfl account text _ _
  | publishMedia account text media => exact billed_publishMedia rfl hMem
  | uploadMedia account media =>
    exact List.mem_singleton.mp hMem ▸ bills_uploadMedia rfl account media _ _
  | deletePost id account =>
    exact List.mem_singleton.mp hMem ▸ bills_deletePost id account _ _
  | getPost id account => exact List.mem_singleton.mp hMem ▸ bills_getPost id account _ _
  | getAnalytics id account =>
    exact List.mem_singleton.mp hMem ▸ bills_getAnalytics id account _ _

end Operations

end SocialPromotion
