import SocialPromotion.Lib.Transition
import SocialPromotion.Model.Dispatch
import SocialPromotion.Model.Worker

/-!
# The publishing system

Everything that runs at once: the API operations on posts, the outbox dispatchers, BullMQ,
the publish workers and the alert dispatchers, over one database. A step is one atomic
action of one of them, so the runs of this system are the interleavings of any number of
parties.

`calls` and `lookups` record what the providers were asked, for the statements about them;
no step reads a finished entry.
-/

namespace SocialPromotion

open PublishWorkerProcessor (Worker)

/-- One call of `adapter.publish`, with its answer once it has returned. -/
structure PublishCall where
  worker : Nat
  jobId : JobId
  post : SocialPost
  request : PublishRequest
  answer : Option (Except ThrownError PublishResult)

/-- One lookup by `reconcile`, with what came of it. -/
structure LookupCall where
  worker : Nat
  jobId : JobId
  platform : SocialPlatform
  lookup : Lookup
  reconciliation : PublishReconciliation

/-- A call of `PostService.preview`, which reads through `findOwned`. -/
structure PreviewRun where
  ownerId : UserId
  postId : PostId
  reading : PgPostRepository.Reading

structure PublishingState where
  db : Database
  /-- The value of `now()`. -/
  clock : Time
  queue : List QueuedJob
  workers : List Worker
  dispatchers : List PublishingQueue.State
  alertDispatchers : List FailureAlertService.State
  previews : List PreviewRun
  calls : List PublishCall
  lookups : List LookupCall

namespace PublishingState

def setWorker (s : PublishingState) (i : Nat) (w : Worker) (state : PublishWorkerProcessor.State) :
    PublishingState :=
  { s with workers := s.workers.set i { w with state := state } }

def setDelivery (s : PublishingState) (q : Nat) (job : QueuedJob) (state : DeliveryState) :
    PublishingState :=
  { s with queue := s.queue.set q { job with state := state } }

/-- The state before anything was posted. -/
def Initial (s : PublishingState) : Prop :=
  (∃ campaigns accounts, s.db = Database.empty campaigns accounts) ∧ s.queue = [] ∧
    s.workers = [] ∧ s.dispatchers = [] ∧ s.alertDispatchers = [] ∧ s.previews = [] ∧
    s.calls = [] ∧ s.lookups = []

end PublishingState

/-! ## Operations of the API -/

inductive UserOperation
  | create (ownerId : UserId) (dto : CreatePostDto)
  | update (ownerId : UserId) (id : PostId) (dto : UpdateDraftDto)
  | schedule (ownerId : UserId) (id : PostId) (scheduledAt : Option Time)
      (approvedRevision : Nat) (date : Time)
  | publishNow (ownerId : UserId) (id : PostId) (revision : Nat) (date date' : Time)
  | cancel (ownerId : UserId) (id : PostId) (revision : Nat)
  | retry (ownerId : UserId) (id : PostId) (jobId : JobId) (revision : Nat) (date : Time)

def UserOperation.perform (cfg : Config) (now : Time) (db : Database) :
    UserOperation → Except ServiceError (PostRecord × Database)
  | .create ownerId dto => PostService.create cfg ownerId dto now db
  | .update ownerId id dto => PostService.update cfg ownerId id dto now db
  | .schedule ownerId id scheduledAt approvedRevision date =>
    PostService.schedule cfg ownerId id scheduledAt approvedRevision date now db
  | .publishNow ownerId id revision date date' =>
    PostService.publishNow cfg ownerId id revision date date' now db
  | .cancel ownerId id revision => PostService.cancel ownerId id revision now db
  | .retry ownerId id jobId revision date =>
    PostService.retry ownerId id jobId revision date now db

/-! ## Steps -/

inductive Event
  | tick (ms : Nat)
  /-- Other parts of the application change campaigns and connected accounts. -/
  | connect (campaigns : AList fun _ : CampaignId => UserId)
      (socialAccounts : AList fun _ : AccountId => SocialAccount)
  | user (operation : UserOperation)
  | preview (ownerId : UserId) (postId : PostId)
  | previewRead (i : Nat)
  /-- `process` is called, whoever calls it. -/
  | process (publishJobId : JobId) (leaseMs attempt : Nat) (queueJobId : Option QueueJobId)
  /-- A worker's call to the repository. -/
  | repository (i : Nat) (result : CallResult)
  /-- A worker's call of `reconcile`; `date` is `Date.now()` here and below. -/
  | reconcile (i : Nat) (answer : LookupAnswer) (date : Time)
  /-- A worker's call of `publish`, up to `adapter.publish`. -/
  | publish (i : Nat) (date : Time)
  | adapterReturns (i : Nat) (answer : Except ThrownError PublishResult) (date : Time)
  /-- A worker's process dies. -/
  | crash (i : Nat)
  | dispatch (limit leaseMs : Nat)
  | dispatcher (i : Nat) (result : CallResult) (date : Time) (locked : List JobId)
  | dispatchAlerts (limit : Int)
  | alertDispatcher (i : Nat) (result : CallResult) (locked : List JobId)
  /-- BullMQ hands a job to a processor, takes its result, takes the job back where the lock of
  the processor has lapsed, and forgets a finished job. A job that it has taken back too often is
  not handed out `again`. -/
  | take (q : Nat) (leaseMs : Nat) (date : Time)
  | settle (q : Nat) (date : Time)
  | stalled (q : Nat) (again : Bool)
  | remove (q : Nat)

/-- What BullMQ makes of the end of a processor. -/
def QueuedJob.settled (job : QueuedJob) (date : Time) :
    PublishWorkerProcessor.Outcome → QueuedJob
  | .resolved _ | .jobTerminal _ _ => { job with state := .finished }
  | .jobFailed _ _ | .raised =>
    let attemptsMade := job.attemptsMade + 1
    if attemptsMade < job.attempts then
      { job with
        attemptsMade := attemptsMade
        availableAt := date + (retryDelayForBullMq attemptsMade).toOption.getD 0
        state := .waiting }
    else { job with attemptsMade := attemptsMade, state := .finished }

namespace PublishingState

variable (cfg : Config)

/-- A worker's repository call; where it throws, the execution ends. -/
def repositoryStep (s : PublishingState) (i : Nat) (result : CallResult) : Option PublishingState :=
  match s.workers[i]? with
  | some w =>
    match w.state with
    | .running call =>
      (PublishWorkerProcessor.repositoryCall w s.clock s.db call).map fun (state, db) =>
        { s.setWorker i w (if result = .returned then state else .ended .raised) with
          db := result.leaves s.db db }
    | _ => none
  | none => none

/-- The entry of a lookup, where `reconcile` makes one. -/
def lookupCall (cfg : Config) (i : Nat) (claimed : ClaimedPublishJob) (job : SocialPublishJob)
    (answer : LookupAnswer) (date : Time) : List LookupCall :=
  match PublishingService.lookupFor cfg claimed.post job,
    PublishingService.reconcile cfg claimed.post job answer date with
  | .ok (some lookup), .ok reconciliation => [⟨i, job.id, job.platform, lookup, reconciliation⟩]
  | _, _ => []

def reconcileStep (s : PublishingState) (i : Nat) (answer : LookupAnswer) (date : Time) :
    Option PublishingState :=
  match s.workers[i]? with
  | some w =>
    match w.state with
    | .running (.reconcileFirst claimed key) =>
      some { s.setWorker i w (PublishWorkerProcessor.afterReconcileFirst cfg claimed key date
          (PublishingService.reconcile cfg claimed.post claimed.job answer date)) with
        lookups := s.lookups ++ lookupCall cfg i claimed claimed.job answer date }
    | .running (.reconcileAfter claimed job failed) =>
      some { s.setWorker i w (PublishWorkerProcessor.afterReconcileAfter claimed job failed date
          (PublishingService.reconcile cfg claimed.post job answer date)) with
        lookups := s.lookups ++ lookupCall cfg i claimed job answer date }
    | _ => none
  | none => none

def publishStep (s : PublishingState) (i : Nat) (date : Time) : Option PublishingState :=
  match s.workers[i]? with
  | some w =>
    match w.state with
    | .running (.publish claimed job) =>
      match PublishingService.publishStart cfg claimed.post job with
      | .settled execution =>
        some (s.setWorker i w (PublishWorkerProcessor.afterPublish claimed job date execution))
      | .call post request =>
        some { s.setWorker i w (.running (.adapterPublish claimed job s.calls.length)) with
          calls := s.calls ++ [⟨i, job.id, post, request, none⟩] }
    | _ => none
  | none => none

def adapterReturnsStep (s : PublishingState) (i : Nat) (answer : Except ThrownError PublishResult)
    (date : Time) : Option PublishingState :=
  match s.workers[i]? with
  | some w =>
    match w.state with
    | .running (.adapterPublish claimed job n) =>
      some { s.setWorker i w (PublishWorkerProcessor.afterPublish claimed job date
          (PublishingService.publishFinish job answer)) with
        calls := s.calls.modify n fun call => { call with answer := some answer } }
    | _ => none
  | none => none

def crashStep (s : PublishingState) (i : Nat) : Option PublishingState :=
  match s.workers[i]? with
  | some w =>
    match w.state with
    | .running call => some (s.setWorker i w (.crashed call))
    | _ => none
  | none => none

def dispatcherStep (s : PublishingState) (i : Nat) (result : CallResult) (date : Time)
    (locked : List JobId) : Option PublishingState :=
  match s.dispatchers[i]? with
  | some state =>
    (PublishingQueue.step result s.clock date locked s.db s.queue state).map
      fun (state, db, queue) => { s with
        dispatchers := s.dispatchers.set i state
        db := db
        queue := queue }
  | none => none

def alertStep (s : PublishingState) (i : Nat) (result : CallResult) (locked : List JobId) :
    Option PublishingState :=
  match s.alertDispatchers[i]? with
  | some state =>
    (FailureAlertService.step result s.clock locked s.db state).map fun (state, db) =>
      { s with alertDispatchers := s.alertDispatchers.set i state, db := db }
  | none => none

def previewReadStep (s : PublishingState) (i : Nat) : Option PublishingState :=
  match s.previews[i]? with
  | some p =>
    (PgPostRepository.findOwned s.db p.postId p.ownerId p.reading).map fun reading =>
      { s with previews := s.previews.set i { p with reading := reading } }
  | none => none

def takeStep (s : PublishingState) (q leaseMs : Nat) (date : Time) : Option PublishingState :=
  match s.queue[q]? with
  | some job =>
    if job.state = .waiting ∧ job.availableAt ≤ date then
      some { s.setDelivery q job (.active s.workers.length) with
        workers := s.workers ++
          [⟨job.data.publishJobId, leaseMs, job.attemptsMade + 1, some job.jobId,
            .running .claimPublishJob⟩] }
    else none
  | none => none

/-- The state of the worker that processes a job. -/
def processorOf (s : PublishingState) (job : QueuedJob) : Option PublishWorkerProcessor.State :=
  match job.state with
  | .active i => s.workers[i]?.map Worker.state
  | _ => none

def settleStep (s : PublishingState) (q : Nat) (date : Time) : Option PublishingState :=
  match s.queue[q]? with
  | some job =>
    match s.processorOf job with
    | some (.ended outcome) => some { s with queue := s.queue.set q (job.settled date outcome) }
    | _ => none
  | none => none

/-- The processor may have died, or be at work still: BullMQ knows of its lock only. -/
def stalledStep (s : PublishingState) (q : Nat) (again : Bool) : Option PublishingState :=
  match s.queue[q]? with
  | some job =>
    match s.processorOf job with
    | some _ => some (s.setDelivery q job (if again then .waiting else .finished))
    | none => none
  | none => none

def removeStep (s : PublishingState) (q : Nat) : Option PublishingState :=
  match s.queue[q]? with
  | some job => if job.state = .finished then some (s.setDelivery q job .removed) else none
  | none => none

/-- An operation that throws rolls its transaction back. -/
def userStep (s : PublishingState) (operation : UserOperation) : PublishingState :=
  match operation.perform cfg s.clock s.db with
  | .ok (_, db) => { s with db := db }
  | .error _ => s

def step (s : PublishingState) : Event → Option PublishingState
  | .tick ms => some { s with clock := s.clock + ms }
  | .connect campaigns socialAccounts =>
    some { s with db := { s.db with campaigns := campaigns, socialAccounts := socialAccounts } }
  | .user operation => some (userStep cfg s operation)
  | .preview ownerId postId =>
    some { s with previews := s.previews ++ [⟨ownerId, postId, .selectPost⟩] }
  | .previewRead i => s.previewReadStep i
  | .process publishJobId leaseMs attempt queueJobId =>
    some { s with workers := s.workers ++
      [⟨publishJobId, leaseMs, attempt, queueJobId, .running .claimPublishJob⟩] }
  | .repository i result => s.repositoryStep i result
  | .reconcile i answer date => reconcileStep cfg s i answer date
  | .publish i date => publishStep cfg s i date
  | .adapterReturns i answer date => s.adapterReturnsStep i answer date
  | .crash i => s.crashStep i
  | .dispatch limit leaseMs =>
    some { s with dispatchers := s.dispatchers ++ [PublishingQueue.dispatchPending limit leaseMs] }
  | .dispatcher i result date locked => s.dispatcherStep i result date locked
  | .dispatchAlerts limit =>
    some { s with
      alertDispatchers := s.alertDispatchers ++ [FailureAlertService.dispatchPending limit] }
  | .alertDispatcher i result locked => s.alertStep i result locked
  | .take q leaseMs date => s.takeStep q leaseMs date
  | .settle q date => s.settleStep q date
  | .stalled q again => s.stalledStep q again
  | .remove q => s.removeStep q

end PublishingState

/-- The publishing system of an application with configuration `cfg`. -/
def publishingSystem (cfg : Config) : LTS.System PublishingState Event where
  Initial := PublishingState.Initial
  step := PublishingState.step cfg

end SocialPromotion
