import MonitorOperator.Proofs.Registry.DockerEntries
import MonitorOperator.Proofs.Registry.Session

/-!
# Lookups with an empty username and password

An entry of a docker config that carries no credentials is read as an empty username and password
(`Credentials.emptyAuth`), and a lookup with these is not one without credentials. `Alongside` puts
two lookups side by side, one without credentials and one with the empty ones: both make the same
requests until a challenge, and part there, or go on with a token that one of them was asked for
with an authorization. Getting a place goes by these rules (`get_alongside`), and so does a whole
lookup (`lookup_alongside`).
-/

namespace MonitorOperator.Registry

open Http (Request Response Url)

/-- The authorization by an empty username and an empty password. -/
def emptyAuthorization : String := Http.basicAuthorization "" ""

namespace Repository

/-- The repository as one sees it with an empty username and password. -/
def emptied (repository : Repository) : Repository :=
  { repository with auth := some Credentials.emptyAuth }

end Repository

/-- How far a lookup without credentials is with the challenge of the registry. -/
inductive Stage where
  /-- There was none. -/
  | free
  /-- The request was challenged. -/
  | challenged (request : Request) (challenge : Challenge)
  /-- The challenge was answered. -/
  | answered

namespace Stage

/-- The stage after a request that was made without authorization. -/
def after (request : Request) : Except Fault Response → Stage
  | .ok response =>
      if response.status = 401 then
        .challenged request (.read (response.header "WWW-Authenticate"))
      else .free
  | .error _ => .free

/-- The stage of a lookup with an authorization, or with none yet. -/
def of (authorization : Option String) : Stage :=
  if authorization.isSome then .answered else .free

/-- No challenge is left unanswered. -/
def Settled (stage : Stage) : Prop :=
  ∃ authorization, stage = .of authorization

/-- Before a challenge, none is left unanswered. -/
theorem settled_free : free.Settled := ⟨none, rfl⟩

/-- After an answer, no challenge is left unanswered. -/
theorem settled_answered : answered.Settled := ⟨some "", rfl⟩

/-- A username and password are wanted. -/
def WantsUser (stage : Stage) : Prop :=
  ∃ request, stage = .challenged request .basic

/-- A challenge that was not answered is left. -/
theorem not_settled_challenged {request : Request} {challenge : Challenge} :
    ¬ (Stage.challenged request challenge).Settled := by
  rintro ⟨_ | value, hstage⟩ <;> cases hstage

/-- Other challenges want no username and password. -/
theorem not_wantsUser_challenged {request : Request} {challenge : Challenge}
    (h : challenge ≠ .basic) : ¬ (Stage.challenged request challenge).WantsUser := by
  rintro ⟨_, hstage⟩
  cases hstage
  exact h rfl

/-- Where no challenge is left, no username and password are wanted. -/
theorem Settled.not_wantsUser {stage : Stage} (h : stage.Settled) : ¬ stage.WantsUser := by
  rintro ⟨request, rfl⟩
  exact not_settled_challenged h

end Stage

/-- A place was got at a stage. -/
def GotAt (found : Response × Option String) (stage : Stage) : Prop :=
  stage = .of found.2

/-- `Alongside about ends stage left right` compares what is left to do of a lookup without
credentials, in a repository that it is about, and of one with an empty username and password. Both
make the same requests and have the same results, which are of those that end at the stage, but for
the answer to a challenge. -/
inductive Alongside {α : Type} (about : Repository → Prop) (ends : α → Stage → Prop) :
    Stage → Process registry (Except Fault α) → Process registry (Except Fault α) → Prop where
  | done {stage : Stage} {result : Except Fault α} :
      (∀ value, result = .ok value → ends value stage) → ¬ stage.WantsUser →
      Alongside about ends stage (.done result) (.done result)
  | log {stage : Stage} {event : LogEvent} {left right : Unit → Process registry (Except Fault α)} :
      Alongside about ends stage (left ()) (right ()) →
      Alongside about ends stage (.call (.log event) left) (.call (.log event) right)
  /-- Both ask without authorization. -/
  | asked {request : Request}
      {left right : Except Fault Response → Process registry (Except Fault α)} :
      (∀ reply, Alongside about ends (.after request reply) (left reply) (right reply)) →
      Alongside about ends .free (.call (.fetch request) left) (.call (.fetch request) right)
  /-- Both ask with the authorization that a token gives. -/
  | authorized {request : Request}
      {left right : Except Fault Response → Process registry (Except Fault α)} :
      (∀ reply, Alongside about ends .answered (left reply) (right reply)) →
      Alongside about ends .answered (.call (.fetch request) left)
        (.call (.fetch request) right)
  /-- Both ask for a token, one of them with the empty username and password. -/
  | token {repository : Repository} {challenged request : Request} {parameters : Parameters}
      {left right : Except Fault Response → Process registry (Except Fault α)} :
      about repository → repository.AsksToken parameters request →
      (∀ reply, Alongside about ends .answered (left reply) (right reply)) →
      Alongside about ends (.challenged challenged (.bearer parameters))
        (.call (.fetch request) left)
        (.call (.fetch { request with authorization := some emptyAuthorization }) right)
  /-- One lacks credentials; the other makes the request again, with the empty ones. -/
  | refused {repository : Repository} {request : Request}
      {right : Except Fault Response → Process registry (Except Fault α)} :
      about repository →
      Alongside about ends (.challenged request .basic)
        (.done (.error (.registry (.credentialsRequired repository.image.registry))))
        (.call (.fetch { request with authorization := some emptyAuthorization }) right)

/-- Parts of a lookup without credentials and of one with an empty username and password, side by
side. -/
abbrev TasksAlongside {α : Type} (about : Repository → Prop) (ends : α → Stage → Prop)
    (stage : Stage) (left right : Task registry α) : Prop :=
  Alongside about ends stage left.outcome right.outcome

namespace Alongside

variable {α β : Type} {about : Repository → Prop} {stage : Stage} {ends : α → Stage → Prop}

/-- What fails fails alongside. -/
theorem throw (hstage : ¬ stage.WantsUser) (fault : Fault) :
    TasksAlongside about ends stage (throw fault) (throw fault) :=
  .done nofun hstage

/-- What is done at a stage where it ends is done alongside. -/
theorem pure {value : α} (hstage : stage.Settled) (h : ends value stage) :
    TasksAlongside about ends stage (pure value) (pure value) :=
  .done (fun _ hvalue => Except.ok.inj hvalue ▸ h) hstage.not_wantsUser

/-- Parts that run alongside do so with what follows them, if faults are handed on in a form that
spares missing credentials. -/
theorem next {later : β → Stage → Prop} (change : Fault → Fault)
    {left right : Process registry (Except Fault α)}
    {leftRest rightRest : Except Fault α → Process registry (Except Fault β)}
    (h : Alongside about ends stage left right)
    (hrest : ∀ value stage, ends value stage → ¬ stage.WantsUser →
      Alongside about later stage (leftRest (.ok value)) (rightRest (.ok value)))
    (hleft : ∀ fault, leftRest (.error fault) = .done (.error (change fault)))
    (hright : ∀ fault, rightRest (.error fault) = .done (.error (change fault)))
    (hchange : ∀ host, change (.registry (.credentialsRequired host)) =
      .registry (.credentialsRequired host)) :
    Alongside about later stage (left.bind leftRest) (right.bind rightRest) := by
  induction h with
  | @done stage result hends hstage =>
      cases result with
      | ok value => exact hrest value stage (hends value rfl) hstage
      | error fault =>
          rw [Process.done_bind, Process.done_bind, hleft, hright]
          exact .done nofun hstage
  | log _ ih => exact .log ih
  | asked _ ih => exact .asked ih
  | authorized _ ih => exact .authorized ih
  | token habout hasks _ ih => exact .token habout hasks ih
  | refused habout =>
      rw [Process.done_bind, hleft, hchange]
      exact .refused habout

/-- Tasks that run alongside do so with what follows them. -/
theorem bind {later : β → Stage → Prop} {left right : Task registry α}
    {leftRest rightRest : α → Task registry β}
    (h : TasksAlongside about ends stage left right)
    (hrest : ∀ value stage, ends value stage →
      TasksAlongside about later stage (leftRest value) (rightRest value)) :
    TasksAlongside about later stage (left >>= leftRest) (right >>= rightRest) := by
  unfold TasksAlongside
  rw [Task.outcome_bind, Task.outcome_bind]
  exact h.next id (fun value stage hends _ => hrest value stage hends) (fun _ => rfl)
    (fun _ => rfl) fun _ => rfl

/-- Tasks that fetch a document without authorization run alongside if they do with each
response. -/
theorem asked_bind {request : Request} {left right : Response → Task registry α}
    (h : ∀ response,
      TasksAlongside about ends (.after request (.ok response)) (left response)
        (right response)) :
    TasksAlongside about ends .free (fetch request >>= left) (fetch request >>= right) := by
  unfold TasksAlongside
  rw [Task.outcome_bind, Task.outcome_bind]
  refine .asked fun reply => ?_
  cases reply with
  | ok response => exact h response
  | error fault => exact throw Stage.settled_free.not_wantsUser fault

/-- Tasks that fetch a document with an authorization run alongside if they do with each
response. -/
theorem authorized_bind {request : Request} {left right : Response → Task registry α}
    (h : ∀ response, TasksAlongside about ends .answered (left response) (right response)) :
    TasksAlongside about ends .answered (fetch request >>= left)
      (fetch request >>= right) := by
  unfold TasksAlongside
  rw [Task.outcome_bind, Task.outcome_bind]
  refine .authorized fun reply => ?_
  cases reply with
  | ok response => exact h response
  | error fault => exact throw Stage.settled_answered.not_wantsUser fault

/-- Tasks that fetch a token run alongside if they do with each response. -/
theorem token_bind {repository : Repository} {challenged request : Request}
    {parameters : Parameters} {left right : Response → Task registry α} (habout : about repository)
    (hasks : repository.AsksToken parameters request)
    (h : ∀ response, TasksAlongside about ends .answered (left response) (right response)) :
    TasksAlongside about ends (.challenged challenged (.bearer parameters))
      (fetch request >>= left)
      (fetch { request with authorization := some emptyAuthorization } >>= right) := by
  unfold TasksAlongside
  rw [Task.outcome_bind, Task.outcome_bind]
  refine .token habout hasks fun reply => ?_
  cases reply with
  | ok response => exact h response
  | error fault => exact throw Stage.settled_answered.not_wantsUser fault

/-- A change of the faults that spares missing credentials keeps tasks alongside. -/
theorem mapFault {change : Fault → Fault} {left right : Task registry α}
    (h : TasksAlongside about ends stage left right)
    (hchange : ∀ host, change (.registry (.credentialsRequired host)) =
      .registry (.credentialsRequired host)) :
    TasksAlongside about ends stage (left.mapFault change) (right.mapFault change) :=
  h.next change
    (fun _ _ hends hstage => .done (fun _ hvalue => Except.ok.inj hvalue ▸ hends) hstage)
    (fun _ => rfl) (fun _ => rfl) hchange

/-- What is read is the same for both. -/
theorem lift_bind {later : β → Stage → Prop} {value : Except Fault α}
    {leftRest rightRest : α → Task registry β} (hstage : stage.Settled)
    (hrest : ∀ result, value = .ok result →
      TasksAlongside about later stage (leftRest result) (rightRest result)) :
    TasksAlongside about later stage (liftM value >>= leftRest)
      (liftM value >>= rightRest) := by
  cases value with
  | ok result => exact hrest result rfl
  | error fault => exact throw hstage.not_wantsUser fault

/-- What is read differs by a change. -/
theorem lift_map_bind {later : β → Stage → Prop} {value : Except Fault α} {change : α → α}
    {leftRest rightRest : α → Task registry β} (hstage : ¬ stage.WantsUser)
    (hrest : ∀ result, value = .ok result →
      TasksAlongside about later stage (leftRest result) (rightRest (change result))) :
    TasksAlongside about later stage (liftM value >>= leftRest)
      (liftM (value.map change) >>= rightRest) := by
  cases value with
  | ok result => exact hrest result rfl
  | error fault => exact throw hstage fault

end Alongside

section Getting

variable {about : Repository → Prop} {repository : Repository}

/-- The empty authorization may stand in a header. -/
theorem checkHeader_emptyAuthorization :
    Http.checkHeader emptyAuthorization = .ok emptyAuthorization := by
  rfl

/-- With the empty username and password, the request for a token carries them. -/
theorem tokenRequest_emptied (hauth : repository.auth = none) (parameters : Parameters) :
    repository.emptied.tokenRequest parameters =
      (repository.tokenRequest parameters).map fun request =>
        { request with authorization := some emptyAuthorization } := by
  have hnone : repository.basicPair = .ok none := by
    simp [Repository.basicPair, hauth]
  have hempty : repository.emptied.basicPair = .ok (some ("", "")) := rfl
  unfold Repository.tokenRequest
  rw [hnone, hempty]
  dsimp only
  split
  · rfl
  · show (do
      let url ← repository.tokenUrl _ _
      _) = _
    cases repository.tokenUrl ((Keyed.get? parameters "realm").getD "") parameters with
    | ok url => rfl
    | error fault => rfl

/-- A response is checked alike. -/
theorem checked_alongside {stage : Stage} {path : String} (authorization : Option String)
    (hstage : stage = .of authorization) (response : Response) :
    TasksAlongside about GotAt stage
      (do return (← liftM (Repository.checked path response), authorization))
      (do return (← liftM (Repository.checked path response), authorization)) :=
  .lift_bind ⟨_, hstage⟩ fun _ _ => .pure ⟨_, hstage⟩ hstage

/-- A place is asked for alike with the authorization that a token gives. -/
theorem authorized_alongside (path accept value : String) :
    TasksAlongside about GotAt .answered
      (do
        let response ← fetch (← liftM (repository.request (some value) path accept))
        return (← liftM (Repository.checked path response), some value))
      (do
        let response ← fetch (← liftM (repository.emptied.request (some value) path accept))
        return (← liftM (Repository.checked path response), some value)) :=
  .lift_bind Stage.settled_answered fun _ _ =>
    .authorized_bind fun response => checked_alongside (some value) rfl response

/-- After a challenge the two go alongside, or part. -/
theorem answer_alongside {path accept : String} {request : Request} (habout : about repository)
    (hauth : repository.auth = none) (hbase : repository.base.Userless)
    (hrequest : repository.request none ("/" ++ path) accept = .ok request)
    (challenge : Challenge) :
    TasksAlongside about GotAt
      (.challenged request challenge)
      (do
        let value ← repository.answer challenge
        let response ← fetch (← liftM (repository.request (some value) ("/" ++ path) accept))
        return (← liftM (Repository.checked ("/" ++ path) response), some value))
      (do
        let value ← repository.emptied.answer challenge
        let response ← fetch
          (← liftM (repository.emptied.request (some value) ("/" ++ path) accept))
        return (← liftM (Repository.checked ("/" ++ path) response), some value)) := by
  cases challenge with
  | basic =>
      have hagain : repository.emptied.request (some emptyAuthorization) ("/" ++ path) accept =
          .ok { request with authorization := some emptyAuthorization } :=
        request_some_eq hbase checkHeader_emptyAuthorization hrequest
      have hleft : repository.answer .basic =
          throw (.registry (.credentialsRequired repository.image.registry)) := by
        simp [Repository.answer, hauth]
      have hright : repository.emptied.answer .basic = pure emptyAuthorization := rfl
      rw [hleft, hright, pure_bind, hagain]
      exact .refused habout
  | bearer parameters =>
      unfold Repository.answer
      dsimp only
      simp only [bind_assoc]
      rw [tokenRequest_emptied hauth]
      have hstage : ¬ (Stage.challenged request (.bearer parameters)).WantsUser :=
        Stage.not_wantsUser_challenged nofun
      refine .lift_map_bind hstage fun token htoken => ?_
      refine .token_bind habout (asksToken_of_tokenRequest htoken) fun response => ?_
      refine .lift_bind Stage.settled_answered fun value _ => ?_
      exact authorized_alongside _ _ _
  | unknown text =>
      have hstage : ¬ (Stage.challenged request (.unknown text)).WantsUser :=
        Stage.not_wantsUser_challenged nofun
      exact .throw hstage _

/-- The requests for a place and what comes of them are the same with the empty username and
password, but for the answer to a challenge. -/
theorem get_alongside {path accept : String} (habout : about repository)
    (hauth : repository.auth = none) (hbase : repository.base.Userless)
    (hroot : ∃ below, path = "/" ++ below) (authorization : Option String) :
    TasksAlongside about GotAt (.of authorization)
      (repository.get authorization path accept)
      (repository.emptied.get authorization path accept) := by
  obtain ⟨below, rfl⟩ := hroot
  unfold Repository.get
  refine .lift_bind ⟨authorization, rfl⟩ fun request hrequest => ?_
  cases authorization with
  | none =>
      refine .asked_bind fun response => ?_
      by_cases hstatus : response.status = 401
      · have hstage : Stage.after request (.ok response) =
            .challenged request (.read (response.header "WWW-Authenticate")) := if_pos hstatus
        simp only [hstatus, Option.isNone_none, decide_true, Bool.and_self, if_true]
        rw [hstage]
        exact answer_alongside habout hauth hbase hrequest _
      · have hstage : Stage.after request (.ok response) = .of none := if_neg hstatus
        simp only [hstatus, decide_false, Bool.false_and, Bool.false_eq_true, if_false]
        exact checked_alongside none hstage response
  | some value =>
      refine .authorized_bind fun response => ?_
      simp only [Option.isNone_some, Bool.and_false, Bool.false_eq_true, if_false]
      exact checked_alongside (some value) rfl response

end Getting

section Looking

variable {settings : LookupSettings} {about : Repository → Prop} {repository : Repository}

/-- The configuration that a manifest names is read alike. -/
theorem readConfig_alongside (habout : about repository) (hauth : repository.auth = none)
    (hbase : repository.base.Userless) (manifest : Document) (authorization : Option String)
    (hash : String) :
    TasksAlongside about (fun _ stage => stage.Settled) (.of authorization)
      (do
        let digest ← liftM (configDigest manifest)
        let found ← repository.getBlob authorization digest
        let config ← liftM found.1.document
        return (hash, config))
      (do
        let digest ← liftM (configDigest manifest)
        let found ← repository.emptied.getBlob authorization digest
        let config ← liftM found.1.document
        return (hash, config)) := by
  refine .lift_bind ⟨authorization, rfl⟩ fun digest _ => ?_
  refine (get_alongside habout hauth hbase (exists_blobPath_eq repository digest)
    authorization).bind ?_
  intro found stage hstage
  exact .lift_bind ⟨_, hstage⟩ fun config _ => .pure ⟨_, hstage⟩ ⟨_, hstage⟩

/-- An image is read alike. -/
theorem readImage_alongside {image : Document} (habout : about repository)
    (hauth : repository.auth = none) (hbase : repository.base.Userless) :
    TasksAlongside about (fun _ stage => stage.Settled) .free (readImage settings image repository)
      (readImage settings image repository.emptied) := by
  unfold readImage
  dsimp only
  have hmanifest (reference : String) (authorization : Option String) :
      TasksAlongside about GotAt (.of authorization)
        (repository.getManifest authorization reference)
        (repository.emptied.getManifest authorization reference) :=
    get_alongside habout hauth hbase (exists_manifestPath_eq repository reference) authorization
  refine (hmanifest repository.image.reference none).bind ?_
  rintro ⟨response, authorization⟩ stage rfl
  refine .lift_bind ⟨_, rfl⟩ fun manifest _ => .lift_bind ⟨_, rfl⟩ fun index _ => ?_
  split
  · refine .lift_bind ⟨_, rfl⟩ fun digest _ => (hmanifest digest authorization).bind ?_
    rintro ⟨entry, later⟩ stage rfl
    exact .lift_bind ⟨_, rfl⟩ fun document _ =>
      readConfig_alongside habout hauth hbase document later _
  · exact readConfig_alongside habout hauth hbase manifest authorization _

/-- The repository with the empty username and password that were read from an entry. -/
theorem repositoryOf_some_eq {reference : ImageReference} {credentials : Credentials}
    (h : credentials.forRegistry reference.registry = some Credentials.emptyAuth) :
    repositoryOf reference (some credentials) =
      (repositoryOf reference none).map Repository.emptied := by
  unfold repositoryOf
  cases Http.checkUrl (Url.parse s!"https://{reference.apiHost}") with
  | error fault => rfl
  | ok server =>
      show (do
        let base ← Http.checkUrl server.asBase
        _) = Except.map _ (do
          let base ← Http.checkUrl server.asBase
          _)
      cases Http.checkUrl server.asBase with
      | error fault => rfl
      | ok base =>
          simp only [Option.bind_some, h]
          rfl

/-- A lookup without credentials and one with an empty username and password go alongside. -/
theorem lookup_alongside {inquiry : Inquiry} {credentials : Credentials}
    (hnone : inquiry.credentials = none)
    (hempty : ∀ reference, readReference inquiry.image = .ok reference →
      credentials.forRegistry reference.registry = some Credentials.emptyAuth) :
    TasksAlongside inquiry.IsAbout (fun _ stage => stage.Settled) .free
      (lookup inquiry.settings inquiry.image none)
      (lookup inquiry.settings inquiry.image (some credentials)) := by
  unfold lookup
  refine .lift_bind Stage.settled_free fun reference hreference => ?_
  rw [repositoryOf_some_eq (hempty reference hreference)]
  refine .lift_map_bind Stage.settled_free.not_wantsUser fun repository hrepository => ?_
  have hauth : repository.auth = none := by
    unfold repositoryOf at hrepository
    simp only [bind_eq_ok_iff] at hrepository
    obtain ⟨server, _, base, _, hrepository⟩ := hrepository
    cases hrepository
    rfl
  have habout : inquiry.IsAbout repository := ⟨reference, hreference, hnone ▸ hrepository⟩
  have hread : TasksAlongside inquiry.IsAbout (fun _ stage => stage.Settled) .free
      (readImage inquiry.settings inquiry.image repository)
      (readImage inquiry.settings inquiry.image repository.emptied) :=
    readImage_alongside habout hauth (userless_repositoryOf hreference hrepository)
  have hspared (host : String) :
      lookupFault inquiry.image (.registry (.credentialsRequired host)) =
        .registry (.credentialsRequired host) := rfl
  refine (hread.mapFault hspared).bind fun found stage hstage => ?_
  exact .lift_bind hstage fun version _ => .log (.pure hstage hstage)

end Looking

end MonitorOperator.Registry
