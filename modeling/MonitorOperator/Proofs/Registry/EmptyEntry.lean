import MonitorOperator.Proofs.Registry.Alongside

/-!
# Entries without credentials

An entry of a docker config that carries no credentials is to mean what no docker config means. It
does so as long as the registry challenges nothing. `Compared` follows a lookup with such a config
and one without credentials to the first challenge and says how they part there: where a username
and password are wanted, one fails and the other makes its request again with an empty pair, and a
request for a token carries the empty pair. `resolve_compared` compares them so in every world that
does not look at authorizations, such as one that answers from a script.
-/

namespace MonitorOperator

/-- The request without its authorization. -/
def Http.Request.anonymous (request : Http.Request) : Http.Request :=
  { request with authorization := none }

namespace Registry

open Http (Request Response)

/-- The exchange, with no authorization in its request. -/
def Exchange.anonymous (exchange : Exchange) : Exchange :=
  { exchange with request := exchange.request.anonymous }

section Ignoring

variable {σ : Type} {world : (request : system.Request) → StateM σ (system.Reply request)}

/-- The world answers requests without regard to their authorization. -/
def IgnoresAuthorization (world : (request : system.Request) → StateM σ (system.Reply request)) :
    Prop :=
  ∀ request state, world (.send request) state = world (.send request.anonymous) state

/-- Requests that are the same but for their authorization are redirected alike. -/
theorem redirected_anonymous {request other : Request} (h : request.anonymous = other.anonymous)
    (status : Int) (location : String) :
    (request.redirected status location).map Request.anonymous =
      (other.redirected status location).map Request.anonymous := by
  obtain ⟨method, url, authorization, accept, body⟩ := request
  obtain ⟨method', url', authorization', accept', body'⟩ := other
  cases h
  unfold Request.redirected
  cases Http.redirectUrl url location <;> rfl

/-- The HTTP requests of a run, with their replies. -/
def sentIn {α : Type} (world : (request : system.Request) → StateM σ (system.Reply request))
    (process : Process system α) (state : σ) : List Exchange :=
  (Process.transcript world process state).filterMap Exchange.ofSystem?

/-- Two processes do the same in a world, but for the authorizations of their HTTP requests. -/
def SameButAuthorization {α : Type}
    (world : (request : system.Request) → StateM σ (system.Reply request))
    (left right : Process system α) : Prop :=
  ∀ state, Process.run world left state = Process.run world right state ∧
    (sentIn world left state).map Exchange.anonymous =
      (sentIn world right state).map Exchange.anonymous

namespace SameButAuthorization

variable {α : Type}

/-- Every process does what it does. -/
theorem refl (process : Process system α) : SameButAuthorization world process process :=
  fun _ => ⟨rfl, rfl⟩

/-- Processes that send the same but for the authorization, and do the same after each reply. -/
theorem send (hworld : IgnoresAuthorization world) {request other : Request}
    (h : request.anonymous = other.anonymous)
    {left right : Except Fault Response → Process system α}
    (hnext : ∀ reply, SameButAuthorization world (left reply) (right reply)) :
    SameButAuthorization world (.call (.send request) left) (.call (.send other) right) := by
  intro state
  have hserved : world (.send request) state = world (.send other) state := by
    rw [hworld request, hworld other, h]
  obtain ⟨hrun, hsent⟩ := hnext (world (.send other) state).1 (world (.send other) state).2
  constructor
  · show Process.run world (left (world (.send request) state).1) (world (.send request) state).2 =
      Process.run world (right (world (.send other) state).1) (world (.send other) state).2
    rw [hserved]
    exact hrun
  · show Exchange.anonymous ⟨request, (world (.send request) state).1⟩ ::
        (sentIn world (left (world (.send request) state).1)
          (world (.send request) state).2).map Exchange.anonymous =
      Exchange.anonymous ⟨other, (world (.send other) state).1⟩ ::
        (sentIn world (right (world (.send other) state).1)
          (world (.send other) state).2).map Exchange.anonymous
    rw [hserved, hsent]
    simp only [Exchange.anonymous, h]

end SameButAuthorization

/-- How a request is followed on, after its reply. -/
def onward (limit : Nat) (request : Request) :
    Except Fault Response → Process system (Except Fault Response)
  | .error fault => .done (.error fault)
  | .ok response =>
      match response.location? with
      | none => .done (.ok response)
      | some location =>
          match request.redirected response.status location with
          | .error fault => .done (.error fault)
          | .ok next => (follow limit next).outcome

/-- Following redirects sends the request and goes on after the reply. -/
theorem outcome_follow_succ (limit : Nat) (request : Request) :
    (follow (limit + 1) request).outcome = .call (.send request) (onward limit request) := by
  unfold follow
  rw [Task.outcome_bind]
  show (Process.call (SystemRequest.send request) _ : Process system _) = _
  congr 1
  funext reply
  cases reply with
  | error fault => rfl
  | ok response =>
      unfold onward
      dsimp only [Process.done_bind]
      cases response.location? with
      | none => rfl
      | some location =>
          dsimp only
          cases request.redirected response.status location <;> rfl

/-- Following redirects does the same without regard to the authorization. -/
theorem follow_sameButAuthorization (hworld : IgnoresAuthorization world) (limit : Nat)
    {request other : Request} (h : request.anonymous = other.anonymous) :
    SameButAuthorization world (follow limit request).outcome (follow limit other).outcome := by
  induction limit generalizing request other with
  | zero => exact .refl _
  | succ limit ih =>
      rw [outcome_follow_succ, outcome_follow_succ]
      refine .send hworld h fun reply => ?_
      cases reply with
      | error fault => exact .refl _
      | ok response =>
          unfold onward
          dsimp only
          cases response.location? with
          | none => exact .refl _
          | some location =>
              have hredirected := redirected_anonymous h response.status location
              dsimp only
              cases hnext : request.redirected response.status location <;>
                cases hother : other.redirected response.status location <;>
                rw [hnext, hother] at hredirected
              · cases hredirected
                exact .refl _
              · cases hredirected
              · cases hredirected
              · exact ih (Except.ok.inj hredirected)

end Ignoring

/-- The fetches of a lookup and what it ends with. -/
structure Course (α : Type) where
  fetches : List Fetch
  result : Except Fault α

/-- A course with fetches before its own. -/
def Course.after {α : Type} (course : Course α) (before : List Fetch) : Course α :=
  { course with fetches := before ++ course.fetches }

/-- The course is that of a lookup in a world. -/
structure Course.Describes {σ : Type} (course : Course VersionRecord) (settings : LookupSettings)
    (image : Document) (credentials : Option Credentials)
    (world : (request : system.Request) → StateM σ (system.Reply request)) (start : σ) : Prop where
  consists : (inquiryIn settings image credentials world start).ConsistsOf course.fetches
  result : course.result =
    (Process.run world (resolve settings image credentials).outcome start).1

section Running

variable {σ α : Type} (world : (request : system.Request) → StateM σ (system.Reply request))

/-- The fetch of a document from a world. -/
def fetchIn (request : Request) (state : σ) : Fetch where
  request := request
  reply := (Process.run world (follow fetchLimit request).outcome state).1
  hops := sentIn world (follow fetchLimit request).outcome state

/-- The course of a part of a lookup in a world. -/
def courseIn : Process registry (Except Fault α) → σ → Course α
  | .done result, _ => ⟨[], result⟩
  | .call (.fetch request) next, state =>
      (courseIn (next (Process.run world (serve (.fetch request)) state).1)
        (Process.run world (serve (.fetch request)) state).2).after [fetchIn world request state]
  | .call (.log event) next, state =>
      courseIn (next (Process.run world (serve (.log event)) state).1)
        (Process.run world (serve (.log event)) state).2

/-- The course of a part of a lookup ends with its result. -/
theorem result_courseIn (process : Process registry (Except Fault α)) (state : σ) :
    (courseIn world process state).result =
      (Process.run world (process.interpret serve) state).1 := by
  induction process generalizing state with
  | done result => rfl
  | call request next ih =>
      unfold Process.interpret
      rw [Process.run_bind]
      cases request with
      | fetch request => exact ih _ _
      | log event => exact ih _ _

/-- The fetches of a part of a lookup make its HTTP requests. -/
theorem sent_courseIn (process : Process registry (Except Fault α)) (state : σ) :
    sentIn world (process.interpret serve) state =
      (courseIn world process state).fetches.flatMap (·.hops) := by
  induction process generalizing state with
  | done result => rfl
  | call request next ih =>
      unfold Process.interpret sentIn
      rw [Process.transcript_bind, List.filterMap_append]
      cases request with
      | fetch request => exact congrArg (_ ++ ·) (ih _ _)
      | log event => exact ih _ _

/-- The fetches of a part of a lookup follow redirects. -/
theorem followed_courseIn (process : Process registry (Except Fault α)) (state : σ) :
    ∀ fetch ∈ (courseIn world process state).fetches, fetch.Followed := by
  induction process generalizing state with
  | done result => simp [courseIn]
  | call request next ih =>
      cases request with
      | log event => exact ih _ _
      | fetch request =>
          intro fetch hmem
          rcases List.mem_cons.1 hmem with rfl | hlater
          · exact (follows_of_path (Process.path_transcript world _ state)).followed
          · exact ih _ _ fetch hlater

/-- Every lookup has a course. -/
theorem describes_courseIn (settings : LookupSettings) (image : Document)
    (credentials : Option Credentials) (start : σ) :
    (courseIn world (lookup settings image credentials).outcome start).Describes settings image
      credentials world start where
  consists := ⟨sent_courseIn world _ start, followed_courseIn world _ start⟩
  result := result_courseIn world _ start

end Running

/-- A fetch is another one with the authorization by an empty username and password, and gets the
same. -/
structure Fetch.WithEmpty (fetch other : Fetch) : Prop where
  request : other.request = { fetch.request with authorization := some emptyAuthorization }
  reply : other.reply = fetch.reply
  hops : other.hops.map Exchange.anonymous = fetch.hops.map Exchange.anonymous

section Comparing

variable {α : Type} {about : Repository → Prop}

/-- `Parted about request challenge left right` compares the courses, from the challenge to a
request on, of a lookup without credentials and of one with an empty username and password. -/
inductive Parted (about : Repository → Prop) (request : Request) :
    Challenge → Course α → Course α → Prop where
  /-- Both fail without another request. -/
  | failed {challenge : Challenge} {fault : Fault} :
      challenge ≠ .basic →
      Parted about request challenge ⟨[], .error fault⟩ ⟨[], .error fault⟩
  /-- The request for a token carries the empty username and password. All else is the same. -/
  | token {repository : Repository} {parameters : Parameters} {asked other : Fetch}
      {later : List Fetch} {result : Except Fault α} :
      about repository → repository.AsksToken parameters asked.request → asked.WithEmpty other →
      Parted about request (.bearer parameters) ⟨asked :: later, result⟩ ⟨other :: later, result⟩
  /-- One fails for lack of credentials. The other makes the request again, with the empty ones. -/
  | refused {repository : Repository} {again : Fetch} {later : List Fetch}
      {result : Except Fault α} :
      about repository →
      again.request = { request with authorization := some emptyAuthorization } →
      Parted about request .basic
        ⟨[], .error (.registry (.credentialsRequired repository.image.registry))⟩
        ⟨again :: later, result⟩

/-- `Compared about left right` says that a lookup without credentials and one with an empty
username and password take the same course if nothing challenges them, and compares what they do
from the first challenge on. -/
inductive Compared (about : Repository → Prop) : Course α → Course α → Prop where
  | alike (course : Course α) :
      (∀ fetch ∈ course.fetches, ¬ fetch.Challenges) → Compared about course course
  | parted (before : List Fetch) {challenged : Fetch} {response : Response}
      {left right : Course α} :
      (∀ fetch ∈ before, ¬ fetch.Challenges) →
      challenged.reply = .ok response → response.status = 401 →
      Parted about challenged.request (.read (response.header "WWW-Authenticate")) left right →
      Compared about (left.after (before ++ [challenged])) (right.after (before ++ [challenged]))

/-- Courses compare as before after one more fetch of both that is not challenged. -/
theorem Compared.after {left right : Course α} (h : Compared about left right) {fetch : Fetch}
    (hfetch : ¬ fetch.Challenges) : Compared about (left.after [fetch]) (right.after [fetch]) := by
  cases h with
  | alike course hcourse =>
      exact .alike _ (List.forall_mem_cons.2 ⟨hfetch, hcourse⟩)
  | @parted before challenged response left right hbefore hreply hstatus hparted =>
      exact .parted (fetch :: before) (List.forall_mem_cons.2 ⟨hfetch, hbefore⟩) hreply hstatus
        hparted

/-- How the courses compare that are left at a stage. -/
def Stage.Compares (about : Repository → Prop) : Stage → Course α → Course α → Prop
  | .free, left, right => Compared about left right
  | .challenged request challenge, left, right => Parted about request challenge left right
  | .answered, left, right => left = right

/-- After a request without authorization, the courses compare if they do after the reply. -/
theorem Stage.Compares.after (fetch : Fetch) {left right : Course α}
    (h : (Stage.after fetch.request fetch.reply).Compares about left right) :
    Compared about (left.after [fetch]) (right.after [fetch]) := by
  cases hreply : fetch.reply with
  | error fault =>
      rw [hreply] at h
      refine Compared.after h ?_
      rintro ⟨response, hresponse, _⟩
      rw [hreply] at hresponse
      cases hresponse
  | ok response =>
      rw [hreply] at h
      unfold Stage.after at h
      dsimp only at h
      split at h
      · next hstatus => exact .parted [] (by simp) hreply hstatus h
      · next hstatus =>
          refine Compared.after h ?_
          rintro ⟨other, hother, hchallenge⟩
          rw [hreply] at hother
          cases hother
          exact hstatus hchallenge

/-- Parts of a lookup that go alongside take courses that compare. -/
theorem Alongside.compares {σ : Type}
    {world : (request : system.Request) → StateM σ (system.Reply request)}
    {ends : α → Stage → Prop} {stage : Stage} {left right : Process registry (Except Fault α)}
    (h : Alongside about ends stage left right) (hworld : IgnoresAuthorization world)
    (hends : ∀ value stage, ends value stage → stage.Settled) (state : σ) :
    stage.Compares about (courseIn world left state) (courseIn world right state) := by
  induction h generalizing state with
  | @done stage result hresult hstage =>
      cases stage with
      | free => exact .alike _ fun _ hmem => absurd hmem List.not_mem_nil
      | answered => rfl
      | challenged request challenge =>
          cases result with
          | error fault =>
              refine .failed fun hbasic => hstage ⟨request, ?_⟩
              rw [hbasic]
          | ok value =>
              exact absurd (hends _ _ (hresult value rfl)) Stage.not_settled_challenged
  | log _ ih => exact ih _
  | @asked request left right _ ih =>
      exact Stage.Compares.after (fetchIn world request state) (ih _ _)
  | authorized _ ih => exact congrArg (Course.after · _) (ih _ _)
  | @token repository challenged request parameters left right habout hasks _ ih =>
      let other := { request with authorization := some emptyAuthorization }
      have hsame : request.anonymous = other.anonymous := rfl
      obtain ⟨hrun, hsent⟩ := follow_sameButAuthorization hworld fetchLimit hsame state
      have hright : courseIn world (.call (.fetch other) right) state =
          (courseIn world (left (Process.run world (serve (.fetch request)) state).1)
            (Process.run world (serve (.fetch request)) state).2).after
              [fetchIn world other state] := by
        show (courseIn world (right (Process.run world (follow fetchLimit other).outcome state).1)
          (Process.run world (follow fetchLimit other).outcome state).2).after _ = _
        rw [← hrun]
        exact congrArg (Course.after · _) (ih _ _).symm
      rw [hright]
      exact .token habout hasks ⟨rfl, congrArg Prod.fst hrun.symm, hsent.symm⟩
  | refused habout => exact .refused habout rfl

end Comparing

/-- When the entry of a docker config for the registry carries no credentials, a lookup with the
config takes the same course as one without, unless the registry challenges it. A request for a
token then carries an empty username and password, and where these are wanted, the request is made
again with empty ones. -/
theorem resolve_compared {σ : Type} (settings : LookupSettings) (text : String)
    (config : DockerConfig) (credentials : Credentials)
    (world : (request : system.Request) → StateM σ (system.Reply request)) (start : σ)
    (hconfig : Credentials.ofDockerConfig config = .ok credentials)
    (hentry : ∀ reference, ImageReference.parse? text = some reference →
      Credentials.SelectsNothing config reference.registry)
    (hworld : IgnoresAuthorization world) :
    ∃ anonymous named : Course VersionRecord,
      anonymous.Describes settings (.text text) none world start ∧
      named.Describes settings (.text text) (some credentials) world start ∧
      Compared (inquiryIn settings (.text text) none world start).IsAbout anonymous named := by
  have hempty : ∀ reference, readReference (.text text) = .ok reference →
      credentials.forRegistry reference.registry = some Credentials.emptyAuth := by
    intro reference hreference
    obtain ⟨other, htext, hparse⟩ := exists_text_of_readReference hreference
    cases htext
    exact Credentials.forRegistry_of_selectsNothing hconfig (hentry reference hparse)
  let inquiry := inquiryIn settings (.text text) none world start
  have halongside : TasksAlongside inquiry.IsAbout (fun _ stage => stage.Settled) .free
      (lookup settings (.text text) none) (lookup settings (.text text) (some credentials)) :=
    lookup_alongside rfl hempty
  exact ⟨_, _, describes_courseIn world .., describes_courseIn world ..,
    halongside.compares hworld (fun _ _ h => h) start⟩

/-- A world that answers HTTP requests from a script, whatever they ask for. -/
def scripted : (request : system.Request) →
    StateM (List (Except Fault Response)) (system.Reply request)
  | .api _ => pure (.error .noSuchMember)
  | .send _ => fun script =>
      match script with
      | [] => (.error (.reported (.transport "ConnectError") "no response scripted"), [])
      | reply :: script => (reply, script)
  | .log _ => pure ()
  | .count _ => pure ()
  | .now => pure default

/-- A script does not look at authorizations. -/
theorem ignoresAuthorization_scripted : IgnoresAuthorization scripted :=
  fun _ _ => rfl

/-- A response that wants a username and password. -/
def basicChallenge : Response where
  status := 401
  headers := [("WWW-Authenticate", "Basic realm=\"registry\"")]
  body := []

/-- A docker config whose only entry carries no credentials. -/
def emptyEntryConfig : DockerConfig :=
  .document (.object [(.text "auths", .object [(.text "registry.example.com", .object [])])])

/-- The credentials that are read from it. -/
def emptyEntryCredentials : Credentials :=
  ⟨[("registry.example.com", Credentials.emptyAuth)]⟩

/-- The entry for the registry of an image carries no credentials. -/
theorem selectsNothing_emptyEntryConfig {reference : ImageReference}
    (h : ImageReference.parse? "registry.example.com/team/app:v1" = some reference) :
    Credentials.SelectsNothing emptyEntryConfig reference.registry := by
  cases h
  refine ⟨[(.text "registry.example.com", .object [])], .object [], ?_, rfl, ?_⟩
  · exact ⟨_, _, rfl, rfl, rfl⟩
  · exact ⟨.inl rfl, .inl rfl, .inl rfl⟩

/-- The lookup of an image with a config whose entry carries no credentials, where a username and
password are wanted. -/
theorem resolve_compared_basicChallenge :
    Credentials.ofDockerConfig emptyEntryConfig = .ok emptyEntryCredentials ∧
      IgnoresAuthorization scripted ∧
      ∃ anonymous named : Course VersionRecord,
        anonymous.Describes {} (.text "registry.example.com/team/app:v1") none scripted
          [.ok basicChallenge, .ok basicChallenge] ∧
        named.Describes {} (.text "registry.example.com/team/app:v1") (some emptyEntryCredentials)
          scripted [.ok basicChallenge, .ok basicChallenge] ∧
        Compared
          (inquiryIn {} (.text "registry.example.com/team/app:v1") none scripted
            [.ok basicChallenge, .ok basicChallenge]).IsAbout anonymous named :=
  ⟨rfl, ignoresAuthorization_scripted,
    resolve_compared {} "registry.example.com/team/app:v1" emptyEntryConfig emptyEntryCredentials
      scripted [.ok basicChallenge, .ok basicChallenge] rfl
      (fun _ h => selectsNothing_emptyEntryConfig h) ignoresAuthorization_scripted⟩

/-- A lookup with a config whose entry for the registry carries no credentials does not always make
the requests of one without and end like it. -/
theorem not_resolve_alike :
    ¬ ∀ (settings : LookupSettings) (text : String) (config : DockerConfig)
      (credentials : Credentials) (script : List (Except Fault Response)),
      Credentials.ofDockerConfig config = .ok credentials →
      (∀ reference, ImageReference.parse? text = some reference →
        Credentials.SelectsNothing config reference.registry) →
      (inquiryIn settings (.text text) none scripted script).sent =
          (inquiryIn settings (.text text) (some credentials) scripted script).sent ∧
        (Process.run scripted (resolve settings (.text text) none).outcome script).1 =
          (Process.run scripted
            (resolve settings (.text text) (some credentials)).outcome script).1 := by
  intro h
  obtain ⟨hsent, _⟩ := h {} "registry.example.com/team/app:v1" emptyEntryConfig
    emptyEntryCredentials [.ok basicChallenge, .ok basicChallenge] rfl
    fun _ h => selectsNothing_emptyEntryConfig h
  have hone : (inquiryIn {} (.text "registry.example.com/team/app:v1") none scripted
      [.ok basicChallenge, .ok basicChallenge]).sent.length = 1 := by
    decide +kernel
  have htwo : (inquiryIn {} (.text "registry.example.com/team/app:v1")
      (some emptyEntryCredentials) scripted
      [.ok basicChallenge, .ok basicChallenge]).sent.length = 2 := by
    decide +kernel
  rw [hsent, htwo] at hone
  cases hone

end Registry

end MonitorOperator
