import MonitorOperator.Proofs.Registry.EmptyEntry
import MonitorOperator.Proofs.Registry.TokenRequest

/-!
# The answer to a bearer challenge

The first challenge of a lookup is followed by the request for a token at its realm, and by the
challenged request again with the token that it gets (`bearer_answered`), unless the query is longer
than a URL may be: then nothing more is asked (`not_bearer_answered_long`).

`FollowsUp` says this of what is asked after a challenge, and `AnswersBearer` of all that is asked.
The latter is carried from the end of a lookup to its beginning: a request that is not challenged may
stand in front, and after the first challenge nothing depends on what comes later.
-/

namespace MonitorOperator.Registry

open Http (Request Response Url)

variable {repository : Repository} {α β : Type}

/-- After a challenge that wants a token the token is asked for, and with the token that is given the
challenged request is made again. -/
def FollowsUp (repository : Repository) (request : Request) (response : Response)
    (after : List Exchange) : Prop :=
  ∀ parameters place, repository.Wants response parameters place →
    ∃ asked reply later, after = ⟨asked, reply⟩ :: later ∧
      repository.AsksExactly parameters place asked ∧
      ∀ answer token, reply = .ok answer → GivesToken answer token →
        ∃ again rest,
          later = ⟨{ request with authorization := some ("Bearer " ++ token) }, again⟩ :: rest

/-- The first challenge of the exchanges is followed up. -/
def AnswersBearer (repository : Repository) (exchanges : List Exchange) : Prop :=
  ∀ before request response after, exchanges = before ++ ⟨request, .ok response⟩ :: after →
    (∀ exchange ∈ before, ¬ exchange.Challenges) → response.status = 401 →
    request.authorization = none ∧ FollowsUp repository request response after

/-- What comes later does not matter for the answer to a challenge. -/
theorem FollowsUp.append {request : Request} {response : Response} {after : List Exchange}
    (h : FollowsUp repository request response after) (later : List Exchange) :
    FollowsUp repository request response (after ++ later) := by
  intro parameters place hwants
  obtain ⟨asked, reply, rest, rfl, hasks, hagain⟩ := h parameters place hwants
  refine ⟨asked, reply, rest ++ later, rfl, hasks, fun answer token hreply htoken => ?_⟩
  obtain ⟨again, last, rfl⟩ := hagain answer token hreply htoken
  exact ⟨again, last ++ later, rfl⟩

namespace AnswersBearer

/-- Nothing is challenged where nothing is asked. -/
theorem nil : AnswersBearer repository [] := by
  intro before request response after hsplit
  simp at hsplit

/-- A request that is not challenged may stand in front. -/
theorem cons {exchange : Exchange} {exchanges : List Exchange} (hnone : ¬ exchange.Challenges)
    (h : AnswersBearer repository exchanges) : AnswersBearer repository (exchange :: exchanges) := by
  intro before request response after hsplit hbefore hstatus
  cases before with
  | nil =>
      cases hsplit
      exact absurd (challenges_ok_iff.2 hstatus) hnone
  | cons first before =>
      obtain ⟨rfl, hrest⟩ := List.cons.inj hsplit
      exact h before request response after hrest (List.forall_mem_cons.1 hbefore).2 hstatus

/-- A challenge that is followed up is the first one. -/
theorem of_challenge {request : Request} {response : Response} {after : List Exchange}
    (hstatus : response.status = 401) (hnone : request.authorization = none)
    (h : FollowsUp repository request response after) :
    AnswersBearer repository (⟨request, .ok response⟩ :: after) := by
  intro before other reply rest hsplit hbefore _
  cases before with
  | nil =>
      cases hsplit
      exact ⟨hnone, h⟩
  | cons first before =>
      obtain ⟨rfl, _⟩ := List.cons.inj hsplit
      exact absurd (challenges_ok_iff.2 hstatus) (hbefore _ (List.mem_cons_self ..))

end AnswersBearer

/-- The exchanges of a part of a lookup that starts without authorization follow up the first
challenge. -/
def Heeds (repository : Repository) (authorization : Option String) (task : Task registry α) : Prop :=
  authorization = none → ∀ exchanges result, Fetches task exchanges result →
    AnswersBearer repository exchanges

section Follow

variable {path accept : String} {request : Request} {response : Response}
  {exchanges : List Exchange}

/-- What starts with a fetch goes on from its response. -/
theorem exists_of_fetches_bind {rest : Response → Task registry α} {result : Except Fault α}
    (h : Fetches (fetch request >>= rest) exchanges result) :
    ∃ reply later, exchanges = ⟨request, reply⟩ :: later ∧
      (∀ fault, reply = .error fault → later = [] ∧ result = .error fault) ∧
      ∀ response, reply = .ok response → Fetches (rest response) later result := by
  rcases fetches_bind_iff.1 h with
    ⟨fault, rfl, hfailed⟩ | ⟨response, first, later, rfl, hfetched, hrest⟩
  · obtain rfl := fetches_fetch_iff.1 hfailed
    refine ⟨_, [], rfl, ?_, nofun⟩
    rintro _ ⟨⟩
    exact ⟨rfl, rfl⟩
  · obtain rfl := fetches_fetch_iff.1 hfetched
    refine ⟨_, later, rfl, nofun, ?_⟩
    rintro _ ⟨⟩
    exact hrest

/-- What is read without a fault is gone on from. -/
theorem fetches_lift_ok_bind_iff {value : α} {rest : α → Task registry β} {result : Except Fault β} :
    Fetches (liftM (Except.ok value : Except Fault α) >>= rest) exchanges result ↔
      Fetches (rest value) exchanges result :=
  Iff.rfl

/-- The answer to a bearer challenge is made of that to the request for a token. -/
theorem answer_bearer_eq {parameters : Parameters} {asked : Request}
    (h : repository.tokenRequest parameters = .ok asked) :
    repository.answer (.bearer parameters) =
      fetch asked >>= fun response => do
        return "Bearer " ++ (← liftM (Repository.readToken response)) := by
  unfold Repository.answer
  dsimp only
  rw [h]
  rfl

/-- There is no answer to a bearer challenge where the URL for the token would be too long. -/
theorem Repository.IsChallenged.answer_eq {parameters : List (String × String)} {place : Url}
    (h : repository.IsChallenged response parameters place)
    (hlong : ¬ (place.queried (repository.askedWith parameters)).Fits) :
    repository.answer (.read (response.header "WWW-Authenticate")) = throw Http.malformedUrl := by
  rw [h.bearer.read_eq]
  unfold Repository.answer
  dsimp only
  rw [h.tokenRequest_eq hlong]
  rfl

/-- After a challenge the token is asked for, and the place again. -/
theorem followsUp_of_fetches {result : Except Fault (Response × Option String)}
    (hbase : repository.base.Userless)
    (hrequest : repository.request none ("/" ++ path) accept = .ok request)
    (h : Fetches
      (do
        let value ← repository.answer (.read (response.header "WWW-Authenticate"))
        let again ← fetch (← liftM (repository.request (some value) ("/" ++ path) accept))
        return (← liftM (Repository.checked ("/" ++ path) again), some value))
      exchanges result) :
    FollowsUp repository request response exchanges := by
  intro parameters place hwants
  obtain ⟨asked, htoken, hasks⟩ := hwants.exists_tokenRequest
  rw [hwants.bearer.read_eq, answer_bearer_eq htoken, bind_assoc] at h
  obtain ⟨reply, later, rfl, -, hlater⟩ := exists_of_fetches_bind h
  refine ⟨asked, reply, later, rfl, hasks, fun answer token hreply htoken => ?_⟩
  have hagain := hlater answer hreply
  have hrequest := request_some_eq hbase htoken.checkHeader_eq hrequest
  rw [htoken.readToken_eq, bind_assoc, fetches_lift_ok_bind_iff, pure_bind, hrequest,
    fetches_lift_ok_bind_iff] at hagain
  obtain ⟨again, rest, rfl, -, -⟩ := exists_of_fetches_bind hagain
  exact ⟨again, rest, rfl⟩

/-- Getting a place without authorization asks for nothing, or for the place: then it is not
challenged, or the challenge is answered. -/
theorem get_of_fetches {result : Except Fault (Response × Option String)}
    (hbase : repository.base.Userless)
    (h : Fetches (repository.get none ("/" ++ path) accept) exchanges result) :
    exchanges = [] ∧ (∃ fault, result = .error fault) ∨
      (∃ exchange, exchanges = [exchange] ∧ ¬ exchange.Challenges ∧
        ∀ response next, result = .ok (response, next) → next = none) ∨
      ∃ request response after, exchanges = ⟨request, .ok response⟩ :: after ∧
        response.status = 401 ∧ request.authorization = none ∧
        FollowsUp repository request response after := by
  unfold Repository.get at h
  rcases fetches_bind_iff.1 h with
    ⟨fault, rfl, hlift⟩ | ⟨request, none, rest, rfl, hlift, hfetch⟩
  · exact .inl ⟨(fetches_lift_iff.1 hlift).1, fault, rfl⟩
  obtain ⟨rfl, hrequest⟩ := fetches_lift_iff.1 hlift
  obtain ⟨reply, later, rfl, hfailed, hlater⟩ := exists_of_fetches_bind hfetch
  have hnone := (asks_of_request hbase hrequest).authorization
  cases reply with
  | error fault =>
      obtain ⟨rfl, rfl⟩ := hfailed fault rfl
      exact .inr (.inl ⟨_, rfl, not_challenges_error, nofun⟩)
  | ok response =>
      have hrest := hlater response rfl
      -- There is no authorization yet, so that the status alone makes a challenge.
      by_cases hstatus : response.status = 401
      · rw [if_pos (by simp [hstatus])] at hrest
        exact .inr (.inr ⟨request, response, later, rfl, hstatus, hnone,
          followsUp_of_fetches hbase hrequest hrest⟩)
      · rw [if_neg (by simp [hstatus])] at hrest
        obtain ⟨rfl, rfl⟩ := fetches_checked_iff.1 hrest
        refine .inr (.inl ⟨_, rfl, mt challenges_ok_iff.1 hstatus, fun answer next hanswer => ?_⟩)
        cases hchecked : Repository.checked ("/" ++ path) response with
        | error fault => simp [hchecked, Except.map] at hanswer
        | ok value =>
            rw [hchecked] at hanswer
            cases hanswer
            rfl

end Follow

namespace Heeds

variable {authorization : Option String}

/-- What is done asks for nothing. -/
theorem pure (value : α) : Heeds repository authorization (Pure.pure value) := by
  intro _ exchanges result hfetches
  obtain ⟨rfl, _⟩ := fetches_pure_iff.1 hfetches
  exact .nil

/-- What is read asks for nothing. -/
theorem lift_bind {value : Except Fault α} {rest : α → Task registry β}
    (hrest : ∀ result, value = .ok result → Heeds repository authorization (rest result)) :
    Heeds repository authorization (liftM value >>= rest) := by
  intro hnone exchanges result hfetches
  rcases fetches_bind_iff.1 hfetches with
    ⟨fault, rfl, hlift⟩ | ⟨read, none, later, rfl, hlift, hlater⟩
  · obtain ⟨rfl, _⟩ := fetches_lift_iff.1 hlift
    exact .nil
  · obtain ⟨rfl, hread⟩ := fetches_lift_iff.1 hlift
    exact hrest read hread hnone later result hlater

/-- Getting a place follows up a challenge, and without one the lookup goes on without
authorization. -/
theorem get_bind {path accept : String} {rest : Response × Option String → Task registry β}
    (hbase : repository.base.Userless) (hroot : ∃ below, path = "/" ++ below)
    (hrest : ∀ response next, Heeds repository next (rest (response, next))) :
    Heeds repository authorization (repository.get authorization path accept >>= rest) := by
  rintro rfl exchanges result hfetches
  obtain ⟨below, rfl⟩ := hroot
  rcases fetches_bind_iff.1 hfetches with
    ⟨fault, rfl, hget⟩ | ⟨⟨response, next⟩, first, later, rfl, hget, hlater⟩
  · rcases get_of_fetches hbase hget with ⟨rfl, _⟩ | ⟨exchange, rfl, hcalm, _⟩ |
      ⟨request, response, after, rfl, hstatus, hnone, hfollows⟩
    · exact .nil
    · exact .cons hcalm .nil
    · exact .of_challenge hstatus hnone hfollows
  · rcases get_of_fetches hbase hget with ⟨_, _, hfault⟩ | ⟨exchange, rfl, hcalm, hnext⟩ |
      ⟨request, response, after, rfl, hstatus, hnone, hfollows⟩
    · cases hfault
    · exact .cons hcalm (hrest response next (hnext response next rfl) later result hlater)
    · -- Whatever the rest of the lookup asks comes after the first challenge.
      exact .of_challenge hstatus hnone (hfollows.append later)

end Heeds

/-- Reading the configuration that a manifest names follows up a challenge. -/
theorem readConfig_heeds (hbase : repository.base.Userless) {authorization : Option String}
    (manifest : Document) (hash : String) :
    Heeds repository authorization
      (do
        let digest ← liftM (configDigest manifest)
        let found ← repository.getBlob authorization digest
        let config ← liftM found.1.document
        return (hash, config)) := by
  refine .lift_bind fun digest _ => ?_
  refine .get_bind hbase (exists_blobPath_eq repository digest) fun response next => ?_
  exact .lift_bind fun config _ => .pure _

/-- Reading an image follows up the first challenge. -/
theorem readImage_heeds (hbase : repository.base.Userless) (settings : LookupSettings)
    (image : Document) : Heeds repository none (readImage settings image repository) := by
  unfold readImage
  dsimp only
  refine .get_bind hbase (exists_manifestPath_eq repository _) fun response next => ?_
  refine .lift_bind fun manifest _ => .lift_bind fun index _ => ?_
  split
  · refine .lift_bind fun digest _ => ?_
    refine .get_bind hbase (exists_manifestPath_eq repository digest) fun response next => ?_
    exact .lift_bind fun document _ => readConfig_heeds hbase document _
  · exact readConfig_heeds hbase manifest _

/-- A lookup asks for nothing, or follows up the first challenge of the repository of its image. -/
theorem lookup_answersBearer {settings : LookupSettings} {image : Document}
    {credentials : Option Credentials} {exchanges : List Exchange}
    {result : Except Fault VersionRecord}
    (h : Fetches (lookup settings image credentials) exchanges result) :
    exchanges = [] ∨ ∃ reference repository, readReference image = .ok reference ∧
      repositoryOf reference credentials = .ok repository ∧
      AnswersBearer repository exchanges := by
  rcases lookup_of_fetches h with
    ⟨hnone, _⟩ | ⟨reference, repository, read, hreference, hrepository, hread, _⟩
  · exact .inl hnone
  · have hbase := userless_repositoryOf hreference hrepository
    exact .inr ⟨reference, repository, hreference, hrepository,
      readImage_heeds hbase settings image rfl exchanges read hread⟩

/-- Whatever the world answers, the requests of a lookup are those of its fetches, and the first of
these that is challenged is followed by the request for a token that the challenge wants, and by the
same request with the token that is given. -/
theorem bearer_answered {σ : Type} (settings : LookupSettings) (image : Document)
    (credentials : Option Credentials)
    (world : (request : system.Request) → StateM σ (system.Reply request)) (start : σ) :
    ∃ fetches, (inquiryIn settings image credentials world start).ConsistsOf fetches ∧
      (fetches = [] ∨ ∃ repository,
        (inquiryIn settings image credentials world start).IsAbout repository ∧
          AnswersBearer repository (fetches.map (·.toExchange))) := by
  obtain ⟨fetches, hconsists, hfetches⟩ := exists_fetches settings image credentials world start
  refine ⟨fetches, hconsists, ?_⟩
  rcases lookup_answersBearer hfetches with
    hnone | ⟨reference, repository, hreference, hrepository, hanswers⟩
  · exact .inl (List.map_eq_nil_iff.1 hnone)
  · exact .inr ⟨repository, ⟨reference, hreference, hrepository⟩, hanswers⟩

/-- A fetch whose first request is answered without a redirect gets this answer. -/
theorem Fetch.Followed.reply_eq {fetch : Fetch} {hop : Exchange} {hops : List Exchange}
    {response : Response} (h : fetch.Followed) (hhops : fetch.hops = hop :: hops)
    (hreply : hop.reply = .ok response) (hstays : response.location? = none) :
    fetch.reply = .ok response := by
  have hfollows := h.follows
  rw [hhops] at hfollows
  generalize fetch.reply = reply at hfollows ⊢
  cases hfollows with
  | failed => cases hreply
  | arrived => exact hreply
  | misled hlocation | redirected hlocation =>
      cases hreply
      cases hstays.symm.trans hlocation

section Demanding

/-- Parameters with names that come twice, and values that look like parameters. -/
def demandingParameters : List (String × String) :=
  [("service", "first, realm="), ("realm", "http://elsewhere/?"), ("note", "a=b, scope=c"),
    ("service", "last value"), ("realm", "https://auth.example.com/token")]

/-- A challenge with these parameters. -/
def demandingChallenge : Response where
  status := 401
  headers := [("www-authenticate", "bEaReR service=\"first, realm=\",realm=\"http://elsewhere/?\", " ++
    "note=\"a=b, scope=c\",  service=\"last value\",realm=\"https://auth.example.com/token\"")]
  body := []

/-- The place that the last realm names. -/
def demandingPlace : Url where
  scheme := "https"
  host := "auth.example.com"
  path := "/token"

/-- A repository of an image without credentials. -/
def demandingRepository : Repository where
  base := { scheme := "https", host := "registry.example.com" }
  image := ⟨"registry.example.com", "team/app", some "v1", none⟩
  auth := none

/-- The reference of the image is read. -/
theorem readReference_demanding :
    readReference (.text "registry.example.com/team/app:v1") = .ok demandingRepository.image := by
  rfl

/-- The repository is that of the image. -/
theorem repositoryOf_demanding :
    repositoryOf demandingRepository.image none = .ok demandingRepository := by
  rfl

/-- The realm names the place. -/
theorem isRealm_demanding : IsRealm "https://auth.example.com/token" demandingPlace where
  parse := by rfl
  scheme := rfl
  host := by decide
  userinfo := rfl
  query := rfl
  fragment := rfl

/-- The challenge wants a token of the repository. -/
theorem wants_demanding :
    demandingRepository.Wants demandingChallenge demandingParameters demandingPlace where
  status := rfl
  bearer := ⟨by decide +kernel, "bEaReR", _, rfl,
    .more _ 0 (.more _ 1 (.more _ 2 (.more _ 0 (.last _)))), by decide +kernel⟩
  realm := ⟨"https://auth.example.com/token", rfl, isRealm_demanding⟩
  credentials := .inl rfl
  fits := by decide +kernel

/-- The last values count. -/
example : demandingRepository.askedWith demandingParameters =
    [("service", "last value"), ("note", "a=b, scope=c"),
      ("scope", "repository:team/app:pull")] := by
  decide +kernel

/-- The registry that answers with the challenge is asked again: for the token. -/
theorem bearer_answered_demanding :
    demandingRepository.Wants demandingChallenge demandingParameters demandingPlace ∧
      ∃ challenged token rest,
        (inquiryIn {} (.text "registry.example.com/team/app:v1") none scripted
          [.ok demandingChallenge]).ConsistsOf (challenged :: token :: rest) ∧
        challenged.reply = .ok demandingChallenge ∧
        demandingRepository.AsksExactly demandingParameters demandingPlace token.request := by
  refine ⟨wants_demanding, ?_⟩
  obtain ⟨fetches, hconsists, hanswers⟩ := bearer_answered {}
    (.text "registry.example.com/team/app:v1") none scripted [.ok demandingChallenge]
  have hfirst : (inquiryIn {} (.text "registry.example.com/team/app:v1") none scripted
      [.ok demandingChallenge]).sent.head?.map (·.reply) = some (.ok demandingChallenge) :=
    rfl
  rw [hconsists.sent] at hfirst
  cases fetches with
  | nil => cases hfirst
  | cons challenged fetches =>
      obtain ⟨repository, ⟨reference, hreference, hrepository⟩, hanswers⟩ :=
        hanswers.resolve_left (List.cons_ne_nil _ _)
      obtain rfl := Except.ok.inj (readReference_demanding.symm.trans hreference)
      obtain rfl := Except.ok.inj (repositoryOf_demanding.symm.trans hrepository)
      have hfollowed := hconsists.followed challenged (List.mem_cons_self ..)
      obtain ⟨hop, hops, hhops⟩ : ∃ hop hops, challenged.hops = hop :: hops := by
        cases hhops : challenged.hops with
        | nil => simpa [hhops] using hfollowed.starts
        | cons hop hops => exact ⟨hop, hops, rfl⟩
      rw [List.flatMap_cons, hhops] at hfirst
      have hreply := hfollowed.reply_eq hhops (Option.some.inj hfirst) rfl
      have hsplit : (challenged :: fetches).map (·.toExchange) =
          [] ++ ⟨challenged.request, .ok demandingChallenge⟩ :: fetches.map (·.toExchange) := by
        rw [← hreply]
        rfl
      obtain ⟨-, hfollows⟩ := hanswers _ _ _ _ hsplit (by simp) rfl
      obtain ⟨asked, reply, later, hlater, hasks, -⟩ := hfollows _ _ wants_demanding
      obtain ⟨token, rest, rfl, htoken, -⟩ := List.map_eq_cons_iff.1 hlater
      refine ⟨challenged, token, rest, hconsists, hreply, ?_⟩
      rw [htoken]
      exact hasks

end Demanding

section Long

/-- Parameters with a value that is longer than a URL may be. -/
def longParameters : List (String × String) :=
  [("realm", "https://auth.example.com/token"), ("service", String.ofList (.replicate 70000 'a'))]

/-- A challenge with these parameters. -/
def longChallenge : Response where
  status := 401
  headers := [("www-authenticate", String.ofList ("Bearer ".toList ++
    (Challenge.written ("realm", "https://auth.example.com/token") ++ ',' ::
      Challenge.written ("service", String.ofList (.replicate 70000 'a')))))]
  body := []

/-- The challenge names a realm. -/
theorem isChallenged_long :
    demandingRepository.IsChallenged longChallenge longParameters demandingPlace where
  status := rfl
  bearer := by
    refine ⟨?_, "Bearer", _, rfl, .more _ 0 (.last _), rfl⟩
    refine List.forall_mem_cons.2 ⟨by decide +kernel, List.forall_mem_singleton.2 ?_⟩
    refine ⟨by decide, List.all_eq_true.1 rfl, fun character hmem => ?_⟩
    rw [String.toList_ofList] at hmem
    rw [List.eq_of_mem_replicate hmem]
    decide
  realm := ⟨"https://auth.example.com/token", rfl, isRealm_demanding⟩
  credentials := .inl rfl

/-- The query for the token would be too long. -/
theorem not_fits_long :
    ¬ (demandingPlace.queried (demandingRepository.askedWith longParameters)).Fits := by
  have hasked : ("service", String.ofList (.replicate 70000 'a')) ∈
      demandingRepository.askedWith longParameters :=
    List.mem_append_left _ (.head _)
  refine Url.not_fits_queried hasked ?_
  rw [String.toList_ofList, List.length_replicate]
  decide

/-- The lookup ends when it is challenged with what would make the query for the token too long. -/
theorem not_bearer_answered_long :
    demandingRepository.IsChallenged longChallenge longParameters demandingPlace ∧
      ∃ request, Fetches (lookup {} (.text "registry.example.com/team/app:v1") none)
        [⟨request, .ok longChallenge⟩] (.error Http.malformedUrl) := by
  obtain ⟨request, hrequest⟩ : ∃ request, demandingRepository.request none
      (demandingRepository.manifestPath demandingRepository.image.reference) manifestAccept =
        .ok request :=
    ⟨_, rfl⟩
  have hanswer : Fetches
      (demandingRepository.answer (.read (longChallenge.header "WWW-Authenticate"))) []
      (.error Http.malformedUrl) := by
    rw [isChallenged_long.answer_eq not_fits_long]
    exact fetches_throw_iff.2 ⟨rfl, rfl⟩
  have hget : Fetches (demandingRepository.getManifest none demandingRepository.image.reference)
      [⟨request, .ok longChallenge⟩] (.error Http.malformedUrl) := by
    refine fetches_bind_iff.2 (.inr ⟨request, [], _, rfl, fetches_lift_iff.2 ⟨rfl, hrequest⟩, ?_⟩)
    refine fetches_bind_iff.2 (.inr ⟨longChallenge, _, [], rfl, fetches_fetch_iff.2 rfl, ?_⟩)
    rw [if_pos (by decide)]
    exact fetches_bind_iff.2 (.inl ⟨_, rfl, hanswer⟩)
  refine ⟨isChallenged_long, request, ?_⟩
  refine fetches_bind_iff.2
    (.inr ⟨_, [], _, rfl, fetches_lift_iff.2 ⟨rfl, readReference_demanding⟩, ?_⟩)
  refine fetches_bind_iff.2
    (.inr ⟨_, [], _, rfl, fetches_lift_iff.2 ⟨rfl, repositoryOf_demanding⟩, ?_⟩)
  refine fetches_bind_iff.2 (.inl ⟨_, rfl, fetches_mapFault_iff.2
    ⟨.error Http.malformedUrl, rfl, ?_⟩⟩)
  exact fetches_bind_iff.2 (.inl ⟨_, rfl, hget⟩)

end Long

end MonitorOperator.Registry
