import MonitorOperator.Proofs.Registry.Fetches
import MonitorOperator.Proofs.Registry.RegistryHost

/-!
# Getting a place of a registry

A lookup gets a place of the registry with the authorization that it has so far. `Got` says which
requests this takes and what comes of them: the registry may challenge the first request without
authorization of a lookup, the challenge is answered (`Answered`), and the place is asked for again.
A request asks for a place and carries the authorization, and nothing else (`Repository.Asks`): the
repository of an image names no user (`userless_repositoryOf`), so no request gets an authorization
from its URL.
-/

namespace MonitorOperator.Registry

open Http (Request Response Url)

/-- The response challenges who asked. -/
def Exchange.Challenges (exchange : Exchange) : Prop :=
  ∃ response, exchange.reply = .ok response ∧ response.status = 401

/-- A response challenges by its status. -/
theorem challenges_ok_iff {request : Request} {response : Response} :
    Exchange.Challenges ⟨request, .ok response⟩ ↔ response.status = 401 := by
  simp [Exchange.Challenges]

/-- Where no response came, nothing challenges. -/
theorem not_challenges_error {request : Request} {fault : Fault} :
    ¬ Exchange.Challenges ⟨request, .error fault⟩ := by
  simp [Exchange.Challenges]

namespace Repository

/-- The request asks for a place of the registry, with an authorization or none. -/
structure Asks (repository : Repository) (authorization : Option String) (path accept : String)
    (request : Request) : Prop where
  url : repository.base.append path = .ok request.url
  method : request.method = "GET"
  accept : request.accept = accept
  authorization : request.authorization = authorization
  body : request.body = none

/-- The request asks for a token at the place that a challenge names, by the username and password
of the repository if there are any. -/
structure AsksToken (repository : Repository) (parameters : Parameters) (request : Request) :
    Prop where
  url : ∃ realm place, Keyed.get? parameters "realm" = some realm ∧
    repository.base.append realm = .ok place ∧
    place.withQuery (repository.tokenParameters parameters) = .ok request.url
  method : request.method = "GET"
  accept : request.accept = anyAccept
  authorization :
    (repository.auth = none ∧
      request.authorization = request.url.userinfoPair?.map fun pair =>
        Http.basicAuthorization pair.1 pair.2) ∨
      ∃ username password, repository.auth = some ⟨.text username, .text password⟩ ∧
        request.authorization = some (Http.basicAuthorization username password)
  body : request.body = none

end Repository

section Answer

variable {repository : Repository}

/-- `Answered repository challenge exchanges result` says that a challenge is answered by an
authorization, or not, and which requests this takes. -/
inductive Answered (repository : Repository) :
    Challenge → List Exchange → Except Fault String → Prop where
  | basic {auth : RegistryAuth} :
      repository.auth = some auth →
      Answered repository .basic []
        (.ok (Http.basicAuthorization auth.username.display auth.password.display))
  | token {parameters : Parameters} {request : Request} {response : Response} {token : String} :
      repository.AsksToken parameters request → Repository.readToken response = .ok token →
      Answered repository (.bearer parameters) [⟨request, .ok response⟩] (.ok ("Bearer " ++ token))
  | noToken {parameters : Parameters} {exchange : Exchange} {fault : Fault} :
      repository.AsksToken parameters exchange.request →
      (exchange.Challenges → fault.kind = .versionLookup) →
      Answered repository (.bearer parameters) [exchange] (.error fault)
  | unasked {challenge : Challenge} {fault : Fault} :
      Answered repository challenge [] (.error fault)

/-- The username and password of a repository are there if its credentials are, and are texts. -/
theorem basicPair_eq_ok {pair : Option (String × String)} (h : repository.basicPair = .ok pair) :
    (repository.auth = none ∧ pair = none) ∨
      ∃ username password, repository.auth = some ⟨.text username, .text password⟩ ∧
        pair = some (username, password) := by
  unfold Repository.basicPair at h
  split at h
  · next hauth =>
      cases h
      exact .inl ⟨hauth, rfl⟩
  · next username password hauth =>
      cases h
      exact .inr ⟨username, password, hauth, rfl⟩
  · cases h

/-- A request for a token asks for one. -/
theorem asksToken_of_tokenRequest {parameters : Parameters} {request : Request}
    (h : repository.tokenRequest parameters = .ok request) :
    repository.AsksToken parameters request := by
  unfold Repository.tokenRequest at h
  dsimp only at h
  by_cases hrealm : (Keyed.get? parameters "realm").getD "" = ""
  · rw [if_pos hrealm] at h
    cases h
  rw [if_neg hrealm] at h
  simp only [bind_eq_ok_iff, Repository.tokenUrl] at h
  obtain ⟨pair, hpair, url, ⟨place, hplace, hurl⟩, hrequest⟩ := h
  cases hrequest
  cases hget : Keyed.get? parameters "realm" with
  | none => simp [hget] at hrealm
  | some realm =>
      refine ⟨⟨realm, place, hget, ?_, checkUrl_eq_ok_iff.1 hurl⟩, rfl, rfl, ?_, rfl⟩
      · simpa [hget] using checkUrl_eq_ok_iff.1 hplace
      · rcases basicPair_eq_ok hpair with ⟨hauth, rfl⟩ | ⟨username, password, hauth, rfl⟩
        · refine .inl ⟨hauth, ?_⟩
          dsimp only [Http.effectiveAuthorization]
          split
          · next huser => simp [huser]
          · next huser => simp [huser]
        · exact .inr ⟨username, password, hauth, rfl⟩

/-- A challenge to a request for a token is a fault of the lookup's own class. -/
theorem readToken_kind {response : Response} {fault : Fault}
    (h : Repository.readToken response = .error fault) (hstatus : response.status = 401) :
    fault.kind = .versionLookup := by
  have hfailed : response.isSuccess = false := by
    simp [Response.isSuccess, hstatus]
  unfold Repository.readToken at h
  rw [hfailed] at h
  cases h
  rfl

/-- The answer to a challenge takes at most one request. -/
theorem answered_of_fetches {challenge : Challenge} {exchanges : List Exchange}
    {result : Except Fault String} (h : Fetches (repository.answer challenge) exchanges result) :
    Answered repository challenge exchanges result := by
  cases challenge with
  | basic =>
      unfold Repository.answer at h
      dsimp only at h
      split at h
      · next auth hauth =>
          obtain ⟨rfl, rfl⟩ := fetches_pure_iff.1 h
          exact .basic hauth
      · obtain ⟨rfl, rfl⟩ := fetches_throw_iff.1 h
        exact .unasked
  | bearer parameters =>
      unfold Repository.answer at h
      dsimp only at h
      simp only [fetches_bind_iff, fetches_lift_iff, fetches_fetch_iff, fetches_pure_iff] at h
      rcases h with ⟨fault, rfl, rfl, _⟩ | ⟨request, _, second, rfl, ⟨rfl, hrequest⟩, h⟩
      · exact .unasked
      have hasks := asksToken_of_tokenRequest hrequest
      rcases h with ⟨fault, rfl, rfl⟩ | ⟨response, _, last, rfl, rfl, h⟩
      · exact .noToken hasks fun hchallenges => absurd hchallenges not_challenges_error
      rcases h with ⟨fault, rfl, rfl, hfault⟩ | ⟨token, _, _, rfl, ⟨rfl, htoken⟩, rfl, rfl⟩
      · refine .noToken hasks fun hchallenges => ?_
        exact readToken_kind hfault (challenges_ok_iff.1 hchallenges)
      · exact .token hasks htoken
  | unknown text =>
      obtain ⟨rfl, rfl⟩ := fetches_throw_iff.1 h
      exact .unasked

/-- `Got repository path accept authorization exchanges result` says that a place is asked for with
the authorization so far, which requests this takes, and what comes of it: a response and the
authorization from then on, or a fault. -/
inductive Got (repository : Repository) (path accept : String) :
    Option String → List Exchange → Except Fault (Response × Option String) → Prop where
  | unasked {authorization : Option String} {fault : Fault} :
      Got repository path accept authorization [] (.error fault)
  | failed {authorization : Option String} {request : Request} {fault : Fault} :
      repository.Asks authorization path accept request →
      Got repository path accept authorization [⟨request, .error fault⟩] (.error fault)
  | refused {authorization : Option String} {request : Request} {response : Response} :
      repository.Asks authorization path accept request → response.isSuccess = false →
      (response.status = 401 → authorization ≠ none) →
      Got repository path accept authorization [⟨request, .ok response⟩]
        (.error (.registry (.status response.status path)))
  | accepted {authorization : Option String} {request : Request} {response : Response} :
      repository.Asks authorization path accept request → response.isSuccess = true →
      Got repository path accept authorization [⟨request, .ok response⟩]
        (.ok (response, authorization))
  | unanswered {request : Request} {response : Response} {answering : List Exchange}
      {fault : Fault} :
      repository.Asks none path accept request → response.status = 401 →
      Answered repository (.read (response.header "WWW-Authenticate")) answering (.error fault) →
      Got repository path accept none (⟨request, .ok response⟩ :: answering) (.error fault)
  | repeated {request : Request} {response : Response} {answering again : List Exchange}
      {authorization : String} {result : Except Fault (Response × Option String)} :
      repository.Asks none path accept request → response.status = 401 →
      Answered repository (.read (response.header "WWW-Authenticate")) answering
        (.ok authorization) →
      Got repository path accept (some authorization) again result →
      Got repository path accept none (⟨request, .ok response⟩ :: (answering ++ again)) result

/-- The value of a header is not changed by the check. -/
theorem checkHeader_eq_ok {value checked : String} (h : Http.checkHeader value = .ok checked) :
    checked = value := by
  unfold Http.checkHeader at h
  split at h
  · exact (Except.ok.inj h).symm
  · cases h

/-- A request for a place below the registry's host asks for it. -/
theorem asks_of_request {authorization : Option String} {path accept : String} {request : Request}
    (hbase : repository.base.Userless)
    (h : repository.request authorization ("/" ++ path) accept = .ok request) :
    repository.Asks authorization ("/" ++ path) accept request := by
  unfold Repository.request at h
  simp only [bind_eq_ok_iff] at h
  obtain ⟨url, hurl, asked, hasked, hrequest⟩ := h
  cases hrequest
  rw [checkUrl_eq_ok_iff] at hurl
  have hsame : asked = authorization := by
    cases authorization with
    | none => exact (Except.ok.inj hasked).symm
    | some value =>
        obtain ⟨checked, hchecked, hsome⟩ := bind_eq_ok_iff.1 hasked
        rw [← Except.ok.inj hsome, checkHeader_eq_ok hchecked]
  refine ⟨hurl, rfl, rfl, ?_, rfl⟩
  rw [(hbase.append hurl).effectiveAuthorization_eq, hsame]

/-- The authorization of a request for a place is the one that it is made with. -/
theorem request_some_eq {path accept value : String} {request : Request}
    (hbase : repository.base.Userless) (hvalue : Http.checkHeader value = .ok value)
    (h : repository.request none ("/" ++ path) accept = .ok request) :
    repository.request (some value) ("/" ++ path) accept =
      .ok { request with authorization := some value } := by
  unfold Repository.request at h ⊢
  simp only [bind_eq_ok_iff] at h
  obtain ⟨url, hurl, asked, hasked, hrequest⟩ := h
  cases hasked
  cases hrequest
  have huserless := hbase.append (checkUrl_eq_ok_iff.1 hurl)
  have hchecked : (some value).mapM Http.checkHeader = .ok (some value) := by
    simp [Option.mapM_some, hvalue]
  simp only [hurl, hchecked, bind, Except.bind, huserless.effectiveAuthorization_eq]
  rfl

/-- A response is checked, and the authorization handed on. -/
theorem fetches_checked_iff {authorization : Option String} {path : String} {response : Response}
    {exchanges : List Exchange} {result : Except Fault (Response × Option String)} :
    Fetches (do return (← liftM (Repository.checked path response), authorization)) exchanges
        result ↔
      exchanges = [] ∧ result = (Repository.checked path response).map (·, authorization) := by
  rw [fetches_bind_iff]
  cases Repository.checked path response with
  | ok response => simp [Except.map, @eq_comm _ result]
  | error fault => simp [Except.map, and_comm]

/-- A response that is no challenge, or that was asked for with an authorization, is checked. -/
theorem got_of_checked {authorization : Option String} {path accept : String} {request : Request}
    {response : Response} (hasks : repository.Asks authorization path accept request)
    (hanswer : response.status = 401 → authorization ≠ none) :
    Got repository path accept authorization [⟨request, .ok response⟩]
      ((Repository.checked path response).map (·, authorization)) := by
  unfold Repository.checked
  split
  · next hsuccess => exact .accepted hasks hsuccess
  · next hfailed => exact .refused hasks (by simpa using hfailed) hanswer

/-- Asking for a place may fail before or after the request; otherwise there is a response to go on
from. -/
theorem asked_of_fetches {α : Type} {authorization : Option String} {path accept : String}
    {rest : Response → Task registry α} {exchanges : List Exchange} {result : Except Fault α}
    (hbase : repository.base.Userless)
    (h : Fetches
      (do rest (← fetch (← liftM (repository.request authorization ("/" ++ path) accept))))
      exchanges result) :
    (∃ fault, result = .error fault ∧ (exchanges = [] ∨
      ∃ request, repository.Asks authorization ("/" ++ path) accept request ∧
        exchanges = [⟨request, .error fault⟩])) ∨
      ∃ request response later, repository.Asks authorization ("/" ++ path) accept request ∧
        exchanges = ⟨request, .ok response⟩ :: later ∧ Fetches (rest response) later result := by
  rcases fetches_bind_iff.1 h with
    ⟨fault, rfl, hrequest⟩ | ⟨request, none, second, rfl, hrequest, hfetch⟩
  · obtain ⟨rfl, _⟩ := fetches_lift_iff.1 hrequest
    exact .inl ⟨fault, rfl, .inl rfl⟩
  obtain ⟨rfl, hasked⟩ := fetches_lift_iff.1 hrequest
  have hasks := asks_of_request hbase hasked
  rcases fetches_bind_iff.1 hfetch with
    ⟨fault, rfl, hfailed⟩ | ⟨response, one, later, rfl, hfetched, hrest⟩
  · obtain rfl := fetches_fetch_iff.1 hfailed
    exact .inl ⟨fault, rfl, .inr ⟨request, hasks, rfl⟩⟩
  · obtain rfl := fetches_fetch_iff.1 hfetched
    exact .inr ⟨request, response, later, hasks, rfl, hrest⟩

/-- Asking for a place with an authorization takes one request. -/
theorem got_of_fetches_some {authorization path accept : String} {exchanges : List Exchange}
    {result : Except Fault (Response × Option String)} (hbase : repository.base.Userless)
    (h : Fetches
      (do
        let response ← fetch (← liftM (repository.request (some authorization) ("/" ++ path) accept))
        return (← liftM (Repository.checked ("/" ++ path) response), some authorization))
      exchanges result) :
    Got repository ("/" ++ path) accept (some authorization) exchanges result := by
  rcases asked_of_fetches hbase h with
    ⟨fault, rfl, rfl | ⟨request, hasks, rfl⟩⟩ | ⟨request, response, later, hasks, rfl, hchecked⟩
  · exact .unasked
  · exact .failed hasks
  · obtain ⟨rfl, rfl⟩ := fetches_checked_iff.1 hchecked
    exact got_of_checked hasks fun _ => Option.some_ne_none authorization

/-- Getting a place below the registry's host takes the requests that it should. -/
theorem got_of_fetches {authorization : Option String} {path accept : String}
    {exchanges : List Exchange} {result : Except Fault (Response × Option String)}
    (hbase : repository.base.Userless) (hroot : ∃ below, path = "/" ++ below)
    (h : Fetches (repository.get authorization path accept) exchanges result) :
    Got repository path accept authorization exchanges result := by
  obtain ⟨below, rfl⟩ := hroot
  rcases asked_of_fetches hbase h with
    ⟨fault, rfl, rfl | ⟨request, hasks, rfl⟩⟩ | ⟨request, response, later, hasks, rfl, hrest⟩
  · exact .unasked
  · exact .failed hasks
  by_cases hchallenge : response.status = 401 ∧ authorization = none
  · obtain ⟨hstatus, rfl⟩ := hchallenge
    rw [if_pos (by simp [hstatus])] at hrest
    rcases fetches_bind_iff.1 hrest with
      ⟨fault, rfl, hanswer⟩ | ⟨value, answering, again, rfl, hanswer, hagain⟩
    · exact .unanswered hasks hstatus (answered_of_fetches hanswer)
    · exact .repeated hasks hstatus (answered_of_fetches hanswer) (got_of_fetches_some hbase hagain)
  · rw [if_neg (by simpa using hchallenge)] at hrest
    obtain ⟨rfl, rfl⟩ := fetches_checked_iff.1 hrest
    exact got_of_checked hasks fun hstatus hnone => hchallenge ⟨hstatus, hnone⟩

/-- The path of a manifest begins at the root. -/
theorem exists_manifestPath_eq (repository : Repository) (reference : String) :
    ∃ below, repository.manifestPath reference = "/" ++ below := by
  refine ⟨"v2/" ++ repository.image.repository ++ "/manifests/" ++ reference, ?_⟩
  show "/v2/" ++ repository.image.repository ++ "/manifests/" ++ reference = _
  rw [show "/v2/" = "/" ++ "v2/" from rfl]
  simp only [String.append_assoc]

/-- The path of a blob begins at the root. -/
theorem exists_blobPath_eq (repository : Repository) (digest : String) :
    ∃ below, repository.blobPath digest = "/" ++ below := by
  refine ⟨"v2/" ++ repository.image.repository ++ "/blobs/" ++ digest, ?_⟩
  show "/v2/" ++ repository.image.repository ++ "/blobs/" ++ digest = _
  rw [show "/v2/" = "/" ++ "v2/" from rfl]
  simp only [String.append_assoc]

end Answer

end MonitorOperator.Registry
