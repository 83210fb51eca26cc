import MonitorOperator.Proofs.Http.QueryPairs
import MonitorOperator.Proofs.Registry.ChallengeText
import MonitorOperator.Proofs.Registry.Session

/-!
# Asking for a token

A bearer challenge that names a realm is answered by asking for a token there. The names and values
of the query are the other parameters of the challenge, each once with its last value, and the scope
of the repository if the challenge gives none (`Repository.askedWith`). This is what the request is
made of (`Repository.Wants.exists_tokenRequest`), unless some part of its URL is longer than a URL may
be: then there is no request (`Repository.IsChallenged.tokenRequest_eq`).
-/

namespace MonitorOperator.Registry

open Http (Request Response Url)
open Challenge (IsBearer IsPlain)

/-- The text is an absolute HTTPS URL without a user, a query or a fragment. -/
structure IsRealm (realm : String) (place : Url) : Prop where
  parse : Url.parse realm = .ok place
  scheme : place.scheme = "https"
  host : place.host ≠ ""
  userinfo : place.userinfo = ""
  query : place.query = none
  fragment : place.fragment = none

/-- The answer gives a token: an object with a text under `token`, or under `access_token` if nothing
counts as present there. -/
structure GivesToken (answer : Response) (token : String) : Prop where
  isSuccess : answer.isSuccess = true
  token_ne : token ≠ ""
  ascii : ∀ character ∈ token.toList, character.toNat < 128
  document : ∃ fields, answer.document = .ok (.object fields) ∧
    (Fields.get? fields (.text "token") = some (.text token) ∨
      ((Fields.get? fields (.text "token")).getD .null).truthy = false ∧
        Fields.get? fields (.text "access_token") = some (.text token))

namespace Repository

variable (repository : Repository)

/-- There are no credentials for the registry, or a username and a password that are texts. -/
def HasTextCredentials : Prop :=
  repository.auth = none ∨
    ∃ username password, repository.auth = some ⟨.text username, .text password⟩

/-- The names and values that a token is asked for with. -/
def askedWith (parameters : List (String × String)) : List (String × String) :=
  (Keyed.lastValues parameters).filter (·.1 != "realm") ++
    if "scope" ∈ parameters.map (·.1) then [] else [("scope", repository.scope)]

/-- The request asks for a token at a place, with the names and values that it should have, and by
username and password exactly if there are any. -/
structure AsksExactly (parameters : List (String × String)) (place : Url) (request : Request) :
    Prop where
  method : request.method = "GET"
  place : { request.url with query := none } = place
  query : request.url.queryPairs = repository.askedWith parameters
  anonymous : repository.auth = none → request.authorization = none
  authorization : ∀ username password,
    repository.auth = some ⟨.text username, .text password⟩ →
      request.authorization = some (Http.basicAuthorization username password)
  body : request.body = none

/-- The response is a bearer challenge that names a realm, and the credentials for the registry are
texts if there are any. -/
structure IsChallenged (response : Response) (parameters : List (String × String)) (place : Url) :
    Prop where
  status : response.status = 401
  bearer : IsBearer parameters (response.header "WWW-Authenticate")
  realm : ∃ realm, Keyed.get? parameters.reverse "realm" = some realm ∧ IsRealm realm place
  credentials : repository.HasTextCredentials

/-- A token can be asked for: no part of the URL is longer than a URL may be. -/
structure Wants (response : Response) (parameters : List (String × String)) (place : Url) : Prop
    extends IsChallenged repository response parameters place where
  fits : (place.queried (repository.askedWith parameters)).Fits

variable {repository}

/-- What is handed on of the parameters is what a token is asked for with. -/
theorem tokenParameters_ofList (parameters : List (String × String)) :
    repository.tokenParameters (Keyed.ofList parameters) = repository.askedWith parameters := by
  have hscope : (Keyed.get? (Keyed.remove (Keyed.ofList parameters) "realm") "scope").isSome = true ↔
      "scope" ∈ parameters.map (·.1) := by
    rw [Keyed.get?_remove (by decide), Keyed.get?_ofList, ← Option.ne_none_iff_isSome, ne_eq,
      Keyed.get?_eq_none_iff, not_not, List.map_reverse, List.mem_reverse]
  rw [Keyed.ofList_eq_lastValues] at hscope ⊢
  unfold tokenParameters askedWith Parameters.withDefault
  by_cases hgiven : "scope" ∈ parameters.map (·.1)
  · rw [if_pos (hscope.2 hgiven), if_pos hgiven, List.append_nil]
    rfl
  · rw [if_neg (hscope.not.2 hgiven), if_neg hgiven]
    rfl

/-- A token is never asked for with nothing. -/
theorem askedWith_ne_nil (parameters : List (String × String)) :
    repository.askedWith parameters ≠ [] := by
  rw [← tokenParameters_ofList]
  unfold tokenParameters Parameters.withDefault
  split
  · next hscope =>
      intro hnil
      rw [hnil] at hscope
      cases hscope
  · simp

/-- The URL of a realm with what a token is asked for with. -/
theorem tokenUrl_eq {realm : String} {place : Url} (hrealm : IsRealm realm place)
    (parameters : List (String × String)) :
    repository.tokenUrl realm (Keyed.ofList parameters) =
      Http.checkUrl (place.withQuery (repository.askedWith parameters)) := by
  have habsolute : place.isAbsolute = true := by
    simp [Url.isAbsolute, hrealm.scheme, hrealm.host]
  have happend : repository.base.append realm = .ok place := by
    unfold Url.append
    rw [hrealm.parse]
    exact if_pos habsolute
  unfold tokenUrl
  rw [happend, tokenParameters_ofList]
  rfl

/-- The request for a token at a realm, with credentials that are texts. -/
theorem tokenRequest_eq {parameters : List (String × String)} {realm : String} {place : Url}
    {pair : Option (String × String)}
    (hlast : Keyed.get? parameters.reverse "realm" = some realm) (hrealm : IsRealm realm place)
    (hpair : repository.basicPair = .ok pair) :
    repository.tokenRequest (Keyed.ofList parameters) =
      (Http.checkUrl (place.withQuery (repository.askedWith parameters))).map fun url =>
        { url, authorization := Http.effectiveAuthorization url pair none } := by
  have hne : realm ≠ "" := by
    rintro rfl
    have hempty : Url.parse "" = .ok {} := rfl
    have hplace := Except.ok.inj (hempty.symm.trans hrealm.parse)
    have hscheme := hrealm.scheme
    rw [← hplace] at hscheme
    exact absurd hscheme (by decide)
  unfold tokenRequest
  rw [Keyed.get?_ofList, hlast]
  dsimp only [Option.getD_some]
  rw [if_neg hne, hpair]
  show (do
    let url ← repository.tokenUrl realm _
    _) = _
  rw [tokenUrl_eq hrealm]
  cases Http.checkUrl (place.withQuery (repository.askedWith parameters)) <;> rfl

/-- No token is asked for where some part of the URL would be too long. -/
theorem IsChallenged.tokenRequest_eq {response : Response} {parameters : List (String × String)}
    {place : Url} (h : repository.IsChallenged response parameters place)
    (hlong : ¬ (place.queried (repository.askedWith parameters)).Fits) :
    repository.tokenRequest (Keyed.ofList parameters) = .error Http.malformedUrl := by
  obtain ⟨realm, hlast, hrealm⟩ := h.realm
  have hpair : ∃ pair, repository.basicPair = .ok pair := by
    unfold basicPair
    rcases h.credentials with hauth | ⟨username, password, hauth⟩
    · exact ⟨none, by rw [hauth]⟩
    · exact ⟨some (username, password), by rw [hauth]⟩
  obtain ⟨pair, hpair⟩ := hpair
  rw [Repository.tokenRequest_eq hlast hrealm hpair,
    Url.withQuery_of_not_fits hlong (askedWith_ne_nil parameters)]
  rfl

/-- The request for the token that a challenge wants. -/
theorem Wants.exists_tokenRequest {response : Response} {parameters : List (String × String)}
    {place : Url} (h : repository.Wants response parameters place) :
    ∃ asked, repository.tokenRequest (Keyed.ofList parameters) = .ok asked ∧
      repository.AsksExactly parameters place asked := by
  obtain ⟨realm, hlast, hrealm⟩ := h.realm
  have hurl := h.fits.withQuery_eq (askedWith_ne_nil parameters)
  have hplace : { place.queried (repository.askedWith parameters) with query := none } = place := by
    unfold Url.queried
    rw [← hrealm.query]
  have hquery := place.queryPairs_queried (repository.askedWith_ne_nil parameters)
  have huser : (place.queried (repository.askedWith parameters)).userinfoPair? = none :=
    if_pos hrealm.userinfo
  rcases h.credentials with hauth | ⟨username, password, hauth⟩
  · have hpair : repository.basicPair = .ok none := by
      unfold basicPair
      rw [hauth]
    refine ⟨{ url := place.queried (repository.askedWith parameters) }, ?_, rfl, hplace, hquery,
      fun _ => rfl, ?_, rfl⟩
    · rw [tokenRequest_eq hlast hrealm hpair, hurl]
      show Except.ok (Request.mk _ _ (Http.effectiveAuthorization _ none none) _ _) = _
      unfold Http.effectiveAuthorization
      rw [huser]
    · intro username password hsome
      cases hauth.symm.trans hsome
  · have hpair : repository.basicPair = .ok (some (username, password)) := by
      unfold basicPair
      rw [hauth]
    refine ⟨
      { url := place.queried (repository.askedWith parameters)
        authorization := some (Http.basicAuthorization username password) },
      ?_, rfl, hplace, hquery, fun hnone => ?_, ?_, rfl⟩
    · rw [tokenRequest_eq hlast hrealm hpair, hurl]
      rfl
    · cases hauth.symm.trans hnone
    · intro other word hsome
      cases hauth.symm.trans hsome
      rfl

end Repository

/-- A token that is given is read. -/
theorem GivesToken.readToken_eq {answer : Response} {token : String} (h : GivesToken answer token) :
    Repository.readToken answer = .ok token := by
  obtain ⟨fields, hdocument, htoken⟩ := h.document
  have hpresent : (Document.text token).truthy = true := bne_iff_ne.2 h.token_ne
  have hfound : ((Fields.get? fields (.text "token")).getD .null).orElse
      ((Fields.get? fields (.text "access_token")).getD .null) = .text token := by
    rcases htoken with hfirst | ⟨habsent, hsecond⟩
    · rw [hfirst]
      exact if_pos hpresent
    · rw [hsecond]
      exact if_neg (by simp [habsent])
  unfold Repository.readToken
  rw [h.isSuccess, hdocument]
  show (do
    let first ← (Document.object fields).lookupOrNull "token"
    let second ← (Document.object fields).lookupOrNull "access_token"
    if (first.orElse second).truthy then pure (first.orElse second).display else _) = _
  rw [Document.lookupOrNull_object, Document.lookupOrNull_object]
  show (if (Document.orElse _ _).truthy then pure (Document.orElse _ _).display else _) = _
  rw [hfound, if_pos hpresent]
  rfl

/-- A token that is given may stand in a header. -/
theorem GivesToken.checkHeader_eq {answer : Response} {token : String} (h : GivesToken answer token) :
    Http.checkHeader ("Bearer " ++ token) = .ok ("Bearer " ++ token) := by
  have hall : ("Bearer " ++ token).toList.all (fun character => character.toNat < 128) = true := by
    rw [String.toList_append, List.all_append, Bool.and_eq_true]
    exact ⟨rfl, List.all_eq_true.2 fun character hmem => decide_eq_true (h.ascii character hmem)⟩
  exact if_pos hall

end MonitorOperator.Registry
