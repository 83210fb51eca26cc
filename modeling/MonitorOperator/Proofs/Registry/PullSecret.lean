import MonitorOperator.Proofs.Registry.SessionDiscipline
import MonitorOperator.Proofs.Registry.StoredCredentials
import MonitorOperator.Proofs.Text.Base64
import MonitorOperator.Proofs.Text.Utf8

/-!
# Two spellings of a pull secret

An entry of a docker config holds a username and a password apart, or both in one text, which is the
one that a request is authorized by. The colon between the two is the first one, so a username without
a colon and any password are read back from it (`Credentials.decodeAuth_encoded`). Which spelling a
config has makes no difference to its credentials, nor to the basic authorization that a lookup sends
with them (`Credentials.spelled_alike`).
-/

namespace MonitorOperator

namespace Credentials

/-- An entry with the username and the password in one text. -/
def encodedEntry (token : String) : Document :=
  .ofFields [("auth", .text token)]

/-- An entry with the username and the password apart. -/
def plainEntry (username password : String) : Document :=
  .ofFields [("username", .text username), ("password", .text password)]

section Entry

variable {username password token : String}

/-- The text that a request is authorized by is the pair in Base64. -/
theorem token_eq (htoken : Http.basicAuthorization username password = "Basic " ++ token) :
    token = String.ofList
      (Text.Base64.encode (Text.Utf8.encode (username ++ ":" ++ password))) :=
  ((String.append_right_inj "Basic ").1 htoken).symm

/-- The pair is read back from the text that a request is authorized by. -/
theorem decodeAuth_encoded (husername : ':' ∉ username.toList)
    (htoken : Http.basicAuthorization username password = "Basic " ++ token) (server : String) :
    decodeAuth server (.text token) = .ok ⟨.text username, .text password⟩ := by
  let bytes := Text.Utf8.encode (username ++ ":" ++ password)
  have hcharacters : token.toList = Text.Base64.encode bytes := by
    rw [token_eq htoken, String.toList_ofList]
  have hascii : ¬ (token.toList.any fun character => 128 ≤ character.toNat) = true := by
    rw [hcharacters]
    simpa using Text.Base64.toNat_lt_of_mem_encode bytes
  have hpair : (username ++ ":" ++ password).toList =
      username.toList ++ ':' :: password.toList := by
    simp
  unfold decodeAuth
  dsimp only
  rw [if_neg hascii, hcharacters, Text.Base64.decode?_encode]
  dsimp only
  rw [Text.Utf8.read?_encode]
  dsimp only
  rw [hpair, Text.cutAt_mark husername]
  simp only [String.ofList_toList]

/-- The text that a request is authorized by is not empty, as it holds the colon at least. -/
theorem token_ne_empty (htoken : Http.basicAuthorization username password = "Basic " ++ token) :
    token ≠ "" := by
  let pair := username ++ ":" ++ password
  rintro rfl
  have hnone : Text.Base64.encode (Text.Utf8.encode pair) = [] :=
    String.ofList_eq_empty_iff.1 (token_eq htoken).symm
  have hbytes : some [] = some (Text.Utf8.encode pair) := by
    rw [← Text.Base64.decode?_encode (Text.Utf8.encode pair), hnone]
    rfl
  have hpair : some "" = some pair := by
    rw [← Text.Utf8.read?_encode pair, ← Option.some.inj hbytes]
    rfl
  simp [pair] at hpair

/-- An entry with the pair in one text is read as the pair. -/
theorem readEntry_encoded (husername : ':' ∉ username.toList)
    (htoken : Http.basicAuthorization username password = "Basic " ++ token) (server : String) :
    readEntry server (encodedEntry token) = .ok ⟨.text username, .text password⟩ := by
  have hpresent : (Document.text token).truthy = true := by
    simpa [Document.truthy, Scalar.truthy] using token_ne_empty htoken
  have hread : readEntry server (encodedEntry token) =
      if (Document.text token).truthy then decodeAuth server (.text token)
      else .ok ⟨.text "", .text ""⟩ := rfl
  rw [hread, if_pos hpresent, decodeAuth_encoded husername htoken]

/-- An entry with the username and the password apart is read as the pair. -/
theorem readEntry_plain (server username password : String) :
    readEntry server (plainEntry username password) = .ok ⟨.text username, .text password⟩ := by
  have hread : readEntry server (plainEntry username password) =
      if (Document.text username).truthy then .ok ⟨.text username, .text password⟩
      else .ok ⟨.text username, .text password⟩ := rfl
  rw [hread, ite_self]

end Entry

/-- Entries are read in their order. -/
theorem readEntries_append (entries : Keyed RegistryAuth) (before rest : Fields) :
    readEntries entries (before ++ rest) =
      readEntries entries before >>= fun found => readEntries found rest := by
  induction before generalizing entries with
  | nil => rfl
  | cons field before ih =>
      rw [List.cons_append, readEntries, readEntries, bind_assoc]
      exact bind_congr fun auth => ih _

/-- Entries for other hosts leave the credentials for a host as they are. -/
theorem get?_readEntries_of_forall {fields : Fields} {entries result : Keyed RegistryAuth}
    {host : String} (h : readEntries entries fields = .ok result)
    (hother : ∀ field ∈ fields, normalizeHost field.1.display ≠ host) :
    Keyed.get? result host = Keyed.get? entries host := by
  rcases get?_readEntries h host with ⟨server, entry, _, hlast, _⟩ | ⟨_, hget⟩
  · have hmem := hlast.mem
    obtain ⟨_, _, _, hserver, _⟩ := hlast
    exact absurd hserver (hother (server, entry) hmem)
  · exact hget

/-- An entry that no later one overrides gives the credentials for its host. -/
theorem forRegistry_of_readEntry {before after : Fields} {server : Scalar} {entry : Document}
    {auth : RegistryAuth} {config : DockerConfig} {credentials : Credentials}
    (hlists : Lists config (before ++ (server, entry) :: after))
    (hconfig : ofDockerConfig config = .ok credentials)
    (hentry : readEntry server.display entry = .ok auth)
    (hafter : ∀ field ∈ after, normalizeHost field.1.display ≠ normalizeHost server.display) :
    credentials.forRegistry (normalizeHost server.display) = some auth := by
  have hread := (ofDockerConfig_eq_ok_iff hlists).1 hconfig
  rw [readEntries_append] at hread
  obtain ⟨found, _, hrest⟩ := bind_eq_ok_iff.1 hread
  rw [readEntries, hentry] at hrest
  have hget : Keyed.get? credentials.entries (normalizeHost server.display) = some auth := by
    rw [get?_readEntries_of_forall hrest hafter, Keyed.get?_put, if_pos rfl]
  rw [forRegistry_eq_select, select, hget]

/-- Docker configs give the same credentials if they differ in one entry that reads alike. -/
theorem ofDockerConfig_congr {before after : Fields} {server : Scalar} {entry other : Document}
    {config changed : DockerConfig} (hlists : Lists config (before ++ (server, entry) :: after))
    (hchanged : Lists changed (before ++ (server, other) :: after))
    (hread : readEntry server.display entry = readEntry server.display other) :
    ofDockerConfig config = ofDockerConfig changed := by
  rw [ofDockerConfig_of_lists hlists, ofDockerConfig_of_lists hchanged, readEntries_append,
    readEntries_append]
  simp only [readEntries, hread]

/-- An entry of a docker config that has a pair in one text is read like one that has it apart. -/
structure ReadAlike (server username password token : String) : Prop where
  /-- As the only entry, it gives the pair for the host of its server. -/
  alone : ∀ config, Lists config [(.text server, encodedEntry token)] →
    ofDockerConfig config =
      .ok ⟨[(normalizeHost server, ⟨.text username, .text password⟩)]⟩
  /-- Among others, it gives the pair for the host if no later entry is for this host. -/
  found : ∀ before after config credentials,
    Lists config (before ++ (.text server, encodedEntry token) :: after) →
    ofDockerConfig config = .ok credentials →
    (∀ field ∈ after, normalizeHost field.1.display ≠ normalizeHost server) →
    credentials.forRegistry (normalizeHost server) = some ⟨.text username, .text password⟩
  /-- The credentials are those of a config that has the pair apart in its place. -/
  same : ∀ before after encoded plain,
    Lists encoded (before ++ (.text server, encodedEntry token) :: after) →
    Lists plain (before ++ (.text server, plainEntry username password) :: after) →
    ofDockerConfig encoded = ofDockerConfig plain

/-- The two spellings of a pair are read alike. -/
theorem readAlike_of_token {username password token : String} (husername : ':' ∉ username.toList)
    (htoken : Http.basicAuthorization username password = "Basic " ++ token) (server : String) :
    ReadAlike server username password token where
  alone := by
    intro config hlists
    have hentry := readEntry_encoded husername htoken server
    refine (ofDockerConfig_eq_ok_iff hlists).2 ?_
    simp only [readEntries, Scalar.display, hentry]
    rfl
  found := by
    intro before after config credentials hlists hconfig hafter
    have hentry := readEntry_encoded husername htoken server
    have hfound := forRegistry_of_readEntry hlists hconfig hentry hafter
    exact hfound
  same := by
    intro before after encoded plain hencoded hplain
    have hentry := readEntry_encoded husername htoken server
    exact ofDockerConfig_congr hencoded hplain
      (hentry.trans (readEntry_plain server username password).symm)

end Credentials

namespace Registry

/-- The authorization of a request, if there is one, is a basic one or a token. -/
inductive AuthorizedBy (basic : String) : Option String → Prop where
  | nothing : AuthorizedBy basic none
  | basic : AuthorizedBy basic (some basic)
  | token (token : String) : AuthorizedBy basic (some ("Bearer " ++ token))

section Sending

variable {repository : Repository} {username password : String}

/-- A token is asked for by the username and password of the repository. -/
theorem Repository.AsksToken.authorization_eq {parameters : Parameters} {request : Http.Request}
    (h : repository.AsksToken parameters request)
    (hauth : repository.auth = some ⟨.text username, .text password⟩) :
    request.authorization = some (Http.basicAuthorization username password) := by
  rcases h.authorization with ⟨hnone, _⟩ | ⟨other, another, hsome, hrequest⟩
  · rw [hauth] at hnone
    cases hnone
  · rw [hauth] at hsome
    cases hsome
    exact hrequest

/-- A challenge is answered by the username and password of the repository or by a token, and a
request for a token is made with the former. -/
theorem Answered.authorizedBy {challenge : Challenge} {exchanges : List Exchange}
    {answer : Except Fault String} (h : Answered repository challenge exchanges answer)
    (hauth : repository.auth = some ⟨.text username, .text password⟩) :
    (∀ exchange ∈ exchanges,
        AuthorizedBy (Http.basicAuthorization username password) exchange.request.authorization) ∧
      ∀ authorization, answer = .ok authorization →
        AuthorizedBy (Http.basicAuthorization username password) (some authorization) := by
  have hasked {parameters : Parameters} {exchange : Exchange}
      (hasks : repository.AsksToken parameters exchange.request) :
      ∀ other ∈ [exchange], AuthorizedBy (Http.basicAuthorization username password)
        other.request.authorization := by
    intro other hmem
    rw [List.mem_singleton.1 hmem, hasks.authorization_eq hauth]
    exact .basic
  cases h with
  | basic hsome =>
      rw [hauth] at hsome
      cases hsome
      refine ⟨List.forall_mem_nil _, fun authorization hanswer => ?_⟩
      cases hanswer
      exact .basic
  | token hasks =>
      refine ⟨hasked hasks, fun authorization hanswer => ?_⟩
      cases hanswer
      exact .token _
  | noToken hasks => exact ⟨hasked hasks, nofun⟩
  | unasked => exact ⟨List.forall_mem_nil _, nofun⟩

/-- A disciplined lookup authorizes its requests by the username and password of the repository or by
a token. -/
theorem Inquiry.Disciplined.authorizedBy {α : Type} {inquiry : Inquiry} {exchanges : List Exchange}
    {result : Except Fault α} (h : inquiry.Disciplined repository result exchanges)
    (hauth : repository.auth = some ⟨.text username, .text password⟩) :
    ∀ exchange ∈ exchanges,
      AuthorizedBy (Http.basicAuthorization username password) exchange.request.authorization := by
  have hasked {authorization : Option String} {exchange : Exchange}
      (hasks : inquiry.Asks repository authorization exchange)
      (hauthorized : AuthorizedBy (Http.basicAuthorization username password) authorization) :
      AuthorizedBy (Http.basicAuthorization username password)
        exchange.request.authorization := by
    obtain ⟨_, _, _, hasks⟩ := hasks
    rwa [hasks.authorization]
  intro exchange hmem
  cases h with
  | unchallenged hopening => exact hasked (hopening exchange hmem).1 .nothing
  | unanswered hopening hchallenged _ hanswered =>
      obtain ⟨hanswering, _⟩ := hanswered.authorizedBy hauth
      simp only [List.mem_append, List.mem_cons] at hmem
      rcases hmem with hmem | rfl | hmem
      · exact hasked (hopening exchange hmem).1 .nothing
      · exact hasked hchallenged .nothing
      · exact hanswering exchange hmem
  | answered hopening hchallenged _ hanswered hlater =>
      obtain ⟨hanswering, hanswer⟩ := hanswered.authorizedBy hauth
      simp only [List.mem_append, List.mem_cons] at hmem
      rcases hmem with hmem | rfl | hmem | hmem
      · exact hasked (hopening exchange hmem).1 .nothing
      · exact hasked hchallenged .nothing
      · exact hanswering exchange hmem
      · exact hasked (hlater.asks exchange hmem) (hanswer _ rfl)

/-- The responses to fetches were received. -/
theorem Inquiry.ConsistsOf.receivedIn {inquiry : Inquiry} {fetches : List Fetch}
    (h : inquiry.ConsistsOf fetches) : inquiry.ReceivedIn (fetches.map (·.toExchange)) := by
  intro exchange hmem response hreply
  obtain ⟨fetch, hfetch, rfl⟩ := List.mem_map.1 hmem
  exact h.received hfetch hreply

/-- The repository of an image has the credentials for its registry. -/
theorem auth_of_repositoryOf {reference : ImageReference} {credentials : Option Credentials}
    (h : repositoryOf reference credentials = .ok repository) :
    repository.auth =
      credentials.bind fun credentials => credentials.forRegistry reference.registry := by
  obtain ⟨_, _, hbase⟩ := bind_eq_ok_iff.1 h
  obtain ⟨_, _, hrepository⟩ := bind_eq_ok_iff.1 hbase
  cases hrepository
  rfl

/-- Whatever the world answers, a lookup with a username and password for the registry authorizes
its requests by these or by a token. -/
theorem sent_authorizedBy {σ : Type} (settings : LookupSettings) {text : String}
    {image : ImageReference} {credentials : Credentials}
    (himage : ImageReference.parse? text = some image)
    (hauth : credentials.forRegistry image.registry = some ⟨.text username, .text password⟩)
    (world : (request : system.Request) → StateM σ (system.Reply request)) (start : σ) :
    ∀ exchange ∈ (inquiryIn settings (.text text) (some credentials) world start).sent,
      AuthorizedBy (Http.basicAuthorization username password) exchange.request.authorization := by
  obtain ⟨fetches, hconsists, hfetches⟩ :=
    exists_fetches settings (.text text) (some credentials) world start
  intro exchange hmem
  rw [hconsists.sent] at hmem
  obtain ⟨fetch, hfetch, hhop⟩ := List.mem_flatMap.1 hmem
  have hauthorized : AuthorizedBy (Http.basicAuthorization username password)
      fetch.request.authorization := by
    rcases lookup_conducts hconsists.receivedIn hfetches with
      hnone | ⟨repository, ⟨reference, hreference, hrepository⟩, hsession⟩
    · simp [List.map_eq_nil_iff.1 hnone] at hfetch
    · obtain ⟨_, hdisciplined⟩ := hsession.disciplined
      obtain ⟨_, htext, hparse⟩ := exists_text_of_readReference hreference
      cases htext
      cases himage.symm.trans hparse
      exact hdisciplined.authorizedBy ((auth_of_repositoryOf hrepository).trans hauth) _
        (List.mem_map_of_mem hfetch)
  -- Redirects keep the authorization of a fetch or drop it.
  rcases (hconsists.followed fetch hfetch).carries exchange hhop with hnone | hsame
  · rw [hnone]
    exact .nothing
  · rwa [hsame]

/-- A username and password are sent as one basic authorization. -/
structure SentAs (username password authorization : String) : Prop where
  /-- A basic challenge is answered by it. -/
  answered : ∀ repository : Repository,
    repository.auth = some ⟨.text username, .text password⟩ →
    repository.answer .basic = pure authorization
  /-- A token is asked for with it. -/
  asked : ∀ (repository : Repository) (parameters : Parameters) (request : Http.Request),
    repository.auth = some ⟨.text username, .text password⟩ →
    repository.tokenRequest parameters = .ok request → request.authorization = some authorization
  /-- Whatever the world answers, no lookup sends another one that is no token. -/
  sent : ∀ {σ : Type} (settings : LookupSettings) (text : String) (image : ImageReference)
    (credentials : Credentials)
    (world : (request : system.Request) → StateM σ (system.Reply request)) (start : σ),
    ImageReference.parse? text = some image →
    credentials.forRegistry image.registry = some ⟨.text username, .text password⟩ →
    ∀ exchange ∈ (inquiryIn settings (.text text) (some credentials) world start).sent,
      AuthorizedBy authorization exchange.request.authorization

/-- A username and password are sent in Base64. -/
theorem sentAs_basicAuthorization (username password : String) :
    SentAs username password (Http.basicAuthorization username password) where
  answered := by
    intro repository hauth
    unfold Repository.answer
    simp only [hauth, Scalar.display, Document.display]
  asked := fun repository parameters request hauth hrequest =>
    (asksToken_of_tokenRequest hrequest).authorization_eq hauth
  sent := fun settings text image credentials world start himage hauth =>
    sent_authorizedBy settings himage hauth world start

end Sending

end Registry

/-- A username without a colon and a password give the same credentials of a docker config whether it
has them apart or in one text, and a lookup with them sends this text. -/
theorem Credentials.spelled_alike {username password token : String}
    (husername : ':' ∉ username.toList)
    (htoken : Http.basicAuthorization username password = "Basic " ++ token) (server : String) :
    ReadAlike server username password token ∧
      Registry.SentAs username password ("Basic " ++ token) := by
  rw [← htoken]
  exact ⟨readAlike_of_token husername htoken server,
    Registry.sentAs_basicAuthorization username password⟩

/-- A password with a colon and a letter outside ASCII. -/
theorem Credentials.spelled_alike_colon :
    ':' ∉ "robot".toList ∧
      Http.basicAuthorization "robot" "pä:ss" = "Basic " ++ "cm9ib3Q6cMOkOnNz" ∧
      ReadAlike "https://registry.example.com/v1/" "robot" "pä:ss" "cm9ib3Q6cMOkOnNz" ∧
      Registry.SentAs "robot" "pä:ss" ("Basic " ++ "cm9ib3Q6cMOkOnNz") := by
  have husername : ':' ∉ "robot".toList := by
    decide
  have htoken : Http.basicAuthorization "robot" "pä:ss" = "Basic " ++ "cm9ib3Q6cMOkOnNz" := by
    decide
  exact ⟨husername, htoken, spelled_alike husername htoken "https://registry.example.com/v1/"⟩

end MonitorOperator
