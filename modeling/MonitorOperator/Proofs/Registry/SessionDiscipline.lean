import MonitorOperator.Proofs.Registry.Session

/-!
# The discipline of a registry session

What a lookup asks of a registry, whatever it is answered. It asks without authorization until the
registry challenges a request. This one challenge is answered, by the credentials for the registry or
by a token that they get, and from then on each request is made with the answer; another challenge
ends the lookup (`Inquiry.Disciplined`). There are five fetches at most (`session_disciplined`).

`Inquiry.Session` follows the lookup from one place to the next and counts the places that are left;
both the discipline and the number of fetches are by induction on it.
-/

namespace MonitorOperator.Registry

open Http (Request Response)

/-- The places that a lookup gets, with what they are asked for in: the manifest that the reference
names, and the manifest and the configuration that an answer names. -/
inductive Inquiry.Places (inquiry : Inquiry) (repository : Repository) :
    (path accept : String) → Prop where
  | reference :
      inquiry.Places repository (repository.manifestPath repository.image.reference) manifestAccept
  | platform {response : Response} {index : Document} {digest : String} :
      inquiry.Received response → response.document = .ok index →
      selectPlatform inquiry.settings inquiry.image index = .ok digest →
      inquiry.Places repository (repository.manifestPath digest) manifestAccept
  | config {response : Response} {manifest : Document} {digest : String} :
      inquiry.Received response → response.document = .ok manifest →
      configDigest manifest = .ok digest →
      inquiry.Places repository (repository.blobPath digest) anyAccept

/-- The exchange asks for one of the places of the lookup, with an authorization or none. -/
def Inquiry.Asks (inquiry : Inquiry) (repository : Repository) (authorization : Option String)
    (exchange : Exchange) : Prop :=
  ∃ path accept, inquiry.Places repository path accept ∧
    repository.Asks authorization path accept exchange.request

variable {α β : Type}

/-- The result is a fault, and one of the lookup's own class. -/
def FailsAsLookup (result : Except Fault α) : Prop :=
  ∃ fault, result = .error fault ∧ fault.kind = .versionLookup

/-- All the exchanges are made with one authorization, and a challenge ends them and the lookup. -/
structure Inquiry.Authorized (inquiry : Inquiry) (repository : Repository) (authorization : String)
    (result : Except Fault α) (exchanges : List Exchange) : Prop where
  asks : ∀ exchange ∈ exchanges, inquiry.Asks repository (some authorization) exchange
  ends : ∀ before exchange after, exchanges = before ++ exchange :: after → exchange.Challenges →
    after = [] ∧ FailsAsLookup result

/-- The exchanges of a lookup, with its result: no request is challenged, or one is and cannot be
answered, or it is answered and all requests after it carry the answer. -/
inductive Inquiry.Disciplined (inquiry : Inquiry) (repository : Repository)
    (result : Except Fault α) : List Exchange → Prop where
  | unchallenged {opening : List Exchange} :
      (∀ exchange ∈ opening, inquiry.Asks repository none exchange ∧ ¬ exchange.Challenges) →
      inquiry.Disciplined repository result opening
  | unanswered {opening answering : List Exchange} {request : Request} {response : Response}
      {fault last : Fault} :
      (∀ exchange ∈ opening, inquiry.Asks repository none exchange ∧ ¬ exchange.Challenges) →
      inquiry.Asks repository none ⟨request, .ok response⟩ → response.status = 401 →
      Answered repository (.read (response.header "WWW-Authenticate")) answering (.error fault) →
      result = .error last →
      (∀ exchange ∈ answering, exchange.Challenges → last.kind = .versionLookup) →
      inquiry.Disciplined repository result (opening ++ ⟨request, .ok response⟩ :: answering)
  | answered {opening answering later : List Exchange} {request : Request} {response : Response}
      {authorization : String} :
      (∀ exchange ∈ opening, inquiry.Asks repository none exchange ∧ ¬ exchange.Challenges) →
      inquiry.Asks repository none ⟨request, .ok response⟩ → response.status = 401 →
      Answered repository (.read (response.header "WWW-Authenticate")) answering
        (.ok authorization) →
      inquiry.Authorized repository authorization result later →
      inquiry.Disciplined repository result
        (opening ++ ⟨request, .ok response⟩ :: (answering ++ later))

/-- `inquiry.Session repository places authorization exchanges result` says that a part of the lookup
starts with an authorization or none and gets so many places at most, that `exchanges` are all it
asks, and that it may have the result. -/
inductive Inquiry.Session (inquiry : Inquiry) (repository : Repository) :
    (places : Nat) → Option String → List Exchange → Except Fault α → Prop where
  | ended {places : Nat} {authorization : Option String} {result : Except Fault α} :
      inquiry.Session repository places authorization [] result
  | stopped {places : Nat} {authorization : Option String} {path accept : String}
      {exchanges : List Exchange} {fault last : Fault} :
      inquiry.Places repository path accept →
      Got repository path accept authorization exchanges (.error fault) →
      (fault.kind = .versionLookup → last.kind = .versionLookup) →
      inquiry.Session repository (places + 1) authorization exchanges (.error last)
  | continued {places : Nat} {authorization next : Option String} {path accept : String}
      {response : Response} {first rest : List Exchange} {result : Except Fault α} :
      inquiry.Places repository path accept →
      Got repository path accept authorization first (.ok (response, next)) →
      inquiry.Session repository places next rest result →
      inquiry.Session repository (places + 1) authorization (first ++ rest) result

section Discipline

variable {inquiry : Inquiry} {repository : Repository} {places : Nat} {exchanges : List Exchange}
  {result : Except Fault α} {authorization : String}

namespace Inquiry.Authorized

/-- Nothing is asked at the end. -/
theorem nil : inquiry.Authorized repository authorization result [] where
  asks := by simp
  ends := by simp

/-- A challenge is the last that is asked. -/
theorem singleton {exchange : Exchange}
    (hasks : inquiry.Asks repository (some authorization) exchange)
    (hends : exchange.Challenges → FailsAsLookup result) :
    inquiry.Authorized repository authorization result [exchange] where
  asks := by simpa using hasks
  ends := by
    intro before other after hsplit hchallenges
    cases before with
    | nil =>
        cases hsplit
        exact ⟨rfl, hends hchallenges⟩
    | cons first before => simp at hsplit

/-- More is asked where there is no challenge. -/
theorem cons {exchange : Exchange} (hasks : inquiry.Asks repository (some authorization) exchange)
    (hnone : ¬ exchange.Challenges)
    (h : inquiry.Authorized repository authorization result exchanges) :
    inquiry.Authorized repository authorization result (exchange :: exchanges) where
  asks := List.forall_mem_cons.2 ⟨hasks, h.asks⟩
  ends := by
    intro before other after hsplit hchallenges
    cases before with
    | nil =>
        cases hsplit
        exact absurd hchallenges hnone
    | cons first before =>
        obtain ⟨_, hsplit⟩ := List.cons.inj hsplit
        exact h.ends before other after hsplit hchallenges

end Inquiry.Authorized

/-- A request that succeeds is not challenged. -/
theorem not_challenges_of_isSuccess {request : Request} {response : Response}
    (h : response.isSuccess = true) : ¬ Exchange.Challenges ⟨request, .ok response⟩ := by
  rw [challenges_ok_iff]
  intro hstatus
  simp [Response.isSuccess, hstatus] at h

/-- What is asked with an authorization is asked with it to the end, one request for each place. -/
theorem Inquiry.Session.authorized
    (h : inquiry.Session repository places (some authorization) exchanges result) :
    exchanges.length ≤ places ∧ inquiry.Authorized repository authorization result exchanges := by
  generalize hstart : some authorization = start at h
  induction h with
  | ended => exact ⟨Nat.zero_le _, .nil⟩
  | stopped hplace hgot hkind =>
      subst hstart
      cases hgot with
      | unasked => exact ⟨Nat.zero_le _, .nil⟩
      | failed hasks =>
          refine ⟨Nat.le_add_left _ _, .singleton ⟨_, _, hplace, hasks⟩ fun hchallenges => ?_⟩
          exact absurd hchallenges not_challenges_error
      | refused hasks hfailed hstatus =>
          refine ⟨Nat.le_add_left _ _, .singleton ⟨_, _, hplace, hasks⟩ fun _ => ?_⟩
          exact ⟨_, rfl, hkind rfl⟩
  | continued hplace hgot hrest ih =>
      subst hstart
      cases hgot with
      | accepted hasks hsuccess =>
          obtain ⟨hlength, hauthorized⟩ := ih rfl
          refine ⟨Nat.succ_le_succ hlength, .cons ⟨_, _, hplace, hasks⟩ ?_ hauthorized⟩
          exact not_challenges_of_isSuccess hsuccess

/-- The answer to a challenge takes one request at most. -/
theorem Answered.length_le {challenge : Challenge} {answer : Except Fault String}
    (h : Answered repository challenge exchanges answer) : exchanges.length ≤ 1 := by
  cases h <;> simp

/-- A challenge to the request for a token is a fault of the lookup's own class. -/
theorem Answered.kind {challenge : Challenge} {fault : Fault}
    (h : Answered repository challenge exchanges (.error fault)) :
    ∀ exchange ∈ exchanges, exchange.Challenges → fault.kind = .versionLookup := by
  cases h with
  | noToken _ hkind => simpa using hkind
  | unasked => simp

/-- A request before the challenge may stand in front. -/
theorem Inquiry.Disciplined.cons {exchange : Exchange}
    (hasks : inquiry.Asks repository none exchange) (hnone : ¬ exchange.Challenges)
    (h : inquiry.Disciplined repository result exchanges) :
    inquiry.Disciplined repository result (exchange :: exchanges) := by
  cases h with
  | unchallenged hopening => exact .unchallenged (List.forall_mem_cons.2 ⟨⟨hasks, hnone⟩, hopening⟩)
  | unanswered hopening hchallenged hstatus hanswer hresult hkind =>
      have hopening := List.forall_mem_cons.2 ⟨⟨hasks, hnone⟩, hopening⟩
      exact .unanswered hopening hchallenged hstatus hanswer hresult hkind
  | answered hopening hchallenged hstatus hanswer hlater =>
      have hopening := List.forall_mem_cons.2 ⟨⟨hasks, hnone⟩, hopening⟩
      exact .answered hopening hchallenged hstatus hanswer hlater

/-- A challenge that is answered is followed by what is asked with the answer. -/
theorem Inquiry.Session.answered {response : Response} {request : Request}
    {answering : List Exchange} (hasks : inquiry.Asks repository none ⟨request, .ok response⟩)
    (hstatus : response.status = 401)
    (hanswer : Answered repository (.read (response.header "WWW-Authenticate")) answering
      (.ok authorization))
    (h : inquiry.Session repository places (some authorization) exchanges result) :
    (⟨request, .ok response⟩ :: (answering ++ exchanges)).length ≤ places + 2 ∧
      inquiry.Disciplined repository result
        (⟨request, .ok response⟩ :: (answering ++ exchanges)) := by
  obtain ⟨hlength, hauthorized⟩ := h.authorized
  have hanswering := hanswer.length_le
  have hdisciplined : inquiry.Disciplined repository result
      ([] ++ ⟨request, .ok response⟩ :: (answering ++ exchanges)) :=
    .answered (by simp) hasks hstatus hanswer hauthorized
  refine ⟨?_, hdisciplined⟩
  simp only [List.length_cons, List.length_append]
  omega

/-- What is asked without authorization at first is disciplined. A challenge costs two requests, one
to answer it and one to ask again. -/
theorem Inquiry.Session.disciplined
    (h : inquiry.Session repository places none exchanges result) :
    exchanges.length ≤ places + 2 ∧ inquiry.Disciplined repository result exchanges := by
  generalize hstart : (none : Option String) = start at h
  induction h with
  | ended => exact ⟨Nat.zero_le _, .unchallenged (by simp)⟩
  | @stopped places _ _ _ _ _ last hplace hgot hkind =>
      subst hstart
      cases hgot with
      | unasked => exact ⟨Nat.zero_le _, .unchallenged (by simp)⟩
      | failed hasks =>
          refine ⟨by simp, .unchallenged ?_⟩
          exact List.forall_mem_singleton.2 ⟨⟨_, _, hplace, hasks⟩, not_challenges_error⟩
      | refused hasks hfailed hstatus =>
          refine ⟨by simp, .unchallenged ?_⟩
          refine List.forall_mem_singleton.2 ⟨⟨_, _, hplace, hasks⟩, fun hchallenges => ?_⟩
          exact hstatus (challenges_ok_iff.1 hchallenges) rfl
      | unanswered hasks hstatus hanswer =>
          have hanswering := hanswer.length_le
          have hdisciplined : inquiry.Disciplined repository (.error last : Except Fault α)
              ([] ++ _ :: _) :=
            .unanswered (by simp) ⟨_, _, hplace, hasks⟩ hstatus hanswer rfl
              fun exchange hmem hchallenges => hkind (hanswer.kind exchange hmem hchallenges)
          exact ⟨by simp only [List.length_cons]; omega, hdisciplined⟩
      | repeated hasks hstatus hanswer hagain =>
          have hsession : inquiry.Session repository 1 (some _) _ (.error last : Except Fault α) :=
            .stopped hplace hagain hkind
          obtain ⟨hlength, hdisciplined⟩ := hsession.answered ⟨_, _, hplace, hasks⟩ hstatus hanswer
          exact ⟨by omega, hdisciplined⟩
  | @continued places _ _ _ _ _ _ _ _ hplace hgot hrest ih =>
      subst hstart
      cases hgot with
      | accepted hasks hsuccess =>
          obtain ⟨hlength, hdisciplined⟩ := ih rfl
          refine ⟨Nat.succ_le_succ hlength, hdisciplined.cons ⟨_, _, hplace, hasks⟩ ?_⟩
          exact not_challenges_of_isSuccess hsuccess
      | repeated hasks hstatus hanswer hagain =>
          have hsession := Inquiry.Session.continued hplace hagain hrest
          rw [List.cons_append, List.append_assoc]
          exact hsession.answered ⟨_, _, hplace, hasks⟩ hstatus hanswer

/-- A session may come to something else in the end, if a fault of the lookup's own class stays
one. -/
theorem Inquiry.Session.of_result {other : Except Fault β} {start : Option String}
    (h : inquiry.Session repository places start exchanges result)
    (hother : ∀ fault, result = .error fault →
      ∃ last, other = .error last ∧ (fault.kind = .versionLookup → last.kind = .versionLookup)) :
    inquiry.Session repository places start exchanges other := by
  induction h with
  | ended => exact .ended
  | stopped hplace hgot hkind =>
      obtain ⟨last, rfl, hlast⟩ := hother _ rfl
      exact .stopped hplace hgot fun h => hlast (hkind h)
  | continued hplace hgot _ ih => exact .continued hplace hgot (ih hother)

end Discipline

section Conduct

variable {inquiry : Inquiry} {repository : Repository} {places : Nat}
  {authorization : Option String}

/-- All the responses of the exchanges were received. -/
def Inquiry.ReceivedIn (inquiry : Inquiry) (exchanges : List Exchange) : Prop :=
  ∀ exchange ∈ exchanges, ∀ response, exchange.reply = .ok response → inquiry.Received response

/-- A part of the lookup that starts with an authorization or none gets so many places at most. -/
def Inquiry.Conducts (inquiry : Inquiry) (repository : Repository) (places : Nat)
    (authorization : Option String) (task : Task registry α) : Prop :=
  ∀ exchanges result, inquiry.ReceivedIn exchanges → Fetches task exchanges result →
    inquiry.Session repository places authorization exchanges result

namespace Inquiry.Conducts

/-- What is done gets nothing. -/
theorem pure (value : α) : inquiry.Conducts repository places authorization (Pure.pure value) := by
  intro exchanges result _ hfetches
  obtain ⟨rfl, _⟩ := fetches_pure_iff.1 hfetches
  exact .ended

/-- What is read gets nothing. -/
theorem lift_bind {value : Except Fault α} {rest : α → Task registry β}
    (hrest : ∀ result, value = .ok result →
      inquiry.Conducts repository places authorization (rest result)) :
    inquiry.Conducts repository places authorization (liftM value >>= rest) := by
  intro exchanges result hreceived hfetches
  rcases fetches_bind_iff.1 hfetches with
    ⟨fault, rfl, hlift⟩ | ⟨read, none, later, rfl, hlift, hlater⟩
  · obtain ⟨rfl, _⟩ := fetches_lift_iff.1 hlift
    exact .ended
  · obtain ⟨rfl, hread⟩ := fetches_lift_iff.1 hlift
    exact hrest read hread later result hreceived hlater

/-- The response that a place gave is that of one of the exchanges. -/
theorem exists_of_got {path accept : String} {exchanges : List Exchange} {response : Response}
    {next : Option String}
    (h : Got repository path accept authorization exchanges (.ok (response, next))) :
    ∃ exchange ∈ exchanges, exchange.reply = .ok response := by
  generalize hresult : (.ok (response, next) : Except Fault _) = result at h
  induction h with
  | unasked | failed | refused | unanswered => cases hresult
  | accepted =>
      cases hresult
      exact ⟨_, List.mem_singleton_self _, rfl⟩
  | repeated _ _ _ _ ih =>
      obtain ⟨exchange, hmem, hreply⟩ := ih hresult
      exact ⟨exchange, by simp [hmem], hreply⟩

/-- Getting a place leaves one place less. -/
theorem get_bind {path accept : String} {rest : Response × Option String → Task registry β}
    (hbase : repository.base.Userless) (hroot : ∃ below, path = "/" ++ below)
    (hplace : inquiry.Places repository path accept)
    (hrest : ∀ response next, inquiry.Received response →
      inquiry.Conducts repository places next (rest (response, next))) :
    inquiry.Conducts repository (places + 1) authorization
      (repository.get authorization path accept >>= rest) := by
  intro exchanges result hreceived hfetches
  rcases fetches_bind_iff.1 hfetches with
    ⟨fault, rfl, hget⟩ | ⟨⟨response, next⟩, first, later, rfl, hget, hlater⟩
  · exact .stopped hplace (got_of_fetches hbase hroot hget) id
  · have hgot := got_of_fetches hbase hroot hget
    obtain ⟨exchange, hmem, hreply⟩ := exists_of_got hgot
    have hresponse := hreceived exchange (List.mem_append_left _ hmem) response hreply
    refine .continued hplace hgot (hrest response next hresponse later result ?_ hlater)
    exact fun other hother => hreceived other (List.mem_append_right _ hother)

end Inquiry.Conducts

/-- Reading the configuration that a manifest names gets one place. -/
theorem readConfig_conducts (hbase : repository.base.Userless) {response : Response}
    {manifest : Document} (hreceived : inquiry.Received response)
    (hmanifest : response.document = .ok manifest) (hash : String) :
    inquiry.Conducts repository (places + 1) authorization
      (do
        let digest ← liftM (configDigest manifest)
        let found ← repository.getBlob authorization digest
        let config ← liftM found.1.document
        return (hash, config)) := by
  refine .lift_bind fun digest hdigest => ?_
  refine .get_bind hbase (exists_blobPath_eq repository digest)
    (.config hreceived hmanifest hdigest) fun found next _ => ?_
  exact .lift_bind fun config _ => .pure _

/-- Reading an image gets three places at most. -/
theorem readImage_conducts (hbase : repository.base.Userless) :
    inquiry.Conducts repository 3 none (readImage inquiry.settings inquiry.image repository) := by
  unfold readImage
  dsimp only
  refine .get_bind hbase (exists_manifestPath_eq repository _) .reference fun found next hfound => ?_
  refine .lift_bind fun manifest hmanifest => .lift_bind fun index _ => ?_
  split
  · refine .lift_bind fun digest hdigest => ?_
    refine .get_bind hbase (exists_manifestPath_eq repository digest)
      (.platform hfound hmanifest hdigest) fun entry later hentry => ?_
    exact .lift_bind fun document hdocument => readConfig_conducts hbase hentry hdocument _
  · exact readConfig_conducts hbase hfound hmanifest _

/-- A lookup asks for nothing, or conducts a session with the repository of its image. -/
theorem lookup_conducts {exchanges : List Exchange} {result : Except Fault VersionRecord}
    (hreceived : inquiry.ReceivedIn exchanges)
    (h : Fetches (lookup inquiry.settings inquiry.image inquiry.credentials) exchanges result) :
    exchanges = [] ∨ ∃ repository, inquiry.IsAbout repository ∧
      inquiry.Session repository 3 none exchanges result := by
  rcases lookup_of_fetches h with
    ⟨hnone, _⟩ | ⟨reference, repository, read, hreference, hrepository, hread, rfl⟩
  · exact .inl hnone
  refine .inr ⟨repository, ⟨reference, hreference, hrepository⟩, ?_⟩
  have hbase := userless_repositoryOf hreference hrepository
  refine (readImage_conducts hbase exchanges read hreceived hread).of_result fun fault hfault => ?_
  subst hfault
  exact ⟨_, rfl, fun hkind => handled_of_versionLookup hkind inquiry.image⟩

end Conduct

section Challenged

variable {inquiry : Inquiry} {repository : Repository} {result : Except Fault α}

/-- An element that neither those in front nor the next one equals comes after the next one. -/
theorem mem_of_append_cons_eq {ι : Type} {good : ι → Prop} {before after opening rest : List ι}
    {last next : ι} (h : before ++ last :: after = opening ++ next :: rest) (hlast : ¬ good last)
    (hopening : ∀ element ∈ opening, good element) (hnext : good next) : next ∈ before := by
  rcases List.append_eq_append_iff.1 h with ⟨middle, hopened, hmiddle⟩ | ⟨middle, hbefore, hmiddle⟩
  · cases middle with
    | nil =>
        obtain ⟨rfl, _⟩ := List.cons.inj hmiddle
        exact absurd hnext hlast
    | cons first middle =>
        obtain ⟨rfl, _⟩ := List.cons.inj hmiddle
        exact absurd (hopening last (by simp [hopened])) hlast
  · cases middle with
    | nil =>
        obtain ⟨rfl, _⟩ := List.cons.inj hmiddle
        exact absurd hnext hlast
    | cons first middle =>
        obtain ⟨rfl, _⟩ := List.cons.inj hmiddle
        simp [hbefore]

/-- What is asked with an authorization is asked after a challenge. -/
theorem Inquiry.Disciplined.exists_challenge {exchanges before after : List Exchange}
    {exchange : Exchange} (h : inquiry.Disciplined repository result exchanges)
    (hsplit : before ++ exchange :: after = exchanges)
    (hauthorization : exchange.request.authorization ≠ none) :
    ∃ earlier ∈ before, earlier.Challenges := by
  have hnone {other : Exchange} (hasks : inquiry.Asks repository none other) :
      other.request.authorization = none := by
    obtain ⟨_, _, _, hasks⟩ := hasks
    exact hasks.authorization
  cases h with
  | unchallenged hopening =>
      have hmem : exchange ∈ before ++ exchange :: after := by
        simp
      exact absurd (hnone (hopening exchange (hsplit ▸ hmem)).1) hauthorization
  | unanswered hopening hchallenged hstatus | answered hopening hchallenged hstatus =>
      have hearlier := mem_of_append_cons_eq hsplit hauthorization
        (fun other hmem => hnone (hopening other hmem).1) (hnone hchallenged)
      exact ⟨_, hearlier, _, rfl, hstatus⟩

/-- A request of the fetches belongs to one of them, and those before it come earlier. -/
theorem exists_of_flatMap_eq {fetches : List Fetch} {before after : List Exchange}
    {exchange : Exchange} (h : fetches.flatMap (·.hops) = before ++ exchange :: after) :
    ∃ first fetch last, first ++ fetch :: last = fetches ∧ exchange ∈ fetch.hops ∧
      first.flatMap (·.hops) ⊆ before := by
  induction fetches generalizing before with
  | nil => simp at h
  | cons fetch fetches ih =>
      rw [List.flatMap_cons] at h
      rcases List.append_eq_append_iff.1 h with ⟨rest, rfl, hrest⟩ | ⟨rest, hhops, hrest⟩
      · obtain ⟨first, found, last, rfl, hmem, hfirst⟩ := ih hrest
        refine ⟨fetch :: first, found, last, rfl, hmem, ?_⟩
        rw [List.flatMap_cons]
        exact List.append_subset.2
          ⟨List.subset_append_left _ _, List.Subset.trans hfirst (List.subset_append_right _ _)⟩
      · cases rest with
        | nil =>
            have hlater : fetches.flatMap (·.hops) = [] ++ exchange :: after := hrest.symm
            obtain ⟨first, found, last, rfl, hmem, hfirst⟩ := ih hlater
            refine ⟨fetch :: first, found, last, rfl, hmem, ?_⟩
            rw [List.append_nil] at hhops
            rw [List.flatMap_cons, hhops, List.subset_nil.1 hfirst, List.append_nil]
            exact List.Subset.refl _
        | cons other rest =>
            obtain ⟨rfl, _⟩ := List.cons.inj hrest
            exact ⟨[], fetch, fetches, rfl, by simp [hhops], List.nil_subset _⟩

/-- A fetch that is challenged has a request that is. -/
theorem Fetch.Followed.exists_challenge {fetch : Fetch} (h : fetch.Followed)
    (hchallenges : fetch.toExchange.Challenges) : ∃ hop ∈ fetch.hops, hop.Challenges := by
  obtain ⟨response, hreply, hstatus⟩ := hchallenges
  obtain ⟨last, hlast, hresponse⟩ := h.last response hreply
  exact ⟨last, List.mem_of_getLast? hlast, response, hresponse, hstatus⟩

/-- A request with an authorization is sent after the registry has challenged one. -/
theorem Inquiry.ConsistsOf.exists_challenge {fetches : List Fetch} {before after : List Exchange}
    {exchange : Exchange} (h : inquiry.ConsistsOf fetches)
    (hdisciplined : inquiry.Disciplined repository result (fetches.map (·.toExchange)))
    (hsplit : inquiry.sent = before ++ exchange :: after)
    (hauthorization : exchange.request.authorization ≠ none) :
    ∃ earlier ∈ before, earlier.Challenges := by
  rw [h.sent] at hsplit
  obtain ⟨first, fetch, last, rfl, hhop, hfirst⟩ := exists_of_flatMap_eq hsplit
  -- No redirect brings an authorization in, so the fetch itself has one.
  have hfetch : fetch.request.authorization ≠ none := by
    have hfollowed := h.followed fetch (by simp)
    rcases hfollowed.carries exchange hhop with hnone | hsame
    · exact absurd hnone hauthorization
    · exact hsame ▸ hauthorization
  obtain ⟨challenged, hmem, hchallenges⟩ := hdisciplined.exists_challenge
    (by rw [List.map_append, List.map_cons]) hfetch
  obtain ⟨earlier, hearlier, rfl⟩ := List.mem_map.1 hmem
  have hfollowed := h.followed earlier (List.mem_append_left _ hearlier)
  obtain ⟨hop, hhops, hchallenge⟩ := hfollowed.exists_challenge hchallenges
  exact ⟨hop, hfirst (List.mem_flatMap.2 ⟨earlier, hearlier, hhops⟩), hchallenge⟩

end Challenged

/-- A lookup with its result keeps the discipline of a session: its requests are those of five
fetches at most, none has an authorization before the registry challenges a request, and the fetches
are those of a session with the repository of the image. -/
structure Inquiry.KeepsDiscipline (inquiry : Inquiry) (result : Except Fault VersionRecord)
    (fetches : List Fetch) : Prop where
  consists : inquiry.ConsistsOf fetches
  few : fetches.length ≤ 5
  unauthorized : ∀ before exchange after, inquiry.sent = before ++ exchange :: after →
    exchange.request.authorization ≠ none → ∃ earlier ∈ before, earlier.Challenges
  disciplined : fetches = [] ∨ ∃ repository, inquiry.IsAbout repository ∧
    inquiry.Disciplined repository result (fetches.map (·.toExchange))

/-- Whatever the world answers, a lookup keeps the discipline of a registry session. -/
theorem session_disciplined {σ : Type} (settings : LookupSettings) (image : Document)
    (credentials : Option Credentials)
    (world : (request : system.Request) → StateM σ (system.Reply request)) (start : σ) :
    ∃ fetches, (inquiryIn settings image credentials world start).KeepsDiscipline
      (Process.run world (resolve settings image credentials).outcome start).1 fetches := by
  obtain ⟨fetches, hconsists, hfetches⟩ := exists_fetches settings image credentials world start
  have hreceived : (inquiryIn settings image credentials world start).ReceivedIn
      (fetches.map (·.toExchange)) := by
    intro exchange hmem response hreply
    obtain ⟨fetch, hfetch, rfl⟩ := List.mem_map.1 hmem
    exact hconsists.received hfetch hreply
  refine ⟨fetches, ?_⟩
  rcases lookup_conducts hreceived hfetches with hnone | ⟨repository, habout, hsession⟩
  · obtain rfl : fetches = [] := List.map_eq_nil_iff.1 hnone
    refine ⟨hconsists, Nat.zero_le _, ?_, .inl rfl⟩
    intro before exchange after hsplit
    simp [hconsists.sent] at hsplit
  · obtain ⟨hfew, hdisciplined⟩ := hsession.disciplined
    refine ⟨hconsists, by simpa using hfew, ?_, .inr ⟨repository, habout, hdisciplined⟩⟩
    exact fun before exchange after => hconsists.exists_challenge hdisciplined

end MonitorOperator.Registry
