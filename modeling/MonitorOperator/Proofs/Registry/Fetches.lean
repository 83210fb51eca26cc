import MonitorOperator.Proofs.Process.Interpretation
import MonitorOperator.Proofs.Registry.LookupFaults

/-!
# The fetches of a lookup

A lookup asks for documents, and each of these fetches may take several HTTP requests, since
redirects are followed. `Follows` says which requests a fetch takes, and `Fetch.Followed` what these
have in common. `Fetches` gives the fetches that a part of a lookup may make, with their replies; it
is cut along `bind` like a path. Whatever the world answers, the HTTP requests of a lookup are those
of its fetches (`exists_fetches`).
-/

namespace MonitorOperator.Registry

open Http (Request Response)
open Process (Path Served)

/-- An HTTP request with what came of it. -/
structure Exchange where
  request : Request
  reply : Except Fault Response

namespace Exchange

/-- The exchange that an event of the world is, if it is one. -/
def ofSystem? : Event system → Option Exchange
  | ⟨.send request, reply⟩ => some ⟨request, reply⟩
  | _ => none

/-- The exchange that an event of a lookup is, if it is one. -/
def ofRegistry? : Event registry → Option Exchange
  | ⟨.fetch request, reply⟩ => some ⟨request, reply⟩
  | ⟨.log _, _⟩ => none

end Exchange

/-- `Follows limit request hops reply` says that a request is sent, that redirects are followed with
so many requests at most, that `hops` are all the requests with their replies, and that `reply`
comes of it. -/
inductive Follows : (limit : Nat) → Request → List Exchange → Except Fault Response → Prop where
  | exhausted (request : Request) : Follows 0 request [] (.error Http.tooManyRedirects)
  | failed {limit : Nat} {request : Request} {fault : Fault} :
      Follows (limit + 1) request [⟨request, .error fault⟩] (.error fault)
  | arrived {limit : Nat} {request : Request} {response : Response} :
      response.location? = none →
      Follows (limit + 1) request [⟨request, .ok response⟩] (.ok response)
  | misled {limit : Nat} {request : Request} {response : Response} {location : String}
      {fault : Fault} :
      response.location? = some location →
      request.redirected response.status location = .error fault →
      Follows (limit + 1) request [⟨request, .ok response⟩] (.error fault)
  | redirected {limit : Nat} {request next : Request} {response : Response} {location : String}
      {hops : List Exchange} {reply : Except Fault Response} :
      response.location? = some location →
      request.redirected response.status location = .ok next → Follows limit next hops reply →
      Follows (limit + 1) request (⟨request, .ok response⟩ :: hops) reply

namespace Follows

variable {limit : Nat} {request : Request} {hops : List Exchange} {reply : Except Fault Response}

/-- A redirect keeps the authorization of a request or drops it. -/
theorem redirected_authorization {next : Request} {status : Int} {location : String}
    (h : request.redirected status location = .ok next) :
    next.authorization = none ∨ next.authorization = request.authorization := by
  unfold Request.redirected at h
  obtain ⟨url, _, hnext⟩ := bind_eq_ok_iff.1 h
  cases hnext
  dsimp only
  split
  · exact .inr rfl
  · exact .inl rfl

/-- No redirect brings an authorization in. -/
theorem carries (h : Follows limit request hops reply) :
    ∀ hop ∈ hops, hop.request.authorization = none ∨
      hop.request.authorization = request.authorization := by
  induction h with
  | exhausted => simp
  | failed | arrived | misled => simp
  | redirected _ hnext _ ih =>
      intro hop hmem
      rcases List.mem_cons.1 hmem with rfl | hlater
      · exact .inr rfl
      · have hkept := redirected_authorization hnext
        rcases ih hop hlater with hnone | hsame
        · exact .inl hnone
        · rw [hsame]
          exact hkept

/-- The response to a fetch is that to its last request. -/
theorem exists_last (h : Follows limit request hops reply) {response : Response}
    (hreply : reply = .ok response) :
    ∃ last, hops.getLast? = some last ∧ last.reply = .ok response := by
  induction h with
  | exhausted | failed | misled => cases hreply
  | arrived => exact ⟨_, rfl, hreply⟩
  | redirected _ _ _ ih =>
      obtain ⟨last, hlast, hresponse⟩ := ih hreply
      exact ⟨last, by simp [List.getLast?_cons, hlast], hresponse⟩

end Follows

/-- A fetch of a lookup, with the requests that it took. -/
structure Fetch extends Exchange where
  hops : List Exchange

/-- A fetch starts with its own request. It goes on only where it is redirected, with no other
authorization, and what it gets in the end is the last response. -/
structure Fetch.Followed (fetch : Fetch) : Prop where
  follows : Follows fetchLimit fetch.request fetch.hops fetch.reply
  starts : fetch.hops.head?.map (·.request) = some fetch.request
  carries : ∀ hop ∈ fetch.hops, hop.request.authorization = none ∨
    hop.request.authorization = fetch.request.authorization
  last : ∀ response, fetch.reply = .ok response →
    ∃ last, fetch.hops.getLast? = some last ∧ last.reply = .ok response

/-- Following redirects makes a fetch. -/
theorem Follows.followed {request : Request} {hops : List Exchange} {reply : Except Fault Response}
    (h : Follows fetchLimit request hops reply) : Fetch.Followed ⟨⟨request, reply⟩, hops⟩ where
  follows := h
  starts := by
    -- At least one request is allowed, so the first one is sent.
    cases h <;> rfl
  carries := h.carries
  last := fun _ hreply => h.exists_last hreply

/-- The HTTP requests of the lookup, with their replies. -/
def Inquiry.sent (inquiry : Inquiry) : List Exchange :=
  inquiry.conversation.filterMap Exchange.ofSystem?

/-- The HTTP requests of the lookup are those of the fetches, one fetch after the other. -/
structure Inquiry.ConsistsOf (inquiry : Inquiry) (fetches : List Fetch) : Prop where
  sent : inquiry.sent = fetches.flatMap (·.hops)
  followed : ∀ fetch ∈ fetches, fetch.Followed

/-- The response to a fetch was received. -/
theorem Inquiry.ConsistsOf.received {inquiry : Inquiry} {fetches : List Fetch} {fetch : Fetch}
    {response : Response} (h : inquiry.ConsistsOf fetches) (hmem : fetch ∈ fetches)
    (hreply : fetch.reply = .ok response) : inquiry.Received response := by
  obtain ⟨last, hlast, hresponse⟩ := (h.followed fetch hmem).last response hreply
  have hsent : last ∈ inquiry.sent := by
    rw [h.sent]
    exact List.mem_flatMap.2 ⟨fetch, hmem, List.mem_of_getLast? hlast⟩
  obtain ⟨event, hevent, hexchange⟩ := List.mem_filterMap.1 hsent
  unfold Exchange.ofSystem? at hexchange
  split at hexchange
  · next request reply =>
      cases hexchange
      exact ⟨request, by rw [← hresponse]; exact hevent⟩
  · cases hexchange

/-- `Fetches task exchanges result` says that a part of a lookup may have the result, and that
`exchanges` are its fetches with their replies. -/
def Fetches {α : Type} (task : Task registry α) (exchanges : List Exchange)
    (result : Except Fault α) : Prop :=
  ∃ events, Path task.outcome events (.done result) ∧
    events.filterMap Exchange.ofRegistry? = exchanges

section Fetches

variable {α β : Type} {exchanges : List Exchange}

/-- A fetch is one exchange. -/
@[simp] theorem fetches_fetch_iff {request : Request} {reply : Except Fault Response} :
    Fetches (fetch request) exchanges reply ↔ exchanges = [⟨request, reply⟩] := by
  constructor
  · intro h
    obtain ⟨events, hpath, rfl⟩ := h
    rw [Path.ask_done_iff.1 hpath]
    rfl
  · intro h
    exact ⟨[⟨.fetch request, reply⟩], Path.ask_done_iff.2 rfl, h.symm⟩

/-- What fails or succeeds at once fetches nothing. -/
@[simp] theorem fetches_lift_iff {value result : Except Fault α} :
    Fetches (liftM value : Task registry α) exchanges result ↔ exchanges = [] ∧ value = result := by
  constructor
  · intro h
    obtain ⟨events, hpath, rfl⟩ := h
    rw [Task.outcome_liftM_except] at hpath
    obtain ⟨rfl, hresult⟩ := Path.done_iff.1 hpath
    exact ⟨rfl, (Process.done.inj hresult).symm⟩
  · intro h
    obtain ⟨rfl, rfl⟩ := h
    refine ⟨[], ?_, rfl⟩
    rw [Task.outcome_liftM_except]
    exact .nil _

/-- What succeeds fetches nothing. -/
@[simp] theorem fetches_pure_iff {value : α} {result : Except Fault α} :
    Fetches (pure value : Task registry α) exchanges result ↔
      exchanges = [] ∧ .ok value = result :=
  @fetches_lift_iff _ _ (.ok value) result

/-- What fails fetches nothing. -/
@[simp] theorem fetches_throw_iff {fault : Fault} {result : Except Fault α} :
    Fetches (throw fault : Task registry α) exchanges result ↔
      exchanges = [] ∧ .error fault = result :=
  @fetches_lift_iff _ _ (.error fault) result

/-- The fetches of a task and what follows it are those of each of them, unless the task fails. -/
theorem fetches_bind_iff {task : Task registry α} {rest : α → Task registry β}
    {last : Except Fault β} :
    Fetches (task >>= rest) exchanges last ↔
      (∃ fault, last = .error fault ∧ Fetches task exchanges (.error fault)) ∨
        ∃ result first second, exchanges = first ++ second ∧ Fetches task first (.ok result) ∧
          Fetches (rest result) second last := by
  constructor
  · intro h
    obtain ⟨events, hpath, rfl⟩ := h
    rcases Task.path_bind_done_iff.1 hpath with
      ⟨fault, hlast, htask⟩ | ⟨result, first, second, rfl, hfirst, hsecond⟩
    · exact .inl ⟨fault, hlast, events, htask, rfl⟩
    · exact .inr ⟨result, _, _, List.filterMap_append, ⟨first, hfirst, rfl⟩, second, hsecond, rfl⟩
  · intro h
    rcases h with ⟨fault, hlast, events, htask, rfl⟩ |
      ⟨result, _, _, rfl, ⟨first, hfirst, rfl⟩, second, hsecond, rfl⟩
    · exact ⟨events, Task.path_bind_done_iff.2 (.inl ⟨fault, hlast, htask⟩), rfl⟩
    · refine ⟨first ++ second, Task.path_bind_done_iff.2 (.inr ?_), List.filterMap_append⟩
      exact ⟨result, first, second, rfl, hfirst, hsecond⟩

/-- Where the whole succeeds, the task and what follows it do. -/
theorem fetches_bind_ok_iff {task : Task registry α} {rest : α → Task registry β} {last : β} :
    Fetches (task >>= rest) exchanges (.ok last) ↔
      ∃ result first second, exchanges = first ++ second ∧ Fetches task first (.ok result) ∧
        Fetches (rest result) second (.ok last) := by
  simp [fetches_bind_iff]

/-- Where the whole succeeds, what it starts with succeeds without a fetch. -/
theorem fetches_lift_bind_ok_iff {value : Except Fault α} {rest : α → Task registry β} {last : β} :
    Fetches (liftM value >>= rest) exchanges (.ok last) ↔
      ∃ result, value = .ok result ∧ Fetches (rest result) exchanges (.ok last) := by
  simp [fetches_bind_ok_iff]

/-- Another form of the faults changes no fetch. -/
theorem fetches_mapFault_iff {change : Fault → Fault} {task : Task registry α}
    {last : Except Fault α} :
    Fetches (task.mapFault change) exchanges last ↔
      ∃ result, last = result.mapError change ∧ Fetches task exchanges result := by
  constructor
  · intro h
    obtain ⟨events, hpath, rfl⟩ := h
    obtain ⟨result, first, second, rfl, hfirst, hsecond⟩ := Path.bind_done_iff.1 hpath
    obtain ⟨rfl, hlast⟩ := Path.done_iff.1 hsecond
    exact ⟨result, Process.done.inj hlast, first, hfirst, by simp⟩
  · intro h
    obtain ⟨result, rfl, events, htask, rfl⟩ := h
    exact ⟨events ++ [], Path.bind_done_iff.2 ⟨result, events, [], rfl, htask, .nil _⟩, by simp⟩

/-- A log event is no fetch. -/
@[simp] theorem fetches_log_iff {event : LogEvent} {result : Except Fault Unit} :
    Fetches (liftM (log event) : Task registry Unit) exchanges result ↔
      exchanges = [] ∧ .ok () = result := by
  constructor
  · intro h
    obtain ⟨events, hpath, rfl⟩ := h
    obtain ⟨reply, later, rfl, hlater⟩ := Path.call_done_iff.1 hpath
    obtain ⟨rfl, hresult⟩ := Path.done_iff.1 hlater
    exact ⟨rfl, (Process.done.inj hresult).symm⟩
  · intro h
    obtain ⟨rfl, rfl⟩ := h
    exact ⟨[⟨.log event, ()⟩], .cons (.nil _), rfl⟩

end Fetches

/-- What a lookup makes of the image that it read: the version from its configuration, and the
hash. -/
def recordOf (settings : LookupSettings) (reference : ImageReference)
    (found : String × Document) : Except Fault VersionRecord := do
  return { version := ← versionOf settings reference found.2, hash := .text found.1 }

/-- A lookup fetches nothing and fails, or reads the image from its repository. -/
theorem lookup_of_fetches {settings : LookupSettings} {image : Document}
    {credentials : Option Credentials} {exchanges : List Exchange}
    {result : Except Fault VersionRecord}
    (h : Fetches (lookup settings image credentials) exchanges result) :
    (exchanges = [] ∧ ∃ fault, result = .error fault) ∨
      ∃ reference repository read, readReference image = .ok reference ∧
        repositoryOf reference credentials = .ok repository ∧
        Fetches (readImage settings image repository) exchanges read ∧
        result = read.mapError (lookupFault image) >>= recordOf settings reference := by
  unfold lookup at h
  rcases fetches_bind_iff.1 h with
    ⟨fault, rfl, hread⟩ | ⟨reference, none, rest, rfl, hread, hopen⟩
  · exact .inl ⟨(fetches_lift_iff.1 hread).1, fault, rfl⟩
  obtain ⟨rfl, hreference⟩ := fetches_lift_iff.1 hread
  rcases fetches_bind_iff.1 hopen with
    ⟨fault, rfl, hlift⟩ | ⟨repository, none, rest, rfl, hlift, himage⟩
  · exact .inl ⟨(fetches_lift_iff.1 hlift).1, fault, rfl⟩
  obtain ⟨rfl, hrepository⟩ := fetches_lift_iff.1 hlift
  rcases fetches_bind_iff.1 himage with
    ⟨fault, rfl, hfailed⟩ | ⟨found, first, last, rfl, hfound, hlast⟩
  · obtain ⟨read, hfault, hfetches⟩ := fetches_mapFault_iff.1 hfailed
    refine .inr ⟨reference, repository, read, hreference, hrepository, hfetches, ?_⟩
    rw [← hfault]
    rfl
  · obtain ⟨read, hresult, hfetches⟩ := fetches_mapFault_iff.1 hfound
    -- What is left is to read the version and to log it, without a fetch.
    obtain ⟨rfl, hrecord⟩ : last = [] ∧ result = recordOf settings reference found := by
      unfold recordOf
      rcases fetches_bind_iff.1 hlast with
        ⟨fault, rfl, hversion⟩ | ⟨version, none, rest, rfl, hversion, hlog⟩
      · obtain ⟨rfl, hfault⟩ := fetches_lift_iff.1 hversion
        rw [hfault]
        exact ⟨rfl, rfl⟩
      · obtain ⟨rfl, hok⟩ := fetches_lift_iff.1 hversion
        obtain ⟨_, none, pure, rfl, hlogged, hpure⟩ := (fetches_bind_iff.1 hlog).resolve_left <| by
          simp
        obtain ⟨rfl, _⟩ := fetches_log_iff.1 hlogged
        obtain ⟨rfl, rfl⟩ := fetches_pure_iff.1 hpure
        rw [hok]
        exact ⟨rfl, rfl⟩
    refine .inr ⟨reference, repository, read, hreference, hrepository, by simpa using hfetches, ?_⟩
    rw [← hresult]
    exact hrecord

/-- Following redirects takes the requests that it should. -/
theorem follows_of_path {limit : Nat} {request : Request} {events : List (Event system)}
    {reply : Except Fault Response}
    (h : Path (follow limit request).outcome events (.done reply)) :
    Follows limit request (events.filterMap Exchange.ofSystem?) reply := by
  induction limit generalizing request events with
  | zero =>
      obtain ⟨rfl, hreply⟩ := Path.done_iff.1 h
      cases hreply
      exact .exhausted request
  | succ limit ih =>
      rcases Task.path_bind_done_iff.1 h with
        ⟨fault, rfl, hsend⟩ | ⟨response, first, second, rfl, hsend, hrest⟩
      · rw [Path.ask_done_iff.1 hsend]
        exact .failed
      · rw [Path.ask_done_iff.1 hsend]
        cases hlocation : response.location? with
        | none =>
            simp only [hlocation] at hrest
            obtain ⟨rfl, hreply⟩ := Path.done_iff.1 hrest
            cases hreply
            exact .arrived hlocation
        | some location =>
            simp only [hlocation, Task.outcome_bind, Task.outcome_liftM_except,
              Process.done_bind] at hrest
            cases hnext : request.redirected response.status location with
            | error fault =>
                rw [hnext] at hrest
                obtain ⟨rfl, hreply⟩ := Path.done_iff.1 hrest
                cases hreply
                exact .misled hlocation hnext
            | ok next =>
                rw [hnext] at hrest
                exact .redirected hlocation hnext (ih hrest)

/-- A request of a lookup with the events of the world that served it. -/
abbrev ServedRequest : Type :=
  @Served registry system serve

namespace ServedRequest

/-- The fetch that a request was served by, if it was one. -/
def fetch? : ServedRequest → Option Fetch
  | ⟨⟨.fetch request, reply⟩, events, _⟩ =>
      some ⟨⟨request, reply⟩, events.filterMap Exchange.ofSystem?⟩
  | ⟨⟨.log _, _⟩, _, _⟩ => none

/-- The HTTP requests that served a request are those of its fetch. -/
theorem filterMap_events (served : ServedRequest) :
    served.events.filterMap Exchange.ofSystem? = (served.fetch?.map (·.hops)).getD [] := by
  obtain ⟨⟨request, reply⟩, events, hserved⟩ := served
  cases request with
  | fetch request => rfl
  | log event =>
      have hevents : events = [⟨.log event, reply⟩] := Path.ask_done_iff.1 hserved
      subst hevents
      rfl

/-- The fetch of a request is the exchange that the lookup saw. -/
theorem ofRegistry?_event (served : ServedRequest) :
    Exchange.ofRegistry? served.event = served.fetch?.map (·.toExchange) := by
  obtain ⟨⟨request, reply⟩, events, hserved⟩ := served
  cases request <;> rfl

/-- A fetch follows redirects. -/
theorem followed {served : ServedRequest} {fetch : Fetch} (h : served.fetch? = some fetch) :
    fetch.Followed := by
  obtain ⟨⟨request, reply⟩, events, hserved⟩ := served
  cases request with
  | fetch request =>
      cases h
      exact (follows_of_path hserved).followed
  | log event => cases h

/-- The HTTP requests that served a lookup are those of its fetches. -/
theorem filterMap_flatMap (served : List ServedRequest) :
    (served.flatMap (·.events)).filterMap Exchange.ofSystem? =
      (served.filterMap fetch?).flatMap (·.hops) := by
  induction served with
  | nil => rfl
  | cons first served ih =>
      rw [List.flatMap_cons, List.filterMap_append, filterMap_events, ih, List.filterMap_cons]
      cases fetch? first with
      | none => rfl
      | some fetch => rfl

end ServedRequest

/-- Whatever the world answers, the HTTP requests of a lookup are those of its fetches. -/
theorem exists_fetches {σ : Type} (settings : LookupSettings) (image : Document)
    (credentials : Option Credentials)
    (world : (request : system.Request) → StateM σ (system.Reply request)) (start : σ) :
    ∃ fetches : List Fetch, (inquiryIn settings image credentials world start).ConsistsOf fetches ∧
      Fetches (lookup settings image credentials) (fetches.map (·.toExchange))
        (Process.run world (resolve settings image credentials).outcome start).1 := by
  obtain ⟨served, hevents, hpath⟩ := Path.interpret_done_iff.1
    (Process.path_transcript world (resolve settings image credentials).outcome start)
  refine ⟨served.filterMap ServedRequest.fetch?, ⟨?_, ?_⟩, served.map (·.event), hpath, ?_⟩
  · show (Process.transcript world _ start).filterMap Exchange.ofSystem? = _
    rw [hevents]
    exact ServedRequest.filterMap_flatMap served
  · intro fetch hmem
    obtain ⟨request, _, hfetch⟩ := List.mem_filterMap.1 hmem
    exact ServedRequest.followed hfetch
  · rw [List.filterMap_map, List.map_filterMap]
    exact List.filterMap_congr fun request _ => ServedRequest.ofRegistry?_event request

end MonitorOperator.Registry
