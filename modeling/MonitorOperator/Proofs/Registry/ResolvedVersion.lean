import MonitorOperator.Proofs.Registry.SessionDiscipline

/-!
# What a resolved version means

The hash of a resolved version is that of the manifest which the reference names, and the version
stands in the configuration which this manifest names, or the manifest that it lists for the platform
if it is an index (`Inquiry.Resolves`). This holds whatever the world answers, and an index that
lists nothing for the platform resolves to nothing (`resolved_version`).
-/

namespace MonitorOperator.Registry

open Http (Request Response)

/-- The manifest is an index of others: its media type says so, or it says so itself. -/
def IsIndex (mediaType : String) (manifest : Document) : Prop :=
  mediaType ∈ indexTypes ∨
    ∃ kind ∈ indexTypes, manifest.under? ["mediaType"] = some (.text kind)

/-- The entry of an index is for the platform. -/
def IsForPlatform (settings : LookupSettings) (entry : Document) : Prop :=
  entry.under? ["platform", "os"] = some (.text settings.system) ∧
    entry.under? ["platform", "architecture"] = some (.text settings.architecture)

/-- The entry is the first one of the index that is for the platform. -/
def IsSelected (settings : LookupSettings) (index entry : Document) : Prop :=
  ∃ before after, index.under? ["manifests"] = some (.list (before ++ entry :: after)) ∧
    (∀ other ∈ before, ¬ IsForPlatform settings other) ∧ IsForPlatform settings entry

/-- The document gives a digest under a chain of names. -/
def GivesDigest (document : Document) (names : List String) (digest : String) : Prop :=
  ∃ value, document.under? names = some value ∧ value.display = digest

section Reading

variable {settings : LookupSettings} {image : Document}

/-- Whether a manifest is an index is decided rightly. -/
theorem isIndex_eq_ok {mediaType : String} {manifest : Document} {index : Bool}
    (h : isIndex mediaType manifest = .ok index) :
    index = true ↔ IsIndex mediaType manifest := by
  unfold isIndex at h
  by_cases hmedia : indexTypes.contains mediaType = true
  · rw [if_pos hmedia] at h
    cases h
    have hmem : mediaType ∈ indexTypes := by
      simpa using hmedia
    exact iff_of_true rfl (.inl hmem)
  · rw [if_neg hmedia] at h
    simp only [bind_eq_ok_iff] at h
    obtain ⟨value, hvalue, kind, hkind, hindex⟩ := h
    obtain rfl : value = .scalar kind := by
      cases value <;> cases hkind
      rfl
    have hnot : mediaType ∉ indexTypes := by
      simpa using hmedia
    have hkinds (name : String) : kind.agrees (.text name) = true ↔
        manifest.under? ["mediaType"] = some (.text name) := by
      rw [Scalar.agrees_text_iff, ← Document.eq_text_iff_under? hvalue]
      simp [Document.text]
    cases hindex
    simp [IsIndex, hnot, hkinds]

/-- Whether an entry is for the platform is decided rightly. -/
theorem isForPlatform_eq_ok {entry : Document} {selects : Bool}
    (h : isForPlatform settings entry = .ok selects) :
    selects = true ↔ IsForPlatform settings entry := by
  unfold isForPlatform at h
  simp only [bind_eq_ok_iff] at h
  obtain ⟨platform, hplatform, system, hsystem, architecture, harchitecture, hselects⟩ := h
  cases hselects
  rw [Bool.and_eq_true, Document.agrees_text_iff, Document.agrees_text_iff,
    Document.eq_text_iff_under? hsystem, Document.eq_text_iff_under? harchitecture,
    Document.under?_orElse, Document.under?_orElse, ← Document.under?_of_lookupOrNull hplatform,
    ← Document.under?_of_lookupOrNull hplatform]
  exact Iff.rfl

/-- The digest that is selected is given by the first entry for the platform. -/
theorem selectEntry_eq_ok {entries : List Document} {digest : String}
    (h : selectEntry settings image entries = .ok digest) :
    ∃ before entry after, entries = before ++ entry :: after ∧
      (∀ other ∈ before, ¬ IsForPlatform settings other) ∧ IsForPlatform settings entry ∧
      GivesDigest entry ["digest"] digest := by
  induction entries with
  | nil => cases h
  | cons first entries ih =>
      unfold selectEntry at h
      obtain ⟨selects, hselects, hrest⟩ := bind_eq_ok_iff.1 h
      have hfirst := isForPlatform_eq_ok hselects
      cases selects with
      | true =>
          simp only [↓reduceIte, bind_eq_ok_iff] at hrest
          obtain ⟨value, hvalue, hdigest⟩ := hrest
          refine ⟨[], first, entries, rfl, by simp, hfirst.1 rfl, value, ?_, ?_⟩
          · rw [Document.under?_of_field [] hvalue]
            rfl
          · exact Except.ok.inj hdigest
      | false =>
          obtain ⟨before, entry, after, rfl, hbefore, hentry⟩ := ih hrest
          refine ⟨first :: before, entry, after, rfl, ?_, hentry⟩
          have hnot : ¬ IsForPlatform settings first := fun hplatform => by
            simpa using hfirst.2 hplatform
          exact List.forall_mem_cons.2 ⟨hnot, hbefore⟩

/-- The elements of a value are those of a list, or none of them has fields. -/
theorem elements_eq_ok {value : Document} {entries : List Document}
    (h : value.elements = .ok entries) :
    value = .list entries ∨ ∀ entry ∈ entries, ∃ scalar, entry = .scalar scalar := by
  unfold Document.elements at h
  split at h <;> cases h
  · exact .inl rfl
  · right
    intro entry hmem
    obtain ⟨field, _, rfl⟩ := List.mem_map.1 hmem
    exact ⟨field.1, rfl⟩
  · right
    intro entry hmem
    obtain ⟨character, _, rfl⟩ := List.mem_map.1 hmem
    exact ⟨_, rfl⟩

/-- The digest for the platform is given by the entry that is selected. -/
theorem selectPlatform_eq_ok {index : Document} {digest : String}
    (h : selectPlatform settings image index = .ok digest) :
    ∃ entry, IsSelected settings index entry ∧ GivesDigest entry ["digest"] digest := by
  unfold selectPlatform at h
  simp only [bind_eq_ok_iff] at h
  obtain ⟨manifests, hmanifests, entries, hentries, hdigest⟩ := h
  obtain ⟨before, entry, after, rfl, hbefore, hentry, hgives⟩ := selectEntry_eq_ok hdigest
  refine ⟨entry, ⟨before, after, ?_, hbefore, hentry⟩, hgives⟩
  rcases elements_eq_ok hentries with hlist | hscalars
  · unfold Document.orElse at hlist
    split at hlist
    · have hthere := Document.getD_under?_of_lookupOrNull hmanifests
      rw [hlist] at hthere
      cases hunder : index.under? ["manifests"] with
      | none => simp [hunder, Document.null] at hthere
      | some found => simpa [hunder] using hthere
    · simp at hlist
  · -- Only an object can be for a platform.
    obtain ⟨scalar, rfl⟩ := hscalars entry (by simp)
    cases hentry.1

/-- The digest of the configuration is given by the manifest. -/
theorem configDigest_eq_ok {manifest : Document} {digest : String}
    (h : configDigest manifest = .ok digest) : GivesDigest manifest ["config", "digest"] digest := by
  unfold configDigest at h
  simp only [bind_eq_ok_iff] at h
  obtain ⟨config, hconfig, value, hvalue, hdigest⟩ := h
  refine ⟨value, ?_, Except.ok.inj hdigest⟩
  rw [Document.under?_of_field _ hconfig, Document.under?_of_field [] hvalue]
  rfl

/-- The version that the configuration of an image tells: its label, else the tag, else what the
manifest was asked for by. -/
def toldVersion (settings : LookupSettings) (reference : ImageReference) (config : Document) :
    Document :=
  let label := (config.under? ["config", "Labels", settings.versionLabel]).getD .null
  if label.truthy then label
  else .text ((reference.tag.filter (· != "")).getD reference.reference)

/-- A text counts as present unless it is empty. -/
theorem truthy_text_iff (text : String) : (Document.text text).truthy = true ↔ text ≠ "" := by
  simp [Document.truthy, Scalar.truthy]

/-- The version is what the configuration tells. -/
theorem versionOf_eq_ok {reference : ImageReference} {config version : Document}
    (h : versionOf settings reference config = .ok version) :
    version = toldVersion settings reference config := by
  unfold versionOf at h
  simp only [bind_eq_ok_iff] at h
  obtain ⟨inner, hinner, labels, hlabels, label, hlabel, hversion⟩ := h
  have htold : (config.under? ["config", "Labels", settings.versionLabel]).getD .null = label := by
    rw [Document.under?_of_lookupOrNull hinner, ← Document.under?_orElse,
      Document.under?_of_lookupOrNull hlabels, ← Document.under?_orElse]
    exact Document.getD_under?_of_lookupOrNull hlabel
  have htag : Document.orElse (.text (reference.tag.getD "")) (.text reference.reference) =
      .text ((reference.tag.filter (· != "")).getD reference.reference) := by
    cases reference.tag with
    | none => rfl
    | some tag =>
        by_cases hempty : tag = ""
        · subst hempty
          rfl
        · have htruthy : (Document.text tag).truthy = true := (truthy_text_iff tag).2 hempty
          simp [Document.orElse, htruthy, Option.filter, hempty]
  cases hversion
  unfold toldVersion
  rw [htold]
  by_cases htruthy : label.truthy = true
  · simp [Document.orElse, htruthy]
  · rw [← htag]
    simp [Document.orElse, htruthy]

/-- A manifest is always asked for by something. -/
theorem reference_ne_empty (reference : ImageReference) : reference.reference ≠ "" := by
  unfold ImageReference.reference
  split
  · next digest _ hdigest =>
      simpa using (Option.filter_eq_some_iff.1 hdigest).2
  · next tag _ htag =>
      simpa using (Option.filter_eq_some_iff.1 htag).2
  · decide

/-- A version is told, whatever the configuration. -/
theorem truthy_toldVersion (settings : LookupSettings) (reference : ImageReference)
    (config : Document) : (toldVersion settings reference config).truthy = true := by
  unfold toldVersion
  dsimp only
  split
  · next hlabel => exact hlabel
  · rw [truthy_text_iff]
    cases hfilter : reference.tag.filter (· != "") with
    | none => exact reference_ne_empty reference
    | some tag => simpa using (Option.filter_eq_some_iff.1 hfilter).2

end Reading

/-- `ReadsConfig settings repository response authorization exchanges config` says that the
configuration is read which a manifest names, or the one that it lists for the platform if it is an
index, and which requests this takes. -/
inductive ReadsConfig (settings : LookupSettings) (repository : Repository) (response : Response)
    (authorization : Option String) : List Exchange → Document → Prop where
  | direct {manifest config : Document} {digest : String} {exchanges : List Exchange}
      {found : Response} {next : Option String} :
      response.document = .ok manifest → ¬ IsIndex response.mediaType manifest →
      GivesDigest manifest ["config", "digest"] digest →
      Got repository (repository.blobPath digest) anyAccept authorization exchanges
        (.ok (found, next)) →
      found.document = .ok config →
      ReadsConfig settings repository response authorization exchanges config
  | platform {index entry manifest config : Document} {digest inner : String}
      {first second : List Exchange} {listed found : Response} {next last : Option String} :
      response.document = .ok index → IsIndex response.mediaType index →
      IsSelected settings index entry → GivesDigest entry ["digest"] digest →
      Got repository (repository.manifestPath digest) manifestAccept authorization first
        (.ok (listed, next)) →
      listed.document = .ok manifest → GivesDigest manifest ["config", "digest"] inner →
      Got repository (repository.blobPath inner) anyAccept next second (.ok (found, last)) →
      found.document = .ok config →
      ReadsConfig settings repository response authorization (first ++ second) config

/-- The hash that a registry tells of a manifest, else the one that its body has. -/
def toldHash (manifest : Response) : String :=
  if manifest.header "Docker-Content-Digest" = "" then
    "sha256:" ++ Text.Sha256.hexHash manifest.body
  else manifest.header "Docker-Content-Digest"

/-- What the record of a lookup means, given all its fetches: they begin with those for the manifest
which the reference names, whose hash is reported, and the version is told by the configuration that
is read after it. -/
inductive Resolved (settings : LookupSettings) (repository : Repository)
    (exchanges : List Exchange) (record : VersionRecord) : Prop where
  | of_manifest {manifest : Response} {authorization : Option String}
      {first rest : List Exchange} {config : Document} :
      exchanges = first ++ rest →
      Got repository (repository.manifestPath repository.image.reference) manifestAccept none first
        (.ok (manifest, authorization)) →
      ReadsConfig settings repository manifest authorization rest config →
      record.hash = .text (toldHash manifest) →
      record.version = toldVersion settings repository.image config →
      Resolved settings repository exchanges record

section Image

variable {settings : LookupSettings} {image : Document} {repository : Repository}
  {exchanges : List Exchange}

/-- The configuration that a manifest names is found by one more place. -/
theorem readConfig_eq_ok {authorization : Option String} {manifest config : Document}
    {given hash : String} (hbase : repository.base.Userless)
    (h : Fetches
      (do
        let digest ← liftM (configDigest manifest)
        let found ← repository.getBlob authorization digest
        let config ← liftM found.1.document
        return (given, config))
      exchanges (.ok (hash, config))) :
    hash = given ∧ ∃ digest found next, GivesDigest manifest ["config", "digest"] digest ∧
      Got repository (repository.blobPath digest) anyAccept authorization exchanges
        (.ok (found, next)) ∧
      found.document = .ok config := by
  obtain ⟨digest, hdigest, hget⟩ := fetches_lift_bind_ok_iff.1 h
  obtain ⟨⟨found, next⟩, blob, last, rfl, hblob, hread⟩ := fetches_bind_ok_iff.1 hget
  obtain ⟨document, hdocument, hpair⟩ := fetches_lift_bind_ok_iff.1 hread
  obtain ⟨rfl, hresult⟩ := fetches_pure_iff.1 hpair
  cases hresult
  refine ⟨rfl, digest, found, next, configDigest_eq_ok hdigest, ?_, hdocument⟩
  rw [List.append_nil]
  exact got_of_fetches hbase (exists_blobPath_eq repository digest) hblob

/-- An image is read from the manifest which its reference names. -/
theorem readImage_eq_ok {hash : String} {config : Document} (hbase : repository.base.Userless)
    (h : Fetches (readImage settings image repository) exchanges (.ok (hash, config))) :
    ∃ manifest authorization first rest, exchanges = first ++ rest ∧
      Got repository (repository.manifestPath repository.image.reference) manifestAccept none first
        (.ok (manifest, authorization)) ∧
      ReadsConfig settings repository manifest authorization rest config ∧
      hash = digestOf manifest := by
  unfold readImage at h
  dsimp only at h
  obtain ⟨⟨response, authorization⟩, first, rest, rfl, hmanifest, hread⟩ := fetches_bind_ok_iff.1 h
  obtain ⟨manifest, hdocument, hkind⟩ := fetches_lift_bind_ok_iff.1 hread
  obtain ⟨index, hindex, hrest⟩ := fetches_lift_bind_ok_iff.1 hkind
  have hdecided := isIndex_eq_ok hindex
  have hgot := got_of_fetches hbase (exists_manifestPath_eq repository _) hmanifest
  cases index with
  | true =>
      rw [if_pos rfl] at hrest
      obtain ⟨digest, hselected, hlisted⟩ := fetches_lift_bind_ok_iff.1 hrest
      obtain ⟨entry, hentry, hgives⟩ := selectPlatform_eq_ok hselected
      obtain ⟨⟨listed, next⟩, second, third, rfl, hget, hinner⟩ := fetches_bind_ok_iff.1 hlisted
      obtain ⟨inner, hlistedDocument, hconfig⟩ := fetches_lift_bind_ok_iff.1 hinner
      have hgotListed := got_of_fetches hbase (exists_manifestPath_eq repository digest) hget
      obtain ⟨rfl, blob, found, last, hblob, hfound, hfoundDocument⟩ :=
        readConfig_eq_ok hbase hconfig
      exact ⟨response, authorization, first, second ++ third, rfl, hgot,
        .platform hdocument (hdecided.1 rfl) hentry hgives hgotListed hlistedDocument hblob hfound
          hfoundDocument, rfl⟩
  | false =>
      rw [if_neg Bool.false_ne_true] at hrest
      obtain ⟨rfl, blob, found, last, hblob, hfound, hfoundDocument⟩ :=
        readConfig_eq_ok hbase hrest
      have hnot : ¬ IsIndex response.mediaType manifest := fun h => by
        simpa using hdecided.2 h
      exact ⟨response, authorization, first, rest, rfl, hgot,
        .direct hdocument hnot hblob hfound hfoundDocument, rfl⟩

end Image

section Unique

variable {repository : Repository}

/-- The exchanges determine how a challenge is answered. -/
theorem Answered.unique {challenge : Challenge} {first second rest others : List Exchange}
    {left right : String} (hfirst : Answered repository challenge first (.ok left))
    (hsecond : Answered repository challenge second (.ok right))
    (hsame : first ++ rest = second ++ others) : left = right ∧ rest = others := by
  cases hfirst with
  | basic hauth =>
      cases hsecond with
      | basic hother =>
          cases hauth.symm.trans hother
          exact ⟨rfl, hsame⟩
  | token _ htoken =>
      cases hsecond with
      | token _ hother =>
          obtain ⟨hexchange, hrest⟩ := List.cons.inj hsame
          cases hexchange
          cases htoken.symm.trans hother
          exact ⟨rfl, hrest⟩

/-- The exchanges determine which response a place gives. -/
theorem Got.unique {path accept : String} {authorization : Option String}
    {first second rest others : List Exchange} {left right : Response × Option String}
    (hfirst : Got repository path accept authorization first (.ok left))
    (hsecond : Got repository path accept authorization second (.ok right))
    (hsame : first ++ rest = second ++ others) : left = right := by
  generalize hleft : (.ok left : Except Fault _) = result at hfirst
  induction hfirst generalizing second with
  | unasked | failed | refused | unanswered => cases hleft
  | accepted _ hsuccess =>
      cases hleft
      cases hsecond with
      | accepted =>
          cases (List.cons.inj hsame).1
          rfl
      | repeated _ hstatus =>
          cases (List.cons.inj hsame).1
          simp [Response.isSuccess, hstatus] at hsuccess
  | repeated _ hstatus hanswer _ ih =>
      cases hsecond with
      | accepted _ hsuccess =>
          cases (List.cons.inj hsame).1
          simp [Response.isSuccess, hstatus] at hsuccess
      | repeated _ _ hother hagain =>
          simp only [List.cons_append, List.append_assoc] at hsame
          obtain ⟨hexchange, hlater⟩ := List.cons.inj hsame
          cases hexchange
          obtain ⟨rfl, hrest⟩ := hanswer.unique hother hlater
          exact ih hagain hrest hleft

end Unique

/-- The index lists an entry for the platform. -/
def ListsPlatform (settings : LookupSettings) (index : Document) : Prop :=
  ∃ entries, index.under? ["manifests"] = some (.list entries) ∧
    ∃ entry ∈ entries, IsForPlatform settings entry

/-- A lookup with its result resolves rightly: a record means what it should, and there is none if
the manifest which the reference names is an index that lists nothing for the platform. -/
structure Inquiry.ResolvesRightly (inquiry : Inquiry) (result : Except Fault VersionRecord)
    (fetches : List Fetch) : Prop where
  consists : inquiry.ConsistsOf fetches
  record : ∀ record, result = .ok record → ∃ repository, inquiry.IsAbout repository ∧
    Resolved inquiry.settings repository (fetches.map (·.toExchange)) record ∧
    record.version.truthy = true
  unlisted : ∀ repository first rest manifest authorization index, inquiry.IsAbout repository →
    fetches.map (·.toExchange) = first ++ rest →
    Got repository (repository.manifestPath repository.image.reference) manifestAccept none first
      (.ok (manifest, authorization)) →
    manifest.document = .ok index → IsIndex manifest.mediaType index →
    ¬ ListsPlatform inquiry.settings index → ∃ fault, result = .error fault

section Lookup

variable {inquiry : Inquiry} {repository : Repository} {exchanges : List Exchange}
  {record : VersionRecord}

/-- The lookup is about one repository. -/
theorem Inquiry.IsAbout.unique {other : Repository} (h : inquiry.IsAbout repository)
    (hother : inquiry.IsAbout other) : repository = other := by
  obtain ⟨reference, hreference, hrepository⟩ := h
  obtain ⟨_, hreference', hrepository'⟩ := hother
  cases hreference.symm.trans hreference'
  cases hrepository.symm.trans hrepository'
  rfl

/-- The repository of an image is the one that its reference names. -/
theorem image_repositoryOf {reference : ImageReference} {credentials : Option Credentials}
    (h : repositoryOf reference credentials = .ok repository) : repository.image = reference := by
  unfold repositoryOf at h
  simp only [bind_eq_ok_iff] at h
  obtain ⟨_, _, _, _, hrepository⟩ := h
  cases hrepository
  rfl

/-- The digest of a manifest is the hash that is told of it. -/
theorem digestOf_eq (response : Response) : digestOf response = toldHash response := by
  unfold digestOf toldHash
  split
  · next hempty => rw [if_pos hempty]
  · next hgiven => rw [if_neg hgiven]

/-- A lookup that succeeds has resolved the image. -/
theorem resolved_of_fetches
    (h : Fetches (lookup inquiry.settings inquiry.image inquiry.credentials) exchanges
      (.ok record)) :
    ∃ repository, inquiry.IsAbout repository ∧
      Resolved inquiry.settings repository exchanges record := by
  rcases lookup_of_fetches h with
    ⟨_, fault, hfault⟩ | ⟨reference, repository, read, hreference, hrepository, hread, hresult⟩
  · cases hfault
  obtain ⟨⟨hash, config⟩, hfound, hrecord⟩ := bind_eq_ok_iff.1 hresult.symm
  obtain ⟨version, hversion, hpair⟩ := bind_eq_ok_iff.1 hrecord
  cases hpair
  cases read with
  | error => cases hfound
  | ok found =>
      cases hfound
      have hbase := userless_repositoryOf hreference hrepository
      obtain ⟨manifest, authorization, first, rest, hsplit, hgot, hconfig, hhash⟩ :=
        readImage_eq_ok hbase hread
      have habout : inquiry.IsAbout repository := ⟨reference, hreference, hrepository⟩
      refine ⟨repository, habout, .of_manifest hsplit hgot hconfig ?_ ?_⟩
      · rw [← digestOf_eq, hhash]
      · rw [image_repositoryOf hrepository]
        exact versionOf_eq_ok hversion

/-- A version that is reported is not empty. -/
theorem Resolved.truthy_version {settings : LookupSettings}
    (h : Resolved settings repository exchanges record) : record.version.truthy = true := by
  obtain ⟨_, _, _, _, hversion⟩ := h
  rw [hversion]
  exact truthy_toldVersion _ _ _

/-- An index that is resolved lists the platform. -/
theorem Resolved.listsPlatform {settings : LookupSettings} {first rest : List Exchange}
    {manifest : Response} {authorization : Option String} {index : Document}
    (h : Resolved settings repository (first ++ rest) record)
    (hgot : Got repository (repository.manifestPath repository.image.reference) manifestAccept none
      first (.ok (manifest, authorization)))
    (hdocument : manifest.document = .ok index) (hindex : IsIndex manifest.mediaType index) :
    ListsPlatform settings index := by
  obtain ⟨hsplit, hmanifest, hconfig, _, _⟩ := h
  cases hgot.unique hmanifest hsplit
  cases hconfig with
  | direct hother hnot =>
      cases hdocument.symm.trans hother
      exact absurd hindex hnot
  | platform hother _ hselected =>
      cases hdocument.symm.trans hother
      obtain ⟨before, after, hlisted, _, hplatform⟩ := hselected
      exact ⟨_, hlisted, _, by simp, hplatform⟩

end Lookup

/-- Whatever the world answers, a lookup resolves rightly. -/
theorem resolved_version {σ : Type} (settings : LookupSettings) (image : Document)
    (credentials : Option Credentials)
    (world : (request : system.Request) → StateM σ (system.Reply request)) (start : σ) :
    ∃ fetches, (inquiryIn settings image credentials world start).ResolvesRightly
      (Process.run world (resolve settings image credentials).outcome start).1 fetches := by
  obtain ⟨fetches, hconsists, hfetches⟩ := exists_fetches settings image credentials world start
  have hresolved {record : VersionRecord}
      (hrecord : (Process.run world (resolve settings image credentials).outcome start).1 =
        .ok record) :
      ∃ repository, (inquiryIn settings image credentials world start).IsAbout repository ∧
        Resolved settings repository (fetches.map (·.toExchange)) record :=
    resolved_of_fetches (hrecord ▸ hfetches)
  refine ⟨fetches, hconsists, ?_, ?_⟩
  · intro record hrecord
    obtain ⟨repository, habout, h⟩ := hresolved hrecord
    exact ⟨repository, habout, h, h.truthy_version⟩
  · intro repository first rest manifest authorization index habout hsplit hgot hdocument hindex
      hunlisted
    cases hresult : (Process.run world (resolve settings image credentials).outcome start).1 with
    | error fault => exact ⟨fault, rfl⟩
    | ok record =>
        obtain ⟨other, hother, h⟩ := hresolved hresult
        cases habout.unique hother
        exact absurd ((hsplit ▸ h).listsPlatform hgot hdocument hindex) hunlisted

end MonitorOperator.Registry
