import MonitorOperator.Proofs.Registry.AnswerFaults
import MonitorOperator.Proofs.Registry.DockerEntries

/-!
# The faults of a docker config

A docker config that cannot be used is to fail with a fault of a lookup. It does so where its text is
no JSON and where the username and password of an entry do not decode. What is found of the wrong
kind on the way is handed on as it is: a config, its `auths` or an entry that is no object, and an
`auth` that is no text or not ASCII; so is a text that is nested too deeply. `Credentials.Escapes`
says for which configs this happens, and with which fault (`Credentials.ofDockerConfig_escapes_iff`).
Entries are read one after the other, so the first one that fails decides.
-/

namespace MonitorOperator.Credentials

open Registry (isObject)

/-- The username and password of an entry are decoded from its `auth`. -/
structure Decodes (fields : Fields) (auth : Document) : Prop where
  username : ∀ username, Fields.get? fields (.text "username") = some username →
    username.truthy = false
  found : Fields.get? fields (.text "auth") = some auth
  present : auth.truthy = true

/-- The fault that an entry lets escape. -/
inductive EntryEscapes : Document → Fault → Prop where
  | entry {entry : Document} : isObject entry = false → EntryEscapes entry .noSuchMember
  | kind {fields : Fields} {auth : Document} : Decodes fields auth →
      (∀ text, auth ≠ .text text) → EntryEscapes (.object fields) .wrongKind
  | letters {fields : Fields} {text : String} : Decodes fields (.text text) →
      (∃ character ∈ text.toList, 128 ≤ character.toNat) →
      EntryEscapes (.object fields) (.value .notAscii)

/-- The fault that a config lets escape. -/
inductive Escapes (config : DockerConfig) : Fault → Prop where
  | deep {fault : Fault} : readConfig config = .error fault → fault.kind = .tooDeep →
      Escapes config fault
  | config {document : Document} : readConfig config = .ok document → isObject document = false →
      Escapes config .noSuchMember
  | auths {fields : Fields} {auths : Document} : readConfig config = .ok (.object fields) →
      Fields.get? fields (.text "auths") = some auths → auths.truthy = true →
      isObject auths = false → Escapes config .noSuchMember
  | entry {before after : Fields} {server : Scalar} {entry : Document} {fault : Fault} :
      Lists config (before ++ (server, entry) :: after) →
      (∀ field ∈ before, ∃ auth, readEntry field.1.display field.2 = .ok auth) →
      EntryEscapes entry fault → Escapes config fault

section Reading

variable {config : DockerConfig} {document entry : Document} {fields : Fields} {fault : Fault}

/-- A config that cannot be read has a fault of a lookup or is nested too deeply. -/
theorem readConfig_faultsIn :
    FaultsIn (fun fault => fault.kind = .versionLookup ∨ fault.kind = .tooDeep)
      (readConfig config) := by
  have hread {read : Except Fault Document} (h : FaultsIn Document.Unreadable read) :
      FaultsIn (fun fault => fault.kind = .versionLookup ∨ fault.kind = .tooDeep)
        (read.mapError unreadable) := by
    refine h.mapError fun fault hfault => ?_
    unfold unreadable
    split
    · exact .inl rfl
    · next hother =>
        rcases hfault with hdeep | hinvalid
        · exact .inr hdeep
        · simp [hinvalid] at hother
  unfold readConfig
  split
  · exact hread (Document.readCharacters_faultsIn _)
  · exact hread (Document.readBytes_faultsIn _)
  · exact .ok _
  · exact hread (Document.readCharacters_faultsIn _)
  · exact FaultsIn.error_iff.2 (.inl rfl)

/-- An `auth` that is not ASCII is no acceptable value. -/
theorem decodeAuth_of_letters {server text : String}
    (h : ∃ character ∈ text.toList, 128 ≤ character.toNat) :
    decodeAuth server (.text text) = .error (.value .notAscii) := by
  have hany : (text.toList.any fun character => 128 ≤ character.toNat) = true := by
    simpa using h
  unfold decodeAuth
  dsimp only
  rw [if_pos hany]

/-- An `auth` that is no text has the wrong kind. -/
theorem decodeAuth_of_not_text {server : String} {auth : Document}
    (h : ∀ text, auth ≠ .text text) : decodeAuth server auth = .error .wrongKind := by
  unfold decodeAuth
  split
  · next text => exact absurd rfl (h text)
  · rfl

/-- An ASCII text that does not decode is a fault of a lookup. -/
theorem decodeAuth_faultsIn {server text : String}
    (h : ¬ ∃ character ∈ text.toList, 128 ≤ character.toNat) :
    FaultsIn (fun fault => fault.kind = .versionLookup) (decodeAuth server (.text text)) := by
  have hany : (text.toList.any fun character => 128 ≤ character.toNat) = false := by
    simpa using h
  unfold decodeAuth
  dsimp only
  rw [hany, if_neg Bool.false_ne_true]
  split
  · exact FaultsIn.error_iff.2 rfl
  split
  · exact FaultsIn.error_iff.2 rfl
  split <;> exact .ok _

/-- Decoding an `auth` lets a fault escape if it is no text or not ASCII. -/
theorem decodeAuth_escapes_iff {server : String} {auth : Document} :
    (decodeAuth server auth = .error fault ∧ fault.kind ≠ .versionLookup) ↔
      ((∀ text, auth ≠ .text text) ∧ fault = .wrongKind) ∨
        ∃ text, auth = .text text ∧ (∃ character ∈ text.toList, 128 ≤ character.toNat) ∧
          fault = .value .notAscii := by
  constructor
  · rintro ⟨hfault, hkind⟩
    by_cases htext : ∃ text, auth = .text text
    · obtain ⟨text, rfl⟩ := htext
      by_cases hletters : ∃ character ∈ text.toList, 128 ≤ character.toNat
      · rw [decodeAuth_of_letters hletters] at hfault
        exact .inr ⟨text, rfl, hletters, (Except.error.inj hfault).symm⟩
      · exact absurd (decodeAuth_faultsIn hletters fault hfault) hkind
    · have htext := not_exists.1 htext
      rw [decodeAuth_of_not_text htext] at hfault
      exact .inl ⟨htext, (Except.error.inj hfault).symm⟩
  · rintro (⟨htext, rfl⟩ | ⟨text, rfl, hletters, rfl⟩)
    · exact ⟨decodeAuth_of_not_text htext, nofun⟩
    · exact ⟨decodeAuth_of_letters hletters, nofun⟩

/-- An object is read by decoding its `auth`, or has its username and password as they are. -/
theorem readEntry_object (server : String) (fields : Fields) :
    (∃ auth, Decodes fields auth ∧ readEntry server (.object fields) = decodeAuth server auth) ∨
      ((∀ auth, ¬ Decodes fields auth) ∧ ∃ auth, readEntry server (.object fields) = .ok auth) := by
  let username := (Fields.get? fields (.text "username")).getD (.text "")
  let auth := (Fields.get? fields (.text "auth")).getD .null
  have hread : readEntry server (.object fields) =
      if username.truthy then
        .ok ⟨username, (Fields.get? fields (.text "password")).getD (.text "")⟩
      else if auth.truthy then decodeAuth server auth
      else .ok ⟨username, (Fields.get? fields (.text "password")).getD (.text "")⟩ := by
    unfold readEntry
    simp only [Document.lookupOr_object, Document.lookupOrNull_object, bind, Except.bind]
    rfl
  rw [hread]
  by_cases husername : username.truthy = true
  · refine .inr ⟨fun other hdecodes => ?_, _, if_pos husername⟩
    cases hfound : Fields.get? fields (.text "username") with
    | none => simp [username, hfound, Document.truthy, Scalar.truthy] at husername
    | some value =>
        have hfalsy := hdecodes.username value hfound
        simp [username, hfound, hfalsy] at husername
  rw [if_neg husername]
  by_cases hauth : auth.truthy = true
  · refine .inl ⟨auth, ⟨fun value hfound => ?_, ?_, hauth⟩, if_pos hauth⟩
    · simpa [username, hfound] using husername
    · cases hfound : Fields.get? fields (.text "auth") with
      | none => simp [auth, hfound, Document.truthy, Scalar.truthy] at hauth
      | some value => simp [auth, hfound]
  · refine .inr ⟨fun other hdecodes => hauth ?_, _, if_neg hauth⟩
    simpa [auth, hdecodes.found] using hdecodes.present

/-- The username and password of an entry are decoded from one `auth`. -/
theorem Decodes.eq {fields : Fields} {auth other : Document} (h : Decodes fields auth)
    (hother : Decodes fields other) : auth = other :=
  Option.some.inj (h.found.symm.trans hother.found)

/-- An object has fields. -/
theorem exists_fields (h : isObject document = true) : ∃ fields, document = .object fields := by
  cases document with
  | object fields => exact ⟨fields, rfl⟩
  | scalar | list => cases h

/-- Only an object has fields to read. -/
theorem readEntry_of_not_isObject {server : String} (h : isObject entry = false) :
    readEntry server entry = .error .noSuchMember := by
  cases entry with
  | object => cases h
  | scalar | list => rfl

/-- Reading an entry lets a fault escape if the entry is no object, or if the `auth` to decode is no
text or not ASCII. -/
theorem readEntry_escapes_iff {server : String} :
    (readEntry server entry = .error fault ∧ fault.kind ≠ .versionLookup) ↔
      EntryEscapes entry fault := by
  cases hobject : isObject entry with
  | false =>
      rw [readEntry_of_not_isObject hobject, Except.error.injEq]
      constructor
      · rintro ⟨rfl, _⟩
        exact .entry hobject
      · intro h
        cases h with
        | entry => exact ⟨rfl, nofun⟩
        | kind | letters => cases hobject
  | true =>
      obtain ⟨fields, rfl⟩ := exists_fields hobject
      rcases readEntry_object server fields with ⟨auth, hdecodes, hread⟩ | ⟨hnone, auth, hread⟩
      · rw [hread, decodeAuth_escapes_iff]
        constructor
        · rintro (⟨htext, rfl⟩ | ⟨text, rfl, hletters, rfl⟩)
          · exact .kind hdecodes htext
          · exact .letters hdecodes hletters
        · intro h
          cases h with
          | entry hother => cases hother
          | kind hother htext => exact .inl ⟨hdecodes.eq hother ▸ htext, rfl⟩
          | letters hother hletters => exact .inr ⟨_, hdecodes.eq hother, hletters, rfl⟩
      · rw [hread]
        constructor
        · rintro ⟨hfault, _⟩
          cases hfault
        · intro h
          cases h with
          | entry hother => cases hother
          | kind hother | letters hother => exact absurd hother (hnone _)

/-- Reading entries fails where the first entry fails. -/
theorem readEntries_eq_error_iff {entries : Keyed RegistryAuth} :
    readEntries entries fields = .error fault ↔ ∃ before server entry after,
      fields = before ++ (server, entry) :: after ∧
        (∀ field ∈ before, ∃ auth, readEntry field.1.display field.2 = .ok auth) ∧
        readEntry server.display entry = .error fault := by
  induction fields generalizing entries with
  | nil => simp [readEntries]
  | cons field rest ih =>
      obtain ⟨server, entry⟩ := field
      rw [readEntries, bind_eq_error_iff]
      constructor
      · rintro (hfirst | ⟨auth, hauth, hrest⟩)
        · exact ⟨[], server, entry, rest, rfl, nofun, hfirst⟩
        · obtain ⟨before, failing, failed, after, rfl, hbefore, hfault⟩ := ih.1 hrest
          refine ⟨(server, entry) :: before, failing, failed, after, rfl, ?_, hfault⟩
          exact List.forall_mem_cons.2 ⟨⟨auth, hauth⟩, hbefore⟩
      · rintro ⟨before, failing, failed, after, hsplit, hbefore, hfault⟩
        cases before with
        | nil =>
            cases hsplit
            exact .inl hfault
        | cons first before =>
            cases hsplit
            obtain ⟨⟨auth, hauth⟩, hbefore⟩ := List.forall_mem_cons.1 hbefore
            exact .inr ⟨auth, hauth, ih.2 ⟨before, failing, failed, after, rfl, hbefore, hfault⟩⟩

/-- Only an object has `auths` to read. -/
theorem ofDocument_of_not_isObject (h : isObject document = false) :
    ofDocument document = .error .noSuchMember := by
  cases document with
  | object => cases h
  | scalar | list => rfl

/-- The `auths` of a document are no object. -/
theorem ofDocument_of_auths {auths : Document} (hfound : Fields.get? fields (.text "auths") = some auths)
    (hpresent : auths.truthy = true) (hobject : isObject auths = false) :
    ofDocument (.object fields) = .error .noSuchMember := by
  have hauths : auths.orElse (.object []) = auths := if_pos hpresent
  unfold ofDocument
  simp only [Document.lookupOrNull_object, hfound, Option.getD_some, bind, Except.bind, hauths]
  cases auths with
  | object => cases hobject
  | scalar | list => rfl

/-- A document lists entries, or has `auths` that are no object. -/
theorem listed_or_auths (fields : Fields) :
    (∃ listed, ((Fields.get? fields (.text "auths")).getD .null).orElse (.object []) =
      .object listed) ∨
    ∃ auths, Fields.get? fields (.text "auths") = some auths ∧ auths.truthy = true ∧
      isObject auths = false := by
  cases hfound : Fields.get? fields (.text "auths") with
  | none => exact .inl ⟨[], rfl⟩
  | some auths =>
      cases hpresent : auths.truthy with
      | false => exact .inl ⟨[], by simp [Document.orElse, hpresent]⟩
      | true =>
          cases auths with
          | object listed => exact .inl ⟨listed, by simp [Document.orElse, hpresent]⟩
          | scalar | list => exact .inr ⟨_, rfl, hpresent, rfl⟩

end Reading

/-- A docker config gives credentials, or fails with a fault of a lookup. It lets another fault escape
exactly if its text is nested too deeply, if the config or its `auths` are no object, or if the first
entry that cannot be read is no object or has an `auth` to decode that is no text or not ASCII. -/
theorem ofDockerConfig_escapes_iff (config : DockerConfig) (fault : Fault) :
    (ofDockerConfig config = .error fault ∧ fault.kind ≠ .versionLookup) ↔
      Escapes config fault := by
  constructor
  · rintro ⟨hfault, hkind⟩
    rcases bind_eq_error_iff.1 hfault with hconfig | ⟨document, hconfig, hdocument⟩
    · exact .deep hconfig ((readConfig_faultsIn fault hconfig).resolve_left hkind)
    cases hobject : isObject document with
    | false =>
        rw [ofDocument_of_not_isObject hobject] at hdocument
        cases hdocument
        exact .config hconfig hobject
    | true =>
        obtain ⟨fields, rfl⟩ := exists_fields hobject
        rcases listed_or_auths fields with ⟨listed, hlisted⟩ | ⟨auths, hfound, hpresent, hother⟩
        · have hauths := Document.lookupOrNull_object fields "auths"
          have hlists : Lists config listed := ⟨_, _, hconfig, hauths, hlisted⟩
          rw [ofDockerConfig_of_lists hlists, map_eq_error_iff] at hfault
          obtain ⟨before, server, entry, after, rfl, hbefore, hentry⟩ :=
            readEntries_eq_error_iff.1 hfault
          exact .entry hlists hbefore (readEntry_escapes_iff.1 ⟨hentry, hkind⟩)
        · rw [ofDocument_of_auths hfound hpresent hother] at hdocument
          cases hdocument
          exact .auths hconfig hfound hpresent hother
  · intro h
    cases h with
    | deep hconfig hdeep =>
        exact ⟨bind_eq_error_iff.2 (.inl hconfig), by simp [hdeep]⟩
    | config hconfig hobject =>
        exact ⟨bind_eq_error_iff.2 (.inr ⟨_, hconfig, ofDocument_of_not_isObject hobject⟩), nofun⟩
    | auths hconfig hfound hpresent hobject =>
        refine ⟨bind_eq_error_iff.2 (.inr ⟨_, hconfig, ?_⟩), nofun⟩
        exact ofDocument_of_auths hfound hpresent hobject
    | entry hlists hbefore hescapes =>
        obtain ⟨hentry, hkind⟩ := readEntry_escapes_iff.2 hescapes
        refine ⟨?_, hkind⟩
        rw [ofDockerConfig_of_lists hlists, map_eq_error_iff]
        exact readEntries_eq_error_iff.2 ⟨_, _, _, _, rfl, hbefore, hentry⟩

/-- An `auth` with a letter outside ASCII is no fault of a lookup, and no nesting that is too deep. -/
theorem not_ofDockerConfig_faults_versionLookup :
    ¬ ∀ config, FaultsIn (fun fault => fault.kind = .versionLookup ∨ fault.kind = .tooDeep)
      (ofDockerConfig config) := by
  intro h
  have hkind := h (.document (.ofFields [("auths", .ofFields [("registry.example.com",
    .ofFields [("auth", .text "é")])])])) (.value .notAscii) rfl
  rcases hkind with hlookup | hdeep
  · cases hlookup
  · cases hdeep

end MonitorOperator.Credentials
