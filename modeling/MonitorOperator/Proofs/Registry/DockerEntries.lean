import MonitorOperator.Proofs.Document.Fields
import MonitorOperator.Registry.Credentials

/-!
# The entries of a docker config

Which entry of a docker config the credentials for a registry come from. A config lists an entry for
each server (`Credentials.Lists`); the last one counts of those whose servers have one host, and the
registry's entry is found by its host or, for Docker Hub, by another of its names
(`Credentials.selectedEntry`). The credentials for a registry are what is read from this entry
(`Credentials.forRegistry_reads`).
-/

namespace MonitorOperator.Credentials

/-- A docker config lists entries by server. -/
def Lists (config : DockerConfig) (fields : Fields) : Prop :=
  ∃ document auths, readConfig config = .ok document ∧ document.lookupOrNull "auths" = .ok auths ∧
    auths.orElse (.object []) = .object fields

/-- Entries by host, put one after the other over those before. -/
def hostEntries (entries : Keyed Document) : Fields → Keyed Document
  | [] => entries
  | (server, entry) :: rest =>
      hostEntries (Keyed.put entries (normalizeHost server.display) entry) rest

/-- The value for a registry: the one under its own name or, for Docker Hub, under the first of its
names that has one. -/
def select {α : Type} (entries : Keyed α) (host : String) : Option α :=
  match Keyed.get? entries host with
  | some value => some value
  | none => if hubNames.contains host then hubNames.findSome? (Keyed.get? entries) else none

/-- The entry for a registry, of those that a config lists by server. -/
def selectedEntry (fields : Fields) (host : String) : Option Document :=
  select (hostEntries [] fields) host

/-- The credentials for a registry are selected from all. -/
theorem forRegistry_eq_select (credentials : Credentials) (host : String) :
    credentials.forRegistry host = select credentials.entries host := by
  have hget (name : String) : credentials.get? name = Keyed.get? credentials.entries name := rfl
  have hfind : hubNames.findSome? credentials.get? =
      hubNames.findSome? (Keyed.get? credentials.entries) := rfl
  unfold forRegistry select
  rw [hget, hfind]
  cases Keyed.get? credentials.entries host <;> rfl

/-- The credentials are what is read from an entry. -/
def ReadFrom (entry : Document) (auth : RegistryAuth) : Prop :=
  ∃ server, readEntry server entry = .ok auth

section Selecting

variable {α β : Type} {related : α → β → Prop} {left : Keyed α} {right : Keyed β}

/-- Values that are related name by name are so under the first name that has one. -/
theorem rel_findSome?
    (h : ∀ name, Option.Rel related (Keyed.get? left name) (Keyed.get? right name))
    (names : List String) :
    Option.Rel related (names.findSome? (Keyed.get? left))
      (names.findSome? (Keyed.get? right)) := by
  induction names with
  | nil => exact .none
  | cons name names ih =>
      have hname := h name
      rw [List.findSome?_cons, List.findSome?_cons]
      cases hleft : Keyed.get? left name <;> cases hright : Keyed.get? right name <;>
        rw [hleft, hright] at hname
      · exact ih
      · cases hname
      · cases hname
      · exact hname

/-- Values that are related name by name are so for each registry. -/
theorem rel_select (h : ∀ name, Option.Rel related (Keyed.get? left name) (Keyed.get? right name))
    (host : String) : Option.Rel related (select left host) (select right host) := by
  have hhost := h host
  unfold select
  cases hleft : Keyed.get? left host <;> cases hright : Keyed.get? right host <;>
    rw [hleft, hright] at hhost
  · dsimp only
    split
    · exact rel_findSome? h hubNames
    · exact .none
  · cases hhost
  · cases hhost
  · exact hhost

/-- Related values stay so when one more is put under the same name. -/
theorem rel_put (h : ∀ name, Option.Rel related (Keyed.get? left name) (Keyed.get? right name))
    {first : α} {second : β} (hvalue : related first second) (host name : String) :
    Option.Rel related (Keyed.get? (Keyed.put left host first) name)
      (Keyed.get? (Keyed.put right host second) name) := by
  rw [Keyed.get?_put, Keyed.get?_put]
  split
  · exact .some hvalue
  · exact h name

end Selecting

/-- The credentials by host are what is read from the entries by host. -/
theorem readEntries_reads {fields : Fields} {entries : Keyed Document}
    {auths result : Keyed RegistryAuth} (hread : readEntries auths fields = .ok result)
    (h : ∀ host, Option.Rel ReadFrom (Keyed.get? entries host) (Keyed.get? auths host)) :
    ∀ host, Option.Rel ReadFrom (Keyed.get? (hostEntries entries fields) host)
      (Keyed.get? result host) := by
  induction fields generalizing entries auths with
  | nil =>
      cases hread
      exact h
  | cons field rest ih =>
      obtain ⟨server, entry⟩ := field
      obtain ⟨auth, hauth, hrest⟩ := bind_eq_ok_iff.1 hread
      exact ih hrest (rel_put h ⟨server.display, hauth⟩ _)

/-- The credentials in a config are those of the entries that it lists. -/
theorem ofDockerConfig_of_lists {config : DockerConfig} {fields : Fields}
    (h : Lists config fields) :
    ofDockerConfig config = (readEntries [] fields).map Credentials.mk := by
  obtain ⟨document, auths, hdocument, hauths, hfields⟩ := h
  unfold ofDockerConfig ofDocument
  simp only [hdocument, hauths, hfields, bind, Except.bind]
  cases readEntries [] fields <;> rfl

/-- A config gives the credentials whose entries are read from those that it lists. -/
theorem ofDockerConfig_eq_ok_iff {config : DockerConfig} {credentials : Credentials}
    {fields : Fields} (h : Lists config fields) :
    ofDockerConfig config = .ok credentials ↔ readEntries [] fields = .ok credentials.entries := by
  rw [ofDockerConfig_of_lists h]
  cases readEntries [] fields with
  | error fault => simp [Except.map]
  | ok entries =>
      obtain ⟨others⟩ := credentials
      simp [Except.map]

/-- The credentials for a registry are what is read from its entry. -/
theorem forRegistry_reads {config : DockerConfig} {credentials : Credentials} {fields : Fields}
    (hconfig : ofDockerConfig config = .ok credentials) (hlists : Lists config fields)
    (host : String) :
    Option.Rel ReadFrom (selectedEntry fields host) (credentials.forRegistry host) := by
  have hread := (ofDockerConfig_eq_ok_iff hlists).1 hconfig
  rw [forRegistry_eq_select]
  refine rel_select (readEntries_reads hread fun name => ?_) host
  exact .none

/-- A field of an entry is missing or an empty text. -/
def Lacks (entry : Document) (key : String) : Prop :=
  entry.lookup (.text key) = .ok none ∨ entry.lookup (.text key) = .ok (some (.text ""))

/-- An entry carries no credentials. -/
structure CarriesNothing (entry : Document) : Prop where
  username : Lacks entry "username"
  password : Lacks entry "password"
  auth : Lacks entry "auth"

/-- The username and password that are read from an entry which carries none. -/
def emptyAuth : RegistryAuth := ⟨.text "", .text ""⟩

/-- A field that lacks is read as an empty text. -/
theorem Lacks.lookupOr_eq {entry : Document} {key : String} (h : Lacks entry key) :
    entry.lookupOr key (.text "") = .ok (.text "") := by
  unfold Document.lookupOr
  rcases h with h | h <;> rw [h] <;> rfl

/-- A field that lacks does not count as present. -/
theorem Lacks.exists_lookupOrNull_eq {entry : Document} {key : String} (h : Lacks entry key) :
    ∃ value, entry.lookupOrNull key = .ok value ∧ value.truthy = false := by
  unfold Document.lookupOrNull Document.lookupOr
  rcases h with h | h <;> rw [h]
  · exact ⟨.null, rfl, rfl⟩
  · exact ⟨.text "", rfl, rfl⟩

/-- An entry that carries nothing is read as an empty username and an empty password. -/
theorem CarriesNothing.readEntry_eq {entry : Document} (h : CarriesNothing entry)
    (server : String) : readEntry server entry = .ok emptyAuth := by
  obtain ⟨auth, hauth, hnone⟩ := h.auth.exists_lookupOrNull_eq
  have hempty : (Document.text "").truthy = false := rfl
  unfold readEntry
  rw [h.username.lookupOr_eq, h.password.lookupOr_eq]
  simp only [bind, Except.bind, hempty, hauth, hnone]
  rfl

/-- The entry of a config for a registry carries no credentials. -/
def SelectsNothing (config : DockerConfig) (host : String) : Prop :=
  ∃ fields entry, Lists config fields ∧ selectedEntry fields host = some entry ∧
    CarriesNothing entry

/-- For an entry that carries nothing, the credentials of a registry are an empty username and an
empty password. -/
theorem forRegistry_of_selectsNothing {config : DockerConfig} {credentials : Credentials}
    {host : String} (hconfig : ofDockerConfig config = .ok credentials)
    (h : SelectsNothing config host) : credentials.forRegistry host = some emptyAuth := by
  obtain ⟨fields, entry, hlists, hentry, hnothing⟩ := h
  have hreads := forRegistry_reads hconfig hlists host
  rw [hentry] at hreads
  cases hfound : credentials.forRegistry host with
  | none => rw [hfound] at hreads; cases hreads
  | some auth =>
      rw [hfound] at hreads
      cases hreads with
      | some hread =>
          obtain ⟨server, hread⟩ := hread
          rw [hnothing.readEntry_eq server] at hread
          rw [Except.ok.inj hread]

end MonitorOperator.Credentials
