import MonitorOperator.Proofs.Image.Parts
import MonitorOperator.Proofs.Registry.DockerEntries
import MonitorOperator.Proofs.Text.Cut

/-!
# Stored credentials

A docker config lists its entries by the addresses of servers, an image names its registry by a host.
The two meet in the host of an address (`serverHost`): what follows the scheme, if there is one, up to
the path. The credentials for a registry are those of the last entry for its host, and for Docker Hub,
which goes by several hosts, those of an entry for one of these (`Credentials.forRegistry_exact`).
-/

namespace MonitorOperator

namespace Credentials

/-- The host in the address of a server: what follows its scheme, if there is one, up to its path. -/
def serverHost (server : String) : String :=
  let address :=
    match Text.cutAt "://".toList server.toList with
    | some (_, rest) => rest
    | none => server.toList
  String.ofList (address.takeWhile (· != '/'))

/-- The hosts of Docker Hub. -/
def hubHosts : List String := ["docker.io", "index.docker.io", "registry-1.docker.io"]

/-- The bare host of a server is the one in its address, if that is no other name of Docker Hub. -/
theorem normalizeHost_eq (server : String) :
    normalizeHost server = if server ∈ hubNames then "docker.io" else serverHost server := by
  unfold normalizeHost
  simp only [List.contains_iff_mem]
  rfl

/-- A host has no path. -/
theorem slash_notMem_serverHost (server : String) : '/' ∉ (serverHost server).toList := by
  unfold serverHost
  intro h
  rw [String.toList_ofList] at h
  have hkept := List.mem_takeWhile_imp h
  simp at hkept

/-- The hosts of Docker Hub are its names without a path. -/
theorem mem_hubHosts_iff (host : String) :
    host ∈ hubHosts ↔ host ∈ hubNames ∧ '/' ∉ host.toList := by
  constructor
  · intro h
    simp only [hubHosts, List.mem_cons, List.not_mem_nil, or_false] at h
    rcases h with rfl | rfl | rfl <;> decide
  · rintro ⟨hname, hslash⟩
    simp only [hubNames, List.mem_cons, List.not_mem_nil, or_false] at hname
    rcases hname with rfl | rfl | rfl | rfl
    · decide
    · decide
    · decide
    · exact absurd hslash (by decide)

/-- A name of Docker Hub is the address of one of its hosts. -/
theorem serverHost_mem_hubHosts {server : String} (h : server ∈ hubNames) :
    serverHost server ∈ hubHosts := by
  simp only [hubNames, List.mem_cons, List.not_mem_nil, or_false] at h
  rcases h with rfl | rfl | rfl | rfl <;> decide

/-- Bringing an address to its bare host does not change whether it is one of Docker Hub. -/
theorem normalizeHost_mem_hubNames_iff (server : String) :
    normalizeHost server ∈ hubNames ↔ serverHost server ∈ hubHosts := by
  rw [normalizeHost_eq]
  split
  · next hname => simp [serverHost_mem_hubHosts hname, hubNames]
  · rw [mem_hubHosts_iff, and_iff_left (slash_notMem_serverHost server)]

/-- For a host that is not one of Docker Hub, the bare host is the one in the address. -/
theorem normalizeHost_eq_iff {host : String} (h : host ∉ hubHosts) (server : String) :
    normalizeHost server = host ↔ serverHost server = host := by
  rw [normalizeHost_eq]
  split
  · next hname =>
      constructor
      · rintro rfl
        exact absurd (by decide) h
      · rintro rfl
        exact absurd (serverHost_mem_hubHosts hname) h
  · rfl

/-- The host of an address with a scheme and a path stands between the two. -/
theorem serverHost_of_scheme {scheme host : String} (hscheme : ¬ "://".toList <:+: scheme.toList)
    (hhost : '/' ∉ host.toList) (path : String) :
    serverHost (scheme ++ "://" ++ host ++ "/" ++ path) = host := by
  have haddress : (scheme ++ "://" ++ host ++ "/" ++ path).toList =
      scheme.toList ++ ("://".toList ++ (host.toList ++ '/' :: path.toList)) := by
    simp
  have hkept : ∀ character ∈ host.toList, (character != '/') = true := by
    intro character hmem
    have hne : character ≠ '/' := fun heq => hhost (heq ▸ hmem)
    simpa using hne
  unfold serverHost
  rw [haddress, Text.cutAt_scheme hscheme]
  dsimp only
  rw [List.takeWhile_append_of_pos hkept]
  simp

/-- An entry is the last one of those that are listed for a host. -/
def IsLast (hostOf : String → String) (host : String) (fields : Fields) (server : Scalar)
    (entry : Document) : Prop :=
  ∃ before after, fields = before ++ (server, entry) :: after ∧ hostOf server.display = host ∧
    ∀ field ∈ after, hostOf field.1.display ≠ host

/-- The credentials for a bare host are those of the last entry that is listed for it. -/
theorem get?_readEntries {fields : Fields} {entries result : Keyed RegistryAuth}
    (h : readEntries entries fields = .ok result) (host : String) :
    (∃ server entry auth, IsLast normalizeHost host fields server entry ∧
      readEntry server.display entry = .ok auth ∧ Keyed.get? result host = some auth) ∨
    (∀ field ∈ fields, normalizeHost field.1.display ≠ host) ∧
      Keyed.get? result host = Keyed.get? entries host := by
  induction fields generalizing entries with
  | nil =>
      cases h
      exact .inr ⟨nofun, rfl⟩
  | cons field rest ih =>
      obtain ⟨server, entry⟩ := field
      obtain ⟨auth, hauth, hrest⟩ := bind_eq_ok_iff.1 h
      rcases ih hrest with ⟨last, found, other, ⟨before, after, rfl, hlast⟩, hread⟩ | ⟨hnone, hget⟩
      · exact .inl ⟨last, found, other, ⟨(server, entry) :: before, after, rfl, hlast⟩, hread⟩
      · rw [Keyed.get?_put] at hget
        by_cases hhost : normalizeHost server.display = host
        · rw [if_pos hhost] at hget
          exact .inl ⟨server, entry, auth, ⟨[], rest, rfl, hhost, hnone⟩, hauth, hget⟩
        · rw [if_neg hhost] at hget
          exact .inr ⟨List.forall_mem_cons.2 ⟨hhost, hnone⟩, hget⟩

/-- A registry that is not on Docker Hub has the credentials under its own host. -/
theorem forRegistry_eq_get? (credentials : Credentials) {host : String} (h : host ∉ hubNames) :
    credentials.forRegistry host = Keyed.get? credentials.entries host := by
  rw [forRegistry_eq_select, select]
  cases Keyed.get? credentials.entries host with
  | some auth => rfl
  | none => exact if_neg (by simpa using h)

/-- Docker Hub has the credentials under one of its names, or none if there are none. -/
theorem forRegistry_hub (credentials : Credentials) {host : String} (h : host ∈ hubNames) :
    (∃ name ∈ hubNames, ∃ auth, Keyed.get? credentials.entries name = some auth ∧
      credentials.forRegistry host = some auth) ∨
    (∀ name ∈ hubNames, Keyed.get? credentials.entries name = none) ∧
      credentials.forRegistry host = none := by
  rw [forRegistry_eq_select, select]
  cases hown : Keyed.get? credentials.entries host with
  | some auth => exact .inl ⟨host, h, auth, hown, rfl⟩
  | none =>
      have hcontains : hubNames.contains host = true := by simpa using h
      simp only [hcontains, if_true]
      cases hfound : hubNames.findSome? (Keyed.get? credentials.entries) with
      | some auth =>
          obtain ⟨name, hname, hauth⟩ := List.exists_of_findSome?_eq_some hfound
          exact .inl ⟨name, hname, auth, hauth, rfl⟩
      | none => exact .inr ⟨List.findSome?_eq_none_iff.1 hfound, rfl⟩

/-- An entry that is the last one for a host is listed. -/
theorem IsLast.mem {hostOf : String → String} {host : String} {fields : Fields} {server : Scalar}
    {entry : Document} (h : IsLast hostOf host fields server entry) : (server, entry) ∈ fields := by
  obtain ⟨before, after, rfl, _⟩ := h
  simp

/-- A config that gives credentials lists entries. -/
theorem exists_lists {config : DockerConfig} {credentials : Credentials}
    (h : ofDockerConfig config = .ok credentials) : ∃ fields, Lists config fields := by
  unfold ofDockerConfig ofDocument at h
  obtain ⟨document, hdocument, h⟩ := bind_eq_ok_iff.1 h
  obtain ⟨auths, hauths, h⟩ := bind_eq_ok_iff.1 h
  split at h
  · next fields hfields => exact ⟨fields, document, auths, hdocument, hauths, hfields⟩
  · cases h

/-- What the credentials of a config hold for a registry: they are those of an entry that the config
lists for it, and there are none if it lists no such entry. -/
structure HoldsFor (fields : Fields) (credentials : Credentials) (host : String) : Prop where
  /-- For a registry that is not on Docker Hub, the last entry for its host counts. -/
  other : host ∉ hubHosts →
    (∃ server entry auth, IsLast serverHost host fields server entry ∧
      readEntry server.display entry = .ok auth ∧ credentials.forRegistry host = some auth) ∨
    (∀ field ∈ fields, serverHost field.1.display ≠ host) ∧ credentials.forRegistry host = none
  /-- For Docker Hub, an entry for any of its hosts counts. -/
  hub : host ∈ hubHosts →
    (∃ server entry auth, (server, entry) ∈ fields ∧ serverHost server.display ∈ hubHosts ∧
      readEntry server.display entry = .ok auth ∧ credentials.forRegistry host = some auth) ∨
    (∀ field ∈ fields, serverHost field.1.display ∉ hubHosts) ∧ credentials.forRegistry host = none
  /-- The host of the registry and those of Docker Hub are found behind any scheme and before any
  path. -/
  address : ∀ name scheme path : String, name = host ∨ name ∈ hubHosts →
    ¬ "://".toList <:+: scheme.toList → serverHost (scheme ++ "://" ++ name ++ "/" ++ path) = name

section Listed

variable {config : DockerConfig} {credentials : Credentials} {fields : Fields} {host : String}

/-- The credentials for a registry that is not on Docker Hub are those of the last entry for it. -/
theorem forRegistry_other (hread : readEntries [] fields = .ok credentials.entries)
    (hhub : host ∉ hubHosts) (hslash : '/' ∉ host.toList) :
    (∃ server entry auth, IsLast serverHost host fields server entry ∧
      readEntry server.display entry = .ok auth ∧ credentials.forRegistry host = some auth) ∨
    (∀ field ∈ fields, serverHost field.1.display ≠ host) ∧
      credentials.forRegistry host = none := by
  have hname : host ∉ hubNames := fun hname => hhub ((mem_hubHosts_iff host).2 ⟨hname, hslash⟩)
  rw [credentials.forRegistry_eq_get? hname]
  simpa only [IsLast, ne_eq, normalizeHost_eq_iff hhub, Keyed.get?_nil] using
    get?_readEntries hread host

/-- The credentials for Docker Hub are those of an entry for one of its hosts. -/
theorem forRegistry_hubHost (hread : readEntries [] fields = .ok credentials.entries)
    (hhub : host ∈ hubHosts) :
    (∃ server entry auth, (server, entry) ∈ fields ∧ serverHost server.display ∈ hubHosts ∧
      readEntry server.display entry = .ok auth ∧ credentials.forRegistry host = some auth) ∨
    (∀ field ∈ fields, serverHost field.1.display ∉ hubHosts) ∧
      credentials.forRegistry host = none := by
  rcases credentials.forRegistry_hub ((mem_hubHosts_iff host).1 hhub).1 with
    ⟨name, hname, auth, hfound, hauth⟩ | ⟨hnone, hauth⟩
  · rcases get?_readEntries hread name with
      ⟨server, entry, other, hlast, hentry, hget⟩ | ⟨_, hget⟩
    · obtain ⟨_, _, _, hserver, _⟩ := id hlast
      cases hget.symm.trans hfound
      refine .inl ⟨server, entry, auth, hlast.mem, ?_, hentry, hauth⟩
      rwa [← normalizeHost_mem_hubNames_iff, hserver]
    · cases hget.symm.trans hfound
  · refine .inr ⟨fun field hmem hserver => ?_, hauth⟩
    have hname := (normalizeHost_mem_hubNames_iff field.1.display).2 hserver
    rcases get?_readEntries hread (normalizeHost field.1.display) with
      ⟨_, _, _, _, _, hget⟩ | ⟨hother, _⟩
    · cases hget.symm.trans (hnone _ hname)
    · exact hother field hmem rfl

end Listed

end Credentials

/-- The registry of an image has no slash. -/
theorem ImageReference.slash_notMem_registry {text : String} {image : ImageReference}
    (h : parse? text = some image) : '/' ∉ image.registry.toList := by
  obtain ⟨parts, hreadable, rfl⟩ := ReferenceParts.exists_readable text
  obtain ⟨_, rfl⟩ := hreadable.parse?_eq_some_iff.1 h
  change '/' ∉ (parts.registry.getD defaultRegistry).toList
  cases hregistry : parts.registry with
  | none => decide
  | some registry => exact (hreadable.registry registry hregistry).2

namespace Credentials

/-- The credentials of a docker config for the registry that an image names are those of an entry
which the config lists for this registry, whatever the config lists and however its servers are
spelled. -/
theorem forRegistry_exact {text : String} {image : ImageReference} {config : DockerConfig}
    {credentials : Credentials} (himage : ImageReference.parse? text = some image)
    (hconfig : ofDockerConfig config = .ok credentials) :
    ∃ fields, Lists config fields ∧ HoldsFor fields credentials image.registry := by
  obtain ⟨fields, hlists⟩ := exists_lists hconfig
  have hread := (ofDockerConfig_eq_ok_iff hlists).1 hconfig
  have hslash := ImageReference.slash_notMem_registry himage
  refine ⟨fields, hlists, fun hhub => forRegistry_other hread hhub hslash,
    forRegistry_hubHost hread, ?_⟩
  rintro name scheme path (rfl | hhub) hscheme
  · exact serverHost_of_scheme hscheme hslash path
  · exact serverHost_of_scheme hscheme ((mem_hubHosts_iff name).1 hhub).2 path

/-- A config with two entries for one host. -/
def doubledConfig : DockerConfig :=
  .document (.ofFields [("auths", .ofFields
    [("https://localhost:5000/v1/", .ofFields [("username", .text "first")]),
      ("localhost:5000", .ofFields [("username", .text "second")])])])

/-- Of two entries for the registry of an image, the second counts. -/
theorem forRegistry_exact_doubled :
    ImageReference.parse? "localhost:5000/app" =
        some ⟨"localhost:5000", "app", some "latest", none⟩ ∧
      ofDockerConfig doubledConfig = .ok ⟨[("localhost:5000", ⟨.text "second", .text ""⟩)]⟩ ∧
      ∃ fields, Lists doubledConfig fields ∧
        HoldsFor fields ⟨[("localhost:5000", ⟨.text "second", .text ""⟩)]⟩ "localhost:5000" := by
  have himage : ImageReference.parse? "localhost:5000/app" =
      some ⟨"localhost:5000", "app", some "latest", none⟩ := by
    decide
  have hconfig : ofDockerConfig doubledConfig =
      .ok ⟨[("localhost:5000", ⟨.text "second", .text ""⟩)]⟩ := by
    rfl
  exact ⟨himage, hconfig, forRegistry_exact himage hconfig⟩

end Credentials

end MonitorOperator
