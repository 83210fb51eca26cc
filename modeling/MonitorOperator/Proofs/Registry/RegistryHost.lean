import MonitorOperator.Proofs.Http.Userless
import MonitorOperator.Proofs.Image.Parts
import MonitorOperator.Registry.Lookup

/-!
# The host of a registry

The registry of an image stands before the first at sign of the reference, since only a digest
follows it. So the base of the URLs of the image's repository names no user
(`userless_repositoryOf`).
-/

namespace MonitorOperator

namespace ImageReference

/-- The registry of an image has no at sign. -/
theorem notMem_registry {text : String} {image : ImageReference} (h : parse? text = some image) :
    '@' ∉ image.registry.toList := by
  obtain ⟨parts, hreadable, rfl⟩ := ReferenceParts.exists_readable text
  obtain ⟨_, rfl⟩ := hreadable.parse?_eq_some_iff.1 h
  change '@' ∉ (parts.registry.getD defaultRegistry).toList
  cases hregistry : parts.registry with
  | none => decide
  | some registry => exact hreadable.notMem_registry hregistry

/-- The host that serves the registry's API has no at sign. -/
theorem notMem_apiHost {text : String} {image : ImageReference} (h : parse? text = some image) :
    '@' ∉ image.apiHost.toList := by
  unfold apiHost
  split
  · decide
  · exact notMem_registry h

end ImageReference

namespace Registry

/-- A reference that can be read is the text of one. -/
theorem exists_text_of_readReference {image : Document} {reference : ImageReference}
    (h : readReference image = .ok reference) :
    ∃ text, image = .text text ∧ ImageReference.parse? text = some reference := by
  unfold readReference ImageReference.ofDocument at h
  split at h
  · next text =>
      cases hparse : ImageReference.parse? text with
      | none => simp [hparse, Except.mapError] at h
      | some image =>
          simp only [hparse, Except.mapError] at h
          cases h
          exact ⟨text, rfl, hparse⟩
  · split at h <;> cases h

/-- A URL that is checked is one. -/
theorem checkUrl_eq_ok_iff {checked : Except Http.UrlProblem Http.Url} {url : Http.Url} :
    Http.checkUrl checked = .ok url ↔ checked = .ok url := by
  cases checked <;> simp [Http.checkUrl, Except.mapError]

/-- The base of an image's repository names no user. -/
theorem userless_repositoryOf {image : Document} {reference : ImageReference}
    {credentials : Option Credentials} {repository : Repository}
    (hreference : readReference image = .ok reference)
    (h : repositoryOf reference credentials = .ok repository) : repository.base.Userless := by
  obtain ⟨text, _, hparse⟩ := exists_text_of_readReference hreference
  have hhost := ImageReference.notMem_apiHost hparse
  unfold repositoryOf at h
  simp only [bind_eq_ok_iff, checkUrl_eq_ok_iff] at h
  obtain ⟨server, hserver, base, hbase, hrepository⟩ := h
  cases hrepository
  have htext : '@' ∉ ("https://" ++ reference.apiHost).toList := by
    simpa using hhost
  exact (Http.Url.userless_parse htext hserver).asBase hbase

end Registry

end MonitorOperator
