import MonitorOperator.Proofs.Monitor.ReorderedManifest
import MonitorOperator.Proofs.Monitor.Spelling
import MonitorOperator.Proofs.Workload.Drift

/-!
# Equivalent spellings build one workload

Monitors that are the same up to the order of fields build workloads with one manifest, up to that
order, and one fingerprint (`Monitor.desiredWorkload_matched`). A manifest that spells a monitor in
another way therefore asks for no new workload (`Monitor.equivalent_spellings`). Labels need not be
JSON here, since pairs may give them keys that are no texts, so the parts of a workload are compared
by their sorted forms and not by what is found in them.
-/

namespace MonitorOperator

open Document (IsJson Reordered SameJson FieldsAlike Alike Entrywise)

/-- The faults are the same, but for the order of fields in a namespace that they show. -/
def Fault.SameButScope (left right : Fault) : Prop :=
  left = right ∨ ∃ scope other name, Reordered scope other ∧
    left = .missingOwner scope.display name ∧ right = .missingOwner other.display name

namespace Workload

/-- The workloads have the same manifest up to the order of fields, and one fingerprint, so that
each live workload stands in the same way to both. -/
structure IsTwin (left right : Workload) : Prop where
  manifest : Reordered left.manifest right.manifest
  fingerprint : left.fingerprint = right.fingerprint
  classify : ∀ live, classify live left = classify live right

/-- Workloads of one version have the same manifest exactly if they and their annotations are the
same. -/
theorem reordered_manifest_iff {left right : Workload}
    (hversion : left.resourceVersion = right.resourceVersion) :
    Reordered left.manifest right.manifest ↔
      Same left right ∧
        Reordered (.object left.storedAnnotations) (.object right.storedAnnotations) := by
  have hmetadata : Reordered left.metadata right.metadata ↔
      Reordered left.name right.name ∧ Reordered left.scope right.scope ∧
        Reordered (.object left.labels) (.object right.labels) ∧
        Reordered (.object left.storedAnnotations) (.object right.storedAnnotations) ∧
        Reordered (.list (left.owners.map OwnerReference.manifest))
          (.list (right.owners.map OwnerReference.manifest)) := by
    unfold metadata
    rw [hversion]
    split <;> refine (Document.reordered_ofFields_iff_entrywise ?_ ?_).trans ?_ <;>
      simp [Entrywise]
  have hmanifest : Reordered left.manifest right.manifest ↔
      Reordered left.metadata right.metadata ∧ Reordered left.spec right.spec := by
    refine (Document.reordered_ofFields_iff_entrywise ?_ ?_).trans ?_ <;> simp [Entrywise]
  rw [hmanifest, hmetadata]
  constructor
  · rintro ⟨⟨hname, hscope, hlabels, hannotations, howners⟩, hspec⟩
    exact ⟨⟨hname, hscope, hlabels, howners, hspec⟩, hannotations⟩
  · rintro ⟨⟨hname, hscope, hlabels, howners, hspec⟩, hannotations⟩
    exact ⟨⟨hname, hscope, hlabels, hannotations, howners⟩, hspec⟩

end Workload

namespace Monitor

/-- The same entries of the user's environment are kept. -/
theorem userEnv_matched {env others : List Document} (h : List.Forall₂ SameJson env others) :
    Matched Eq (List.Forall₂ SameJson) (userEnv env) (userEnv others) := by
  induction h with
  | nil => exact .ok .nil
  | @cons entry other _ _ hfirst _ ih =>
      refine (hfirst.lookupOr "name" Document.isJson_null).bind fun name twin hname => ?_
      refine Matched.bind (.of_eq hname.reordered.toKey_eq fun _ _ => rfl) ?_
      rintro key _ rfl
      refine ih.bind fun kept twins hkept => ?_
      split
      · exact .ok hkept
      · exact .ok (.cons hfirst hkept)

section Parts

variable {left right : Monitor} {env others : List Document}

/-- The labels that select the pods depend on the name alone. -/
theorem selectorLabels_eq (hname : left.name = right.name) :
    left.selectorLabels = right.selectorLabels := by
  rw [selectorLabels, selectorLabels, hname]

/-- The labels of workloads are alike. -/
theorem labels_alike (h : SameBy SameJson FieldsAlike left right) :
    FieldsAlike left.labels right.labels := by
  have htext : ∀ value : String, SameJson (.text value) (.text value) :=
    fun value => .refl (Document.isJson_text value)
  exact ((h.spec.labels.put _ (htext "kubemon")).put _ h.name).put _ (htext workloadSuffix)

/-- Environments are alike if the user's are. -/
theorem env_alike (h : SameBy SameJson FieldsAlike left right)
    (henv : List.Forall₂ SameJson env others) (clusterId : String) :
    Alike (.list (left.reservedEnv clusterId ++ env))
      (.list (right.reservedEnv clusterId ++ others)) := by
  have hscope : Alike (variableEntry "KUBEMON_ID_SEED_NAMESPACE" left.scope)
      (variableEntry "KUBEMON_ID_SEED_NAMESPACE" right.scope) :=
    .ofFields (.cons ⟨rfl, .refl _⟩ (.cons ⟨rfl, .of_sameJson h.scope⟩ .nil))
  exact .list (.cons (.refl _) (.cons hscope (.cons (.refl _)
    (henv.imp fun _ _ => Alike.of_sameJson))))

/-- Both monitors have properties, or none. -/
theorem hasCustomProperties_eq_of_same (h : SameBy SameJson FieldsAlike left right) :
    left.hasCustomProperties = right.hasCustomProperties := by
  have hproperties := h.spec.customProperties
  unfold hasCustomProperties
  generalize left.spec.customProperties = properties at hproperties ⊢
  generalize right.spec.customProperties = others at hproperties ⊢
  cases hproperties <;> rfl

/-- Containers are alike if their environments are. -/
theorem container_alike (h : SameBy SameJson FieldsAlike left right)
    (henv : Alike (.list env) (.list others)) :
    Alike (left.container env) (right.container others) := by
  have himage := Alike.of_sameJson h.spec.image
  have hresources := Alike.of_fieldsAlike h.spec.resources
  unfold container
  rw [hasCustomProperties_eq_of_same h]
  split <;> exact .ofFields (by simp [Entrywise, himage, henv, hresources])

/-- The secrets that pods mount are alike. -/
theorem volumes_alike (hname : left.name = right.name) {properties twins : CustomProperties}
    (h : CustomProperties.SameBy SameJson properties twins) :
    Alike (volumes (left.secretName properties)) (volumes (right.secretName twins)) := by
  have hsecret : Alike (left.secretName properties) (right.secretName twins) := by
    rw [secretName, secretName, h.2.reordered.truthy_eq, hname]
    split
    · exact .of_sameJson h.2
    · exact .refl _
  have hvolume : ∀ items, Alike
      (.ofFields [("name", volumeName), ("secret", .ofFields
        [("secretName", left.secretName properties), ("items", items)])])
      (.ofFields [("name", volumeName), ("secret", .ofFields
        [("secretName", right.secretName twins), ("items", items)])]) := by
    intro items
    refine .ofFields (.cons ⟨rfl, .refl _⟩ (.cons ⟨rfl, .ofFields ?_⟩ .nil))
    exact .cons ⟨rfl, hsecret⟩ (.cons ⟨rfl, .refl _⟩ .nil)
  exact .list (.cons (hvolume _) .nil)

/-- Pods are alike if their environments are. -/
theorem podSpec_alike (h : SameBy SameJson FieldsAlike left right) (hname : left.name = right.name)
    (henv : Alike (.list env) (.list others)) :
    Alike (left.podSpec env) (right.podSpec others) := by
  have hpull : left.pullSecretName = right.pullSecretName := by
    rw [pullSecretName, pullSecretName, hname]
  have haccount := Alike.of_sameJson h.spec.serviceAccountName
  have hcontainers : Alike (.list [left.container env]) (.list [right.container others]) :=
    .list (.cons (container_alike h henv) .nil)
  have hnodes := Alike.of_fieldsAlike h.spec.nodeSelector
  have htolerations : Alike (.list left.spec.tolerations) (.list right.spec.tolerations) :=
    .list (h.spec.tolerations.imp fun _ _ => Alike.of_sameJson)
  have hpriority := Alike.of_sameJson h.spec.priorityClassName
  have hproperties := h.spec.customProperties
  unfold podSpec
  rw [h.spec.priorityClassName.reordered.truthy_eq, hpull]
  refine .ofFields (List.rel_append (List.rel_append ?_ ?_) ?_)
  · simp [haccount, hcontainers, hnodes, htolerations]
  · split
    · exact .cons ⟨rfl, hpriority⟩ .nil
    · exact .nil
  · generalize left.spec.customProperties = properties at hproperties ⊢
    generalize right.spec.customProperties = others at hproperties ⊢
    cases hproperties with
    | none => exact .nil
    | some hsame => exact .cons ⟨rfl, volumes_alike hname hsame⟩ .nil

/-- Specifications are alike if their environments are. -/
theorem statefulSetSpec_alike (h : SameBy SameJson FieldsAlike left right)
    (hname : left.name = right.name) (henv : Alike (.list env) (.list others)) :
    Alike (left.statefulSetSpec env) (right.statefulSetSpec others) := by
  have hworkload : left.workloadName = right.workloadName := by
    rw [workloadName, workloadName, hname]
  have hlabels := Alike.of_fieldsAlike (labels_alike h)
  have hpod := podSpec_alike h hname henv
  unfold statefulSetSpec
  rw [h.spec.replicas, hworkload, selectorLabels_eq hname]
  have htemplate : Alike
      (.ofFields [("metadata", .ofFields [("labels", .object left.labels)]),
        ("spec", left.podSpec env)])
      (.ofFields [("metadata", .ofFields [("labels", .object right.labels)]),
        ("spec", right.podSpec others)]) :=
    .ofFields (.cons ⟨rfl, .ofFields (.cons ⟨rfl, hlabels⟩ .nil)⟩ (.cons ⟨rfl, hpod⟩ .nil))
  exact .ofFields (by simp [Entrywise, htemplate])

/-- Owners are alike. -/
theorem ownerReference_alike (h : SameBy SameJson FieldsAlike left right) :
    Alike left.ownerReference.manifest right.ownerReference.manifest := by
  have hname := Alike.of_sameJson h.name
  have huid := Alike.of_sameJson h.uid
  exact .ofFields (by simp [Entrywise, ownerReference, hname, huid])

/-- What the fingerprints of built workloads hash is alike. -/
theorem identity_alike (h : SameBy SameJson FieldsAlike left right)
    (hname : left.name = right.name) (henv : List.Forall₂ SameJson env others)
    (clusterId : String) :
    Alike (left.unmarkedWorkload clusterId env).identity
      (right.unmarkedWorkload clusterId others).identity := by
  have hworkload : left.workloadName = right.workloadName := by
    rw [workloadName, workloadName, hname]
  have hscope := Alike.of_sameJson h.scope
  have hlabels := Alike.of_fieldsAlike (labels_alike h)
  have howners : Alike (.list [left.ownerReference.manifest])
      (.list [right.ownerReference.manifest]) := .list (.cons (ownerReference_alike h) .nil)
  have hspec := statefulSetSpec_alike h hname (env_alike h henv clusterId)
  exact .ofFields (by simp [Entrywise, unmarkedWorkload, hworkload, hscope, hlabels, howners, hspec])

/-- Builds from the same monitors end in the same workloads, or in the same fault. -/
theorem desiredWorkload_matched (h : SameBy SameJson FieldsAlike left right)
    (hname : left.name = right.name) (clusterId : String) :
    Matched Fault.SameButScope Workload.IsTwin (left.desiredWorkload clusterId)
      (right.desiredWorkload clusterId) := by
  unfold desiredWorkload
  rw [h.uid.reordered.truthy_eq]
  cases right.uid.truthy with
  -- The message for a missing owner shows the namespace in the order of its fields.
  | false => exact .error (.inr ⟨_, _, _, h.scope.reordered, rfl, by rw [hname]⟩)
  | true =>
      have hsame : ∀ fault other : Fault, fault = other → fault.SameButScope other :=
        fun _ _ => .inl
      refine ((userEnv_matched h.spec.env).mono hsame fun _ _ => id).bind fun env others henv => ?_
      have halike := identity_alike h hname henv clusterId
      refine Matched.bind ((Matched.of_eq halike.fingerprint_eq fun _ _ => rfl).mono hsame
        fun _ _ => id) ?_
      rintro fingerprint _ rfl
      have hmarked : Workload.Same
          { left.unmarkedWorkload clusterId env with fingerprint := .text fingerprint }
          { right.unmarkedWorkload clusterId others with fingerprint := .text fingerprint } :=
        Workload.reordered_identity_iff.1 halike.reordered
      refine .ok ⟨(Workload.reordered_manifest_iff ?_).2 ⟨hmarked, ?_⟩, rfl, fun live => ?_⟩
      · rfl
      · exact .refl _
      · cases live <;> rfl

end Parts

/-- The manifest is another one after any number of edits that are not read, with its fields in
another order. -/
def Respelled (body other : Fields) : Prop :=
  ∃ edited, Relation.ReflTransGen Edit body edited ∧ Reorders edited other

/-- A manifest that is accepted is also accepted in another spelling, and describes a monitor that is
the same up to the order of fields. For every cluster the builds from the two monitors end in
workloads with one manifest and one fingerprint, which a live workload stands to in the same way, or
both fail for the same reason. -/
theorem equivalent_spellings (body other : Fields) (monitor : Monitor)
    (hbody : Describes body monitor) (hother : Respelled body other) :
    ∃ twin, ofManifest (.object other) = .ok twin ∧ monitor.Same twin ∧
      ∀ clusterId, Matched Fault.SameButScope Workload.IsTwin (monitor.desiredWorkload clusterId)
        (twin.desiredWorkload clusterId) := by
  obtain ⟨edited, hedits, hreorders⟩ := hother
  obtain ⟨twin, htwin, hname, hsame⟩ := hreorders.exists_same (hbody.of_edits hedits)
  exact ⟨twin, htwin, hsame.same hname,
    fun clusterId => desiredWorkload_matched hsame hname clusterId⟩

/-- A monitor with a name and labels that leaves everything else at its default. -/
def labelled (name : Document) (labels : Fields) : Monitor where
  name := name
  scope := .text "prod"
  uid := .text "u"
  resourceVersion := .null
  spec :=
    { plain.spec with labels, serviceAccountName := MonitorSpec.defaultServiceAccount }
  status := { imageVersion := .text "", imageHash := .text "", updated := none }

/-- A labelled monitor of JSON is one of JSON. -/
theorem isJson_labelled {name : Document} {labels : Fields} (hname : name.IsJson)
    (hlabels : (Document.object labels).IsJson) : (labelled name labels).IsJson := by
  have hplain := isJson_plain
  cases hplain
  constructor <;> first | exact hname | exact hlabels | exact Document.isJson_text _ | assumption

/-- A labelled monitor of JSON has a workload. -/
theorem exists_desiredWorkload_labelled {name : Document} {labels : Fields} (hname : name.IsJson)
    (hlabels : (Document.object labels).IsJson) (clusterId : String) :
    ∃ desired, (labelled name labels).desiredWorkload clusterId = .ok desired :=
  (isJson_labelled hname hlabels).exists_desiredWorkload rfl rfl clusterId

/-- A manifest with what it gives for the name and the labels. -/
def labelledManifest (name labels : Document) : Fields :=
  [(.text "metadata", .ofFields
      [("name", name), ("namespace", .text "prod"), ("uid", .text "u")]),
    (.text "spec", .ofFields [("image", .text "i"), ("labels", labels), ("env", .null)])]

/-- A labelled manifest is JSON if its name and labels are. -/
theorem isJson_labelledManifest {name labels : Document} (hname : name.IsJson)
    (hlabels : labels.IsJson) : (Document.object (labelledManifest name labels)).IsJson := by
  have hmetadata : Document.IsJson
      (.ofFields [("name", name), ("namespace", .text "prod"), ("uid", .text "u")]) := by
    simp [hname]
  have hspec : Document.IsJson
      (.ofFields [("image", .text "i"), ("labels", labels), ("env", .null)]) := by
    simp [hlabels, Scalar.IsJson]
  refine Document.isJson_object_iff.2 ⟨[("metadata", _), ("spec", _)], rfl, by simp, ?_⟩
  exact List.forall_mem_cons.2 ⟨hmetadata, List.forall_mem_cons.2 ⟨hspec, by simp⟩⟩

/-- A labelled manifest gives lists. -/
theorem givesLists_labelledManifest (name labels : Document) :
    GivesLists (labelledManifest name labels) := by
  intro key hkey value hvalue
  simp only [List.mem_cons, List.not_mem_nil, or_false] at hkey
  rcases hkey with rfl | rfl <;> cases hvalue
  exact .inl rfl

/-- An object with two fields. -/
def oneTwo : Document := .ofFields [("a", .text "1"), ("b", .text "2")]

/-- The object with its fields in the other order. -/
def twoOne : Document := .ofFields [("b", .text "2"), ("a", .text "1")]

/-- Both objects are JSON, and each is a reordering of the other. -/
theorem sameJson_oneTwo : SameJson oneTwo twoOne :=
  ⟨by simp [oneTwo], .object (List.reverse_perm _).symm rfl (by simp)⟩

/-- A manifest with two labels. -/
def terse : Fields := labelledManifest (.text "mon") oneTwo

/-- The terse manifest with an empty environment, with defaults written out, with properties that say
nothing, and with fields that are not read. -/
def spelledOut : Fields :=
  [(.text "metadata", .ofFields
      [("name", .text "mon"), ("namespace", .text "prod"), ("uid", .text "u"),
        ("generation", .integer 2)]),
    (.text "spec", .ofFields
      [("image", .text "i"), ("labels", oneTwo), ("env", .list []), ("replicas", .integer 1),
        ("serviceAccountName", MonitorSpec.defaultServiceAccount),
        ("customProperties", .ofFields [("value", .text ""), ("note", .integer 7)])]),
    (.text "kind", .text kind)]

/-- The same manifest with its fields in another order. -/
def verbose : Fields :=
  [(.text "kind", .text kind),
    (.text "spec", .ofFields
      [("customProperties", .ofFields [("note", .integer 7), ("value", .text "")]),
        ("serviceAccountName", MonitorSpec.defaultServiceAccount), ("replicas", .integer 1),
        ("env", .list []), ("labels", twoOne), ("image", .text "i")]),
    (.text "metadata", .ofFields
      [("generation", .integer 2), ("uid", .text "u"), ("namespace", .text "prod"),
        ("name", .text "mon")])]

/-- The verbose manifest has its fields in the opposite order. -/
theorem reorders_verbose : Reorders spelledOut verbose := by
  have hproperties : Reordered (.ofFields [("value", .text ""), ("note", .integer 7)])
      (.ofFields [("note", .integer 7), ("value", .text "")]) :=
    .object (List.reverse_perm _).symm rfl (by simp)
  have hspec : Reordered
      (.ofFields [("image", .text "i"), ("labels", oneTwo), ("env", .list []),
        ("replicas", .integer 1), ("serviceAccountName", MonitorSpec.defaultServiceAccount),
        ("customProperties", .ofFields [("value", .text ""), ("note", .integer 7)])])
      (.ofFields [("customProperties", .ofFields [("note", .integer 7), ("value", .text "")]),
        ("serviceAccountName", MonitorSpec.defaultServiceAccount), ("replicas", .integer 1),
        ("env", .list []), ("labels", twoOne), ("image", .text "i")]) :=
    .object (List.reverse_perm _).symm rfl (by simp [hproperties, sameJson_oneTwo.reordered])
  have hmetadata : Reordered
      (.ofFields [("name", .text "mon"), ("namespace", .text "prod"), ("uid", .text "u"),
        ("generation", .integer 2)])
      (.ofFields [("generation", .integer 2), ("uid", .text "u"), ("namespace", .text "prod"),
        ("name", .text "mon")]) :=
    .object (List.reverse_perm _).symm rfl (by simp)
  refine ⟨.object (List.reverse_perm _).symm rfl ?_, rfl, fun key hkey items others hitems => ?_⟩
  · simp [spelledOut, verbose, hspec, hmetadata]
  simp only [List.mem_cons, List.not_mem_nil, or_false] at hkey
  rcases hkey with rfl | rfl | rfl <;> cases hitems

/-- The verbose manifest is another spelling of the terse one. -/
theorem respelled_verbose : Respelled terse verbose := by
  refine ⟨spelledOut, ?_, reorders_verbose⟩
  refine .head (.spec rfl (@MonitorSpec.Edit.respell _ "env" (some (.list [])) (by decide)
    (.empty (by decide) rfl) (.empty (by decide) rfl) (by simp))) ?_
  refine .head (.spec rfl (@MonitorSpec.Edit.respell _ "replicas" (some (.integer 1)) (by decide)
    .missing (.oneReplica rfl) (by simp))) ?_
  refine .head (.spec rfl (@MonitorSpec.Edit.respell _ "serviceAccountName"
    (some MonitorSpec.defaultServiceAccount) (by decide) .missing (.serviceAccount rfl)
    (by simp [MonitorSpec.defaultServiceAccount]))) ?_
  refine .head (.spec rfl (@MonitorSpec.Edit.respell _ "customProperties"
    (some (.ofFields [("value", .text "")])) (by decide) .missing
    (.emptyProperties rfl rfl rfl) (by simp))) ?_
  refine .head (.spec rfl (@MonitorSpec.Edit.unreadProperty _ _ "note" (some (.integer 7)) rfl
    (by decide) (by simp))) ?_
  refine .head (@Edit.unreadWithin _ "metadata" _ _ "generation" (some (.integer 2))
    List.mem_cons_self rfl (by decide) (by simp)) ?_
  exact .single (@Edit.unread _ "kind" (some (.text kind)) (by decide) (by simp))

/-- The verbose manifest describes the same monitor as the terse one, whose workload it keeps. -/
theorem equivalent_spellings_verbose :
    ∃ monitor twin desired other, ofManifest (.object terse) = .ok monitor ∧
      ofManifest (.object verbose) = .ok twin ∧ monitor.Same twin ∧
      monitor.desiredWorkload "c" = .ok desired ∧ twin.desiredWorkload "c" = .ok other ∧
      desired.IsTwin other := by
  have hlabels := sameJson_oneTwo.isJson
  have hmonitor : ofManifest (.object terse) =
      .ok (labelled (.text "mon") [(.text "a", .text "1"), (.text "b", .text "2")]) := rfl
  obtain ⟨twin, htwin, hsame, hbuilds⟩ :=
    equivalent_spellings terse verbose _
      ⟨isJson_labelledManifest (Document.isJson_text _) hlabels, givesLists_labelledManifest _ _,
        hmonitor⟩ respelled_verbose
  obtain ⟨desired, hdesired⟩ :=
    exists_desiredWorkload_labelled (Document.isJson_text "mon") hlabels "c"
  obtain ⟨other, hother, htwins⟩ := (hbuilds "c").exists_ok hdesired
  exact ⟨_, twin, desired, other, hmonitor, htwin, hsame, hdesired, hother, htwins⟩

/-- Monitors with different names that are reorderings have workloads with different names. -/
theorem workloadName_ne {left right : Monitor} (h : SameJson left.name right.name)
    (hname : left.name ≠ right.name) : left.workloadName ≠ right.workloadName := by
  intro hsame
  have hdisplay := display_name_eq_of_workloadName_eq hsame
  exact hname (h.reordered.eq_of_display h.isJson h.isJson_right hdisplay)

/-- Labelled manifests are reorderings if their names and labels are. -/
theorem reordered_labelledManifest {name other labels others : Document}
    (hname : Reordered name other) (hlabels : Reordered labels others) :
    Reordered (.object (labelledManifest name labels)) (.object (labelledManifest other others)) := by
  have hmetadata : Reordered
      (.ofFields [("name", name), ("namespace", .text "prod"), ("uid", .text "u")])
      (.ofFields [("name", other), ("namespace", .text "prod"), ("uid", .text "u")]) :=
    .object (.refl _) rfl (by simpa using hname)
  have hspec : Reordered
      (.ofFields [("image", .text "i"), ("labels", labels), ("env", .null)])
      (.ofFields [("image", .text "i"), ("labels", others), ("env", .null)]) :=
    .object (.refl _) rfl (by simpa using hlabels)
  exact .object (.refl _) rfl (by simp [labelledManifest, hmetadata, hspec])

/-- The order of fields is read in a name that is an object, which the name of the workload shows, and
in an object that stands for a pair of labels: manifests that are reorderings then have workloads with
different manifests, or describe monitors with different labels. -/
theorem order_of_names_and_pairs_read :
    (∃ monitor twin desired other,
      Reordered (.object (labelledManifest oneTwo .null))
        (.object (labelledManifest twoOne .null)) ∧
      (Document.object (labelledManifest oneTwo .null)).IsJson ∧
      GivesLists (labelledManifest oneTwo .null) ∧
      ofManifest (.object (labelledManifest oneTwo .null)) = .ok monitor ∧
      ofManifest (.object (labelledManifest twoOne .null)) = .ok twin ∧
      monitor.desiredWorkload "c" = .ok desired ∧ twin.desiredWorkload "c" = .ok other ∧
      ¬ Reordered desired.manifest other.manifest) ∧
    ∃ monitor twin,
      Reordered (.object (labelledManifest (.text "mon") (.list [oneTwo])))
        (.object (labelledManifest (.text "mon") (.list [twoOne]))) ∧
      (Document.object (labelledManifest (.text "mon") (.list [oneTwo]))).IsJson ∧
      GivesLists (labelledManifest (.text "mon") (.list [oneTwo])) ∧
      ofManifest (.object (labelledManifest (.text "mon") (.list [oneTwo]))) = .ok monitor ∧
      ofManifest (.object (labelledManifest (.text "mon") (.list [twoOne]))) = .ok twin ∧
      ¬ Reordered (.object monitor.spec.labels) (.object twin.spec.labels) := by
  constructor
  · obtain ⟨desired, hdesired⟩ :=
      exists_desiredWorkload_labelled sameJson_oneTwo.isJson Document.isJson_empty "c"
    obtain ⟨other, hother⟩ :=
      exists_desiredWorkload_labelled sameJson_oneTwo.isJson_right Document.isJson_empty "c"
    refine ⟨labelled oneTwo [], labelled twoOne [], desired, other,
      reordered_labelledManifest sameJson_oneTwo.reordered (.refl _),
      isJson_labelledManifest sameJson_oneTwo.isJson Document.isJson_null,
      givesLists_labelledManifest _ _, rfl, rfl, hdesired, hother, ?_⟩
    intro hmanifest
    obtain ⟨-, env, _, -, -, rfl⟩ := desiredWorkload_eq_ok_iff.1 hdesired
    obtain ⟨-, others, _, -, -, rfl⟩ := desiredWorkload_eq_ok_iff.1 hother
    obtain ⟨⟨hname, -⟩, -⟩ := (Workload.reordered_manifest_iff (by rfl)).1 hmanifest
    have hdiffers : (labelled oneTwo []).name ≠ (labelled twoOne []).name := by
      simp [labelled, oneTwo, twoOne, Document.ofFields]
    exact workloadName_ne sameJson_oneTwo hdiffers (Document.reordered_text_iff.1 hname)
  · refine ⟨labelled (.text "mon") [(.text "a", .text "b")],
      labelled (.text "mon") [(.text "b", .text "a")],
      reordered_labelledManifest (.refl _) (by simpa using sameJson_oneTwo.reordered),
      isJson_labelledManifest (Document.isJson_text _) (by simpa using sameJson_oneTwo.isJson),
      givesLists_labelledManifest _ _, rfl, rfl, ?_⟩
    intro hlabels
    cases hlabels with
    | object hperm hkeys _ =>
        have hsame := hperm.map (·.1)
        rw [hkeys] at hsame
        simp [labelled] at hsame

end Monitor

end MonitorOperator
