import Mathlib.Data.List.Induction
import MonitorOperator.Proofs.Document.ReorderedFields
import MonitorOperator.Proofs.Text.Cut
import MonitorOperator.Registry.Challenge

/-!
# Bearer challenges as text

A bearer challenge names its scheme in any case and gives its parameters in quotation marks, with a
comma and any spaces between each two. It is read as exactly these parameters
(`Challenge.IsBearer.read_eq`), whatever the values look like, since a value reaches to the next
quotation mark. Of parameters with one name the last counts, at the place of the first
(`Keyed.ofList_eq_lastValues`).
-/

namespace MonitorOperator

namespace Keyed

variable {α : Type}

/-- The keys in the order of their first entries, each with the value of its last one. -/
def lastValues (entries : List (String × α)) : Keyed α :=
  (entries.map (·.1)).eraseDups.filterMap fun key => (get? entries.reverse key).map (key, ·)

/-- A key that was put keeps its place, or comes last. -/
theorem map_put (entries : Keyed α) (key : String) (value : α) :
    (put entries key value).map (·.1) =
      if key ∈ entries.map (·.1) then entries.map (·.1) else entries.map (·.1) ++ [key] := by
  induction entries with
  | nil => rfl
  | cons entry rest ih =>
      unfold put
      by_cases h : entry.1 = key
      · simp [h]
      · simp only [h, ↓reduceIte, List.map_cons, ih, List.mem_cons, Ne.symm h, false_or]
        split <;> rfl

/-- Another key is found where one was removed. -/
theorem get?_remove {key other : String} (h : key ≠ other) (entries : Keyed α) :
    get? (remove entries key) other = get? entries other := by
  induction entries with
  | nil => rfl
  | cons entry rest ih =>
      unfold remove at ih ⊢
      by_cases hentry : entry.1 = key
      · have hother : entry.1 ≠ other := fun heq => h (hentry.symm.trans heq)
        rw [List.filter_cons_of_neg (by simpa using hentry), ih, get?_cons, if_neg hother]
      · rw [List.filter_cons_of_pos (by simpa using hentry), get?_cons, get?_cons, ih]

/-- Entries with different keys are known from their keys and what is found under them. -/
theorem eq_filterMap {entries : Keyed α} (h : (entries.map (·.1)).Nodup) :
    entries = (entries.map (·.1)).filterMap fun key => (get? entries key).map (key, ·) := by
  induction entries with
  | nil => rfl
  | cons entry rest ih =>
      obtain ⟨hnew, hrest⟩ := List.nodup_cons.1 h
      have hlater : ∀ key ∈ rest.map (·.1), (get? (entry :: rest) key).map (key, ·) =
          (get? rest key).map (key, ·) := by
        intro key hmem
        have hne : entry.1 ≠ key := by
          rintro rfl
          exact hnew hmem
        rw [get?_cons, if_neg hne]
      rw [List.map_cons, List.filterMap_cons_some (by rw [get?_cons, if_pos rfl]; rfl),
        List.filterMap_congr hlater, ← ih hrest]

/-- One more entry is put over those before. -/
theorem ofList_append_singleton (entries : List (String × α)) (entry : String × α) :
    ofList (entries ++ [entry]) = put (ofList entries) entry.1 entry.2 := by
  rw [ofList, List.foldl_append]
  rfl

/-- The value that is found is that of the last entry. -/
theorem get?_ofList (entries : List (String × α)) (key : String) :
    get? (ofList entries) key = get? entries.reverse key := by
  induction entries using List.reverseRecOn with
  | nil => rfl
  | append_singleton entries entry ih =>
      rw [ofList_append_singleton, get?_put, ih, List.reverse_append, List.reverse_singleton,
        List.singleton_append, get?_cons]

/-- The keys come once, in the order of their first entries. -/
theorem map_ofList (entries : List (String × α)) :
    (ofList entries).map (·.1) = (entries.map (·.1)).eraseDups := by
  induction entries using List.reverseRecOn with
  | nil => rfl
  | append_singleton entries entry ih =>
      rw [ofList_append_singleton, map_put, ih, List.map_append, List.eraseDups_append]
      simp only [List.mem_eraseDups, List.map_cons, List.map_nil, List.removeAll]
      by_cases hold : entry.1 ∈ entries.map (·.1)
      · rw [if_pos hold, List.filter_cons_of_neg (by simpa using hold)]
        exact (List.append_nil _).symm
      · rw [if_neg hold, List.filter_cons_of_pos (by simpa using hold)]
        rfl

/-- The keys come once. -/
theorem nodup_ofList (entries : List (String × α)) : ((ofList entries).map (·.1)).Nodup := by
  induction entries using List.reverseRecOn with
  | nil => exact List.nodup_nil
  | append_singleton entries entry ih =>
      rw [ofList_append_singleton, map_put]
      split
      · exact ih
      · next hnew => exact List.nodup_append_comm.1 (List.nodup_cons.2 ⟨hnew, ih⟩)

/-- Each entry overrides the earlier ones of its key, at the place of the first. -/
theorem ofList_eq_lastValues (entries : List (String × α)) :
    ofList entries = lastValues entries := by
  rw [eq_filterMap (nodup_ofList entries), map_ofList]
  simp only [get?_ofList]
  rfl

end Keyed

namespace Registry.Challenge

/-- A parameter as it stands in a challenge. -/
def written (parameter : String × String) : List Char :=
  parameter.1.toList ++
    '=' :: Text.quotationMark :: (parameter.2.toList ++ [Text.quotationMark])

/-- `Renders parameters characters` says that the characters give the parameters, with a comma and
any spaces between each two. -/
inductive Renders : List (String × String) → List Char → Prop where
  | last (parameter : String × String) : Renders [parameter] (written parameter)
  | more {parameters : List (String × String)} {characters : List Char}
      (parameter : String × String) (spaces : Nat) :
      Renders parameters characters →
      Renders (parameter :: parameters)
        (written parameter ++ ',' :: (List.replicate spaces ' ' ++ characters))

/-- A parameter has a name of word characters, and a printable value of ASCII without a quotation
mark. -/
structure IsPlain (parameter : String × String) : Prop where
  name_ne : parameter.1 ≠ ""
  name : ∀ character ∈ parameter.1.toList, Text.isWordCharacter character = true
  value : ∀ character ∈ parameter.2.toList,
    32 ≤ character.toNat ∧ character.toNat ≤ 126 ∧ character ≠ Text.quotationMark

/-- Whether a parameter is plain is decided character by character. -/
instance (parameter : String × String) : Decidable (IsPlain parameter) :=
  decidable_of_iff
    (parameter.1 ≠ "" ∧ parameter.1.toList.all Text.isWordCharacter = true ∧
      parameter.2.toList.all (fun character =>
        32 ≤ character.toNat ∧ character.toNat ≤ 126 ∧ character ≠ Text.quotationMark) = true)
    (by
      simp only [List.all_eq_true, decide_eq_true_iff]
      exact ⟨fun h => ⟨h.1, h.2.1, h.2.2⟩, fun h => ⟨h.name_ne, h.name, h.value⟩⟩)

/-- The text is a bearer challenge with these parameters. -/
def IsBearer (parameters : List (String × String)) (text : String) : Prop :=
  (∀ parameter ∈ parameters, IsPlain parameter) ∧
    ∃ scheme characters, Text.lowerAscii scheme = "bearer" ∧ Renders parameters characters ∧
      text = String.ofList (scheme.toList ++ ' ' :: characters)

/-- A parameter is read where it begins. -/
theorem IsPlain.parameterAt?_eq {parameter : String × String} (h : IsPlain parameter)
    (rest : List Char) : parameterAt? (written parameter ++ rest) = some (parameter, rest) := by
  obtain ⟨name, value⟩ := parameter
  have hend : ¬ Text.isWordCharacter '=' = true := by decide
  have hwritten : written (name, value) ++ rest =
      name.toList ++ '=' :: Text.quotationMark :: (value.toList ++ Text.quotationMark :: rest) := by
    simp [written]
  have htake : (written (name, value) ++ rest).takeWhile Text.isWordCharacter = name.toList := by
    rw [hwritten, List.takeWhile_append_of_pos h.name, List.takeWhile_cons_of_neg hend,
      List.append_nil]
  have hdrop : (written (name, value) ++ rest).dropWhile Text.isWordCharacter =
      '=' :: Text.quotationMark :: (value.toList ++ Text.quotationMark :: rest) := by
    rw [hwritten, List.dropWhile_append_of_pos h.name, List.dropWhile_cons_of_neg hend]
  have hcut : Text.cutAt [Text.quotationMark] (value.toList ++ Text.quotationMark :: rest) =
      some (value.toList, rest) :=
    Text.cutAt_mark (fun hmem => (h.value _ hmem).2.2 rfl) rest
  unfold parameterAt?
  rw [htake, hdrop]
  cases hname : name.toList with
  | nil => exact absurd (String.toList_eq_nil_iff.1 hname) h.name_ne
  | cons first others =>
      simp only [↓reduceIte, hcut]
      rw [← hname, String.ofList_toList, String.ofList_toList]

/-- No parameter begins where no name does. -/
theorem parametersWithin_skip {character : Char} (h : Text.isWordCharacter character = false)
    (fuel : Nat) (rest : List Char) :
    parametersWithin (fuel + 1) (character :: rest) = parametersWithin fuel rest := by
  have hnone : parameterAt? (character :: rest) = none := by
    unfold parameterAt?
    rw [List.takeWhile_cons_of_neg (by simp [h])]
  rw [parametersWithin, hnone]

/-- No parameter begins at a space. -/
theorem parametersWithin_replicate (spaces fuel : Nat) (rest : List Char) :
    parametersWithin (fuel + spaces) (List.replicate spaces ' ' ++ rest) =
      parametersWithin fuel rest := by
  induction spaces with
  | zero => rfl
  | succ spaces ih =>
      rw [List.replicate_succ, List.cons_append, ← Nat.add_assoc,
        parametersWithin_skip (by decide), ih]

/-- A parameter has its marks at least. -/
theorem three_le_length_written (parameter : String × String) : 3 ≤ (written parameter).length := by
  simp only [written, List.length_append, List.length_cons, List.length_nil]
  omega

/-- A parameter is read, and what follows it is searched on. -/
theorem IsPlain.parametersWithin_eq {parameter : String × String} (h : IsPlain parameter)
    (fuel : Nat) (rest : List Char) :
    parametersWithin (fuel + 1) (written parameter ++ rest) =
      parameter :: parametersWithin fuel rest := by
  have hread := h.parameterAt?_eq rest
  cases hcharacters : written parameter ++ rest with
  | nil => simp [written] at hcharacters
  | cons first others =>
      rw [hcharacters] at hread
      rw [parametersWithin, hread]

/-- All parameters are read, and nothing else. -/
theorem Renders.parametersWithin_eq {parameters : List (String × String)} {characters : List Char}
    (h : Renders parameters characters) (hplain : ∀ parameter ∈ parameters, IsPlain parameter)
    {fuel : Nat} (hfuel : characters.length ≤ fuel) :
    parametersWithin fuel characters = parameters := by
  induction h generalizing fuel with
  | last parameter =>
      have hlength := three_le_length_written parameter
      obtain ⟨fuel, rfl⟩ : ∃ less, fuel = less + 1 := ⟨fuel - 1, by omega⟩
      have hread := (hplain parameter (by simp)).parametersWithin_eq fuel []
      rw [List.append_nil] at hread
      rw [hread]
      cases fuel <;> rfl
  | @more parameters characters parameter spaces _ ih =>
      -- Neither the comma nor a space begins a parameter: each is skipped for one step of the fuel.
      obtain ⟨hfirst, hrest⟩ := List.forall_mem_cons.1 hplain
      have hlength := three_le_length_written parameter
      simp only [List.length_append, List.length_cons, List.length_replicate] at hfuel
      obtain ⟨less, rfl⟩ : ∃ less, fuel = less + spaces + 1 + 1 := ⟨fuel - spaces - 2, by omega⟩
      rw [hfirst.parametersWithin_eq, parametersWithin_skip (by decide),
        parametersWithin_replicate, ih hrest (by omega)]

/-- A bearer challenge is read with its parameters. -/
theorem IsBearer.read_eq {parameters : List (String × String)} {text : String}
    (h : IsBearer parameters text) : read text = .bearer (Keyed.ofList parameters) := by
  obtain ⟨hplain, scheme, characters, hscheme, hrenders, rfl⟩ := h
  have hspace : ' ' ∉ scheme.toList := by
    intro hmem
    have hlower : ' ' ∈ (Text.lowerAscii scheme).toList := by
      rw [Text.lowerAscii, String.toList_ofList]
      exact List.mem_map.2 ⟨' ', hmem, rfl⟩
    rw [hscheme] at hlower
    exact absurd hlower (by decide)
  unfold read
  rw [String.toList_ofList, Text.cutAt_mark hspace]
  dsimp only
  rw [String.ofList_toList, hscheme]
  show Challenge.bearer (Keyed.ofList (parametersIn characters)) = _
  rw [parametersIn, hrenders.parametersWithin_eq hplain (Nat.le_refl _)]

end Registry.Challenge

end MonitorOperator
