import MonitorOperator.Config
import MonitorOperator.Proofs.Decimal.Order
import MonitorOperator.Proofs.Document.Fields

/-!
# Checked configurations

An environment gives a configuration or is refused, and only a timeout or a level of logging that is
set can be the reason. The timeout of a configuration should be a number and at least one; the level
is a known one in lower case, and no slash ends the address of the dashboard. All this holds but for
one thing: a timeout that is no number at all passes the check, since it is not less than one
(`load_checks`, `not_load_timeout_isAtLeast`).
-/

namespace MonitorOperator

open Decimal (Binary64)

namespace Config

/-- The environment sets one of the operator's own variables to a value. -/
def Sets (environment : Environment) (key value : String) : Prop :=
  Keyed.get? environment (variableName key) = some value

/-- The text is a number, and less than the shortest timeout. -/
def IsShort (value : String) : Prop :=
  ∃ number, Decimal.readReal? value = some number ∧ ¬ number.IsAtLeast 1 ∧ number ≠ .undefined

/-- The environment sets the timeout to what is not a number, or to one that is less than the
shortest timeout. -/
def RefusesTimeout (environment : Environment) : Prop :=
  ∃ value, Sets environment "REGISTRY_TIMEOUT" value ∧
    (Decimal.readReal? value = none ∨ IsShort value)

/-- The environment sets the level of logging to what is not one, in any case. -/
def RefusesLogLevel (environment : Environment) : Prop :=
  ∃ value, Sets environment "LOG_LEVEL" value ∧ Text.lowerAscii value ∉ logLevels

/-- The timeout is a number and at least one, or it is set to what is no number. -/
def TimeoutFrom (environment : Environment) (timeout : Binary64) : Prop :=
  timeout.IsAtLeast 1 ∨ timeout = .undefined ∧
    ∃ value, Sets environment "REGISTRY_TIMEOUT" value ∧ Decimal.readReal? value = some .undefined

/-- What has been checked of a configuration. -/
structure CheckedFrom (environment : Environment) (config : Config) : Prop where
  timeout : TimeoutFrom environment config.registry.timeout
  logLevel : config.logLevel ∈ ["debug", "info", "warning", "error"]
  apiUrl : config.dashboard.apiUrl.toList.getLast? ≠ some '/'

variable {environment : Environment}

/-- Something that may fail fails if it has no result. -/
theorem exists_eq_error_iff {ε α : Type} {result : Except ε α} :
    (∃ problem, result = .error problem) ↔ ∀ value, result ≠ .ok value := by
  cases result <;> simp

/-- What a variable is set to is its value. -/
theorem Sets.setting_eq {key value : String} (h : Sets environment key value) (fallback : String) :
    setting environment key fallback = value := by
  unfold setting
  rw [h, Option.getD_some]

/-- A variable that is not set has its default. -/
theorem setting_eq_fallback {key : String} (h : ∀ value, ¬ Sets environment key value)
    (fallback : String) : setting environment key fallback = fallback := by
  unfold setting
  rw [Option.eq_none_iff_forall_not_mem.2 h, Option.getD_none]

/-- Reading a variable with a good default fails if it is set to a value that is bad to read. -/
theorem exists_read_setting_eq_error_iff {α : Type} {read : String → Except ValueProblem α}
    {fallback : String} {default : α} (hdefault : read fallback = .ok default) (key : String) :
    (∃ problem, read (setting environment key fallback) = .error problem) ↔
      ∃ value, Sets environment key value ∧ ∃ problem, read value = .error problem := by
  constructor
  · rintro ⟨problem, hproblem⟩
    by_cases hset : ∃ value, Sets environment key value
    · obtain ⟨value, hvalue⟩ := hset
      rw [hvalue.setting_eq] at hproblem
      exact ⟨value, hvalue, problem, hproblem⟩
    · rw [setting_eq_fallback (not_exists.1 hset), hdefault] at hproblem
      cases hproblem
  · rintro ⟨value, hvalue, problem, hproblem⟩
    exact ⟨problem, by rw [hvalue.setting_eq, hproblem]⟩

section Timeout

/-- The shortest timeout is one second. -/
theorem leastTimeout_eq : leastTimeout = .finite false 4503599627370496 (-52) := by
  decide +kernel

/-- A number is not too short if it is at least one, or no number. -/
theorem not_less_leastTimeout_iff (number : Binary64) :
    number.less leastTimeout = false ↔ number.IsAtLeast 1 ∨ number = .undefined := by
  have hone : Binary64.exactValue false 4503599627370496 (-52) = 1 := by
    norm_num [Binary64.exactValue]
  rw [leastTimeout_eq, Binary64.not_less_finite_iff, hone]

/-- The timeouts that are read are the numbers from one on, and what is no number. -/
theorem readTimeout_eq_ok_iff {value : String} {timeout : Binary64} :
    readTimeout value = .ok timeout ↔
      Decimal.readReal? value = some timeout ∧ (timeout.IsAtLeast 1 ∨ timeout = .undefined) := by
  unfold readTimeout
  cases Decimal.readReal? value with
  | none => simp
  | some number =>
      rw [← not_less_leastTimeout_iff, Option.some.injEq]
      show (if number.less leastTimeout = true then _ else _) = _ ↔ _
      split
      · next hless =>
          simp only [reduceCtorEq, false_iff, not_and]
          rintro rfl
          simp [hless]
      · next hless =>
          rw [Except.ok.injEq, iff_self_and]
          rintro rfl
          simpa using hless

/-- A timeout is refused that is not a number, or too short. -/
theorem exists_readTimeout_eq_error_iff {value : String} :
    (∃ problem, readTimeout value = .error problem) ↔
      Decimal.readReal? value = none ∨ IsShort value := by
  simp only [exists_eq_error_iff, ne_eq, readTimeout_eq_ok_iff, IsShort]
  cases Decimal.readReal? value with
  | none => simp
  | some number => simp [not_or]

/-- The timeout that counts when none is set. -/
theorem readTimeout_default : readTimeout "10.0" = .ok (.finite false 5629499534213120 (-49)) :=
  rfl

/-- A timeout that is read is a number and at least one, or it is set to what is no number. -/
theorem timeoutFrom_of_readTimeout {timeout : Binary64}
    (h : readTimeout (setting environment "REGISTRY_TIMEOUT" "10.0") = .ok timeout) :
    TimeoutFrom environment timeout := by
  obtain ⟨hread, hleast | rfl⟩ := readTimeout_eq_ok_iff.1 h
  · exact .inl hleast
  refine .inr ⟨rfl, ?_⟩
  by_cases hset : ∃ value, Sets environment "REGISTRY_TIMEOUT" value
  · obtain ⟨value, hvalue⟩ := hset
    rw [hvalue.setting_eq] at hread
    exact ⟨value, hvalue, hread⟩
  · rw [setting_eq_fallback (not_exists.1 hset), readTimeout_default] at h
    cases h

end Timeout

section LogLevel

/-- The levels that are read are the known ones, in any case. -/
theorem readLogLevel_eq_ok_iff {value level : String} :
    readLogLevel value = .ok level ↔ Text.lowerAscii value = level ∧ level ∈ logLevels := by
  unfold readLogLevel
  by_cases hlevel : Text.lowerAscii value ∈ logLevels
  · simp only [List.contains_iff_mem, hlevel, ↓reduceIte, Except.ok.injEq, iff_self_and]
    rintro rfl
    exact hlevel
  · simp only [List.contains_iff_mem, hlevel, ↓reduceIte, reduceCtorEq, false_iff, not_and]
    rintro rfl
    exact hlevel

/-- A level is refused that is not known in any case. -/
theorem exists_readLogLevel_eq_error_iff {value : String} :
    (∃ problem, readLogLevel value = .error problem) ↔ Text.lowerAscii value ∉ logLevels := by
  simp [exists_eq_error_iff, readLogLevel_eq_ok_iff]

/-- The level of logging that counts when none is set. -/
theorem readLogLevel_default : readLogLevel "info" = .ok "info" :=
  rfl

end LogLevel

/-- What is left after a character was dropped from the end does not end in it. -/
theorem getLast?_dropTrailing (character : Char) (characters : List Char) :
    (Text.dropTrailing character characters).getLast? ≠ some character := by
  unfold Text.dropTrailing
  rw [List.getLast?_reverse]
  intro hhead
  have hnot := List.head?_dropWhile_not (· == character) characters.reverse
  rw [hhead] at hnot
  simp at hnot

/-- Loading fails if the timeout or the level of logging is refused. -/
theorem exists_load_eq_error_iff :
    (∃ problem, load environment = .error problem) ↔
      RefusesTimeout environment ∨ RefusesLogLevel environment := by
  rw [RefusesTimeout, RefusesLogLevel]
  simp only [← exists_readTimeout_eq_error_iff, ← exists_readLogLevel_eq_error_iff]
  rw [← exists_read_setting_eq_error_iff readTimeout_default,
    ← exists_read_setting_eq_error_iff readLogLevel_default]
  unfold load
  cases readTimeout (setting environment "REGISTRY_TIMEOUT" "10.0") with
  | error problem => simp [bind, Except.bind]
  | ok timeout =>
      cases readLogLevel (setting environment "LOG_LEVEL" "info") with
      | error problem => simp [bind, Except.bind]
      | ok level => simp [bind, Except.bind, pure, Except.pure]

/-- Every environment gives a configuration or is refused. It is refused exactly if the timeout is
set to what is not a number, or to one below the shortest timeout, or the level of logging to what is
not a level in any case. Otherwise the configuration has a known level and an address without a slash
at the end, and its timeout is at least one unless it is set to what is no number. -/
theorem load_checks (environment : Environment) :
    ((∃ problem, load environment = .error problem) ↔
        RefusesTimeout environment ∨ RefusesLogLevel environment) ∧
      ∀ config, load environment = .ok config → CheckedFrom environment config := by
  refine ⟨exists_load_eq_error_iff, fun config h => ?_⟩
  obtain ⟨timeout, htimeout, level, hlevel, hconfig⟩ :
      ∃ timeout, _ ∧ ∃ level, _ ∧ _ := by
    simpa only [load, bind_eq_ok_iff] using h
  cases hconfig
  refine ⟨timeoutFrom_of_readTimeout htimeout, (readLogLevel_eq_ok_iff.1 hlevel).2, ?_⟩
  show (String.ofList _).toList.getLast? ≠ _
  rw [String.toList_ofList]
  exact getLast?_dropTrailing _ _

/-- A timeout that is just above the shortest one, in an odd spelling, passes the check. -/
theorem load_checks_spelled :
    ∃ config, load [("KUBEMON_REGISTRY_TIMEOUT", " +1_0.5e-1 "), ("KUBEMON_LOG_LEVEL", "WARNING"),
        ("KUBEMON_DASHBOARD_API_URL", "https://dashboard//")] = .ok config ∧
      CheckedFrom [("KUBEMON_REGISTRY_TIMEOUT", " +1_0.5e-1 "), ("KUBEMON_LOG_LEVEL", "WARNING"),
        ("KUBEMON_DASHBOARD_API_URL", "https://dashboard//")] config :=
  ⟨_, rfl, (load_checks _).2 _ rfl⟩

/-- A timeout may be no number, which is not at least one. -/
theorem not_load_timeout_isAtLeast :
    ∃ config, load [("KUBEMON_REGISTRY_TIMEOUT", "nan")] = .ok config ∧
      ¬ config.registry.timeout.IsAtLeast 1 :=
  ⟨_, rfl, id⟩

end Config

end MonitorOperator
