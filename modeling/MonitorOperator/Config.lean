import MonitorOperator.Decimal.Reader
import MonitorOperator.Fault
import MonitorOperator.Text.Cut
import MonitorOperator.Text.Keyed

/-!
# Configuration

The configuration of the operator, read once from the variables of its environment. A variable that
is not set has a default; only the timeout and the level of logging can be refused.
-/

namespace MonitorOperator

/-- The variables that are set, with their values. -/
abbrev Environment := Keyed String

/-- How the registry of an image is asked. -/
structure RegistryConfig where
  timeout : Decimal.Binary64 := Decimal.Binary64.ofDecimal false 10 0
  verifyTls : Bool := true
  versionLabel : String := "org.opencontainers.image.version"
  deriving DecidableEq, Repr

/-- Where endpoints are registered, if anywhere. -/
structure DashboardConfig where
  apiUrl : String := ""
  /-- The variable that holds the token. -/
  tokenVariable : String := ""
  deriving DecidableEq, Repr

/-- The configuration of the operator. -/
structure Config where
  operatorNamespace : String := "kubemon"
  disableVersionUpdates : Bool := false
  registry : RegistryConfig := {}
  dashboard : DashboardConfig := {}
  logLevel : String := "info"
  deriving DecidableEq, Repr

namespace Config

/-- The name of one of the operator's own variables. -/
def variableName (key : String) : String := "KUBEMON_" ++ key

/-- The value of one of the operator's own variables. -/
def setting (environment : Environment) (key fallback : String) : String :=
  (Keyed.get? environment (variableName key)).getD fallback

/-- The words that switch an option on, in any case. -/
def isOn (value : String) : Bool :=
  ["true", "1", "yes"].contains (Text.lowerAscii value)

/-- An option that is on or off. -/
def option (environment : Environment) (key : String) (fallback : Bool) : Bool :=
  isOn (setting environment key (if fallback then "true" else "false"))

/-- The shortest timeout. -/
def leastTimeout : Decimal.Binary64 := Decimal.Binary64.ofDecimal false 1 0

/-- The timeout that a text gives. -/
def readTimeout (value : String) : Except ValueProblem Decimal.Binary64 :=
  match Decimal.readReal? value with
  | none => .error (.notNumber value)
  | some timeout =>
      if timeout.less leastTimeout then
        .error (.shortTimeout (variableName "REGISTRY_TIMEOUT")
          (Decimal.messageLayout.write leastTimeout) (Decimal.messageLayout.write timeout))
      else .ok timeout

/-- The levels of logging that can be configured. -/
def logLevels : List String := ["debug", "info", "warning", "error"]

/-- The level of logging that a text gives, in any case. -/
def readLogLevel (value : String) : Except ValueProblem String :=
  let level := Text.lowerAscii value
  if logLevels.contains level then .ok level else .error (.logLevel value)

/-- Version updates are switched off, by the older variable or by the current one. -/
def readDisableVersionUpdates (environment : Environment) : Bool :=
  Keyed.get? environment "OPERATOR_DEBUG_DISABLE_UPDATES" == some "true" ||
    option environment "DISABLE_VERSION_UPDATES" false

/-- The configuration that an environment gives. -/
def load (environment : Environment) : Except ValueProblem Config := do
  let timeout ← readTimeout (setting environment "REGISTRY_TIMEOUT" "10.0")
  let logLevel ← readLogLevel (setting environment "LOG_LEVEL" "info")
  let apiUrl := setting environment "DASHBOARD_API_URL" ""
  pure
    { operatorNamespace := setting environment "NAMESPACE" "kubemon"
      disableVersionUpdates := readDisableVersionUpdates environment
      registry :=
        { timeout
          verifyTls := option environment "REGISTRY_VERIFY_TLS" true
          versionLabel :=
            setting environment "REGISTRY_VERSION_LABEL" "org.opencontainers.image.version" }
      dashboard :=
        { apiUrl := String.ofList (Text.dropTrailing '/' apiUrl.toList)
          tokenVariable := setting environment "DASHBOARD_TOKEN_REF" "" }
      logLevel }

end Config

end MonitorOperator
