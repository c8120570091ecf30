import SaslClient.Environment
import SaslClient.Settings.Timeout
import SaslClient.Text.Count

/-!
# Settings

Where credentials are looked for and how long each request may take. The defaults are the addresses
at which cloud platforms serve them; the environment may set the timeout and the log level.
-/

namespace SaslClient

/-- Settings of the client. -/
structure Settings where
  /-- The bound on each metadata request. -/
  metadataTimeout : Timeout := ⟨10, 0, by decide, by decide⟩
  /-- The address that container paths are appended to. -/
  containerBase : String := "http://169.254.170.2"
  /-- The address of the role listing of an instance. -/
  instanceBase : String := "http://169.254.169.254/latest/meta-data/iam/security-credentials/"
  /-- Which log lines are wanted. -/
  logLevel : String := "info"
deriving DecidableEq, Repr

namespace Settings

/-- The variable that sets the timeout, in milliseconds. -/
def timeoutVariable : String := "METADATA_TIMEOUT_MS"

/-- The variable that sets the log level. -/
def logLevelVariable : String := "LOG_LEVEL"

/-- The timeout that a text gives in milliseconds, a number of 64 bits. -/
def readTimeout? (s : String) : Option Timeout :=
  (Text.readCount? UInt64.size s.toList).bind Timeout.ofMilliseconds?

/-- The settings of a process. A timeout that cannot be read is passed over. -/
def ofEnvironment (env : Environment) : Settings :=
  let defaults : Settings := {}
  { defaults with
    metadataTimeout :=
      ((env.value? timeoutVariable).bind readTimeout?).getD defaults.metadataTimeout
    logLevel := (env.value? logLevelVariable).getD defaults.logLevel }

end Settings

end SaslClient
