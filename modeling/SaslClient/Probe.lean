import SaslClient.LogFilter
import SaslClient.Report
import SaslClient.Resolver
import SaslClient.Signing.Authorization

/-!
# Probing a configuration

The command line checks that keys can be resolved and a request be signed for a host, as a
conversation would, without a server: it makes up the server's part of the nonce itself. It prints
the authorization header and no secret.
-/

namespace SaslClient.Probe

/-- The variable that replaces the log level when it is set. -/
def logFilterVariable : String := "RUST_LOG"

/-- The variables that the command line reads. -/
def variableNames : List String :=
  [Credential.accessKeyVariable, Credential.secretKeyVariable, Credential.sessionTokenProperty,
    Metadata.Endpoint.uriVariable, Settings.timeoutVariable, Settings.logLevelVariable,
    logFilterVariable]

/-- Why nothing was signed. -/
inductive Failure where
  /-- No host was given. -/
  | noHost
  | logLevel (filter : String) (fault : LogFilter.Fault)
  | configuration (error : AuthError)
  | resolution (error : AuthError)
  | signing (host : String) (error : SigningError)
  /-- The time now is none that a clock can tell. -/
  | clock
deriving DecidableEq, Repr

/-- The report on a failure. There is none when a log level is cut inside a character and when the
clock fails. -/
def Failure.report? : Failure → Option Report
  | .noHost => some { message := "usage: driverauth-probe <host>" }
  | .logLevel _ .brokenCharacter => none
  | .logLevel filter fault =>
    some { message := "invalid log level filter: " ++ filter, causes := fault.causes }
  | .configuration e =>
    some { message := "invalid credential settings", causes := [e.message] }
  | .resolution e =>
    some { message := "failed to resolve credentials", causes := [e.message] }
  | .signing host e =>
    some { message := "failed to sign for host " ++ host, causes := [e.message] }
  | .clock => none

/-- The exit code after a failure: 1 with a report, 101 without. -/
def Failure.exitCode (f : Failure) : Nat :=
  if f.report?.isSome then 1 else 101

/-- What was signed, and with which keys. -/
structure Signed where
  authorization : Authorization
  timestamp : String
  keys : SigningKeys
deriving DecidableEq, Repr

/-- What is printed about a signed request. -/
def Signed.text (s : Signed) : String :=
  "authorization: " ++ s.authorization.header ++ "\n" ++
    "timestamp:     " ++ s.timestamp ++ "\n" ++
    "origin:        " ++ s.keys.origin.name ++ "\n" ++
    "session token: " ++ (if s.keys.sessionToken.isSome then "attached" else "none") ++ "\n"

/-- The metadata client of a process. -/
def client (env : Environment) : Metadata.Client :=
  .ofSettings (.ofEnvironment env) (.ofEnvironment env)

/-- Checks the log level of a process, or the filter that replaces it, whose faulty directives are
passed over. -/
def checkLogLevel (env : Environment) : Except Failure Unit :=
  match env.value? logFilterVariable with
  | some filter => (LogFilter.checkLenient filter).mapError (.logLevel filter)
  | none =>
    let filter := (Settings.ofEnvironment env).logLevel
    (LogFilter.check filter).mapError (.logLevel filter)

/-- The host to sign for, when nothing in the configuration stands against it. -/
def prepare (args : List String) (env : Environment) : Except Failure String :=
  match args.head? with
  | none => .error .noHost
  | some host => do
    checkLogLevel env
    (Resolver.check (.ofEnvironment env)).mapError .configuration
    .ok host

/-- Signs for a host with the given keys, over a nonce whose server part is made up. -/
def signFor (host : String) (keys : SigningKeys) : Act (Except Failure Signed) := do
  let clientNonce ← drawNonce
  let serverPart ← drawNonce
  let now ← readClock
  let authorization := Authorization.sign
    { accessKeyId := keys.accessKeyId
      secretKey := keys.secretKey
      sessionToken := keys.sessionToken
      host := host
      serverNonce := clientNonce.bytes ++ serverPart.bytes
      timestamp := now.timestamp }
  pure ((authorization.mapError (.signing host)).map fun a => ⟨a, now.timestamp, keys⟩)

/-- Resolves keys and signs for the host that is the first argument. -/
def attempt (args : List String) (env : Environment) : Act (Except Failure Signed) :=
  match prepare args env with
  | .error e => pure (.error e)
  | .ok host => do
    let (keys, _) ← Resolver.resolve { credential := .ofEnvironment env }
    match keys with
    | .error e => pure (.error (.resolution e))
    | .ok keys => signFor host keys

/-- Probes as a process of its own, which fails when a time stops it. -/
def run (args : List String) (env : Environment) : Act (Except Failure Signed) := do
  return (← (attempt args env).unlessStopped).getD (.error .clock)

end SaslClient.Probe
