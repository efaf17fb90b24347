/-
Why a service could not be asked or told something. Each cause has one
text for people, `Fault.message`. What a transport or a decoder says about
the reason is no part of it.
-/
import HostTelemetry.Text.Duration

namespace HostTelemetry.Service

/-- Why a service gave no answer that can be used. -/
inductive Fault where
  /-- The request did not reach the service, or no complete answer came. -/
  | request (url : String)
  /-- The service refused with a status of the protocol. -/
  | status (url : String) (code : Nat)
  /-- The answer is not of the expected form. -/
  | malformed (url reason : String)
  /-- The service asks for a login and there is no password. -/
  | authRequired
  /-- The login was refused, or what it granted was. -/
  | authFailed (reason : String)
  /-- The time was over, given in milliseconds. -/
  | timeout (millis : Nat)
  | unsupportedAction (what : String)
  /-- The action cannot be done with these parameters. -/
  | invalidParams (reason : Option String)
  | notDetected (plugin : String)
deriving DecidableEq, Repr, Inhabited

namespace Fault

/-- The text for people. -/
def message : Fault → String
  | request url => s!"request to {url} failed"
  | status url code => s!"{url} returned HTTP {code}"
  | malformed url reason => s!"unexpected response from {url}: {reason}"
  | authRequired => "authentication required (no password configured)"
  | authFailed reason => s!"authentication failed: {reason}"
  | timeout millis => s!"timed out after {Text.durationOfMillis millis}"
  | unsupportedAction what => s!"unsupported action: {what}"
  | invalidParams none => "invalid parameters"
  | invalidParams (some reason) => s!"invalid parameters: {reason}"
  | notDetected plugin => s!"service not detected: {plugin}"

/-- The reason given for an answer whose text is not the expected JSON. -/
def undecodable : String := "<decode>"

/-- Whether the service refused because it wants a login. -/
def isUnauthorized : Fault → Bool
  | status _ code => code == 401
  | _ => false

end Fault

end HostTelemetry.Service
