/-
Sessions: a login that a service granted for some time. A session is given
up a little before the service would end it, and a service that names no
time is taken to grant five minutes.

Moments are whole seconds of a clock that only moves forward. The clock of a
machine comes to an end, at the last moment that a signed number of 64 bits
can name, and a session that would outlast it cannot be made.
-/
import HostTelemetry.Http.Message

namespace HostTelemetry.Http

/-- The seconds assumed when a service names none. -/
def defaultValidity : Int := 300

/-- The seconds by which a session is given up early. -/
def expiryMargin : Int := 10

/-- The seconds for which a session is used that was granted for so many. -/
def lifetime (validity : Int) : Nat :=
  ((if validity ≤ 0 then defaultValidity else validity) - expiryMargin).toNat

/-- What a service grants to a login. -/
structure Grant where
  credentials : Credentials
  /-- The seconds that the service named. -/
  validity : Int
deriving DecidableEq, Repr, Inhabited

/-- A session. -/
structure Session where
  credentials : Credentials
  /-- The first moment at which it is no longer used. -/
  expiresAt : Nat
deriving DecidableEq, Repr, Inhabited

/-- The session that begins now. -/
def Grant.session (now : Nat) (g : Grant) : Session :=
  ⟨g.credentials, now + lifetime g.validity⟩

/-- Whether the session can be used: it has a number and time left. -/
def Session.isValid (now : Nat) (s : Session) : Bool :=
  s.credentials.sid ≠ "" && now < s.expiresAt

/-- The session in a cache, if it can be used. -/
def usable (now : Nat) (cache : Option Session) : Option Session := cache.filter (·.isValid now)

-- ============================================================== the clock

/-- The number of seconds that a moment of the machine's clock can hold. -/
def clockLimit : Nat := 0x7FFFFFFFFFFFFFFF

/-- The moment some seconds later, if the clock of the machine can hold it. -/
def after? (now seconds : Nat) : Option Nat :=
  if now + seconds ≤ clockLimit then some (now + seconds) else none

/-- The session that begins now, if the clock of the machine can hold its
end. -/
def Grant.session? (now : Nat) (g : Grant) : Option Session :=
  (after? now (lifetime g.validity)).map fun expiresAt => ⟨g.credentials, expiresAt⟩

end HostTelemetry.Http
