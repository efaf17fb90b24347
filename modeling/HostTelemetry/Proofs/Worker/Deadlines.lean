/-
The moments ahead that the agent works out, and which of them its clock holds.

# What is added to now

A session that is granted ends after the seconds that the server names, less a
margin. A timer that does not begin at once is due after the period that the
settings name: the timer of the collections, and that of the lines that sum
up. Both numbers come from outside, and where the clock does not hold the sum,
whoever works it out breaks off.

# What guards them

From below they are looked after: a validity that is not above zero stands for
the usual one, and settings with a period of zero are refused. From above there
is nothing besides their 64 bits, and a moment of the clock has one bit less.
So each sum is worked out just where it does not pass the last moment
(`deadlines_held_iff`), and there are answers and documents with which it does
(`deadlines_beyond_clock`).
-/
import HostTelemetry.Proofs.PiHole.Lifetimes
import HostTelemetry.Proofs.Settings
import HostTelemetry.Worker.ServiceLoop

namespace HostTelemetry.Worker

open Http (clockLimit expiryMargin lifetime)
open Http.Dialogue (Scene Server)
open PiHole (Spoken Turn attempt keepings trail)
open PiHole (desk endlessGrant plainGrant recordOf)
open Service (Detector)
open Text (IsInt64 maxU64)

variable {σ τ : Type}

-- ========================================================= first moments

theorem Timer.delayedFrom?_eq (now secs : Nat) :
    Timer.delayedFrom? now secs
      = if now + secs ≤ clockLimit then some (.delayed (1000 * secs)) else none := by
  rw [delayedFrom?, Http.map_after?, Nat.add_sub_cancel_left]
  rfl

theorem ServiceLoop.startFrom?_eq (now : Nat) (p : Settings.Periods) (detector : Detector)
    (server : τ) :
    ServiceLoop.startFrom? now p detector server
      = if now + p.collectSecs ≤ clockLimit then
          some (.start detector server (1000 * p.detectSecs) (1000 * p.collectSecs))
        else none := by
  rw [startFrom?, Timer.delayedFrom?_eq, apply_ite (Option.map _)]
  rfl

-- ============================================================= deadlines

/-- Which moments the clock holds. A run of the plugin, whatever it is asked
for and however it is answered, keeps what its logins are granted, for
integers of 64 bits, and comes to its end just if the clock holds the end of
each session; until the clock itself is about to end, this hangs on the
validity alone. With settings that are accepted, whose numbers are above zero
and have 64 bits, a worker starts just if the clock holds its first moment. -/
theorem deadlines_held_iff (srv : Server σ) (turns : List (Turn σ)) (scene : Scene σ)
    {text : String} {settings : Settings} (haccepted : Settings.ofDocument text = .ok settings)
    (now : Nat) (detector : Detector) (server : τ) :
    (attempt srv turns scene
        = if ∀ k ∈ keepings srv turns scene, k.Fits then some (go (Turn.step srv) turns scene)
          else none) ∧
      (keepings srv turns scene).map (·.grant)
        = (trail srv turns scene).filterMap Spoken.grant? ∧
      (∀ k ∈ keepings srv turns scene, IsInt64 k.grant.validity ∧
        (k.moment + lifetime 0 ≤ clockLimit →
          (k.Fits ↔ k.moment + k.grant.validity ≤ clockLimit + expiryMargin))) ∧
      (∀ n ∈ settings.numbers, 0 < n ∧ n ≤ maxU64) ∧
      ServiceLoop.startFrom? now settings.periods detector server
        = (if now + settings.periods.collectSecs ≤ clockLimit then
            some (.start detector server (1000 * settings.periods.detectSecs)
              (1000 * settings.periods.collectSecs))
          else none) ∧
      Timer.delayedFrom? now settings.periods.digestSecs
        = if now + settings.periods.digestSecs ≤ clockLimit then
            some (.delayed (1000 * settings.periods.digestSecs))
          else none :=
  ⟨PiHole.attempt_eq srv turns scene, PiHole.grants_of_keepings srv turns scene,
    fun _ hk => ⟨PiHole.isInt64_of_mem_keepings hk, Http.Keeping.fits_iff⟩,
    Settings.bounds_of_ofDocument haccepted, ServiceLoop.startFrom?_eq now _ detector server,
    Timer.delayedFrom?_eq now _⟩

/-- A login for the usual time, and the usual settings. -/
theorem usual_deadlines_held :
    let srv := desk 11 "http://h" "a" plainGrant
    let turns : List (Turn Bool) := [.collect (recordOf "http://h" "p")]
    let scene : Scene Bool := { server := false }
    Settings.ofDocument "" = .ok {} ∧
      keepings srv turns scene = [⟨11, ⟨⟨"a", "b"⟩, 0⟩⟩] ∧
      attempt srv turns scene = some (go (Turn.step srv) turns scene) ∧
      ServiceLoop.startFrom? 11 (Settings.periods {}) {} ()
        = some (.start {} () 30000 10000) ∧
      Timer.delayedFrom? 11 (Settings.periods {}).digestSecs = some (.delayed 60000) := by
  intro srv turns scene
  have haccepted : Settings.ofDocument "" = .ok {} := by rfl
  have hkept : keepings srv turns scene = [⟨11, ⟨⟨"a", "b"⟩, 0⟩⟩] := by decide +kernel
  obtain ⟨hrun, -, -, -, hloop, htimer⟩ := deadlines_held_iff srv turns scene haccepted 11 {} ()
  rw [hkept, if_pos (by decide)] at hrun
  rw [if_pos (by decide)] at hloop htimer
  exact ⟨haccepted, hkept, hrun, hloop, htimer⟩

/-- A server may grant a session whose end the clock does not hold, and then
the collection breaks off. And a document may be accepted with whose periods
neither worker can start. -/
theorem deadlines_beyond_clock :
    attempt (desk 11 "http://h" "a" endlessGrant) [.collect (recordOf "http://h" "p")]
        { server := false } = none ∧
      ∃ settings, Settings.ofDocument ("[monitoring]\n" ++
          "collect_interval_secs = 9223372036854775807\n" ++
          "stats_log_interval_secs = 9223372036854775807\n") = .ok settings ∧
        ServiceLoop.startFrom? 11 settings.periods {} () = none ∧
        Timer.delayedFrom? 11 settings.periods.digestSecs = none := by
  refine ⟨?_, ?_⟩
  · have hkept : keepings (desk 11 "http://h" "a" endlessGrant)
        [.collect (recordOf "http://h" "p")] { server := false }
        = [⟨11, ⟨⟨"a", ""⟩, 9223372036854775807⟩⟩] := by
      decide +kernel
    rw [PiHole.attempt_eq, hkept, if_neg (by decide)]
  · refine ⟨{ monitoring := {
        collectSecs := 9223372036854775807, digestSecs := 9223372036854775807 } }, ?_, ?_, ?_⟩
    · rfl
    · rw [ServiceLoop.startFrom?_eq, if_neg (by decide)]
    · rw [Timer.delayedFrom?_eq, if_neg (by decide)]

end HostTelemetry.Worker
