/-
The agent's own name and version, as it tells them to others.
-/

namespace HostTelemetry

/-- The name of the agent. -/
def agentName : String := "hostmon"

/-- The version of the agent. -/
def agentVersion : String := "0.3.0"

end HostTelemetry
