/-
The standard set of plugins, in the order in which they are asked.
-/
import HostTelemetry.Nginx.Plugin
import HostTelemetry.PiHole.Plugin
import HostTelemetry.Traefik.Plugin

namespace HostTelemetry.Service

/-- The standard plugins, where a Pi-hole on this host has the given
settings. -/
def standardPlugins (files : PiHole.SettingsFiles) : List Plugin :=
  [PiHole.plugin files, Traefik.plugin, Nginx.plugin]

end HostTelemetry.Service
