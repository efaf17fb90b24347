import HostTelemetry.Agent
import HostTelemetry.Container.Transport
import HostTelemetry.Discovery.Host
import HostTelemetry.Host.Sampler
import HostTelemetry.Host.Temperature
import HostTelemetry.Json.Writer
import HostTelemetry.Proc.CommandLine
import HostTelemetry.Proofs.Broadcast.Isolation
import HostTelemetry.Proofs.Host.NetworkAccount
import HostTelemetry.Proofs.PiHole.Concurrency
import HostTelemetry.Proofs.PiHole.Trail
import HostTelemetry.Proofs.Proc.Streak
import HostTelemetry.Proofs.Service.OwnRecord
import HostTelemetry.Proofs.Service.Precedence
import HostTelemetry.Service.Standard
import HostTelemetry.Settings
import HostTelemetry.Worker.Digest
import HostTelemetry.Worker.ServiceLoop
import HostTelemetry.Proofs.Host.CpuFigure
import HostTelemetry.Proofs.Container.Refresh
import HostTelemetry.Proofs.Service.Collection
import HostTelemetry.Proofs.Service.Search
import HostTelemetry.Proofs.Json.Models
import HostTelemetry.Proofs.Proc.Ranking
import HostTelemetry.Proofs.Worker.Publications
import HostTelemetry.Proofs.Proc.ScanOrder
import HostTelemetry.Proofs.Host.Churn
import HostTelemetry.Proofs.Http.Searches
import HostTelemetry.Proofs.Discovery.Rows
import HostTelemetry.Proofs.PiHole.SearchOrder
import HostTelemetry.Proofs.Discovery.Correlation
import HostTelemetry.Proofs.Nginx.StatusPage
import HostTelemetry.Proofs.Container.Bindings
import HostTelemetry.Proofs.Text.Thousands
import HostTelemetry.Proofs.PiHole.AdminRedirect
import HostTelemetry.Proofs.Broadcast.Registry
import HostTelemetry.Proofs.Host.DiskSelection
import HostTelemetry.Proofs.Network.Additivity
import HostTelemetry.Proofs.PiHole.Percentage
import HostTelemetry.Proofs.Service.Pieces
import HostTelemetry.Proofs.Worker.Deadlines
