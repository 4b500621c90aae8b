import Grctl.Api.Server
import Grctl.Api.Started
import Grctl.Codec.Accepted
import Grctl.Codec.Dump
import Grctl.Codec.RoundTrip
import Grctl.Config.Defaults
import Grctl.Ingress.Settled
import Grctl.Natsreg.Family
import Grctl.Natsreg.Lookup
import Grctl.Natsreg.Manifest
import Grctl.Natsreg.MapOrder
import Grctl.Natsreg.StateStream
import Grctl.Run.Admissible
import Grctl.Run.Identifiers
import Grctl.System.Acks
import Grctl.System.Arrival
import Grctl.System.Callback
import Grctl.System.Cancel
import Grctl.System.Crash
import Grctl.System.Dispatched
import Grctl.System.Durable
import Grctl.System.EventOnce
import Grctl.System.FailedStart
import Grctl.System.HistoryBound
import Grctl.System.Isolation
import Grctl.System.Metrics
import Grctl.System.OneActive
import Grctl.System.Orphans
import Grctl.System.Placement
import Grctl.System.ResultOnce
import Grctl.System.Results
import Grctl.System.Silence
import Grctl.System.StaleTimer
import Grctl.System.Start
import Grctl.System.Steps
import Grctl.System.Timeouts
import Grctl.System.Uncontended
import Grctl.System.Updates
import Grctl.System.Wakeup
import Grctl.System.Workers
import Grctl.Text.Template
import Grctl.Text.Wildcard
