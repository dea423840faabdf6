import SentinelEdge.Analysis.CameraHealth
import SentinelEdge.Analysis.FloodSeverity
import SentinelEdge.Analysis.RainWindows
import SentinelEdge.Analysis.Units
import SentinelEdge.Audit.Signatures
import SentinelEdge.Benchmark.Accounting
import SentinelEdge.Collaboration.Agreement
import SentinelEdge.Collaboration.Labels
import SentinelEdge.Collaboration.Retry
import SentinelEdge.Collaboration.Updates
import SentinelEdge.Collector.Handover
import SentinelEdge.Collector.Masking
import SentinelEdge.Collector.Peers
import SentinelEdge.Collector.Rejections
import SentinelEdge.Collector.Restart
import SentinelEdge.Collector.SensorPlane
import SentinelEdge.Collector.Shutdown
import SentinelEdge.Collector.StableReferences
import SentinelEdge.Configuration.States
import SentinelEdge.Evidence.Reevaluation
import SentinelEdge.Evolution.Refusals
import SentinelEdge.Exports.Scanning
import SentinelEdge.Gateway.Authority
import SentinelEdge.Incidents.Expiry
import SentinelEdge.Incidents.Novelty
import SentinelEdge.Media.Archives
import SentinelEdge.Privacy.Acknowledgements
import SentinelEdge.Privacy.Outreach
import SentinelEdge.Privacy.Restore
import SentinelEdge.Privacy.Restrictions
import SentinelEdge.Projections.ClientBuffer
import SentinelEdge.Qualification.Replays
import SentinelEdge.Runtime.Conservation
import SentinelEdge.Runtime.Deferral
import SentinelEdge.Runtime.ExternalData
import SentinelEdge.Runtime.Fingerprint
import SentinelEdge.Runtime.GraphContracts
import SentinelEdge.Runtime.HonestClocks
import SentinelEdge.Runtime.OnnxFields
import SentinelEdge.Runtime.OnnxTotality
import SentinelEdge.Runtime.WallTimes
import SentinelEdge.Scenario.Overtaking
import SentinelEdge.Scenario.Transparency
import SentinelEdge.Security.Compromise
import SentinelEdge.Storage.Laundering
import SentinelEdge.Storage.Orphans
import SentinelEdge.Storage.Protection
import SentinelEdge.Update.Protected
