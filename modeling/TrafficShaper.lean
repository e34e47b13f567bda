import TrafficShaper.Delivery.Host
import TrafficShaper.Proofs.Conformance
import TrafficShaper.Proofs.Dependable
import TrafficShaper.Proofs.Drain
import TrafficShaper.Shared.Session
import TrafficShaper.Proofs.History
import TrafficShaper.Proofs.Conservation
import TrafficShaper.Proofs.Timing
import TrafficShaper.Proofs.Throughput
import TrafficShaper.Proofs.Latch
import TrafficShaper.Proofs.Throttled
import TrafficShaper.Proofs.InStep
import TrafficShaper.Proofs.Renewal
import TrafficShaper.Proofs.Sleeper
import TrafficShaper.Proofs.Worker
import TrafficShaper.Proofs.WireForms
import TrafficShaper.Proofs.Listener
import TrafficShaper.Proofs.Injection
import TrafficShaper.Proofs.ClockShift
import TrafficShaper.Proofs.Largest
import TrafficShaper.Proofs.Retry
import TrafficShaper.Proofs.Severity
import TrafficShaper.Proofs.Levels
import TrafficShaper.Proofs.Sampling
import TrafficShaper.Proofs.Refit
import TrafficShaper.Proofs.Limits
import TrafficShaper.Proofs.Reentry
import TrafficShaper.Proofs.Crew
import TrafficShaper.Proofs.Chunks
import TrafficShaper.Proofs.Custody
import TrafficShaper.Proofs.Layout
