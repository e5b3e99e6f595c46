import CoherentCache.Config.Json
import CoherentCache.Key.Json
import CoherentCache.Lock.Script
import CoherentCache.Main
import CoherentCache.Proofs.Access.Coherence
import CoherentCache.Proofs.Access.Mirror
import CoherentCache.Proofs.Access.Supremacy
import CoherentCache.Proofs.Lock.Acceptance
import CoherentCache.Proofs.Lock.Exclusion
import CoherentCache.Proofs.Lock.Scopes
import CoherentCache.Proofs.Lock.Threshold
import CoherentCache.Proofs.Registry.Finality
import CoherentCache.Proofs.Registry.Resolution
import CoherentCache.Proofs.Store.Inclusion
import CoherentCache.Registry.Run
import CoherentCache.Store.Run
import CoherentCache.Proofs.SlotList.Roster
import CoherentCache.Proofs.SlotList.Refinement
import CoherentCache.Proofs.Store.Accounting
import CoherentCache.Proofs.Access.Unlocked
import CoherentCache.Proofs.Store.Recency
import CoherentCache.Proofs.Workload.Balance
import CoherentCache.Proofs.Workload.Alone
import CoherentCache.Proofs.Workload.Report
import CoherentCache.Proofs.Store.Idleness
import CoherentCache.Proofs.Lock.Backlog
import CoherentCache.Proofs.Lock.Frame
import CoherentCache.Proofs.Access.Lockless
import CoherentCache.Proofs.Config.Sources
import CoherentCache.Proofs.Registry.Timestamps
import CoherentCache.Proofs.Json.Reading
import CoherentCache.Proofs.Key.RoundTrip
