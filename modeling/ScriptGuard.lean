import ScriptGuard.Inspect
import ScriptGuard.Main
import ScriptGuard.Rehearsal.Bench
import ScriptGuard.Rehearsal.Puppets
import ScriptGuard.Proofs.Standstill
import ScriptGuard.Proofs.History
import ScriptGuard.Proofs.RequestStep
import ScriptGuard.Proofs.RunChange
import ScriptGuard.Proofs.Unwinding
import ScriptGuard.Proofs.Approval
import ScriptGuard.Proofs.Stepping
import ScriptGuard.Proofs.Lifecycle
import ScriptGuard.Proofs.Releases
import ScriptGuard.Proofs.DeviceRecord
import ScriptGuard.Proofs.Determinism
import ScriptGuard.Proofs.Outline
import ScriptGuard.Proofs.Transparency
import ScriptGuard.Proofs.Registry
import ScriptGuard.Proofs.Tally
import ScriptGuard.Proofs.LateAbort
import ScriptGuard.Proofs.Sweep
import ScriptGuard.Proofs.Shutdown
import ScriptGuard.Proofs.Permission
import ScriptGuard.Proofs.Denial
import ScriptGuard.Proofs.Insertion
import ScriptGuard.Proofs.Autonomy
import ScriptGuard.Proofs.Publication
import ScriptGuard.Proofs.Mirror
import ScriptGuard.Proofs.Opening
import ScriptGuard.Proofs.Closing
import ScriptGuard.Proofs.Slices
import ScriptGuard.Proofs.Checkpoint
import ScriptGuard.Proofs.Quota
import ScriptGuard.Proofs.Isolation
import ScriptGuard.Proofs.Seclusion
import ScriptGuard.Proofs.Trace
import ScriptGuard.Proofs.Arbitration
import ScriptGuard.Proofs.Admission
import ScriptGuard.Proofs.Availability
import ScriptGuard.Proofs.Reckoning
import ScriptGuard.Proofs.DurationText
import ScriptGuard.Proofs.Validation
import ScriptGuard.Proofs.Totals
import ScriptGuard.Proofs.Activation
import ScriptGuard.Proofs.LimitCheck
import ScriptGuard.Proofs.Grants
import ScriptGuard.Proofs.FloatRounding
import ScriptGuard.Proofs.FloatSeconds
import ScriptGuard.Proofs.Arguments
import ScriptGuard.Proofs.Preparation
import ScriptGuard.Proofs.DryRun
import ScriptGuard.Proofs.Provenance
