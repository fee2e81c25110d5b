import PolicyWitness.Path
import PolicyWitness.ContinuousClock
import PolicyWitness.Reservation
import PolicyWitness.Utf8
import PolicyWitness.Base64
import PolicyWitness.Json
import PolicyWitness.Client.Transport
import PolicyWitness.Client.Session
import PolicyWitness.Client.Moves
import PolicyWitness.Client.Replay
import PolicyWitness.Client.Submission
import PolicyWitness.Controller.RunnerClient
import PolicyWitness.Controller.Output
import PolicyWitness.Controller.Admission
import PolicyWitness.Controller.Augments
import PolicyWitness.Client.Wire
import PolicyWitness.Client.Evidence
import PolicyWitness.Client.Chronicle
import PolicyWitness.Client.Closing
import PolicyWitness.Client.Books
import PolicyWitness.Client.Admission
import PolicyWitness.Client.Delivered
import PolicyWitness.Program
import PolicyWitness.Schedule.Host
import PolicyWitness.Schedule.Session
import PolicyWitness.Schedule.Scheduler
import PolicyWitness.Schedule.Walk
import PolicyWitness.Schedule.Adapter
import PolicyWitness.Schedule.Log
import PolicyWitness.Schedule.Effects
import PolicyWitness.Schedule.Children
import PolicyWitness.Schedule.Serial
import PolicyWitness.Schedule.Setup
import PolicyWitness.Schedule.Gate
import PolicyWitness.Schedule.Visits
import PolicyWitness.Schedule.Progress
import PolicyWitness.Schedule.Run
import PolicyWitness.Worker.Output
import PolicyWitness.Worker.Disposition
import PolicyWitness.Worker.Steps
import PolicyWitness.Worker.Validator
import PolicyWitness.Worker.Classify
import PolicyWitness.Worker.Orchestrator
import PolicyWitness.Worker.Finished
import PolicyWitness.Worker.Actors
import PolicyWitness.Worker.ActorFinished
import PolicyWitness.Schedule.Released
import PolicyWitness.Worker.Ordered
import PolicyWitness.Sbpl.Closure
import PolicyWitness.Sbpl.Lex
import PolicyWitness.Sbpl.Reader
import PolicyWitness.Sbpl.Scan
import PolicyWitness.Settled
import PolicyWitness.Sbpl.Imports
import PolicyWitness.Sbpl.Inventory
import PolicyWitness.Authority.Custody
import PolicyWitness.Authority.Acceptance
import PolicyWitness.Worker.Policy
import PolicyWitness.Controller.Registry
import PolicyWitness.Controller.Transaction
import PolicyWitness.Worker.Ownership
import PolicyWitness.Controller.Ownership
import PolicyWitness.Controller.Owed
import PolicyWitness.Controller.Told
import PolicyWitness.Controller.Agreement
import PolicyWitness.PropertyList
import PolicyWitness.Pathname
import PolicyWitness.Controller.RecordLocation
import PolicyWitness.Controller.Launchd
import PolicyWitness.Controller.Recognised
import PolicyWitness.Controller.Located
import PolicyWitness.Rank
import PolicyWitness.Plan.Request
import PolicyWitness.Plan.Normalize
import PolicyWitness.Plan.Admission
import PolicyWitness.Plan.Consistent
import PolicyWitness.Plan.Translate
import PolicyWitness.Schedule.Allowance
import PolicyWitness.StringLiteral
import PolicyWitness.Validator.Codec
import PolicyWitness.Validator.Exact
import PolicyWitness.Memory
import PolicyWitness.ProbeRunner.Timing
import PolicyWitness.ProbeRunner.Exec
import PolicyWitness.ProbeRunner.ChildOutput
import PolicyWitness.ProbeRunner.Waits
import PolicyWitness.ProbeRunner.Account
import PolicyWitness.ProbeRunner.Region
import PolicyWitness.ProbeRunner.Submitted
import PolicyWitness.ProbeRunner.Fresh
import PolicyWitness.ProbeRunner.FreshEvidence
import PolicyWitness.ProbeRunner.Attempt
import PolicyWitness.ProbeRunner.Received
import PolicyWitness.Schedule.Owned
import PolicyWitness.Equipment.Bound
import PolicyWitness.Equipment.Preparation
import PolicyWitness.Controller.Deadline
import PolicyWitness.Controller.Canonical
import PolicyWitness.Framing
import PolicyWitness.ProbeRunner.ParamsDigest
import PolicyWitness.Controller.Disposition
import PolicyWitness.Location
import PolicyWitness.Plan.Decode
import PolicyWitness.Plan.Capacity
import PolicyWitness.Plan.Located
import PolicyWitness.Plan.Places
import PolicyWitness.Plan.Refusal
import PolicyWitness.Setup.Trailer
import PolicyWitness.Setup.Scope
import PolicyWitness.Setup.Proper
import PolicyWitness.Setup.Sound
import PolicyWitness.Setup.Admitted
import PolicyWitness.Setup.Published
import PolicyWitness.Setup.Interrupted
import PolicyWitness.Fallible
import PolicyWitness.Numbering
import PolicyWitness.Plan.Lossless
import PolicyWitness.ProbeRunner.Main
import PolicyWitness.Controller.Application
import PolicyWitness.Controller.Assessed
import PolicyWitness.ProbeRunner.Applied
import PolicyWitness.Plan.Assigned
import PolicyWitness.Plan.Referred
import PolicyWitness.Plan.Agreed
import PolicyWitness.Plan.Total
import PolicyWitness.Plan.Lifecycle
import PolicyWitness.Plan.Accepted
import PolicyWitness.Plan.LastUse
import PolicyWitness.Thread
import PolicyWitness.Release.Order
import PolicyWitness.Release.Shared
import PolicyWitness.Release.Discipline
import PolicyWitness.Release.Worker
import PolicyWitness.Release.Host
import PolicyWitness.Release.Ordered
