import GPay.Runs
import GPay.Quorum
import GPay.Quarantine.State
import GPay.Quarantine.Instructions
import GPay.Quarantine.Machine
import GPay.Quarantine.Effects
import GPay.Quarantine.Payouts
import GPay.Quarantine.Changes
import GPay.Quarantine.Binding
import GPay.Quarantine.History
import GPay.Quarantine.Tally
import GPay.Quarantine.Verdict
import GPay.Quarantine.Gate
import GPay.Quarantine.Lifecycle
import GPay.Quarantine.Isolation
import GPay.Quarantine.Assets
import GPay.Quarantine.Deltas
import GPay.Quarantine.Solvency
import GPay.Quarantine.Exit
import GPay.Quarantine.Replay
import GPay.Quarantine.Acceptance
import GPay.Digits
import GPay.Codec
import GPay.Quarantine.Layout
import GPay.Quarantine.Wire
import GPay.Quarantine.Standing
import GPay.Stealth.Scheme
import GPay.Stealth.Recovery
import GPay.Stealth.Sample
import GPay.Stealth.Port
import GPay.Doubles
import GPay.Gateway.Json
import GPay.Indexing
import GPay.Gateway.Store
import GPay.Gateway.Routes
import GPay.Gateway.Contents
import GPay.Gateway.Effects
import GPay.Gateway.Race
import GPay.Gateway.Terminal
import GPay.Custody
import GPay.Provenance
import GPay.Reading
import GPay.Gateway.Tenants
import GPay.Relaying.Charges
import GPay.Relaying.Bucket
import GPay.Relaying.Calls
import GPay.Relaying.Caps
import GPay.Relaying.Cosign
import GPay.Gateway.Treasury
import GPay.Amounts
import GPay.Gateway.Issuance
import GPay.Polling
import GPay.Demo
import GPay.Demo.Commands
import GPay.Demo.Routes
import GPay.Demo.Session
import GPay.Demo.Journey
import GPay.Gateway.Ledger
import GPay.Gateway.Twins
