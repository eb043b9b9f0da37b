import TypedRecord.Main
import TypedRecord.Session.Run
import TypedRecord.Proofs.Act
import TypedRecord.Proofs.Admission
import TypedRecord.Proofs.Wrapping
import TypedRecord.Proofs.Conformance
import TypedRecord.Proofs.Acceptance
import TypedRecord.Proofs.Reportable
import TypedRecord.Proofs.Record.SideData
import TypedRecord.Proofs.Record.Writes
import TypedRecord.Record.Call
import TypedRecord.Record.Sharing
import TypedRecord.Proofs.Record.Calls
import TypedRecord.Proofs.Record.StrictRuns
import TypedRecord.Proofs.Record.RefusedWrites
import TypedRecord.Proofs.Record.FailedWrites
import TypedRecord.Proofs.Findings
import TypedRecord.Proofs.ValidateData
import TypedRecord.Proofs.Nested
import TypedRecord.Proofs.Record.Contents
import TypedRecord.Proofs.Alike
import TypedRecord.Proofs.RoundTrip
import TypedRecord.Proofs.Grammar
import TypedRecord.Proofs.Modes
import TypedRecord.Proofs.Reporting
import TypedRecord.Proofs.Rewrapping
import TypedRecord.Proofs.Listed
import TypedRecord.Proofs.Record.Settled
import TypedRecord.Proofs.Record.Resemblance
import TypedRecord.Proofs.Record.QuietReads
import TypedRecord.Proofs.Record.Likeness
import TypedRecord.Proofs.Record.LooseRuns
import TypedRecord.Record.Request
import TypedRecord.Proofs.Record.Sinks
import TypedRecord.Proofs.SideField
import TypedRecord.Proofs.Record.BesideRuns
import TypedRecord.Proofs.DataFile
import TypedRecord.Proofs.Matches
import TypedRecord.Proofs.Culprit
import TypedRecord.Proofs.FirstIssue
import TypedRecord.Proofs.Flattening
import TypedRecord.Proofs.Logged
import TypedRecord.Proofs.Record.Unchecked
import TypedRecord.Proofs.Canonical
import TypedRecord.Proofs.Namesakes
import TypedRecord.Proofs.Record.Standing
import TypedRecord.Proofs.Record.PlainForm
import TypedRecord.Proofs.Sorting
import TypedRecord.Proofs.Copied
import TypedRecord.Proofs.Record.SingleWrites
import TypedRecord.Proofs.Record.Unflattened
import TypedRecord.Proofs.Record.EmptyStart
import TypedRecord.Proofs.Record.SideHistory
import TypedRecord.Proofs.Record.SideRuns
import TypedRecord.Proofs.Extension
import TypedRecord.Proofs.Widening
import TypedRecord.Proofs.Record.SideEntries
import TypedRecord.Proofs.Sharing
import TypedRecord.Proofs.Record.SharedRuns
import TypedRecord.Proofs.Record.Events
import TypedRecord.Proofs.Neighbours
import TypedRecord.Proofs.Introspection
import TypedRecord.Proofs.Loading
import TypedRecord.Proofs.ReportForms
import TypedRecord.Proofs.ReportForms
