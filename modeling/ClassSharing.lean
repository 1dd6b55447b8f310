import ClassSharing.Json.Reader
import ClassSharing.Main
import ClassSharing.Proofs.Session.Replay
import ClassSharing.Proofs.Text.Lines
import ClassSharing.Proofs.Text.Utf8
import ClassSharing.Proofs.Path
import ClassSharing.Proofs.Resolution.LogFile
import ClassSharing.Proofs.Validation.Fields
import ClassSharing.Proofs.Config.Fields
import ClassSharing.Proofs.Yaml.Document
import ClassSharing.Proofs.Config.Precedence
import ClassSharing.Proofs.Run.Calls
import ClassSharing.Proofs.Archive.CallOrder
import ClassSharing.Proofs.Command.DryRun
import ClassSharing.Proofs.Archive.Diagnostics
import ClassSharing.Proofs.Command.Validate
import ClassSharing.Proofs.Command.FileFaults
import ClassSharing.Proofs.Session.Frozen
import ClassSharing.Proofs.Run.Work
import ClassSharing.Proofs.Archive.Outcome
import ClassSharing.Proofs.Command.Verdict
import ClassSharing.Proofs.Command.Stages
import ClassSharing.Proofs.Command.ExitStatus
import ClassSharing.Proofs.Command.FileFrame
import ClassSharing.Proofs.Resolution.DescriptorCodec
import ClassSharing.Proofs.Text.Occurrence
import ClassSharing.Proofs.Archive.CommandLine
import ClassSharing.Proofs.Archive.Request
import ClassSharing.Proofs.Run.Script
import ClassSharing.Proofs.Archive.Transcript
import ClassSharing.Proofs.Json.Printed
import ClassSharing.Proofs.Json.RoundTrip
import ClassSharing.Proofs.Command.JsonReport
