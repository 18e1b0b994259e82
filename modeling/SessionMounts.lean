import SessionMounts.Main
import SessionMounts.Proofs.Text.Lines
import SessionMounts.Proofs.Text.Literal
import SessionMounts.Proofs.Utf8.Validity
import SessionMounts.Proofs.FileSystem.Naming
import SessionMounts.Proofs.FileSystem.SamePlaces
import SessionMounts.Proofs.FileSystem.Walking
import SessionMounts.Proofs.Policy.Distinct
import SessionMounts.Proofs.Policy.Values
import SessionMounts.Proofs.Mounting.Accounting
import SessionMounts.Proofs.Mounting.Gates
import SessionMounts.Proofs.Mounting.Outcome
import SessionMounts.Proofs.Mounting.Quiet
import SessionMounts.Proofs.Mounting.Refusal
import SessionMounts.Proofs.Mounting.Reports
import SessionMounts.Proofs.Mounting.Settling
import SessionMounts.Proofs.MountsFile.AllOrNothing
import SessionMounts.Proofs.MountsFile.Format
import SessionMounts.Proofs.MountsFile.Handling
import SessionMounts.Proofs.MountsFile.Locations
import SessionMounts.Proofs.MountsFile.Quiet
import SessionMounts.Proofs.MountsFile.ReadBack
import SessionMounts.Proofs.MountsFile.WriteOnly
import SessionMounts.Proofs.MountTool.Asking
import SessionMounts.Proofs.MountTool.Chunking
import SessionMounts.Proofs.MountTool.Closing
import SessionMounts.Proofs.MountTool.Garbled
import SessionMounts.Proofs.MountTool.Gated
import SessionMounts.Proofs.MountTool.Grammar
import SessionMounts.Proofs.MountTool.Interview
import SessionMounts.Proofs.MountTool.LastLine
import SessionMounts.Proofs.MountTool.Reason
import SessionMounts.Proofs.MountTool.Turns
import SessionMounts.Proofs.MountTool.Worker
import SessionMounts.Proofs.InProcess.Courses
import SessionMounts.Proofs.InProcess.EachOnce
import SessionMounts.Proofs.InProcess.Schedules
import SessionMounts.Proofs.InProcess.Serving
import SessionMounts.Proofs.Command.Arguments
import SessionMounts.Proofs.Command.ExitCode
import SessionMounts.Proofs.Command.Messages
import SessionMounts.Proofs.Command.Owners
import SessionMounts.Proofs.Command.PolicyFile
import SessionMounts.Proofs.Command.Quiet
import SessionMounts.Proofs.Command.Rewriting
import SessionMounts.Proofs.Command.Writing
