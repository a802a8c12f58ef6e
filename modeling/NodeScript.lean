import NodeScript.Script.Audit
import NodeScript.Project.Edit
import NodeScript.Program.Compile
import NodeScript.Program.Listing
import NodeScript.Program.Record
import NodeScript.Search.Session
import NodeScript.Catalog.Standard
import NodeScript.Script.Record
import NodeScript.Json.Parser
import NodeScript.Json.Printer
import NodeScript.Editor.Command
import NodeScript.Editor.Copy
import NodeScript.Editor.Record
import NodeScript.EventLog
import NodeScript.SharedLog
import NodeScript.Storage.ProjectFile
import NodeScript.Storage.RecentsFile
import NodeScript.Workspace.Programs
import NodeScript.Workspace.Saving
import NodeScript.Workspace.Scripts
import NodeScript.Http.Host
import NodeScript.Record
import NodeScript.Proofs.Bridging
import NodeScript.Proofs.Script.Rules
import NodeScript.Proofs.IdSupply
import NodeScript.Proofs.Script.Edit
import NodeScript.Proofs.Script.Link
import NodeScript.Proofs.Script.Removal
import NodeScript.Proofs.Script.Remainder
import NodeScript.Proofs.Script.Deletions
import NodeScript.Proofs.Copies
import NodeScript.Proofs.Project.Edit
import NodeScript.Proofs.Editor.Copy
import NodeScript.Proofs.Editor.Step
import NodeScript.Proofs.Project.Rules
import NodeScript.Proofs.Script.Audit
import NodeScript.Proofs.Project.Run
import NodeScript.Proofs.Program.Strict
import NodeScript.Proofs.Program.Verdict
import NodeScript.Proofs.Program.Audited
import NodeScript.Proofs.Program.Carried
import NodeScript.Proofs.Program.Mediated
import NodeScript.Proofs.Renaming
import NodeScript.Proofs.Program.Alike
import NodeScript.Proofs.Program.Upstream
import NodeScript.Proofs.Program.Renamed
import NodeScript.Proofs.Script.Relinked
import NodeScript.Proofs.Editor.Run
import NodeScript.Proofs.Workspace.Run
import NodeScript.Proofs.Storage.Saved
import NodeScript.Proofs.EventLog.Run
import NodeScript.Proofs.Workspace.Accounts
import NodeScript.Proofs.Workspace.Refused
import NodeScript.Proofs.Http.Run
import NodeScript.Proofs.Program.Coverage
import NodeScript.Proofs.Program.Earliest
import NodeScript.Proofs.Program.Cycles
import NodeScript.Proofs.EventLog.Streams
import NodeScript.Proofs.Program.References
import NodeScript.Proofs.Program.Reordered
import NodeScript.Proofs.Editor.Surface
import NodeScript.Proofs.Editor.Guard
import NodeScript.Proofs.Editor.Duplicate
import NodeScript.Proofs.Project.Duplicate
import NodeScript.Proofs.Editor.Pointing
import NodeScript.Proofs.Search.Fit
import NodeScript.Proofs.Search.Browsing
import NodeScript.Proofs.Storage.Recents
import NodeScript.Proofs.Script.Bridged
import NodeScript.Proofs.Search.Session
import NodeScript.Proofs.EventLog.Failures
