import Bookmarklet.Json.Reader
import Bookmarklet.Main
import Bookmarklet.Preview.Bridge
import Bookmarklet.Preview.Session
import Bookmarklet.Proofs.Command.Builds
import Bookmarklet.Proofs.Config.RoundTrip
import Bookmarklet.Proofs.Draft.Readiness
import Bookmarklet.Proofs.Link.Component
import Bookmarklet.Proofs.Link.Content
import Bookmarklet.Proofs.Link.Packing
import Bookmarklet.Proofs.Preview.Elements
import Bookmarklet.Proofs.Preview.Window
import Bookmarklet.Proofs.Screening.Coverage
import Bookmarklet.Proofs.Script.FreshLocals
import Bookmarklet.Proofs.Script.Redeclaration
import Bookmarklet.Proofs.Script.RenamedViolations
import Bookmarklet.Proofs.Script.Spacing
import Bookmarklet.Proofs.Wire
import Bookmarklet.Proofs.Workbench.Assistance
import Bookmarklet.Proofs.Script.Permission
import Bookmarklet.Proofs.Script.Jumps
import Bookmarklet.Proofs.Script.Suspension
import Bookmarklet.Proofs.Script.LoopHeads
import Bookmarklet.Proofs.Script.ForeignSyntax
import Bookmarklet.Proofs.Script.Comments
import Bookmarklet.Proofs.Screening.Occurrences
import Bookmarklet.Proofs.Link.Decoding
import Bookmarklet.Proofs.Preview.Export
import Bookmarklet.Proofs.Preview.Frame
import Bookmarklet.Proofs.Response
import Bookmarklet.Proofs.Script.NameOrder
import Bookmarklet.Proofs.Assist.Fences
import Bookmarklet.Proofs.Assist.Items
import Bookmarklet.Proofs.Link.Sharing
import Bookmarklet.Proofs.Script.FirstProblem
