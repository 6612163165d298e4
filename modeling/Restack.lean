import Restack.Main
import Restack.Workspace.Listing
import Restack.Proofs.Jobs.Cancellation
import Restack.Proofs.Jobs.Agreement
import Restack.Proofs.Jobs.Calls
import Restack.Proofs.Outline.BackReferences
import Restack.Proofs.Text.Utf8
import Restack.Proofs.Intake.LeftOut
import Restack.Proofs.Intake.Folders
import Restack.Proofs.Intake.RoundTrip
import Restack.Proofs.Target.Scan
import Restack.Proofs.Conversion.Nodes
import Restack.Proofs.Conversion.Paths
import Restack.Proofs.Jobs.Frame
import Restack.Proofs.Stack.Paths
import Restack.Proofs.Target.Literals
import Restack.Proofs.Outline.Independence
import Restack.Proofs.Script.Returns
import Restack.Proofs.Script.ComponentMarkup
import Restack.Proofs.Text.Stretches
import Restack.Proofs.Outline.FirstValues
import Restack.Proofs.Stack.Skeletons
import Restack.Proofs.Stack.Initials
import Restack.Proofs.Target.Sheets
import Restack.Proofs.Target.CommentFiles
import Restack.Proofs.Outline.ComponentEnds
import Restack.Proofs.Outline.DecoratedClasses
import Restack.Proofs.Conversion.Accounts
import Restack.Proofs.Ir.Markup
import Restack.Proofs.Target.Declarations
import Restack.Proofs.Intake.Limits
import Restack.Proofs.Intake.SkipRules
import Restack.Proofs.Intake.SharedPaths
import Restack.Proofs.Outline.Packages
import Restack.Proofs.Outline.ObjectLayouts
import Restack.Proofs.Settings.Sessions
import Restack.Proofs.Stack.KebabNames
