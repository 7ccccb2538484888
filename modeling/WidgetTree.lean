import WidgetTree.Builder
import WidgetTree.Forest.Invoke
import WidgetTree.Forest.Snapshot
import WidgetTree.Markup.Recipe
import WidgetTree.Node.Decode
import WidgetTree.Text.Double
import WidgetTree.Proofs.Build.Growth
import WidgetTree.Proofs.Build.Session
import WidgetTree.Proofs.Markup.Agreement
import WidgetTree.Proofs.Mirror.Build
import WidgetTree.Proofs.Node.Retell
import WidgetTree.Proofs.Node.Saying
import WidgetTree.Proofs.Rows.Checklist
import WidgetTree.Proofs.Rows.Undo
import WidgetTree.Toolkit.Fault
import WidgetTree.Proofs.Forest.Inside
import WidgetTree.Proofs.Rows.Content
import WidgetTree.Proofs.Rows.Line
import WidgetTree.Proofs.Register.Log
import WidgetTree.Proofs.Build.Rest
import WidgetTree.Proofs.Register.Notebook
import WidgetTree.Proofs.Register.Pages
import WidgetTree.Proofs.Register.Tabs
import WidgetTree.Proofs.Forest.Views
import WidgetTree.Proofs.Markup.Parsing
import WidgetTree.Proofs.Node.Whole
import WidgetTree.Proofs.Forest.Removal
import WidgetTree.Proofs.Node.Declared
import WidgetTree.Proofs.Rows.Atomic
import WidgetTree.Proofs.Node.Entry
import WidgetTree.Proofs.Forest.Failure
import WidgetTree.Proofs.Rows.Click
import WidgetTree.Proofs.Boxes.Bench
import WidgetTree.Proofs.Rows.Naming
import WidgetTree.Proofs.Build.Blame
import WidgetTree.Proofs.Rows.Clear
import WidgetTree.Proofs.Controls.Routing
import WidgetTree.Proofs.Element.Ownership
import WidgetTree.Proofs.Build.Window
import WidgetTree.Proofs.Forest.Tabs
import WidgetTree.Proofs.Element.Sequence
import WidgetTree.Proofs.Forest.Edit
import WidgetTree.Proofs.Forest.Options
import WidgetTree.Proofs.Forest.Conform
import WidgetTree.Json.Data
import WidgetTree.Proofs.Json.Data
import WidgetTree.Proofs.Resolution
import WidgetTree.Proofs.Value.Equality
