import RoleNaming.Check.Event
import RoleNaming.Check.Files
import RoleNaming.Check.Source
import RoleNaming.Command.Options
import RoleNaming.Command.Run
import RoleNaming.Command.Setting
import RoleNaming.Command.Usage
import RoleNaming.Command.Word
import RoleNaming.Config
import RoleNaming.Error
import RoleNaming.Files.Discovery
import RoleNaming.Files.Document
import RoleNaming.Files.Path
import RoleNaming.Files.Tree
import RoleNaming.Issue.Basic
import RoleNaming.Issue.Catalog
import RoleNaming.Issue.Report
import RoleNaming.Json.Printer
import RoleNaming.Json.Reader
import RoleNaming.Json.Value
import RoleNaming.Main
import RoleNaming.OrderedSet
import RoleNaming.Proofs.Accounting
import RoleNaming.Proofs.Arrays
import RoleNaming.Proofs.CallRule
import RoleNaming.Proofs.Comments
import RoleNaming.Proofs.Comments.Scopes
import RoleNaming.Proofs.Comments.Stripped
import RoleNaming.Proofs.Comments.Views
import RoleNaming.Proofs.ContextType
import RoleNaming.Proofs.Declaration
import RoleNaming.Proofs.Decoding
import RoleNaming.Proofs.Denotation
import RoleNaming.Proofs.Directory
import RoleNaming.Proofs.Discovery
import RoleNaming.Proofs.Encoding
import RoleNaming.Proofs.Environment
import RoleNaming.Proofs.Evidence
import RoleNaming.Proofs.ExitStatus
import RoleNaming.Proofs.Extent
import RoleNaming.Proofs.FaultIsolation
import RoleNaming.Proofs.Frame
import RoleNaming.Proofs.Hygiene
import RoleNaming.Proofs.Lookup
import RoleNaming.Proofs.Mention
import RoleNaming.Proofs.MethodRule
import RoleNaming.Proofs.Nameless
import RoleNaming.Proofs.NormalType
import RoleNaming.Proofs.NulFree
import RoleNaming.Proofs.Numeral
import RoleNaming.Proofs.ParameterNames
import RoleNaming.Proofs.Preorder
import RoleNaming.Proofs.QualifiedName
import RoleNaming.Proofs.ReadBack
import RoleNaming.Proofs.Reordering
import RoleNaming.Proofs.SourceOrder
import RoleNaming.Proofs.ThisField
import RoleNaming.Proofs.Tree
import RoleNaming.Proofs.Unambiguous
import RoleNaming.Proofs.Unreadable
import RoleNaming.Proofs.Validation
import RoleNaming.Rule.Call
import RoleNaming.Rule.Finding
import RoleNaming.Rule.Method
import RoleNaming.Rule.Visit
import RoleNaming.Scope.ExprType
import RoleNaming.Scope.Lookup
import RoleNaming.Syntax.Document
import RoleNaming.Syntax.Listing
import RoleNaming.Syntax.Node
import RoleNaming.Syntax.Site
import RoleNaming.Syntax.Source
import RoleNaming.Text.Blank
import RoleNaming.Text.CaseContext
import RoleNaming.Text.CaseTable
import RoleNaming.Text.CharClass
import RoleNaming.Text.Decimal
import RoleNaming.Text.Digit
import RoleNaming.Text.Hex
import RoleNaming.Text.Lowercase
import RoleNaming.Text.Printable
import RoleNaming.Text.Quoted
import RoleNaming.Text.Search
import RoleNaming.Text.Utf8
import RoleNaming.View.Call
import RoleNaming.View.Method
import RoleNaming.Visibility
