import DeclAtlas.Browser.Basic
import DeclAtlas.Browser.Draw
import DeclAtlas.Browser.InfoPane
import DeclAtlas.Browser.Row
import DeclAtlas.Browser.StatusBar
import DeclAtlas.Browser.Theme
import DeclAtlas.Browser.TreePane
import DeclAtlas.Command.Arguments
import DeclAtlas.Command.Basic
import DeclAtlas.Command.Run
import DeclAtlas.Condition.Basic
import DeclAtlas.Condition.Directive
import DeclAtlas.Condition.Groups
import DeclAtlas.Condition.Symbols
import DeclAtlas.Doc.Comment
import DeclAtlas.Element.Basic
import DeclAtlas.Element.DisplayName
import DeclAtlas.Element.Kind
import DeclAtlas.Error
import DeclAtlas.Header.Basic
import DeclAtlas.Header.Comment
import DeclAtlas.Header.Parts
import DeclAtlas.Header.Reading
import DeclAtlas.Json.Basic
import DeclAtlas.Main
import DeclAtlas.Markup.Entity
import DeclAtlas.Markup.Event
import DeclAtlas.Number.Rounding
import DeclAtlas.Page.Basic
import DeclAtlas.Page.Html
import DeclAtlas.Project
import DeclAtlas.Scanner.Basic
import DeclAtlas.Scanner.Boundary
import DeclAtlas.Scanner.Run
import DeclAtlas.Scanner.Step
import DeclAtlas.Screen.Glyph
import DeclAtlas.Screen.Picture
import DeclAtlas.Screen.Style
import DeclAtlas.Screen.Wrap
import DeclAtlas.Settings.Basic
import DeclAtlas.Settings.Format
import DeclAtlas.Settings.Storage
import DeclAtlas.Site.Export
import DeclAtlas.Site.Options
import DeclAtlas.Site.Plan
import DeclAtlas.Site.Progress
import DeclAtlas.Site.Selection
import DeclAtlas.Source.Basic
import DeclAtlas.Source.Fault
import DeclAtlas.Storage.Disk
import DeclAtlas.Storage.Entry
import DeclAtlas.Storage.Path
import DeclAtlas.Text.Alphanumeric
import DeclAtlas.Text.Basic
import DeclAtlas.Text.BreakClass
import DeclAtlas.Text.Cluster
import DeclAtlas.Text.Columns
import DeclAtlas.Text.Emoji
import DeclAtlas.Text.Quoted
import DeclAtlas.Toml.Basic
import DeclAtlas.Toml.Quotation
import DeclAtlas.Toml.Reader
import DeclAtlas.Toml.Scalar
import DeclAtlas.Tree.Basic
import DeclAtlas.Tree.Branch
import DeclAtlas.Tree.Outline
import DeclAtlas.Tree.Record
import DeclAtlas.Proofs.Condition.DirectiveLine
import DeclAtlas.Proofs.Condition.Grammar
import DeclAtlas.Proofs.Condition.Members
import DeclAtlas.Proofs.Condition.Program
import DeclAtlas.Proofs.Condition.Selection
import DeclAtlas.Proofs.Declaration.Basic
import DeclAtlas.Proofs.Declaration.Header
import DeclAtlas.Proofs.Declaration.RoundTrip
import DeclAtlas.Proofs.Element.DisplayName
import DeclAtlas.Proofs.Header.Comment
import DeclAtlas.Proofs.Header.Name
import DeclAtlas.Proofs.Header.Regular
import DeclAtlas.Proofs.Reader.Basic
import DeclAtlas.Proofs.Reader.Chunk
import DeclAtlas.Proofs.Reader.Concatenation
import DeclAtlas.Proofs.Reader.Counting
import DeclAtlas.Proofs.Reader.Line
import DeclAtlas.Proofs.Reader.Opacity
import DeclAtlas.Proofs.Reader.Refinement
import DeclAtlas.Proofs.Reader.Relation
import DeclAtlas.Proofs.Scanner.Frame
import DeclAtlas.Proofs.Scanner.Growth
import DeclAtlas.Proofs.Source.Slice
import DeclAtlas.Proofs.Text.Cutting
import DeclAtlas.Proofs.Text.WordChar
import DeclAtlas.Proofs.Text.Words
import DeclAtlas.Proofs.Tree.Change
import DeclAtlas.Proofs.Tree.Plant
import DeclAtlas.Proofs.Tree.WellFormed
import DeclAtlas.Proofs.Tree.Defaults
import DeclAtlas.Proofs.Header.Literal
import DeclAtlas.Proofs.Reader.Literal
import DeclAtlas.Proofs.Tree.Extension
import DeclAtlas.Proofs.Scanner.Stream
import DeclAtlas.Proofs.Scanner.Rereading
import DeclAtlas.Proofs.Tree.Branch
import DeclAtlas.Proofs.Site.Selection
import DeclAtlas.Proofs.Site.Plan
import DeclAtlas.Proofs.Site.Export
import DeclAtlas.Proofs.Site.Written
import DeclAtlas.Proofs.Site.Report
import DeclAtlas.Proofs.Markup.Entity
import DeclAtlas.Proofs.Page.Token
import DeclAtlas.Proofs.Page.Table
import DeclAtlas.Proofs.Storage.Path
import DeclAtlas.Proofs.Site.Links
import DeclAtlas.Proofs.Toml.Document
import DeclAtlas.Proofs.Tree.Address
import DeclAtlas.Proofs.Storage.Disk
import DeclAtlas.Proofs.Scanner.Naming
import DeclAtlas.Proofs.Settings.RoundTrip
import DeclAtlas.Proofs.Site.Place
import DeclAtlas.Proofs.Site.Containment
import DeclAtlas.Proofs.Site.Collision
import DeclAtlas.Proofs.Scanner.Opening
import DeclAtlas.Proofs.Scanner.Blocks
import DeclAtlas.Proofs.Header.Splitting
import DeclAtlas.Proofs.Scanner.Fault
import DeclAtlas.Proofs.Header.Layout
import DeclAtlas.Proofs.Header.TypeEnd
import DeclAtlas.Proofs.Condition.Monotone
import DeclAtlas.Proofs.Site.Marking
import DeclAtlas.Proofs.Scanner.Checked
import DeclAtlas.Proofs.Project.Reload
import DeclAtlas.Proofs.Browser.Row
import DeclAtlas.Proofs.Tree.Traversal
import DeclAtlas.Proofs.Browser.Selection
import DeclAtlas.Proofs.Page.Nesting
import DeclAtlas.Proofs.Doc.Sections
import DeclAtlas.Proofs.Element.ParameterTypes
import DeclAtlas.Proofs.Settings.Recents
import DeclAtlas.Proofs.Header.Stripping
import DeclAtlas.Proofs.Condition.Parenthesis
import DeclAtlas.Proofs.Scanner.Span
import DeclAtlas.Proofs.Condition.Groups
import DeclAtlas.Proofs.Condition.Words
