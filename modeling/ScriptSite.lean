import ScriptSite.Catalog.Entry
import ScriptSite.Catalog.Read
import ScriptSite.Command.Arguments
import ScriptSite.Command.Run
import ScriptSite.Disk.Access
import ScriptSite.Disk.Basic
import ScriptSite.Disk.Copy
import ScriptSite.Disk.Path
import ScriptSite.Disk.Resolve
import ScriptSite.Disk.Walk
import ScriptSite.Html.Escape
import ScriptSite.Main
import ScriptSite.Markdown.Block
import ScriptSite.Markdown.Definition
import ScriptSite.Markdown.Emphasis
import ScriptSite.Markdown.Glyph
import ScriptSite.Markdown.Html
import ScriptSite.Markdown.Inline
import ScriptSite.Markdown.Layout
import ScriptSite.Markdown.Line
import ScriptSite.Markdown.Link
import ScriptSite.Markdown.RawBlock
import ScriptSite.Markdown.Render
import ScriptSite.Markdown.Rule
import ScriptSite.Markdown.StartTag
import ScriptSite.Number.Double
import ScriptSite.Number.Read
import ScriptSite.Number.Shortest
import ScriptSite.Page.Catalog
import ScriptSite.Page.Example
import ScriptSite.Page.Fragment
import ScriptSite.Page.Frame
import ScriptSite.Site.Build
import ScriptSite.Site.Config
import ScriptSite.Site.Failure
import ScriptSite.Site.Publish
import ScriptSite.Site.Settings
import ScriptSite.Site.Source
import ScriptSite.Source.Audio
import ScriptSite.Source.Block
import ScriptSite.Source.Modeline
import ScriptSite.Source.Segment
import ScriptSite.Source.Title
import ScriptSite.Text.Base64
import ScriptSite.Text.Basic
import ScriptSite.Text.Lower
import ScriptSite.Text.Printable
import ScriptSite.Text.Quoted
import ScriptSite.Text.Utf8
import ScriptSite.Text.Word
import ScriptSite.Time.Calendar
import ScriptSite.Xml.Char
import ScriptSite.Xml.Document
import ScriptSite.Xml.DocumentType
import ScriptSite.Xml.Element
import ScriptSite.Xml.Encoding
import ScriptSite.Xml.Entity
import ScriptSite.Xml.Fault
import ScriptSite.Xml.Lexeme
import ScriptSite.Xml.Namespace
import ScriptSite.Xml.Scan
import ScriptSite.Yaml.Cursor
import ScriptSite.Yaml.Document
import ScriptSite.Yaml.Fault
import ScriptSite.Yaml.Kind
import ScriptSite.Yaml.Load
import ScriptSite.Yaml.Mark
import ScriptSite.Yaml.Node
import ScriptSite.Yaml.Scalar
import ScriptSite.Yaml.SetOrder
import ScriptSite.Yaml.Stream
import ScriptSite.Yaml.Tag
import ScriptSite.Yaml.Token
import ScriptSite.Yaml.Value
import ScriptSite.Proofs.Source.Block
import ScriptSite.Proofs.Source.Segment
import ScriptSite.Proofs.Source.Numbering
import ScriptSite.Proofs.Source.Locality
import ScriptSite.Proofs.Source.Modeline
import ScriptSite.Proofs.Source.Reassembly
import ScriptSite.Proofs.Source.Prose
import ScriptSite.Proofs.Source.Directive
import ScriptSite.Proofs.Source.Chunk
import ScriptSite.Proofs.Source.Seam
import ScriptSite.Proofs.Source.Spacing
import ScriptSite.Proofs.Disk.Follow
import ScriptSite.Proofs.Disk.Run
import ScriptSite.Proofs.Disk.Write
import ScriptSite.Proofs.Disk.Listing
import ScriptSite.Proofs.Disk.Apart
import ScriptSite.Proofs.Site.Layout
import ScriptSite.Proofs.Site.Discovery
import ScriptSite.Proofs.Site.Pages
import ScriptSite.Proofs.Site.InputError
import ScriptSite.Proofs.Disk.Address
import ScriptSite.Proofs.Disk.History
import ScriptSite.Proofs.Disk.Copy
import ScriptSite.Proofs.Disk.Depth
import ScriptSite.Proofs.Site.Output
import ScriptSite.Proofs.Site.Stages
import ScriptSite.Proofs.Site.Copies
import ScriptSite.Proofs.Site.Reach
import ScriptSite.Proofs.Disk.Overlay
import ScriptSite.Proofs.Site.Asset
import ScriptSite.Proofs.Site.Course
import ScriptSite.Proofs.Site.Report
import ScriptSite.Proofs.Disk.Nameable
import ScriptSite.Proofs.Site.Fault
import ScriptSite.Proofs.Site.Stops
import ScriptSite.Proofs.Site.Loading
import ScriptSite.Proofs.Command.Ending
import ScriptSite.Proofs.Text.Order
import ScriptSite.Proofs.Disk.Retrace
import ScriptSite.Proofs.Disk.Rights
import ScriptSite.Proofs.Disk.Look
import ScriptSite.Proofs.Site.Rediscovery
import ScriptSite.Proofs.Disk.Recopy
import ScriptSite.Proofs.Site.Rebuild
import ScriptSite.Proofs.Source.ModelineLines
import ScriptSite.Proofs.Source.Deletion
import ScriptSite.Proofs.Source.Leftover
import ScriptSite.Proofs.Text.Search
import ScriptSite.Proofs.Html.Escape
import ScriptSite.Proofs.Page.Example
import ScriptSite.Proofs.Page.CodeBlock
import ScriptSite.Proofs.Html.Tag
import ScriptSite.Proofs.Page.Player
import ScriptSite.Proofs.Xml.Grammar
import ScriptSite.Proofs.Xml.Name
import ScriptSite.Proofs.Xml.Scan
import ScriptSite.Proofs.Xml.Tag
import ScriptSite.Proofs.Xml.Content
import ScriptSite.Proofs.Text.Utf8
import ScriptSite.Proofs.Xml.Document
import ScriptSite.Proofs.Catalog.Listing
import ScriptSite.Proofs.Catalog.RoundTrip
import ScriptSite.Proofs.Source.Title
import ScriptSite.Proofs.Disk.Links
import ScriptSite.Proofs.Site.Sources
import ScriptSite.Proofs.Site.Groups
import ScriptSite.Proofs.Site.Extension
import ScriptSite.Proofs.Text.Occurrence
import ScriptSite.Proofs.Page.Index
import ScriptSite.Proofs.Disk.Landing
import ScriptSite.Proofs.Site.Placement
import ScriptSite.Proofs.Site.Setting
import ScriptSite.Proofs.Yaml.Shown
import ScriptSite.Proofs.Yaml.Alike
import ScriptSite.Proofs.Site.Malformed
import ScriptSite.Proofs.Site.Independence
import ScriptSite.Proofs.Xml.Root
import ScriptSite.Proofs.Catalog.Acceptance
import ScriptSite.Proofs.Page.Head
import ScriptSite.Proofs.Source.WellFormed
import ScriptSite.Proofs.Markdown.Prose
import ScriptSite.Proofs.Markdown.Run
import ScriptSite.Proofs.Markdown.Inline
import ScriptSite.Proofs.Markdown.Block
import ScriptSite.Proofs.Markdown.Quote
import ScriptSite.Proofs.Markdown.Normal
import ScriptSite.Proofs.Markdown.Layout
import ScriptSite.Proofs.Markdown.Render
