import NoteBridge.Configuration
import NoteBridge.Json.Reader
import NoteBridge.Note
import NoteBridge.Sync.Recorder
import NoteBridge.Sync.Workspace
import NoteBridge.Proofs.Page.Wire.Block
import NoteBridge.Proofs.Page.Wire.Property
import NoteBridge.Proofs.Sync.Exchange
import NoteBridge.Proofs.Sync.Listing
import NoteBridge.Proofs.Sync.Inlined
import NoteBridge.Proofs.Sync.Plan
import NoteBridge.Proofs.Sync.RoundTrip
import NoteBridge.Proofs.Compose.RunLength
import NoteBridge.Proofs.Compose.Stream
import NoteBridge.Proofs.FrontMatter
import NoteBridge.Proofs.Render.Outcome
import NoteBridge.Proofs.Note.FrontMatter
import NoteBridge.Proofs.Note.Depth
import NoteBridge.Proofs.Note.RunLength
import NoteBridge.Proofs.Number.Digits
import NoteBridge.Proofs.Number.Integer
import NoteBridge.Proofs.Date.Normal
import NoteBridge.Proofs.Properties.Coerce
import NoteBridge.Proofs.Properties.Parts
import NoteBridge.Proofs.Properties.Set
import NoteBridge.Proofs.Properties.RoundTrip
import NoteBridge.Proofs.Properties.Tags
import NoteBridge.Proofs.Markup.WikiLink
import NoteBridge.Proofs.Page.Plain
import NoteBridge.Proofs.Compose.Literal
import NoteBridge.Proofs.Note.Literal
import NoteBridge.Proofs.Text.Small
import NoteBridge.Proofs.Resolver
import NoteBridge.Proofs.Note.Code
import NoteBridge.Proofs.Markup.CrossRef
import NoteBridge.Proofs.Note.CrossRef
import NoteBridge.Proofs.Note.LocalImage
import NoteBridge.Proofs.Note.Outline
import NoteBridge.Proofs.Render.Link
import NoteBridge.Proofs.Render.BlockMark
import NoteBridge.Proofs.Render.Exclamation
import NoteBridge.Proofs.Render.Indentation
import NoteBridge.Proofs.Render.Prose
import NoteBridge.Proofs.Note.Formula
import NoteBridge.Proofs.Note.Delimiter
import NoteBridge.Proofs.Note.Query
import NoteBridge.Proofs.Note.Callout
import NoteBridge.Proofs.Page.Check
import NoteBridge.Proofs.Render.Escape
import NoteBridge.Proofs.Render.EscapedMark
import NoteBridge.Proofs.Render.Grouping
import NoteBridge.Proofs.Render.Table
import NoteBridge.Proofs.Date.Format
import NoteBridge.Proofs.Properties.Fallback
import NoteBridge.Proofs.Properties.Lasting
import NoteBridge.Proofs.Properties.Precedence
import NoteBridge.Proofs.Note.Tags
import NoteBridge.Proofs.Markup.Part
import NoteBridge.Proofs.Page.Piece
import NoteBridge.Proofs.Page.Merge
import NoteBridge.Proofs.Compose.Inherited
import NoteBridge.Proofs.Compose.Piece
import NoteBridge.Proofs.Note.Heading
