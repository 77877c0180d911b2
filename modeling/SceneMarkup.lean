import SceneMarkup.Text.Blank
import SceneMarkup.Text.Caseless
import SceneMarkup.Text.Search
import SceneMarkup.Text.Alphanumeric
import SceneMarkup.Text.Quoted
import SceneMarkup.Number.Format
import SceneMarkup.Number.Reading
import SceneMarkup.Color.Resolve
import SceneMarkup.Node.Basic
import SceneMarkup.Component.Registry
import SceneMarkup.Markup.Tree
import SceneMarkup.Json.Reader
import SceneMarkup.Expression.Evaluation
import SceneMarkup.Document
import SceneMarkup.Scene.Emission
import SceneMarkup.Scene.Literal
import SceneMarkup.Scene.Paint
import SceneMarkup.Scene.Pointer
import SceneMarkup.Proofs.Markup.Shape
import SceneMarkup.Proofs.Markup.Slice
import SceneMarkup.Proofs.Markup.Partition
import SceneMarkup.Proofs.Markup.Construction
import SceneMarkup.Proofs.Markup.Recovery
import SceneMarkup.Proofs.Markup.Names
import SceneMarkup.Proofs.Markup.WrittenTag
import SceneMarkup.Proofs.Markup.WrittenElement
import SceneMarkup.Proofs.Text.Trimming
import SceneMarkup.Proofs.Markup.RoundTrip
import SceneMarkup.Proofs.Template.WrittenBody
import SceneMarkup.Proofs.Text.Rewriting
import SceneMarkup.Proofs.Template.Reading
import SceneMarkup.Proofs.Template.Rendering
import SceneMarkup.Proofs.Scene.Layers
import SceneMarkup.Proofs.Template.Ceilings
import SceneMarkup.Proofs.Json.Reading
import SceneMarkup.Proofs.Json.WrittenDraft
import SceneMarkup.Proofs.Node.Assigning
import SceneMarkup.Proofs.Json.Members
import SceneMarkup.Proofs.Scene.LiteralObject
import SceneMarkup.Proofs.Color.Layout
import SceneMarkup.Proofs.Document.FrontEnds
import SceneMarkup.Proofs.Number.Legible
import SceneMarkup.Proofs.Number.Equality
import SceneMarkup.Proofs.Color.Hex
import SceneMarkup.Proofs.Node.Settled
import SceneMarkup.Proofs.Document.Settled
import SceneMarkup.Proofs.Scene.WrittenNode
import SceneMarkup.Proofs.Scene.EmissionRoundTrip
import SceneMarkup.Proofs.Markup.Locality
import SceneMarkup.Proofs.Markup.Agreement
import SceneMarkup.Proofs.Document.Dispatch
import SceneMarkup.Proofs.Scene.Arena
import SceneMarkup.Proofs.Scene.Lookup
import SceneMarkup.Proofs.Scene.Rooted
import SceneMarkup.Proofs.Expression.Derivation
import SceneMarkup.Proofs.Expression.Reading
import SceneMarkup.Proofs.Expression.Arithmetic
import SceneMarkup.Proofs.Expression.Lexing
import SceneMarkup.Proofs.Expression.Meaning
import SceneMarkup.Proofs.Scene.Click
import SceneMarkup.Proofs.Document.Ids
import SceneMarkup.Proofs.Document.Independence
import SceneMarkup.Proofs.Markup.Scanned
import SceneMarkup.Proofs.Template.SlotScan
import SceneMarkup.Proofs.Template.Splice
import SceneMarkup.Proofs.Template.FailedInclude
import SceneMarkup.Proofs.Document.TextContent
import SceneMarkup.Proofs.Markup.ValueForms
import SceneMarkup.Proofs.Template.TagBody
import SceneMarkup.Proofs.Markup.SpelledTag
import SceneMarkup.Proofs.Node.Fields
import SceneMarkup.Proofs.Markup.Outermost
import SceneMarkup.Proofs.Template.ChildSplit
import SceneMarkup.Proofs.Json.Depth
import SceneMarkup.Proofs.Scene.FiniteLiteral
import SceneMarkup.Proofs.Scene.EmissionNormalForm
import SceneMarkup.Proofs.Markup.TagSection
import SceneMarkup.Proofs.Scene.Position
import SceneMarkup.Proofs.Node.FreshIds
import SceneMarkup.Proofs.Document.FactorySpelling
import SceneMarkup.Proofs.Markup.Nesting
import SceneMarkup.Proofs.Template.ListingOrder
import SceneMarkup.Proofs.Text.Cuts
import SceneMarkup.Proofs.Template.LosslessScan
import SceneMarkup.Proofs.Number.Defined
import SceneMarkup.Proofs.Scene.Measured
import SceneMarkup.Proofs.Markup.Descent
import SceneMarkup.Proofs.Markup.DescentRange
import SceneMarkup.Proofs.Color.HexGrammar
