import StyleGuide.Main
import StyleGuide.Proofs.Stylesheet
import StyleGuide.Proofs.JsonLine
import StyleGuide.Proofs.Wire
import StyleGuide.Proofs.Session
import StyleGuide.Proofs.Lowered
import StyleGuide.Proofs.Confinement
import StyleGuide.Proofs.Generation
import StyleGuide.Proofs.Service
import StyleGuide.Proofs.Catalog
import StyleGuide.Proofs.RoundTrip
import StyleGuide.Proofs.Isolation
import StyleGuide.Proofs.Exports
import StyleGuide.Proofs.Reading
import StyleGuide.Proofs.Framing
import StyleGuide.Proofs.Envelope
import StyleGuide.Proofs.Arguments
import StyleGuide.Proofs.Block
import StyleGuide.Proofs.Occurrence
import StyleGuide.Proofs.FirstRule
import StyleGuide.Proofs.Refusal
import StyleGuide.Proofs.OpenComment
import StyleGuide.Proofs.Interface
import StyleGuide.Proofs.Nesting
import StyleGuide.Proofs.VariantGroups
import StyleGuide.Proofs.FlatSection
import StyleGuide.Proofs.Statements
import StyleGuide.Proofs.ClosedComment
import StyleGuide.Proofs.Selection
import StyleGuide.Proofs.ColorGroups
import StyleGuide.Proofs.Copies
import StyleGuide.Proofs.OpenValue
import StyleGuide.Proofs.OuterLines
import StyleGuide.Proofs.NameParts
import StyleGuide.Proofs.Configuration
import StyleGuide.Proofs.BareTriple
import StyleGuide.Proofs.NearestBinary
