import ErDiagram.Main
import ErDiagram.Command.Folder
import ErDiagram.Listing
import ErDiagram.Viewer
import ErDiagram.Proofs.Command.Agreement
import ErDiagram.Proofs.Description.KeyLine
import ErDiagram.Proofs.Document.Brackets
import ErDiagram.Proofs.Document.Header
import ErDiagram.Proofs.Document.Pieces
import ErDiagram.Proofs.Document.Placement
import ErDiagram.Proofs.Document.Reading
import ErDiagram.Proofs.Listing.Relational
import ErDiagram.Proofs.Listing.Report
import ErDiagram.Proofs.Listing.Sides
import ErDiagram.Proofs.Listing.Verdict
import ErDiagram.Proofs.Query.AfterTable
import ErDiagram.Proofs.Query.AllColumns
import ErDiagram.Proofs.Query.LineBreaks
import ErDiagram.Proofs.Query.RoundTrip
import ErDiagram.Proofs.Script.BodyEnd
import ErDiagram.Proofs.Script.Failure
import ErDiagram.Proofs.Script.KeyDeclarations
import ErDiagram.Proofs.Script.Progress
import ErDiagram.Proofs.Script.QualifiedNames
import ErDiagram.Proofs.Script.SourceOrder
import ErDiagram.Proofs.Script.Spelling
import ErDiagram.Proofs.Script.StatedSchema
import ErDiagram.Proofs.Script.Statements
import ErDiagram.Proofs.Script.TypeSize
import ErDiagram.Proofs.Viewer.Fallback
