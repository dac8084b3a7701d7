import Layerfile.Main
import Layerfile.Proofs.Lexing
import Layerfile.Proofs.Partition
import Layerfile.Proofs.Lines
import Layerfile.Proofs.Position
import Layerfile.Proofs.Spans
import Layerfile.Proofs.Encoding
import Layerfile.Proofs.Independence
import Layerfile.Proofs.History
import Layerfile.Proofs.Reading
import Layerfile.Proofs.Stretch
import Layerfile.Proofs.Statements
import Layerfile.Proofs.Grammar
import Layerfile.Proofs.Pieces
import Layerfile.Proofs.Conformance
import Layerfile.Proofs.Delimited
import Layerfile.Proofs.Junction
import Layerfile.Proofs.Placement
import Layerfile.Proofs.Precedence
import Layerfile.Proofs.Spaced
import Layerfile.Proofs.Ordering
import Layerfile.Proofs.Agreement
import Layerfile.Proofs.Quotation
import Layerfile.Proofs.Keywords
import Layerfile.Proofs.Phrases
import Layerfile.Proofs.Matching
import Layerfile.Proofs.Trimming
import Layerfile.Proofs.Comments
import Layerfile.Proofs.Runs
import Layerfile.Proofs.Endings
import Layerfile.Proofs.Indentation
import Layerfile.Proofs.Overflow
import Layerfile.Proofs.Reach
import Layerfile.Proofs.Occurrence
import Layerfile.Proofs.Totality
