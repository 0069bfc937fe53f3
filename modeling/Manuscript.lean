import Manuscript.Config.Load
import Manuscript.Press.Orders
import Manuscript.Proofs.Bibliography.Date
import Manuscript.Proofs.Bibliography.Entry
import Manuscript.Proofs.Config.Confinement
import Manuscript.Proofs.Config.Discovery
import Manuscript.Proofs.Document.Citation
import Manuscript.Proofs.Document.FailedEnds
import Manuscript.Proofs.Document.Labelling
import Manuscript.Proofs.Document.Reception
import Manuscript.Proofs.Document.Referring
import Manuscript.Proofs.Document.Streaming
import Manuscript.Proofs.Document.Surroundings
import Manuscript.Proofs.Macro.Algebra
import Manuscript.Proofs.Macro.Template
import Manuscript.Proofs.Press.Files
import Manuscript.Proofs.Press.Snapshots
import Manuscript.Proofs.Xhtml.Backend
import Manuscript.Proofs.Xhtml.Cells
import Manuscript.Proofs.Xhtml.Characters
import Manuscript.Proofs.Xhtml.Counting
import Manuscript.Proofs.Xhtml.Floats
import Manuscript.Proofs.Xhtml.Gallery
import Manuscript.Proofs.Xhtml.Identifiers
import Manuscript.Proofs.Xhtml.Inlining
import Manuscript.Proofs.Xhtml.Layout
import Manuscript.Proofs.Xhtml.Operands
import Manuscript.Proofs.Xhtml.Phases
import Manuscript.Proofs.Xhtml.WellFormed
import Manuscript.Proofs.Xhtml.Wording
