import Lexis.Analyzer
import Lexis.Main
import Lexis.Proofs.Conservation
import Lexis.Proofs.Declarations
import Lexis.Proofs.LabelFlow
import Lexis.Proofs.Reading
import Lexis.Proofs.Numbering
import Lexis.Proofs.Places
import Lexis.Proofs.Lockstep
import Lexis.Proofs.Printing
import Lexis.Proofs.Acceptance
import Lexis.Proofs.Tables
import Lexis.Proofs.Juncture
import Lexis.Proofs.Composition
import Lexis.Proofs.Verdict
import Lexis.Proofs.Recovery
import Lexis.Proofs.Growth
import Lexis.Proofs.Vocabulary
import Lexis.Proofs.Correspondence
import Lexis.Proofs.Recoding
import Lexis.Proofs.Renaming
import Lexis.Proofs.Reuse
import Lexis.Proofs.Registry
import Lexis.Proofs.Spacing
import Lexis.Proofs.Fields
import Lexis.Proofs.Legibility
import Lexis.Proofs.Json
import Lexis.Proofs.JsonReport
import Lexis.Proofs.Rejection
import Lexis.Proofs.Tips
import Lexis.Proofs.Consumption
import Lexis.Proofs.Quoted
import Lexis.Proofs.Display
import Lexis.Proofs.Rendering
