import EventAlgebra.Arguments
import EventAlgebra.Compilation
import EventAlgebra.Desk
import EventAlgebra.Main
import EventAlgebra.Proofs.Frame
import EventAlgebra.Proofs.Clauses
import EventAlgebra.Proofs.Expression
import EventAlgebra.Proofs.Tree
import EventAlgebra.Proofs.Trimming
import EventAlgebra.Proofs.History
import EventAlgebra.Proofs.Archive
import EventAlgebra.Proofs.Numbering
import EventAlgebra.Proofs.Accounting
import EventAlgebra.Proofs.Renumbering
import EventAlgebra.Proofs.Splicing
import EventAlgebra.Proofs.StoredForm
import EventAlgebra.Proofs.NormalForm
import EventAlgebra.Proofs.Recompile
import EventAlgebra.Proofs.Reading
import EventAlgebra.Proofs.StoredLibrary
import EventAlgebra.Proofs.Replacing
import EventAlgebra.Proofs.Effects
import EventAlgebra.Proofs.Sessions
import EventAlgebra.Proofs.Importing
import EventAlgebra.Proofs.Machines
import EventAlgebra.Proofs.Durability
import EventAlgebra.Proofs.Resaving
import EventAlgebra.Proofs.Sparing
import EventAlgebra.Proofs.Slots
import EventAlgebra.Proofs.Calls
import EventAlgebra.Proofs.Quoting
import EventAlgebra.Proofs.LastWrites
import EventAlgebra.Proofs.Filling
import EventAlgebra.Proofs.Dependence
import EventAlgebra.Proofs.Exchange
import EventAlgebra.Proofs.Documents
import EventAlgebra.Proofs.ColumnNames
import EventAlgebra.Proofs.Procedure
import EventAlgebra.Proofs.QuotedNames
import EventAlgebra.Proofs.Offsets
import EventAlgebra.Proofs.Restating
import EventAlgebra.Proofs.Bounds
import EventAlgebra.Proofs.FilterOrder
import EventAlgebra.Proofs.ExactScan
import EventAlgebra.Proofs.Trimming
