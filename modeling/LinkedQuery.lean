import LinkedQuery.Main
import LinkedQuery.Proofs.Command.AllOrNothing
import LinkedQuery.Proofs.Compiler.Aliases
import LinkedQuery.Proofs.Compiler.Fields
import LinkedQuery.Proofs.Compiler.Folding
import LinkedQuery.Proofs.Compiler.Grouping
import LinkedQuery.Proofs.Compiler.LinkTargets
import LinkedQuery.Proofs.Compiler.Locality
import LinkedQuery.Proofs.Compiler.Meaning
import LinkedQuery.Proofs.Compiler.Records
import LinkedQuery.Proofs.Compiler.Requests
import LinkedQuery.Proofs.Compiler.Splitting
import LinkedQuery.Proofs.Compiler.Visibility
import LinkedQuery.Proofs.Document.Location
import LinkedQuery.Proofs.Dsl.Distinctness
import LinkedQuery.Proofs.Expr.SharedPath
import LinkedQuery.Proofs.Report
import LinkedQuery.Proofs.Report.Console
import LinkedQuery.Proofs.Settings.Safety
import LinkedQuery.Proofs.Settings.Layer
import LinkedQuery.Proofs.Settings.FirstFault
import LinkedQuery.Proofs.Settings.Reapplication
import LinkedQuery.Proofs.Link.Declaration
import LinkedQuery.Proofs.Term
import LinkedQuery.Proofs.Topology.Agreement
