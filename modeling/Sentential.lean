import Sentential.CommandLine.Folder
import Sentential.Formula.Postfix
import Sentential.Formula.Rendering
import Sentential.Main
import Sentential.Proofs.Analysis.Canonicity
import Sentential.Proofs.Analysis.Stages
import Sentential.Proofs.Formula.Text
import Sentential.Proofs.Token.Partition
import Sentential.Proofs.Token.Wording
import Sentential.Proofs.Parser.Spelling
import Sentential.Proofs.Parser.Respelling
import Sentential.Proofs.Analysis.Printing
import Sentential.Proofs.Analysis.Validity
import Sentential.Proofs.TruthTable.Enumeration
import Sentential.Proofs.CommandLine.ExitCodes
import Sentential.Proofs.Formula.Evaluation
import Sentential.Proofs.Grammar.Balance
import Sentential.Proofs.NormalForm.Isolation
import Sentential.Proofs.Parser.Completion
import Sentential.Proofs.Formula.Dependence
import Sentential.Proofs.NormalForm.Duality
import Sentential.Proofs.Formula.Walks
import Sentential.Proofs.Parser.Reuse
import Sentential.Proofs.TruthTable.Numerals
import Sentential.Proofs.TruthTable.Alignment
import Sentential.Proofs.CommandLine.Limits
