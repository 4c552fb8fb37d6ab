import Termbase.Main
import Termbase.Proofs.ChainStart.Failure
import Termbase.Proofs.ChainStart.Shared
import Termbase.Proofs.ChainStart.Stability
import Termbase.Proofs.Coder.Assignment
import Termbase.Proofs.Coder.Canonical
import Termbase.Proofs.CoderChain.Recoding
import Termbase.Proofs.Config
import Termbase.Proofs.Dictionary.Inserts
import Termbase.Proofs.FileTree.WriteStates
import Termbase.Proofs.Generation.Repetition
import Termbase.Proofs.Ontology.Expansion
import Termbase.Proofs.Ontology.Failure
import Termbase.Proofs.Ontology.Interleaving
import Termbase.Proofs.Store.Loading
import Termbase.Proofs.TermModule.Deprecation
import Termbase.Proofs.TermModule.Identifiers
import Termbase.Proofs.TermModule.Preamble
import Termbase.Proofs.TermModule.RegistrationOrder
import Termbase.Proofs.TermModule.StringLiteral
import Termbase.Proofs.Vocabulary.Registry
