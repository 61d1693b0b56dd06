import RubyTree.Build
import RubyTree.Main
import RubyTree.Proofs.Composition
import RubyTree.Proofs.Encoding
import RubyTree.Proofs.Erasure
import RubyTree.Proofs.FailurePoint
import RubyTree.Proofs.Grouping
import RubyTree.Proofs.LoadedTrees
import RubyTree.Proofs.ParameterReader
import RubyTree.Proofs.Relaxation
import RubyTree.Proofs.Sessions
import RubyTree.Proofs.SignedZeros
import RubyTree.Proofs.VerbatimRoutes
import RubyTree.Proofs.CommandRuns
import RubyTree.Proofs.IntegerLiterals
import RubyTree.Proofs.DecodedFields
import RubyTree.Proofs.Respelling
import RubyTree.Proofs.SourceSlices
import RubyTree.Proofs.SymbolNames
import RubyTree.Proofs.IntegerNotations
import RubyTree.Proofs.DraftFaults
import RubyTree.Proofs.NearestDoubles
import RubyTree.Proofs.BuiltTrees
import RubyTree.Proofs.DelimitedOutput
import RubyTree.Proofs.FloatLiterals
import RubyTree.Proofs.Punctuation
import RubyTree.Proofs.RuleBooks
import RubyTree.Proofs.TagNames
