import ClauseTree.Statement
import ClauseTree.Tree.Table
import ClauseTree.Wire
import ClauseTree.Arena.Edit
import ClauseTree.Arena.Walk
import ClauseTree.Proofs.ArenaShape
import ClauseTree.Proofs.ClauseOrder
import ClauseTree.Proofs.ConditionReading
import ClauseTree.Proofs.Redaction
import ClauseTree.Proofs.StatementPrinting
import ClauseTree.Proofs.TreeQuotation
import ClauseTree.Proofs.TreeTemplate
import ClauseTree.Proofs.ArenaTree
import ClauseTree.Proofs.ArenaWalk
import ClauseTree.Proofs.Grafting
import ClauseTree.Proofs.Brackets
import ClauseTree.Proofs.Query
import ClauseTree.Proofs.SetOperation
import ClauseTree.Proofs.DottedIdentifier
import ClauseTree.Proofs.NormalConditions
import ClauseTree.Proofs.Embedding
import ClauseTree.Proofs.ConflictHistory
import ClauseTree.Proofs.StrictRendering
import ClauseTree.Proofs.Imprint
import ClauseTree.Proofs.EmptyFragments
import ClauseTree.Proofs.Transparency
import ClauseTree.Proofs.BoundInteger
import ClauseTree.Proofs.DollarQuotation
import ClauseTree.Proofs.OperatorLexemes
import ClauseTree.Proofs.CastReach
import ClauseTree.Proofs.Parentheses
import ClauseTree.Proofs.CallEnclosure
import ClauseTree.Proofs.JoinClauses
