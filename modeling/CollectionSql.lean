import CollectionSql.Main
import CollectionSql.Request.Writer
import CollectionSql.Sqlite.Cell
import CollectionSql.Proofs.Results
import CollectionSql.Proofs.Dictionaries
import CollectionSql.Proofs.Documents
import CollectionSql.Proofs.Schemas
import CollectionSql.Proofs.Induction
import CollectionSql.Proofs.Compilation
import CollectionSql.Proofs.WellFormed
import CollectionSql.Proofs.JoinLists
import CollectionSql.Proofs.Trees
import CollectionSql.Proofs.Labels
import CollectionSql.Proofs.Scoping
import CollectionSql.Proofs.Evaluation
import CollectionSql.Proofs.Meaning
import CollectionSql.Proofs.Correctness
import CollectionSql.Proofs.Quoting
import CollectionSql.Proofs.Printing
import CollectionSql.Proofs.Placeholders
import CollectionSql.Proofs.Arguments
import CollectionSql.Proofs.Rewording
import CollectionSql.Proofs.Values
import CollectionSql.Proofs.Decoding
import CollectionSql.Proofs.UniqueText
import CollectionSql.Proofs.Fidelity
import CollectionSql.Proofs.Lowering
import CollectionSql.Proofs.Handles
import CollectionSql.Proofs.Growth
import CollectionSql.Proofs.Batches
import CollectionSql.Proofs.JsonText
import CollectionSql.Proofs.JsonReading
import CollectionSql.Proofs.DocumentText
import CollectionSql.Proofs.RequestText
import CollectionSql.Proofs.Joining
import CollectionSql.Proofs.Repetition
import CollectionSql.Proofs.KeyChoice
import CollectionSql.Proofs.RelatedRows
import CollectionSql.Proofs.ExactJoins
import CollectionSql.Proofs.LoweringFaults
import CollectionSql.Proofs.StableHandles
import CollectionSql.Proofs.SchemaGrowth
import CollectionSql.Proofs.Renumbering
import CollectionSql.Proofs.Irrelevance
import CollectionSql.Proofs.RowSets
import CollectionSql.Proofs.RowSetText
import CollectionSql.Proofs.Introspection
import CollectionSql.Proofs.FileSystems
import CollectionSql.Proofs.ShortestDecimals
import CollectionSql.Proofs.UniqueDocuments
import CollectionSql.Proofs.ConfigRuns
import CollectionSql.Proofs.Connections
