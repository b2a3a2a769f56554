import TagAudit.Batch.Record
import TagAudit.Document.Writer
import TagAudit.Expression.Cache
import TagAudit.Java.Outline
import TagAudit.Service.Routes
import TagAudit.Proofs.Expression.Parsing
import TagAudit.Proofs.Expression.Evaluation
import TagAudit.Proofs.Rule.Prefilter
import TagAudit.Proofs.Rule.Accounting
import TagAudit.Proofs.StableSort
import TagAudit.Proofs.Compound.Expansion
import TagAudit.Proofs.Rule.Priority
import TagAudit.Proofs.Table
import TagAudit.Proofs.Tag.Extraction
import TagAudit.Proofs.Source.Segment
import TagAudit.Proofs.Source.Normal
import TagAudit.Proofs.Source.Pattern
import TagAudit.Proofs.Batch.Schedule
import TagAudit.Proofs.Expression.Faults
import TagAudit.Proofs.Tag.CodeOnly
import TagAudit.Proofs.Tag.Statistics
import TagAudit.Proofs.Expression.Cache
import TagAudit.Proofs.Tag.Independence
import TagAudit.Proofs.Compound.Presence
import TagAudit.Proofs.Schema
import TagAudit.Proofs.Tag.Naming
import TagAudit.Proofs.Syntax.Path
import TagAudit.Proofs.Syntax.Traversal
import TagAudit.Proofs.Syntax.Summary
import TagAudit.Proofs.Syntax.Named
import TagAudit.Proofs.Syntax.Order
import TagAudit.Proofs.Rule.Explanation
import TagAudit.Proofs.Tag.Restriction
import TagAudit.Proofs.Expression.Inspection
import TagAudit.Proofs.Expression.Printing
import TagAudit.Proofs.Rule.Influence
import TagAudit.Proofs.Expression.Spacing
import TagAudit.Proofs.Source.Growth
import TagAudit.Proofs.Compound.Resolution
import TagAudit.Proofs.Tag.Summary
import TagAudit.Proofs.Source.Occurrence
import TagAudit.Proofs.Source.Nesting
import TagAudit.Proofs.Source.Block
import TagAudit.Proofs.Source.InnerBlock
import TagAudit.Proofs.Category
import TagAudit.Proofs.Risk
import TagAudit.Proofs.Grouping
import TagAudit.Proofs.Rule.Partition
import TagAudit.Proofs.Rule.Catalog
import TagAudit.Proofs.Tag.Index
