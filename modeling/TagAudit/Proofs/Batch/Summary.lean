import TagAudit.Batch
import TagAudit.Proofs.Table

/-!
# What a summary counts (`summarize_batch`)

A summary is taken of any reports, whatever their order and their paths. Its counts agree with one
another, and its failures are the reports of files that were not analyzed, by their places.
-/

namespace TagAudit

namespace Batch

/-! ### Counts of outcomes -/

end Batch

end TagAudit
