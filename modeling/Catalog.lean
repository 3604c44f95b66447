import Catalog.Console.Answer
import Catalog.Proofs.Matching.PointSet
import Catalog.Proofs.Matching.Candidates
import Catalog.Proofs.Matching.FailedSave
import Catalog.Proofs.Engine.Commit
import Catalog.Proofs.Store.Isolation
import Catalog.Proofs.Store.Repending
import Catalog.Proofs.Service.Numbering
import Catalog.Proofs.Engine.Atomicity
import Catalog.Proofs.Engine.Standing
import Catalog.Proofs.Engine.Status
import Catalog.Proofs.Store.Queue
import Catalog.Proofs.Store.Paging
import Catalog.Proofs.Engine.Scheduling
import Catalog.Proofs.Engine.Accounting
import Catalog.Proofs.Service.Withdrawal
import Catalog.Proofs.Service.Update
import Catalog.Proofs.Harvest.Untouched
import Catalog.Proofs.Service.Deletion
import Catalog.Proofs.Store.Closure
import Catalog.Proofs.Harvest.Repeat
import Catalog.Proofs.Store.Readback
import Catalog.Proofs.Service.Restart
import Catalog.Proofs.Engine.Normalized
import Catalog.Proofs.Engine.Normalizing
import Catalog.Proofs.Text.Blanks
import Catalog.Proofs.Service.Versions
import Catalog.Proofs.Matching.Keys
import Catalog.Proofs.Store.Successors
import Catalog.Proofs.Text.CaseStable
import Catalog.Proofs.Matching.Rereading
import Catalog.Proofs.Service.Cleaning
import Catalog.Proofs.Pipeline.Counting
import Catalog.Proofs.Engine.Lifetime
import Catalog.Proofs.Engine.Settling
import Catalog.Proofs.Engine.BeginHook
