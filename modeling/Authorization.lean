import Authorization.Main
import Authorization.Store.Memory
import Authorization.Store.Scripted
import Authorization.Proofs.Hierarchy.Distance
import Authorization.Proofs.Hierarchy.Search
import Authorization.Proofs.Hierarchy.Closure
import Authorization.Proofs.Hierarchy.Answers
import Authorization.Proofs.Store.Sound
import Authorization.Proofs.Store.Run
import Authorization.Proofs.Store.Walk
import Authorization.Proofs.Permission.Merge
import Authorization.Proofs.Permission.Summary
import Authorization.Proofs.Permission.Normal
import Authorization.Proofs.Permission.Spelling
import Authorization.Proofs.Permission.Arrangement
import Authorization.Proofs.Service.Resolve
import Authorization.Proofs.Service.Verdict
import Authorization.Proofs.Permission.Defined
import Authorization.Proofs.Service.SuperUser
import Authorization.Proofs.Service.Holding
import Authorization.Proofs.Service.Effective
import Authorization.Proofs.Service.Decision
import Authorization.Proofs.Service.Scoped
import Authorization.Proofs.Service.Regrant
import Authorization.Proofs.Service.Query
import Authorization.Proofs.Service.Overview
import Authorization.Proofs.Failure
import Authorization.Proofs.Service.Reads
import Authorization.Proofs.Service.Forms
import Authorization.Proofs.Agree
import Authorization.Proofs.Hierarchy.Paths
import Authorization.Proofs.Service.Alike
import Authorization.Proofs.Store.Decode
import Authorization.Proofs.Cascade
import Authorization.Proofs.Store.RowWalk
import Authorization.Proofs.Store.Mirror
import Authorization.Proofs.Store.Interchange
import Authorization.Proofs.Hierarchy.Forest
import Authorization.Proofs.Store.Consistent
import Authorization.Proofs.Store.Cleared
import Authorization.Proofs.Service.Lowered
import Authorization.Proofs.Service.Removal
import Authorization.Proofs.Cascade.BottomUp
import Authorization.Proofs.Store.Transaction
import Authorization.Proofs.Store.PartialRemoval
import Authorization.Proofs.Service.Fault
import Authorization.Proofs.Service.Parallel
import Authorization.Proofs.Service.Inheritance
import Authorization.Proofs.Store.Raised
import Authorization.Proofs.Store.Grant
import Authorization.Proofs.Service.Carried
import Authorization.Proofs.Service.Bearing
import Authorization.Proofs.Service.Local
import Authorization.Proofs.Service.Downward
import Authorization.Proofs.Service.Objection
import Authorization.Proofs.Service.Closest
import Authorization.Proofs.Store.InheritRow
import Authorization.Proofs.Store.Refusal
import Authorization.Proofs.Store.Misreport
import Authorization.Proofs.Permission.Listing
import Authorization.Proofs.Service.Privilege
import Authorization.Proofs.Store.RowForm
import Authorization.Proofs.Store.LastWins
import Authorization.Proofs.Store.Replacement
import Authorization.Proofs.Hierarchy.Settling
import Authorization.Proofs.Store.Ancestry
import Authorization.Proofs.Text.Numeral
import Authorization.Proofs.Command.WordForm
