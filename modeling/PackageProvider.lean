import PackageProvider.Evr.Segment
import PackageProvider.Main
import PackageProvider.Memory.Engine
import PackageProvider.Proofs.Attempts
import PackageProvider.Proofs.Convergence.Failure
import PackageProvider.Proofs.Convergence.Pinned
import PackageProvider.Proofs.Convergence.Planning
import PackageProvider.Proofs.Convergence.Protocol
import PackageProvider.Proofs.Convergence.Rehearsal
import PackageProvider.Proofs.Convergence.Repeated
import PackageProvider.Proofs.Convergence.Repetition
import PackageProvider.Proofs.Convergence.Transient
import PackageProvider.Proofs.Convergence.Wanted
import PackageProvider.Proofs.Dnf.Discipline
import PackageProvider.Proofs.Dnf.QueryOutput
import PackageProvider.Proofs.Dnf.Script
import PackageProvider.Proofs.Dnf.TransactionTable
import PackageProvider.Proofs.Envelope
import PackageProvider.Proofs.ErrorCategory
import PackageProvider.Proofs.Evr.Segmented
import PackageProvider.Proofs.Evr.Written
import PackageProvider.Proofs.Latest
import PackageProvider.Proofs.Memory.CarriedOut
import PackageProvider.Proofs.Memory.Consistency
import PackageProvider.Proofs.Memory.ExactName
import PackageProvider.Proofs.Memory.Known
import PackageProvider.Proofs.Memory.Partition
import PackageProvider.Proofs.Memory.Serving
import PackageProvider.Proofs.Request
