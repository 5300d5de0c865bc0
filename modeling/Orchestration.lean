import Orchestration.Main
import Orchestration.Proofs.Cutting
import Orchestration.Proofs.Dispatch
import Orchestration.Proofs.Downstream
import Orchestration.Proofs.Hosting
import Orchestration.Proofs.Merging
import Orchestration.Proofs.Representation
import Orchestration.Proofs.Restoring
import Orchestration.Proofs.Settling
import Orchestration.Proofs.Surveying
import Orchestration.Proofs.Verdict
import Orchestration.Workload.Basic
