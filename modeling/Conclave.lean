import Conclave.Main
import Conclave.Rehearsal
import Conclave.Wire.Health
import Conclave.Proofs.Quorum
import Conclave.Proofs.Bus
import Conclave.Proofs.Run
import Conclave.Proofs.Marks
import Conclave.Proofs.Conservation
import Conclave.Proofs.Results
import Conclave.Proofs.Docket
import Conclave.Proofs.Agreement
import Conclave.Proofs.Delivery
import Conclave.Proofs.Coincidence
import Conclave.Proofs.Records
import Conclave.Proofs.Topics
import Conclave.Proofs.Publications
import Conclave.Proofs.Restoration
import Conclave.Proofs.Selection
import Conclave.Proofs.Probes
import Conclave.Proofs.Atomicity
import Conclave.Proofs.Notices
import Conclave.Proofs.FailureLimit
import Conclave.Proofs.Stays
import Conclave.Proofs.Retiming
import Conclave.Proofs.Sweeps
import Conclave.Proofs.Gate
import Conclave.Proofs.Anonymity
import Conclave.Proofs.Disclosure
import Conclave.Proofs.Deadlines
import Conclave.Proofs.Census
import Conclave.Proofs.RoundTrip
import Conclave.Proofs.Signing
import Conclave.Proofs.Retention
import Conclave.Proofs.Ties
import Conclave.Proofs.Fairness
import Conclave.Proofs.Balance
import Conclave.Proofs.Turns
import Conclave.Proofs.Tenure
import Conclave.Proofs.Names
import Conclave.Proofs.Seeding
import Conclave.Proofs.Addresses
