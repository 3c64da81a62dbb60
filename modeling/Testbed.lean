import Testbed.Main
import Testbed.Proofs.Declared
import Testbed.Proofs.Order
import Testbed.Proofs.Interleaving
import Testbed.Proofs.Addresses
import Testbed.Proofs.Attempts
import Testbed.Proofs.Fields
import Testbed.Proofs.ZeroBytes
import Testbed.Proofs.Coherence
import Testbed.Proofs.Buildable
import Testbed.Proofs.Arguments
import Testbed.Proofs.Scripts
import Testbed.Proofs.Lossless
import Testbed.Proofs.Shell
import Testbed.Proofs.Modes
import Testbed.Proofs.Atomicity
import Testbed.Proofs.FirstViolation
import Testbed.Proofs.Dumps
import Testbed.Proofs.Veths
import Testbed.Proofs.Refusals
import Testbed.Proofs.Listings
import Testbed.Proofs.Stepwise
import Testbed.Proofs.Truncation
import Testbed.Proofs.Decoding
import Testbed.Proofs.Repetition
import Testbed.Proofs.Inference
import Testbed.Proofs.Offsets
import Testbed.Proofs.ParallelCircuits
import Testbed.Proofs.SelfCollision
import Testbed.Proofs.Growth
import Testbed.Proofs.AddressForms
