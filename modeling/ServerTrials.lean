import ServerTrials.Main
import ServerTrials.Binding.Session
import ServerTrials.Fleet.Clock
import ServerTrials.Server.Pool
import ServerTrials.Trial.Scripted
import ServerTrials.Proofs.Trial.Accepted
import ServerTrials.Proofs.Trial.Rejected
import ServerTrials.Proofs.Trial.Answers
import ServerTrials.Proofs.Server.Config
import ServerTrials.Proofs.Server.Instance
import ServerTrials.Proofs.Server.Pool
import ServerTrials.Proofs.Fleet.Launches
import ServerTrials.Proofs.Fleet.Tasks
import ServerTrials.Proofs.Fleet.Phases
import ServerTrials.Proofs.Fleet.Outcomes
import ServerTrials.Proofs.Fleet.Scripted
import ServerTrials.Proofs.Fleet.Ports
import ServerTrials.Proofs.Fleet.Simulated
import ServerTrials.Proofs.Binding.Frames
import ServerTrials.Proofs.Binding.Serving
import ServerTrials.Proofs.Net.Addresses
import ServerTrials.Proofs.Server.Violations
import ServerTrials.Proofs.Server.Judging
import ServerTrials.Proofs.Server.WellFormed
import ServerTrials.Proofs.Trial.Calls
import ServerTrials.Proofs.Server.Simulated
import ServerTrials.Proofs.Server.Admissible
import ServerTrials.Proofs.Trial.Reports
import ServerTrials.Proofs.Trial.Simulated
import ServerTrials.Proofs.Trial.Builtin
import ServerTrials.Proofs.Binding.Responses
import ServerTrials.Proofs.Trial.Pruning
import ServerTrials.Proofs.Server.Positional
import ServerTrials.Proofs.Server.Growth
import ServerTrials.Proofs.Server.Relevance
import ServerTrials.Proofs.Trial.Counts
import ServerTrials.Proofs.Trial.Order
import ServerTrials.Proofs.Trial.Violations
import ServerTrials.Proofs.Trial.Reordering
import ServerTrials.Proofs.Server.Starting
import ServerTrials.Proofs.Fleet.Allocation
import ServerTrials.Proofs.Fleet.Summaries
import ServerTrials.Proofs.Binding.Requests
import ServerTrials.Proofs.Server.Arguments
import ServerTrials.Proofs.Text.Numerals
import ServerTrials.Proofs.Fleet.Variables
import ServerTrials.Proofs.Server.Listing
import ServerTrials.Proofs.Server.Interfaces
