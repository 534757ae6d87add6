import Forage.Bench
import Forage.Main
import Forage.Proofs.Extinction
import Forage.Proofs.Occupancy
import Forage.Proofs.Recorded
import Forage.Proofs.Guarded
import Forage.Proofs.Guarded.World
import Forage.Proofs.Unfailing
import Forage.Proofs.Balance
import Forage.Proofs.Bookkeeping
import Forage.Proofs.Chronicle
import Forage.Proofs.EditKind
import Forage.Proofs.Heritage
import Forage.Proofs.Reserves
import Forage.Proofs.Replay
import Forage.Proofs.Succession
import Forage.Proofs.Fortune
import Forage.Proofs.Unobserved
import Forage.Proofs.Renewal
import Forage.Proofs.Lines
import Forage.Proofs.Refusals
import Forage.Proofs.Malformed
import Forage.Proofs.Neighbours
import Forage.Proofs.Foresight
import Forage.Proofs.Symmetry
import Forage.Proofs.Apart
import Forage.Proofs.Chores
import Forage.Proofs.Ray
import Forage.Proofs.Schedule
import Forage.Proofs.Duration
import Forage.Proofs.Ranking
import Forage.Proofs.Tuning
import Forage.Proofs.Wording
import Forage.Proofs.Stopping
import Forage.Proofs.Confinement
import Forage.Proofs.Portrait
import Forage.Proofs.Dictation
import Forage.Proofs.Openings
