import TaskBoard.Main
import TaskBoard.Ledger.Format
import TaskBoard.Ledger.Transaction
import TaskBoard.Search.Format
import TaskBoard.Settings.Format
import TaskBoard.Task.Storage
import TaskBoard.Proofs.Ledger.Atomicity
import TaskBoard.Proofs.Ledger.Acceptance
import TaskBoard.Proofs.Ledger.Contents
import TaskBoard.Proofs.Ledger.History
import TaskBoard.Proofs.Ledger.Effect
import TaskBoard.Proofs.Ledger.Verification
import TaskBoard.Proofs.Ledger.Parties
import TaskBoard.Proofs.Ledger.Replay
import TaskBoard.Proofs.Search.Pagination
import TaskBoard.Proofs.Search.Permutation
import TaskBoard.Proofs.Search.Occurrence
import TaskBoard.Proofs.View.Highlighting
import TaskBoard.Proofs.View.QuickRows
import TaskBoard.Proofs.Text.HexReading
import TaskBoard.Proofs.Decode.Members
import TaskBoard.Proofs.Task.StorageForms
import TaskBoard.Proofs.Task.StoredTasks
import TaskBoard.Proofs.Ledger.Alteration
import TaskBoard.Proofs.Ledger.Listing
import TaskBoard.Proofs.Ledger.Transitions
import TaskBoard.Proofs.Ledger.Persistence
import TaskBoard.Proofs.Ledger.Merits
import TaskBoard.Proofs.Ledger.Notifications
import TaskBoard.Proofs.Ledger.Watching
import TaskBoard.Proofs.Ledger.Ratings
import TaskBoard.Proofs.Ledger.Rewards
import TaskBoard.Proofs.Ledger.Levels
import TaskBoard.Proofs.Ledger.Achievements
import TaskBoard.Proofs.Ledger.Footprint
import TaskBoard.Proofs.Ledger.Entries
import TaskBoard.Proofs.Ledger.Independence
import TaskBoard.Proofs.Statistics.Counting
import TaskBoard.Proofs.Ledger.Disconnection
import TaskBoard.Proofs.Decode.RoundTrip
import TaskBoard.Text.Boundary
import TaskBoard.Proofs.Ledger.StatusNews
import TaskBoard.Proofs.Reputation.Points
import TaskBoard.Proofs.Search.Places
import TaskBoard.Proofs.Task.Deadlines
import TaskBoard.Proofs.Task.Payloads
import TaskBoard.Proofs.Search.Shortcut
import TaskBoard.Proofs.Statistics.Merging
import TaskBoard.Proofs.Reputation.Gains
import TaskBoard.Proofs.Ledger.Leaderboard
import TaskBoard.Proofs.View.DescriptionLines
import TaskBoard.Proofs.Reputation.Bands
import TaskBoard.Proofs.Task.Names
