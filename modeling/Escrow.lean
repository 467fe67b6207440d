import Escrow.Engine.Call
import Escrow.Engine.Setup
import Escrow.Main
import Escrow.Record
import Escrow.Duration
import Escrow.Proofs.Value
import Escrow.Proofs.Table
import Escrow.Proofs.Pool
import Escrow.Proofs.Counters
import Escrow.Proofs.Ledger
import Escrow.Proofs.Bookkeeping
import Escrow.Proofs.Text
import Escrow.Proofs.Archive
import Escrow.Proofs.Upsert
import Escrow.Proofs.Fee
import Escrow.Proofs.Schedule
import Escrow.Proofs.Roster
import Escrow.Proofs.Decimal
import Escrow.Proofs.Quotation
import Escrow.Proofs.Exchange
import Escrow.Proofs.Deposits
import Escrow.Proofs.Engine.Accounts
import Escrow.Proofs.Engine.Custody
import Escrow.Proofs.Engine.Failure
import Escrow.Proofs.Engine.Once
import Escrow.Proofs.Engine.Journal
import Escrow.Proofs.Engine.Hearing
import Escrow.Proofs.Engine.Release
import Escrow.Proofs.Engine.Solvency
import Escrow.Proofs.Engine.Authority
import Escrow.Proofs.Engine.Records
import Escrow.Proofs.Engine.Filing
import Escrow.Proofs.Engine.Legible
import Escrow.Proofs.Engine.Reconciliation
import Escrow.Proofs.Engine.Payout
import Escrow.Proofs.Engine.Backing
import Escrow.Proofs.Engine.Chronicle
import Escrow.Proofs.Engine.Mirror
import Escrow.Proofs.Engine.Delivery
import Escrow.Proofs.Engine.Pruning
import Escrow.Proofs.Engine.Permutation
import Escrow.Proofs.Engine.Redelivery
import Escrow.Proofs.Engine.Observing
import Escrow.Proofs.Engine.Sweep
import Escrow.Proofs.Engine.Interleaving
import Escrow.Proofs.Statistics
import Escrow.Proofs.Calendar
import Escrow.Proofs.Listing
import Escrow.Proofs.Engine.Wallet
import Escrow.Proofs.Definitions
import Escrow.Proofs.Rows
