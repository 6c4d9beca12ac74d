import UnionBank.Lib.Table
import UnionBank.Lib.Prog
import UnionBank.Lib.Machine
import UnionBank.Lib.Locks
import UnionBank.Lib.Serial
import UnionBank.Lib.Commit
import UnionBank.Lib.Faults
import UnionBank.Lib.Coupling
import UnionBank.Lib.Regex
import UnionBank.Lib.Window
import UnionBank.Lib.Keyset
import UnionBank.Entities
import UnionBank.Store
import UnionBank.Session
import UnionBank.Services.Transactions
import UnionBank.Services.Loans
import UnionBank.Services.Savings
import UnionBank.Services.Accounts
import UnionBank.Services.Async
import UnionBank.Requests
import UnionBank.Effects
import UnionBank.Settles
import UnionBank.Stages
import UnionBank.Serving
import UnionBank.Services.Endpoints
import UnionBank.Services.Analyzr
import UnionBank.Visits
import UnionBank.Teller
import UnionBank.AccountLocks
import UnionBank.Interleavings
import UnionBank.StaleReads
import UnionBank.LockedReads
import UnionBank.Coroutines
import UnionBank.SharedSession
import UnionBank.Atomicity
import UnionBank.Exactness
import UnionBank.Failures
import UnionBank.AsyncRefinement
import UnionBank.Movements
import UnionBank.Conservation
import UnionBank.Statement
import UnionBank.Solvency
import UnionBank.Rupees
import UnionBank.LoanLedger
import UnionBank.Decisions
import UnionBank.Amortisation
import UnionBank.Dormancy
import UnionBank.Freezing
import UnionBank.Audit
import UnionBank.DoubleEntry
import UnionBank.Disclosure
import UnionBank.Search
import UnionBank.Paging
import UnionBank.OffsetPaging
import UnionBank.RateLimit
import UnionBank.Interest
import UnionBank.Auth.Store
import UnionBank.Auth.Session
import UnionBank.Auth.Logins
import UnionBank.Auth.Lockout
import UnionBank.Auth.Guessing
import UnionBank.Auth.Tokens
import UnionBank.Auth.Secrets
import UnionBank.Auth.Bearer
import UnionBank.Auth.SecondFactor
import UnionBank.Auth.Rotation
import UnionBank.Auth.Versions
import UnionBank.Replay
import UnionBank.KeySpaces
import UnionBank.Migration
import UnionBank.Restarts
import UnionBank.Notifications
import UnionBank.Awareness
import UnionBank.Lib.Annuity
import UnionBank.Emi
import UnionBank.SlidingWindow
import UnionBank.Statistics
import UnionBank.Payoff
import UnionBank.Lib.Crash
import UnionBank.FileIo
import UnionBank.Lib.Calendar
import UnionBank.Periods
import UnionBank.Amounts
import UnionBank.GoalFlags
import UnionBank.Exports
import UnionBank.SoftDelete
import UnionBank.Registration
import UnionBank.Lib.Anchored
import UnionBank.Lib.Glob
import UnionBank.Lib.KeyValue
import UnionBank.Cache
import UnionBank.AdminLists
import UnionBank.Validation
import UnionBank.Lib.Substitution
import UnionBank.Masking
import UnionBank.StoredMoney
import UnionBank.LockOrder
import UnionBank.LostUpdates
import UnionBank.WriteBacks
import UnionBank.Isolation
