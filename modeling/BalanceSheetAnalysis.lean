import BalanceSheetAnalysis.Library.Program
import BalanceSheetAnalysis.Library.Raising
import BalanceSheetAnalysis.Library.Forest
import BalanceSheetAnalysis.Library.Table
import BalanceSheetAnalysis.Library.Paging
import BalanceSheetAnalysis.Library.Json
import BalanceSheetAnalysis.Library.JsonEquality
import BalanceSheetAnalysis.Library.IpAddress
import BalanceSheetAnalysis.Library.Text
import BalanceSheetAnalysis.Library.Numerals
import BalanceSheetAnalysis.Library.Machine
import BalanceSheetAnalysis.Authorization.Runtime
import BalanceSheetAnalysis.Authorization.Conditions
import BalanceSheetAnalysis.Authorization.Validator
import BalanceSheetAnalysis.Authorization.Evaluator
import BalanceSheetAnalysis.Authorization.Equality
import BalanceSheetAnalysis.Access.Scope
import BalanceSheetAnalysis.Store.Tables
import BalanceSheetAnalysis.Store.Action
import BalanceSheetAnalysis.Store.Frame
import BalanceSheetAnalysis.Store.Columns
import BalanceSheetAnalysis.Companies.Crud
import BalanceSheetAnalysis.BalanceSheets.Crud
import BalanceSheetAnalysis.Companies.Listing
import BalanceSheetAnalysis.Llm.Service
import BalanceSheetAnalysis.Routes
import BalanceSheetAnalysis.Endpoints
import BalanceSheetAnalysis.Companies.Hierarchy
import BalanceSheetAnalysis.Companies.Runs
import BalanceSheetAnalysis.Companies.Concurrency
import BalanceSheetAnalysis.BalanceSheets.Execution
import BalanceSheetAnalysis.BalanceSheets.Columns
import BalanceSheetAnalysis.BalanceSheets.Ledger
import BalanceSheetAnalysis.Access.Documented
import BalanceSheetAnalysis.Access.Agreement
import BalanceSheetAnalysis.Access.Coverage
import BalanceSheetAnalysis.Access.RequestContext
import BalanceSheetAnalysis.Access.Writes
import BalanceSheetAnalysis.Access.Isolation
import BalanceSheetAnalysis.BalanceSheets.Provenance
import BalanceSheetAnalysis.Companies.Pages
import BalanceSheetAnalysis.Companies.Search
import BalanceSheetAnalysis.Companies.Update
import BalanceSheetAnalysis.BalanceSheets.Duplicates
import BalanceSheetAnalysis.BalanceSheets.Sanitize
import BalanceSheetAnalysis.BalanceSheets.Frame
import BalanceSheetAnalysis.Authorization.PolicyRepository
import BalanceSheetAnalysis.Access.Staleness
import BalanceSheetAnalysis.RateLimiter.Service
import BalanceSheetAnalysis.RateLimiter.Windows
import BalanceSheetAnalysis.Access.Chat
import BalanceSheetAnalysis.Access.Audit
import BalanceSheetAnalysis.Companies.Stats
import BalanceSheetAnalysis.Llm.Grounding
import BalanceSheetAnalysis.Llm.Years
import BalanceSheetAnalysis.Llm.Groq
import BalanceSheetAnalysis.Outcomes
import BalanceSheetAnalysis.Policies.Store
import BalanceSheetAnalysis.Policies.Requests
import BalanceSheetAnalysis.Policies.Promises
import BalanceSheetAnalysis.Policies.Tables
import BalanceSheetAnalysis.Policies.Baseline
import BalanceSheetAnalysis.Policies.Grants
import BalanceSheetAnalysis.Policies.History
import BalanceSheetAnalysis.Frontend.CompanyForm
import BalanceSheetAnalysis.Frontend.DuplicateTicker
import BalanceSheetAnalysis.Frontend.CompaniesTable
import BalanceSheetAnalysis.Sessions.Store
import BalanceSheetAnalysis.Sessions.JwtService
import BalanceSheetAnalysis.Sessions.Requests
import BalanceSheetAnalysis.Sessions.Promises
import BalanceSheetAnalysis.Sessions.Obedience
import BalanceSheetAnalysis.Sessions.Order
import BalanceSheetAnalysis.Sessions.Keys
import BalanceSheetAnalysis.Sessions.Rotation
import BalanceSheetAnalysis.Sessions.Revocation
import BalanceSheetAnalysis.Sessions.Lineage
import BalanceSheetAnalysis.Sessions.Chains
import BalanceSheetAnalysis.Sessions.Isolation
