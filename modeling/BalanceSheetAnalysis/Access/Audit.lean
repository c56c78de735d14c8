import BalanceSheetAnalysis.Access.Documented
import BalanceSheetAnalysis.Access.RequestContext

/-! The audit trail of the routes about one company.  Each request leaves one
row, and the row names the user, the action and the policies, but the company
only as far as the policies tell companies apart. -/
namespace BalanceSheetAnalysis.Access
open Library Authorization BalanceSheetAnalysis.Action

/-- The rows an operation adds to the audit log. -/
def auditRows : Operation → List AuditEntry
  | .insertAudit entry => [entry]
  | _ => []

section Log
variable {ι α : Type} {db : Database}

end Log

/-! What the routes do after the check leaves the log alone. -/

def Unlogged {α : Type} (action : Action α) : Prop :=
  ∀ told, Action.Obeys (fun _ op => auditRows op = []) (fun _ _ => True) told action

section Unlogged
variable {α β : Type}

theorem Unlogged.bind {action : Action α} {rest : α → Action β} (first : Unlogged action)
    (second : ∀ value, Unlogged (rest value)) : Unlogged (action >>= rest) :=
  fun told => (first told).bind fun value later _ => second value later

theorem Unlogged.translate {action : Action α} (unlogged : Unlogged action)
    (handler : Failure → Failure) : Unlogged (action.translate handler) :=
  fun told => (unlogged told).translate handler

end Unlogged

/-! One row per request. -/

section Requests
variable {rt : Runtime} (activePolicies : String → List (Policy rt)) (request : Request)
  (check : CompanyCheck)

end Requests

/-! Telling companies apart by their rows. -/

section Apart
variable {rt : Runtime} {activePolicies : String → List (Policy rt)}

end Apart

/-! Requests in flight together. -/

section Trail
variable {rt : Runtime} {activePolicies : String → List (Policy rt)} {ι : Type} [DecidableEq ι]
  {db : Database} {store : Store} {calls : ι → Call} {checks : ι → CompanyCheck}
  {schedule : List ι}

/-- What the requests did up to here. -/
def steps (activePolicies : String → List (Policy rt)) (db : Database) (store : Store)
    (calls : ι → Call) (schedule : List ι) : List (Event Operation Store ι) :=
  (inFlight activePolicies calls store).trace (Store.exec db) schedule

/-- The request is over, and found this company when it looked it up. -/
def Served (activePolicies : String → List (Policy rt)) (db : Database) (store : Store)
    (calls : ι → Call) (schedule : List ι) (i : ι) (companyId : Int) (company : Company) : Prop :=
  (∃ result, ((inFlight activePolicies calls store).runSchedule (Store.exec db)
      schedule).threads i = .done result) ∧
    (Pool.historyOf (Store.exec db) (steps activePolicies db store calls schedule) i).head? =
      some ⟨.getCompany companyId, some company⟩

end Trail

/-! A viewer of all companies reads two of them. -/

end BalanceSheetAnalysis.Access
