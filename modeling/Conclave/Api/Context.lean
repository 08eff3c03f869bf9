import Conclave.Api.Error
import Conclave.Http

namespace Conclave.Api

inductive Permission where
  | walletsCreate
  | transactionsSign
  | nodesManage
  | all
  deriving DecidableEq, Repr

namespace Permission

def name : Permission → String
  | .walletsCreate => "wallets:create"
  | .transactionsSign => "transactions:sign"
  | .nodesManage => "nodes:manage"
  | .all => "*"

def every : List Permission := [.walletsCreate, .transactionsSign, .nodesManage, .all]

def ofName? (s : String) : Option Permission := every.find? (·.name = s)

def parse? (s : String) : Option Permission := ofName? (Text.trim s)

end Permission

structure Context where
  principal : String
  organization : Uuid
  permissions : List Permission
  deriving DecidableEq, Repr

namespace Context

def headerValue? (headers : List Http.Header) (name : String) : Option String :=
  match (Http.headerText? headers name).map Text.trim with
  | none => none
  | some t => if t.isEmpty then none else some t

def permissionsOf (headers : List Http.Header) : List Permission :=
  match headerValue? headers "x-permissions" with
  | none => []
  | some t => ((Text.split ',' t).filterMap Permission.parse?).eraseDups

def ofHeaders (headers : List Http.Header) : Except Error Context :=
  match headerValue? headers "x-principal-id" with
  | none => .error (.unauthorized "Missing request principal")
  | some principal =>
      match headerValue? headers "x-organization-id" with
      | none => .error (.unauthorized "Missing organization")
      | some t =>
          match Uuid.ofText? t with
          | none => .error (.unauthorized "Malformed organization ID")
          | some organization => .ok ⟨principal, organization, permissionsOf headers⟩

def hasPermission (c : Context) (p : Permission) : Bool :=
  c.permissions.contains .all || c.permissions.contains p

def require (c : Context) (p : Permission) : Except Error Unit :=
  if c.hasPermission p then .ok ()
  else .error (.forbidden s!"Permission {p.name} required")

end Context

end Conclave.Api
