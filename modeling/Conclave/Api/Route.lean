import Conclave.Text.Blank

namespace Conclave.Api

inductive Route where
  | health
  | listNodes
  | registerNode
  | getNode (id : String)
  | deregisterNode (id : String)
  | heartbeat (id : String)
  | createWallet
  | sign
  | listSessions
  | getSession (id : String)
  | usage
  | publishResult (session : String)
  deriving DecidableEq, Repr

namespace Route

def ofSegments : List String → List (String × Route)
  | ["health"] => [("GET", .health)]
  | ["internal", "results", s] => if s.isEmpty then [] else [("POST", .publishResult s)]
  | "api" :: "v1" :: rest =>
      match rest with
      | ["nodes"] => [("GET", .listNodes), ("POST", .registerNode)]
      | ["nodes", id] =>
          if id.isEmpty then [] else [("GET", .getNode id), ("DELETE", .deregisterNode id)]
      | ["nodes", id, "heartbeat"] => if id.isEmpty then [] else [("POST", .heartbeat id)]
      | ["wallets"] => [("POST", .createWallet)]
      | ["signatures"] => [("POST", .sign)]
      | ["sessions"] => [("GET", .listSessions)]
      | ["sessions", id] => if id.isEmpty then [] else [("GET", .getSession id)]
      | ["usage"] => [("GET", .usage)]
      | _ => []
  | _ => []

def pathOf (target : String) : String :=
  String.ofList (target.toList.takeWhile fun c => c ≠ '?' && c ≠ '#')

def segments (target : String) : List String :=
  match Text.split '/' (pathOf target) with
  | first :: rest => if first.isEmpty then rest else []
  | [] => []

def find (method target : String) : Except Nat Route :=
  match ofSegments (segments target) with
  | [] => .error 404
  | served =>
      match served.find? fun e => e.1 = (if method = "HEAD" then "GET" else method) with
      | some (_, route) => .ok route
      | none => .error 405

end Route

end Conclave.Api
