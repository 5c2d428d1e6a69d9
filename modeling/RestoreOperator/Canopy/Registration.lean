import RestoreOperator.Objects.Types
import RestoreOperator.Objects.Uuid

/-!
# `Canopy.Registration` — where a reporting schema is registered

A schema is sent to a path that names the group, the environment and the version it is for.  Canopy gives
access by that path, so what stands in it is checked first.

Sending the request, and what an HTTP library and a JSON reader make of texts and bytes, are parameters.
-/

namespace RestoreOperator

/-- A request, with the bytes it sends. -/
structure Request where
  method : String
  uri : String
  contentType : String
  body : List UInt8

/-- What is answered to a request. -/
structure Response where
  status : Nat
  body : List UInt8

/-- **What the client is given**: how a text is written in quotes, and a status; why a target is none; the
    transport; and the id in an answer. -/
structure CanopyClient where
  debug : String → String
  displayStatus : Nat → String
  uriError : String → Option String
  call : Request → Except String Response
  registeredArtifactId : List UInt8 → Option Uuid

/-- Whether an environment is one canopy names. -/
def isKnownRank (rank : String) : Bool :=
  rank ∈ ["production", "clone", "demo", "test", "dev"]

/-- **Whether a version may stand in a path.** -/
def isPathSafeVersion (version : String) : Bool :=
  (version.toList.head?.any Char.isAlphanum) &&
    version.toList.all fun c => c.isAlphanum || c ∈ ['.', '+', '-']

/-- **Where a reporting schema is registered.** -/
def registrationUri (version : String) (group : Uuid) (rank : String) (runId : Option Uuid) : String :=
  let uri := "/artifacts/groups/" ++ group.display ++ "/" ++ rank ++ "/" ++ version ++ "/reporting-schema/any"
  match runId with
  | some run => uri ++ ("?run=" ++ run.display)
  | none => uri

/-- **Register a reporting schema**: the request that is sent, if any, and the id of the artifact. -/
def CanopyClient.registerReportingSchema (client : CanopyClient) (version : String) (group : Uuid) (rank : String)
    (runId : Option Uuid) (sql : List UInt8) : Option Request × Except Error (Option Uuid) :=
  if !isPathSafeVersion version then
    (none, .error (.canopy (client.debug version ++
      " is not a version a schema can be registered against")))
  else if !isKnownRank rank then
    (none, .error (.canopy (client.debug rank ++
      " is not an environment a schema can be registered against")))
  else
    let uri := registrationUri version group rank runId
    match client.uriError uri with
    | some err => (none, .error (.canopy ("building artifact registration: " ++ err)))
    | none =>
      let request : Request :=
        { method := "POST", uri := uri, contentType := "application/sql", body := sql }
      (some request,
        match client.call request with
        | .error err => .error (.canopy s!"register_reporting_schema({version}): {err}")
        | .ok response =>
          if response.status / 100 = 2 then .ok (client.registeredArtifactId response.body)
          else .error (.canopy (s!"register_reporting_schema({version}): canopy answered " ++
            client.displayStatus response.status)))

end RestoreOperator
