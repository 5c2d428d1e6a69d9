import Mathlib.Logic.Function.Basic
import RestoreOperator.Objects.Uuid

/-!
# `Canopy.Credentials` — how a restore Job comes by its credentials

The proxy beside a restore Job signs with credentials that canopy grants for a while.  It asks the operator
for them, and keeps what it got until shortly before it expires; the operator asks canopy, and keeps what
was granted for the others that ask for the same run.  Requests and answers travel, get lost and cross, and
both sides restart.
-/

namespace RestoreOperator

/-! ## Times

In nanoseconds. -/

/-- The first time there is. -/
def timestampMin : Int := -377705023201000000000

/-- Two minutes. -/
def refreshMargin : Int := 120000000000

def checkedSub (t d : Int) : Option Int :=
  if timestampMin ≤ t - d then some (t - d) else none

/-! ## Credentials -/

/-- The credentials of a grant. -/
structure BackupCredentials where
  version : Int
  accessKeyId : String
  secretAccessKey : String
  sessionToken : String
  expiration : Int
  deriving DecidableEq

/-- What canopy answers. -/
structure RestoreCredentials where
  credentials : BackupCredentials
  repoPassword : String
  deriving DecidableEq

/-- Whose credentials are asked for. -/
structure BrokerCredsRequest where
  group : Uuid
  type : String
  runId : Option Uuid
  deriving DecidableEq

/-! ## The proxy -/

/-- **The configuration of a proxy.** -/
structure ProxyConfig where
  brokerUrl : String
  group : String
  backupType : String
  runId : Option String
  region : String
  portFile : String
  statsCallbackUrl : String
  progressCallbackUrl : Option String
  deriving DecidableEq

def envRequired (env : List (String × String)) (name : String) : Except String String :=
  match env.lookup name with
  | some value => .ok value
  | none => .error (name ++ " not set")

/-- A variable that is set, and to something. -/
def envNonEmpty (env : List (String × String)) (name : String) : Option String :=
  (env.lookup name).filter (· ≠ "")

/-- **The configuration, from the environment.** -/
def ProxyConfig.fromEnv (env : List (String × String)) : Except String ProxyConfig := do
  let brokerUrl ← envRequired env "PGRO_BROKER_URL"
  let group ← envRequired env "PGRO_GROUP"
  let backupType ← envRequired env "PGRO_TYPE"
  let region ← envRequired env "PGRO_REGION"
  let statsCallbackUrl ← envRequired env "PGRO_STATS_CALLBACK_URL"
  return {
    brokerUrl := brokerUrl
    group := group
    backupType := backupType
    runId := envNonEmpty env "PGRO_RUN_ID"
    region := region
    portFile := (env.lookup "PGRO_PROXY_PORT_FILE").getD "/var/run/pgro/proxy-port"
    statsCallbackUrl := statsCallbackUrl
    progressCallbackUrl := envNonEmpty env "PGRO_PROGRESS_CALLBACK_URL" }

/-- What the operator gives the proxy of a Job. -/
structure CanopyProxyArgs where
  brokerBaseUrl : String
  statsCallbackUrl : String
  progressCallbackUrl : Option String := none
  runId : Option String := none

/-- **The environment of a proxy**, in the Job of a restore. -/
def canopyProxyEnv (proxy : CanopyProxyArgs) (group backupType region : String) :
    List (String × String) :=
  [("PGRO_BROKER_URL", proxy.brokerBaseUrl), ("PGRO_GROUP", group), ("PGRO_TYPE", backupType),
    ("PGRO_REGION", region), ("PGRO_STATS_CALLBACK_URL", proxy.statsCallbackUrl)] ++
    (proxy.runId.map fun runId => ("PGRO_RUN_ID", runId)).toList ++
    (proxy.progressCallbackUrl.map fun url => ("PGRO_PROGRESS_CALLBACK_URL", url)).toList

/-- What the proxy has is absent or about to expire. -/
def needsRefresh (cached : Option BackupCredentials) (now : Int) : Bool :=
  match cached with
  | none => true
  | some creds => creds.expiration ≤ now + refreshMargin

/-! ## The broker -/

/-- The operator reads a request.  A group or a run that is no id is turned down. -/
def BrokerCredsRequest.parse (config : ProxyConfig) : Option BrokerCredsRequest := do
  let group ← Uuid.parse config.group
  let runId ← match config.runId with
    | none => some none
    | some runId => (Uuid.parse runId).map some
  return { group := group, type := config.backupType, runId := runId }

/-- The key of what the broker keeps. -/
structure CredsCacheKey where
  group : String
  type : String
  runId : Option Uuid
  deriving DecidableEq

def BrokerCredsRequest.key (req : BrokerCredsRequest) : CredsCacheKey :=
  { group := req.group.display, type := req.type, runId := req.runId }

/-- What the broker keeps: an answer, and until when it gives it. -/
structure CachedCreds where
  body : RestoreCredentials
  expiresAt : Int
  deriving DecidableEq

/-- **What is kept of an answer**: it is given until the margin of a refresh begins. -/
def CachedCreds.of (resp : RestoreCredentials) : CachedCreds :=
  { body := resp
    expiresAt := (checkedSub resp.credentials.expiration refreshMargin).getD resp.credentials.expiration }

abbrev CredsCache := CredsCacheKey → Option CachedCreds

/-- What the broker still gives. -/
def CredsCache.get (cache : CredsCache) (req : BrokerCredsRequest) (now : Int) :
    Option RestoreCredentials :=
  (cache req.key).bind fun cached => if now < cached.expiresAt then some cached.body else none

def CredsCache.insert (cache : CredsCache) (req : BrokerCredsRequest) (resp : RestoreCredentials) :
    CredsCache :=
  Function.update cache req.key (some (CachedCreds.of resp))

/-! ## Proxies, broker and canopy -/

/-- A request or an answer, with the proxy it is from or for and when that asked. -/
structure CredsMessage (ι β : Type) where
  id : Nat
  proxy : ι
  sentAt : Int
  body : β

/-- What canopy granted, and when. -/
structure Grant where
  request : BrokerCredsRequest
  credentials : BackupCredentials
  grantedAt : Int

/-- What a proxy signs with, and when it asked. -/
structure Handed (ι : Type) where
  proxy : ι
  credentials : BackupCredentials
  askedAt : Int

/-- **The proxies of all Jobs and the broker**, with what is under way between them and canopy.  What was
    granted and what was handed out is remembered. -/
structure CredsSystem (ι : Type) where
  now : Int
  cached : ι → Option BackupCredentials := fun _ => none
  waiting : ι → Option Nat := fun _ => none
  broker : CredsCache := fun _ => none
  hasCanopy : Bool := true
  requests : List (CredsMessage ι ProxyConfig) := []
  fetches : List (CredsMessage ι BrokerCredsRequest) := []
  replies : List (CredsMessage ι (BrokerCredsRequest × Option RestoreCredentials)) := []
  answers : List (CredsMessage ι (Option BackupCredentials)) := []
  nextId : Nat := 0
  grants : List Grant := []
  handed : List (Handed ι) := []

/-- **What happens.**  A message is named by its place among those under way. -/
inductive CredsEvent (ι : Type) where
  | waited (d : Nat)
  | credentials (i : ι)
  | received (n : Nat)
  | granted (n : Nat) (resp : Option RestoreCredentials)
  | replied (n : Nat)
  | answered (n : Nat)
  | gaveUp (i : ι)
  | lostRequest (n : Nat)
  | lostFetch (n : Nat)
  | lostReply (n : Nat)
  | lostAnswer (n : Nat)
  | brokerRestarted (hasCanopy : Bool)
  | proxyRestarted (i : ι)

namespace CredsSystem

variable {ι : Type}

/-- The broker answers. -/
def answer {β : Type} (s : CredsSystem ι) (m : CredsMessage ι β) (creds : Option BackupCredentials) :
    CredsSystem ι :=
  { s with answers := s.answers ++ [{ m with body := creds }] }

/-- **The broker takes a request**: it has the answer, or asks canopy. -/
def postRestoreCreds (s : CredsSystem ι) (m : CredsMessage ι ProxyConfig) : CredsSystem ι :=
  match BrokerCredsRequest.parse m.body with
  | none => s.answer m none
  | some req =>
    if s.hasCanopy then
      match s.broker.get req s.now with
      | some body => s.answer m (some body.credentials)
      | none => { s with fetches := s.fetches ++ [{ m with body := req }] }
    else s.answer m none

/-- Canopy grants the broker's request, or does not. -/
def grant (s : CredsSystem ι) (m : CredsMessage ι BrokerCredsRequest) (resp : Option RestoreCredentials) :
    CredsSystem ι :=
  { s with
    replies := s.replies ++ [{ m with body := (m.body, resp) }]
    grants := s.grants ++ (resp.map fun resp =>
      ({ request := m.body, credentials := resp.credentials, grantedAt := s.now } : Grant)).toList }

/-- Canopy's reply reaches the broker. -/
def canopyReplied (s : CredsSystem ι) (m : CredsMessage ι (BrokerCredsRequest × Option RestoreCredentials)) :
    CredsSystem ι :=
  match m.body.2 with
  | none => s.answer m none
  | some resp =>
    let s := { s with broker := s.broker.insert m.body.1 resp }
    s.answer m (some resp.credentials)

variable [DecidableEq ι]

/-- **A proxy needs credentials**: it has some, or asks for some and waits. -/
def credentials (configs : ι → ProxyConfig) (s : CredsSystem ι) (i : ι) : CredsSystem ι :=
  if (s.waiting i).isSome then s
  else if needsRefresh (s.cached i) s.now then
    { s with
      waiting := Function.update s.waiting i (some s.nextId)
      requests := s.requests ++ [{ id := s.nextId, proxy := i, sentAt := s.now, body := configs i }]
      nextId := s.nextId + 1 }
  else
    match s.cached i with
    | some creds =>
      { s with handed := s.handed ++ [{ proxy := i, credentials := creds, askedAt := s.now }] }
    | none => s

/-- An answer arrives.  One that is no longer waited for is dropped; an error leaves what there was. -/
def proxyAnswered (s : CredsSystem ι) (m : CredsMessage ι (Option BackupCredentials)) : CredsSystem ι :=
  if s.waiting m.proxy = some m.id then
    let s := { s with waiting := Function.update s.waiting m.proxy none }
    match m.body with
    | none => s
    | some creds =>
      { s with
        cached := Function.update s.cached m.proxy (some creds)
        handed := s.handed ++ [{ proxy := m.proxy, credentials := creds, askedAt := m.sentAt }] }
  else s

/-- **One event.** -/
def step (configs : ι → ProxyConfig) (s : CredsSystem ι) : CredsEvent ι → CredsSystem ι
  | .waited d => { s with now := s.now + d }
  | .credentials i => s.credentials configs i
  | .received n =>
    match s.requests[n]? with
    | none => s
    | some m => postRestoreCreds { s with requests := s.requests.eraseIdx n } m
  | .granted n resp =>
    match s.fetches[n]? with
    | none => s
    | some m => grant { s with fetches := s.fetches.eraseIdx n } m resp
  | .replied n =>
    match s.replies[n]? with
    | none => s
    | some m => canopyReplied { s with replies := s.replies.eraseIdx n } m
  | .answered n =>
    match s.answers[n]? with
    | none => s
    | some m => proxyAnswered { s with answers := s.answers.eraseIdx n } m
  | .gaveUp i => { s with waiting := Function.update s.waiting i none }
  | .lostRequest n => { s with requests := s.requests.eraseIdx n }
  | .lostFetch n => { s with fetches := s.fetches.eraseIdx n }
  | .lostReply n => { s with replies := s.replies.eraseIdx n }
  | .lostAnswer n => { s with answers := s.answers.eraseIdx n }
  | .brokerRestarted hasCanopy =>
    { s with broker := fun _ => none, fetches := [], replies := [], hasCanopy := hasCanopy }
  | .proxyRestarted i =>
    { s with
      cached := Function.update s.cached i none
      waiting := Function.update s.waiting i none }

end CredsSystem

end RestoreOperator
