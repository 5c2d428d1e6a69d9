import RestoreOperator.Calls.Runs
import RestoreOperator.Canopy.Credentials

/-!
# `Correctness.Credentials` — what a proxy signs with

Whatever is lost, late or doubled between the proxies, the broker and canopy, and whoever restarts, a proxy
only ever signs with what canopy granted for the group, the type and the run of its own Job.  Two caches lie
on the way, and neither gives out anything that is about to expire.
-/

namespace RestoreOperator

open Calls

/-! ## What a Job's proxy asks for -/

/-- The Job of a restore or of a snapshot list, as far as its proxy goes. -/
structure ProxyJob where
  proxy : CanopyProxyArgs
  group : String
  backupType : String
  region : String

/-- The environment of the proxy. -/
def ProxyJob.env (job : ProxyJob) : List (String × String) :=
  canopyProxyEnv job.proxy job.group job.backupType job.region

/-- **A proxy finds in its environment what its Job is for.** -/
theorem ProxyJob.fromEnv_env (job : ProxyJob) {config : ProxyConfig}
    (h : ProxyConfig.fromEnv job.env = .ok config) :
    config.group = job.group ∧ config.backupType = job.backupType ∧
      config.runId = job.proxy.runId.filter (· ≠ "") := by
  obtain ⟨⟨brokerUrl, statsUrl, progressUrl, runId⟩, group, backupType, region⟩ := job
  cases runId <;> cases progressUrl <;>
  · injection h with h
    subst h
    exact ⟨rfl, rfl, rfl⟩

/-- The operator reads back the run it minted. -/
theorem ProxyJob.parse_env {job : ProxyJob} {config : ProxyConfig}
    (h : ProxyConfig.fromEnv job.env = .ok config) {run : Option Uuid}
    (hrun : job.proxy.runId = run.map Uuid.display) {req : BrokerCredsRequest}
    (hreq : BrokerCredsRequest.parse config = some req) :
    Uuid.parse job.group = some req.group ∧ req.type = job.backupType ∧ req.runId = run := by
  obtain ⟨hgroup, htype, hrunId⟩ := job.fromEnv_env h
  have hread : config.runId = run.map Uuid.display := by
    rw [hrunId, hrun]
    cases run with
    | none => rfl
    | some u => simp [Option.filter, u.display_ne_empty]
  unfold BrokerCredsRequest.parse at hreq
  rw [hgroup, htype, hread] at hreq
  obtain ⟨group, hparse, hreq⟩ := Option.bind_eq_some_iff.mp hreq
  cases run with
  | none =>
    obtain rfl := Option.some.inj hreq
    exact ⟨hparse, rfl, rfl⟩
  | some u =>
    simp only [Option.map_some, u.parse_display] at hreq
    obtain rfl := Option.some.inj hreq
    exact ⟨hparse, rfl, rfl⟩

/-- Two requests with one key ask for the same. -/
theorem BrokerCredsRequest.key_inj {req req' : BrokerCredsRequest} (h : req.key = req'.key) :
    req = req' := by
  obtain ⟨group, type, runId⟩ := req
  obtain ⟨group', type', runId'⟩ := req'
  simp only [key, CredsCacheKey.mk.injEq] at h
  obtain ⟨hgroup, rfl, rfl⟩ := h
  obtain rfl := Uuid.display_inj hgroup
  rfl

/-! ## Granted credentials -/

/-- Canopy granted the credentials, for this request. -/
def GrantedFor (grants : List Grant) (req : BrokerCredsRequest) (creds : BackupCredentials) : Prop :=
  ∃ g ∈ grants, g.request = req ∧ g.credentials = creds

/-- **Granted, and good for whoever asked then**: not about to expire at that time, or granted since.  The
    margin is not taken off a time that it would leave without one. -/
def FreshFor (grants : List Grant) (req : BrokerCredsRequest) (creds : BackupCredentials)
    (askedAt : Int) : Prop :=
  (GrantedFor grants req creds ∧
      (timestampMin + refreshMargin ≤ askedAt → askedAt + refreshMargin < creds.expiration)) ∨
    ∃ g ∈ grants, g.request = req ∧ g.credentials = creds ∧ askedAt ≤ g.grantedAt

section Grants

variable {grants grants' : List Grant} {req : BrokerCredsRequest} {creds : BackupCredentials}
  {askedAt : Int}

theorem GrantedFor.mono (h : GrantedFor grants req creds) (hsub : grants ⊆ grants') :
    GrantedFor grants' req creds := by
  obtain ⟨g, hg, hgrant⟩ := h
  exact ⟨g, hsub hg, hgrant⟩

theorem FreshFor.mono (h : FreshFor grants req creds askedAt) (hsub : grants ⊆ grants') :
    FreshFor grants' req creds askedAt := by
  rcases h with ⟨hgranted, hlate⟩ | ⟨g, hg, hgrant⟩
  · exact .inl ⟨hgranted.mono hsub, hlate⟩
  · exact .inr ⟨g, hsub hg, hgrant⟩

theorem FreshFor.granted (h : FreshFor grants req creds askedAt) : GrantedFor grants req creds := by
  rcases h with ⟨hgranted, _⟩ | ⟨g, hg, hreq, hcreds, _⟩
  · exact hgranted
  · exact ⟨g, hg, hreq, hcreds⟩

end Grants

/-! ## The caches -/

/-- A proxy that needs no refresh has something that is not about to expire. -/
theorem not_needsRefresh {cached : Option BackupCredentials} {creds : BackupCredentials} {now : Int}
    (h : needsRefresh cached now ≠ true) (hcached : cached = some creds) :
    now + refreshMargin < creds.expiration := by
  subst hcached
  unfold needsRefresh at h
  simpa using h

/-- **What the broker still gives is not about to expire.** -/
theorem lt_expiresAt {resp : RestoreCredentials} {now : Int} (hmin : timestampMin + refreshMargin ≤ now)
    (h : now < (CachedCreds.of resp).expiresAt) : now + refreshMargin < resp.credentials.expiration := by
  simp only [CachedCreds.of, checkedSub] at h
  split at h
  · rw [Option.getD_some] at h
    omega
  · rw [Option.getD_none] at h
    omega

/-- Every entry is of a grant with its key. -/
def CredsCache.Granted (cache : CredsCache) (grants : List Grant) : Prop :=
  ∀ key cached, cache key = some cached →
    cached = CachedCreds.of cached.body ∧
      ∃ req, req.key = key ∧ GrantedFor grants req cached.body.credentials

section Cache

variable {cache : CredsCache} {grants : List Grant} {req : BrokerCredsRequest}

theorem CredsCache.Granted.insert (h : cache.Granted grants) {resp : RestoreCredentials}
    (hgrant : GrantedFor grants req resp.credentials) : (cache.insert req resp).Granted grants := by
  intro key cached hcached
  unfold CredsCache.insert at hcached
  by_cases hkey : key = req.key
  · subst hkey
    rw [Function.update_self] at hcached
    obtain rfl := Option.some.inj hcached
    exact ⟨rfl, req, rfl, hgrant⟩
  · rw [Function.update_of_ne hkey] at hcached
    exact h key cached hcached

/-- **A hit is fresh for everybody who asked by now.** -/
theorem CredsCache.Granted.get (h : cache.Granted grants) {now askedAt : Int} (hasked : askedAt ≤ now)
    {body : RestoreCredentials} (hget : cache.get req now = some body) :
    FreshFor grants req body.credentials askedAt := by
  obtain ⟨cached, hcached, hvalid⟩ := Option.bind_eq_some_iff.mp hget
  obtain ⟨hof, req', hkey, hgranted⟩ := h req.key cached hcached
  split at hvalid
  · rename_i hlt
    obtain rfl := Option.some.inj hvalid
    obtain rfl := BrokerCredsRequest.key_inj hkey
    rw [hof] at hlt
    refine .inl ⟨hgranted, fun hmin => ?_⟩
    have hlate := lt_expiresAt (Int.le_trans hmin hasked) hlt
    omega
  · cases hvalid

end Cache

/-! ## The invariant -/

namespace CredsSystem

variable {ι : Type} {configs : ι → ProxyConfig} {s : CredsSystem ι}

/-- **What is under way and what is kept comes from grants for the right request.** -/
structure Sound (configs : ι → ProxyConfig) (s : CredsSystem ι) : Prop where
  requests : ∀ m ∈ s.requests, m.body = configs m.proxy ∧ m.sentAt ≤ s.now
  fetches : ∀ m ∈ s.fetches, BrokerCredsRequest.parse (configs m.proxy) = some m.body ∧ m.sentAt ≤ s.now
  replies : ∀ m ∈ s.replies, BrokerCredsRequest.parse (configs m.proxy) = some m.body.1 ∧
    ∀ resp, m.body.2 = some resp →
      ∃ g ∈ s.grants, g.request = m.body.1 ∧ g.credentials = resp.credentials ∧ m.sentAt ≤ g.grantedAt
  broker : s.broker.Granted s.grants
  answers : ∀ m ∈ s.answers, ∀ creds, m.body = some creds →
    ∃ req, BrokerCredsRequest.parse (configs m.proxy) = some req ∧ FreshFor s.grants req creds m.sentAt
  cached : ∀ i creds, s.cached i = some creds →
    ∃ req, BrokerCredsRequest.parse (configs i) = some req ∧ GrantedFor s.grants req creds
  handed : ∀ h ∈ s.handed,
    ∃ req, BrokerCredsRequest.parse (configs h.proxy) = some req ∧
      FreshFor s.grants req h.credentials h.askedAt

theorem sound_empty (configs : ι → ProxyConfig) (t : Int) : Sound configs { now := t } where
  requests _ h := nomatch h
  fetches _ h := nomatch h
  replies _ h := nomatch h
  broker _ _ h := nomatch h
  answers _ h := nomatch h
  cached _ _ h := nomatch h
  handed _ h := nomatch h

theorem Sound.waited (h : Sound configs s) (d : Nat) : Sound configs { s with now := s.now + d } := by
  have hlater : s.now ≤ s.now + d := by omega
  refine { h with requests := ?_, fetches := ?_ }
  · intro m hm
    obtain ⟨hbody, hsent⟩ := h.requests m hm
    exact ⟨hbody, Int.le_trans hsent hlater⟩
  · intro m hm
    obtain ⟨hbody, hsent⟩ := h.fetches m hm
    exact ⟨hbody, Int.le_trans hsent hlater⟩

theorem Sound.answer {β : Type} (h : Sound configs s) {m : CredsMessage ι β}
    {creds : Option BackupCredentials}
    (hcreds : ∀ c, creds = some c → ∃ req, BrokerCredsRequest.parse (configs m.proxy) = some req ∧
      FreshFor s.grants req c m.sentAt) : Sound configs (s.answer m creds) := by
  refine { h with answers := ?_ }
  intro m' hm' c hc
  rcases List.mem_append.mp hm' with hm' | hm'
  · exact h.answers m' hm' c hc
  · obtain rfl := List.mem_singleton.mp hm'
    exact hcreds c hc

theorem Sound.refuse {β : Type} (h : Sound configs s) (m : CredsMessage ι β) :
    Sound configs (s.answer m none) := h.answer fun _ hc => nomatch hc

/-- The broker answers from its cache, or passes the request on. -/
theorem Sound.postRestoreCreds (h : Sound configs s) {m : CredsMessage ι ProxyConfig}
    (hbody : m.body = configs m.proxy) (hsent : m.sentAt ≤ s.now) :
    Sound configs (s.postRestoreCreds m) := by
  unfold CredsSystem.postRestoreCreds
  split
  · exact h.refuse m
  · rename_i req hreq
    rw [hbody] at hreq
    split
    · split
      · rename_i body hhit
        refine h.answer fun c hc => ?_
        obtain rfl := Option.some.inj hc
        exact ⟨req, hreq, h.broker.get hsent hhit⟩
      · refine { h with fetches := ?_ }
        intro m' hm'
        rcases List.mem_append.mp hm' with hm' | hm'
        · exact h.fetches m' hm'
        · obtain rfl := List.mem_singleton.mp hm'
          exact ⟨hreq, hsent⟩
    · exact h.refuse m

/-- A grant takes nothing away from what was granted before. -/
theorem Sound.grant (h : Sound configs s) {m : CredsMessage ι BrokerCredsRequest}
    (hbody : BrokerCredsRequest.parse (configs m.proxy) = some m.body) (hsent : m.sentAt ≤ s.now)
    (resp : Option RestoreCredentials) : Sound configs (s.grant m resp) := by
  have hsub : s.grants ⊆ (s.grant m resp).grants := List.subset_append_left _ _
  refine { h with replies := ?_, broker := ?_, answers := ?_, cached := ?_, handed := ?_ }
  · intro m' hm'
    rcases List.mem_append.mp hm' with hm' | hm'
    · obtain ⟨hreq, hgrants⟩ := h.replies m' hm'
      refine ⟨hreq, fun r hr => ?_⟩
      obtain ⟨g, hg, hgrant⟩ := hgrants r hr
      exact ⟨g, hsub hg, hgrant⟩
    · obtain rfl := List.mem_singleton.mp hm'
      refine ⟨hbody, fun r hr => ?_⟩
      refine ⟨⟨m.body, r.credentials, s.now⟩, List.mem_append_right _ ?_, rfl, rfl, hsent⟩
      simp only at hr
      simp [hr]
  · intro key cached hcached
    obtain ⟨hof, req, hkey, hgranted⟩ := h.broker key cached hcached
    exact ⟨hof, req, hkey, hgranted.mono hsub⟩
  · intro m' hm' c hc
    obtain ⟨req, hreq, hfresh⟩ := h.answers m' hm' c hc
    exact ⟨req, hreq, hfresh.mono hsub⟩
  · intro i creds hcached
    obtain ⟨req, hreq, hgranted⟩ := h.cached i creds hcached
    exact ⟨req, hreq, hgranted.mono hsub⟩
  · intro e he
    obtain ⟨req, hreq, hfresh⟩ := h.handed e he
    exact ⟨req, hreq, hfresh.mono hsub⟩

/-- A reply is kept under the request it was granted for, and passed on to whoever asked. -/
theorem Sound.canopyReplied (h : Sound configs s)
    {m : CredsMessage ι (BrokerCredsRequest × Option RestoreCredentials)}
    (hbody : BrokerCredsRequest.parse (configs m.proxy) = some m.body.1)
    (hgrants : ∀ resp, m.body.2 = some resp →
      ∃ g ∈ s.grants, g.request = m.body.1 ∧ g.credentials = resp.credentials ∧
        m.sentAt ≤ g.grantedAt) : Sound configs (s.canopyReplied m) := by
  unfold CredsSystem.canopyReplied
  split
  · exact h.refuse m
  · rename_i resp hresp
    obtain ⟨g, hg, hreq, hcreds, hsince⟩ := hgrants resp hresp
    have hkept : Sound configs { s with broker := s.broker.insert m.body.1 resp } :=
      { h with broker := h.broker.insert ⟨g, hg, hreq, hcreds⟩ }
    refine hkept.answer fun c hc => ?_
    obtain rfl := Option.some.inj hc
    exact ⟨m.body.1, hbody, .inr ⟨g, hg, hreq, hcreds, hsince⟩⟩

/-- What is handed out joins what was. -/
theorem Sound.hand (h : Sound configs s) {e : Handed ι}
    (he : ∃ req, BrokerCredsRequest.parse (configs e.proxy) = some req ∧
      FreshFor s.grants req e.credentials e.askedAt) :
    Sound configs { s with handed := s.handed ++ [e] } := by
  refine { h with handed := ?_ }
  intro e' he'
  rcases List.mem_append.mp he' with he' | he'
  · exact h.handed e' he'
  · obtain rfl := List.mem_singleton.mp he'
    exact he

variable [DecidableEq ι]

theorem Sound.credentials (h : Sound configs s) (i : ι) : Sound configs (s.credentials configs i) := by
  unfold CredsSystem.credentials
  split
  · exact h
  · split
    · refine { h with requests := ?_ }
      intro m hm
      rcases List.mem_append.mp hm with hm | hm
      · exact h.requests m hm
      · obtain rfl := List.mem_singleton.mp hm
        exact ⟨rfl, Int.le_refl _⟩
    · rename_i hfresh
      split
      · rename_i creds hcached
        obtain ⟨req, hreq, hgranted⟩ := h.cached i creds hcached
        exact h.hand ⟨req, hreq, .inl ⟨hgranted, fun _ => not_needsRefresh hfresh hcached⟩⟩
      · exact h

/-- The cache of one proxy changes. -/
theorem Sound.cache (h : Sound configs s) {i : ι} {c : Option BackupCredentials}
    (hnew : ∀ creds, c = some creds →
      ∃ req, BrokerCredsRequest.parse (configs i) = some req ∧ GrantedFor s.grants req creds) :
    Sound configs { s with cached := Function.update s.cached i c } := by
  refine { h with cached := ?_ }
  intro j creds hcached
  have hj : Function.update s.cached i c j = some creds := hcached
  by_cases hij : j = i
  · subst hij
    rw [Function.update_self] at hj
    exact hnew creds hj
  · rw [Function.update_of_ne hij] at hj
    exact h.cached j creds hj

theorem Sound.proxyAnswered (h : Sound configs s) {m : CredsMessage ι (Option BackupCredentials)}
    (hm : ∀ creds, m.body = some creds →
      ∃ req, BrokerCredsRequest.parse (configs m.proxy) = some req ∧
        FreshFor s.grants req creds m.sentAt) : Sound configs (s.proxyAnswered m) := by
  unfold CredsSystem.proxyAnswered
  split
  · have hwoken : Sound configs { s with waiting := Function.update s.waiting m.proxy none } := { h with }
    split
    · exact hwoken
    · rename_i creds hcreds
      obtain ⟨req, hreq, hfresh⟩ := hm creds hcreds
      refine (hwoken.cache (c := some creds) fun _ hc => ?_).hand ⟨req, hreq, hfresh⟩
      obtain rfl := Option.some.inj hc
      exact ⟨req, hreq, hfresh.granted⟩
  · exact h

/-- **Every event keeps it.** -/
theorem Sound.step (h : Sound configs s) (e : CredsEvent ι) : Sound configs (s.step configs e) := by
  have hrequests (n : Nat) : Sound configs { s with requests := s.requests.eraseIdx n } :=
    { h with requests := fun m hm => h.requests m (List.mem_of_mem_eraseIdx hm) }
  have hfetches (n : Nat) : Sound configs { s with fetches := s.fetches.eraseIdx n } :=
    { h with fetches := fun m hm => h.fetches m (List.mem_of_mem_eraseIdx hm) }
  have hreplies (n : Nat) : Sound configs { s with replies := s.replies.eraseIdx n } :=
    { h with replies := fun m hm => h.replies m (List.mem_of_mem_eraseIdx hm) }
  have hanswers (n : Nat) : Sound configs { s with answers := s.answers.eraseIdx n } :=
    { h with answers := fun m hm => h.answers m (List.mem_of_mem_eraseIdx hm) }
  cases e with
  | waited d => exact h.waited d
  | credentials i => exact h.credentials i
  | received n =>
    dsimp only [CredsSystem.step]
    split
    · exact h
    · rename_i m hm
      obtain ⟨hbody, hsent⟩ := h.requests m (List.mem_of_getElem? hm)
      exact (hrequests n).postRestoreCreds hbody hsent
  | granted n resp =>
    dsimp only [CredsSystem.step]
    split
    · exact h
    · rename_i m hm
      obtain ⟨hbody, hsent⟩ := h.fetches m (List.mem_of_getElem? hm)
      exact (hfetches n).grant hbody hsent resp
  | replied n =>
    dsimp only [CredsSystem.step]
    split
    · exact h
    · rename_i m hm
      obtain ⟨hbody, hgrants⟩ := h.replies m (List.mem_of_getElem? hm)
      exact (hreplies n).canopyReplied hbody hgrants
  | answered n =>
    dsimp only [CredsSystem.step]
    split
    · exact h
    · rename_i m hm
      exact (hanswers n).proxyAnswered (h.answers m (List.mem_of_getElem? hm))
  | gaveUp i => exact { h with }
  | lostRequest n => exact hrequests n
  | lostFetch n => exact hfetches n
  | lostReply n => exact hreplies n
  | lostAnswer n => exact hanswers n
  | brokerRestarted hasCanopy =>
    exact { h with
      fetches := fun _ hm => nomatch hm
      replies := fun _ hm => nomatch hm
      broker := fun _ _ hc => nomatch hc }
  | proxyRestarted i =>
    have hforgot := h.cache (i := i) (c := none) fun _ hc => nomatch hc
    exact { hforgot with }

theorem always_of_sound {P : CredsSystem ι → Prop} (hP : ∀ s, Sound configs s → P s) (t : Int)
    (es : List (CredsEvent ι)) : Always (step configs) P { now := t } es :=
  Always.of_invariant (C := fun _ _ => True) (fun _ e _ h => h.step e) hP (sound_empty configs t)
    (meets_of_forall (fun _ _ => trivial) _ _)

/-! ## What proxies sign with -/

/-- **A proxy only signs with what was granted for its own Job**: for that group and type, and for that run
    if the Job is of one. -/
theorem handed_for_own_run {jobs : ι → ProxyJob} {run : ι → Option Uuid}
    (hconfigs : ∀ i, ProxyConfig.fromEnv (jobs i).env = .ok (configs i))
    (hrun : ∀ i, (jobs i).proxy.runId = (run i).map Uuid.display) (t : Int) (es : List (CredsEvent ι)) :
    Always (step configs)
      (fun s => ∀ h ∈ s.handed, ∃ g ∈ s.grants, g.credentials = h.credentials ∧
        Uuid.parse (jobs h.proxy).group = some g.request.group ∧
        g.request.type = (jobs h.proxy).backupType ∧ g.request.runId = run h.proxy) { now := t } es := by
  refine always_of_sound (fun s hs h hh => ?_) t es
  obtain ⟨req, hreq, hfresh⟩ := hs.handed h hh
  obtain ⟨g, hg, rfl, hcreds⟩ := hfresh.granted
  exact ⟨g, hg, hcreds, ProxyJob.parse_env (hconfigs h.proxy) (hrun h.proxy) hreq⟩

/-- A restore of its run, and the list of snapshots of the same group beside it. -/
def nauruJob (runId : Option Uuid) : ProxyJob :=
  { proxy :=
      { brokerBaseUrl := "http://operator:9091"
        statsCallbackUrl := "http://operator:8080/stats"
        runId := runId.map Uuid.display }
    group := "11111111-1111-1111-1111-111111111111"
    backupType := "tamanu-postgres"
    region := "ap-southeast-2" }

def nauruConfig (runId : Option Uuid) : ProxyConfig :=
  { brokerUrl := "http://operator:9091"
    group := "11111111-1111-1111-1111-111111111111"
    backupType := "tamanu-postgres"
    runId := runId.map Uuid.display
    region := "ap-southeast-2"
    portFile := "/var/run/pgro/proxy-port"
    statsCallbackUrl := "http://operator:8080/stats"
    progressCallbackUrl := none }

/-- The run of the restore. -/
def nauruRun : Bool → Option Uuid
  | true => some ⟨Vector.replicate 16 0x44⟩
  | false => none

/-- What canopy grants, for an hour. -/
def nauruGrant (accessKeyId : String) : RestoreCredentials :=
  { credentials :=
      { version := 1
        accessKeyId := accessKeyId
        secretAccessKey := "secret"
        sessionToken := "session"
        expiration := 3600000000000 }
    repoPassword := "password" }

theorem nauru_handed_for_own_run :
    Always (step fun i => nauruConfig (nauruRun i))
      (fun s => ∀ h ∈ s.handed, ∃ g ∈ s.grants, g.credentials = h.credentials ∧
        Uuid.parse (nauruJob (nauruRun h.proxy)).group = some g.request.group ∧
        g.request.type = (nauruJob (nauruRun h.proxy)).backupType ∧ g.request.runId = nauruRun h.proxy)
      { now := 0 }
      [.credentials true, .credentials false, .received 1, .received 0,
        .granted 1 (some (nauruGrant "restore")), .granted 0 (some (nauruGrant "list")), .replied 0,
        .replied 0, .answered 1, .answered 0] :=
  @handed_for_own_run Bool _ _ (fun i => nauruJob (nauruRun i)) nauruRun (fun i => by cases i <;> rfl)
    (fun _ => rfl) 0 _

/-- **Nothing a proxy signs with was about to expire when it asked**, unless canopy granted it that way
    since. -/
theorem handed_fresh (configs : ι → ProxyConfig) (t : Int) (es : List (CredsEvent ι)) :
    Always (step configs)
      (fun s => ∀ h ∈ s.handed, timestampMin + refreshMargin ≤ h.askedAt →
        h.askedAt + refreshMargin < h.credentials.expiration ∨
          ∃ g ∈ s.grants, BrokerCredsRequest.parse (configs h.proxy) = some g.request ∧
            g.credentials = h.credentials ∧ h.askedAt ≤ g.grantedAt) { now := t } es := by
  refine always_of_sound (fun s hs h hh hmin => ?_) t es
  obtain ⟨req, hreq, hfresh⟩ := hs.handed h hh
  rcases hfresh with ⟨_, hlate⟩ | ⟨g, hg, rfl, hcreds, hsince⟩
  · exact .inl (hlate hmin)
  · exact .inr ⟨g, hg, hreq, hcreds, hsince⟩

end CredsSystem

end RestoreOperator
