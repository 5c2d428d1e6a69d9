import Mathlib.Data.List.TakeWhile
import RestoreOperator.Canopy.Intent
import RestoreOperator.Replica.Trimming

/-!
# `Correctness.IntentParams` — what the parameters of an intent make of a replica

A text parameter that was not set reaches the operator as a null or as a blank text, and is to be read as if
it were not there.  All of them are, but for the two that give the CPU: a blank text is taken there for a
quantity.

The CPU parameters replace one side of the CPU each, and leave the other as the intent has it, so that a
request above the limit can come of it.  Memory has both sides set by either parameter.
-/

namespace RestoreOperator

open Delimited

/-! ## Blank texts -/

/-- **A blank text lists nothing.** -/
theorem parseList_blank {sep : Char} (hsep : isWhiteSpace sep = false) {raw : String}
    (h : trim raw = "") : parseList sep raw = [] := by
  have hnot : sep ∉ raw.toList := by
    intro hmem
    have hwhite := (trim_eq_empty_iff raw).mp h sep hmem
    rw [hsep] at hwhite
    cases hwhite
  unfold parseList
  rw [split_eq_singleton hnot]
  simp [h]

/-! ## Parameters that are left out -/

/-- The parameters an intent reads as texts. -/
def textParams : List String :=
  [params.cpuRequest, params.cpuLimit, params.persistentSchemas, params.preMigrateDropSchemas,
    params.preMigrateSql, params.extraUsers, params.migrateTo, params.builderImage,
    params.redactionManifestUrl, params.redactionVersionQuery]

/-- **What canopy sends for a text that was not set.** -/
def Value.isUnset : Value → Bool
  | .null => true
  | .string s => trim s = ""
  | _ => false

/-- The parameters, without some of them. -/
def without (keys : List String) (p : Params) : Params := p.filter fun m => m.1 ∉ keys

/-- None of these was set. -/
def AllUnset (keys : List String) (p : Params) : Prop :=
  ∀ key ∈ keys, ∀ v, p.lookup key = some v → v.isUnset = true

theorem lookup_cons_ite {α : Type} (name : String) (v : α) (rest : List (String × α)) (key : String) :
    List.lookup key ((name, v) :: rest) = if key = name then some v else rest.lookup key := by
  rw [List.lookup_cons]
  by_cases h : key = name
  · rw [if_pos h, beq_iff_eq.mpr h]
  · rw [if_neg h, beq_eq_false_iff_ne.mpr h]

theorem lookup_without (keys : List String) (p : Params) (key : String) :
    (without keys p).lookup key = if key ∈ keys then none else p.lookup key := by
  induction p with
  | nil => simp [without]
  | cons m p ih =>
    obtain ⟨name, v⟩ := m
    unfold without at ih ⊢
    rw [lookup_cons_ite]
    by_cases hname : name ∈ keys
    · rw [List.filter_cons_of_neg (by simpa using hname), ih]
      by_cases hkey : key ∈ keys
      · rw [if_pos hkey, if_pos hkey]
      · have hne : ¬ key = name := fun h => hkey (h ▸ hname)
        rw [if_neg hkey, if_neg hkey, if_neg hne]
    · rw [List.filter_cons_of_pos (by simpa using hname), lookup_cons_ite, ih]
      by_cases hkey : key = name
      · rw [if_pos hkey, if_pos hkey, hkey, if_neg hname]
      · rw [if_neg hkey, if_neg hkey]

theorem lookup_of_paramStr {p : Params} {key s : String} (h : paramStr p key = some s) :
    p.lookup key = some (.string s) := by
  unfold paramStr at h
  obtain ⟨v, hv, hs⟩ := Option.bind_eq_some_iff.mp h
  cases v with
  | string text =>
    cases hs
    exact hv
  | _ => cases hs

section Without

variable {keys : List String} {p : Params} (h : AllUnset keys p) (key : String)

include h

/-- **What has no reading of a value that was not set is not changed** by leaving such values out. -/
theorem bind_lookup_without {α : Type} (as : Value → Option α)
    (has : ∀ v, v.isUnset = true → as v = none) :
    ((without keys p).lookup key).bind as = (p.lookup key).bind as := by
  rw [lookup_without]
  by_cases hkey : key ∈ keys
  · rw [if_pos hkey]
    cases hv : p.lookup key with
    | none => rfl
    | some v =>
      show none = as v
      rw [has v (h key hkey v hv)]
  · rw [if_neg hkey]

theorem paramI64_without : paramI64 (without keys p) key = paramI64 p key := by
  refine bind_lookup_without h key Value.asI64 ?_
  intro v hunset
  cases v with
  | number text => cases hunset
  | _ => rfl

theorem paramBool_without : paramBool (without keys p) key = paramBool p key := by
  refine bind_lookup_without h key Value.asBool ?_
  intro v hunset
  cases v with
  | bool b => cases hunset
  | _ => rfl

/-- A text that is left out was absent anyway, or blank. -/
theorem paramStr_without :
    paramStr (without keys p) key = paramStr p key ∨
      (paramStr (without keys p) key = none ∧ key ∈ keys ∧
        ∃ s, paramStr p key = some s ∧ trim s = "") := by
  unfold paramStr
  rw [lookup_without]
  by_cases hkey : key ∈ keys
  · rw [if_pos hkey]
    cases hv : p.lookup key with
    | none => exact Or.inl rfl
    | some v =>
      have hunset := h key hkey v hv
      cases v with
      | string s => exact Or.inr ⟨rfl, hkey, s, rfl, by simpa [Value.isUnset] using hunset⟩
      | null => exact Or.inl rfl
      | bool b => cases hunset
      | number text => cases hunset
      | array items => cases hunset
      | object members => cases hunset
  · rw [if_neg hkey]
    exact Or.inl rfl

/-- **What reads a blank text as none is not changed** by leaving out texts that were not set. -/
theorem read_without {α : Type} (read : Option String → α)
    (hread : ∀ s, trim s = "" → read (some s) = read none) :
    read (paramStr (without keys p) key) = read (paramStr p key) := by
  rcases paramStr_without h key with hsame | ⟨hnone, _, s, hs, hblank⟩
  · rw [hsame]
  · rw [hnone, hs, hread s hblank]

theorem nonEmpty_without : nonEmpty (without keys p) key = nonEmpty p key := by
  refine read_without h key (fun text => (text.map trim).filter fun s => s ≠ "") ?_
  intro s hs
  simp [hs]

theorem commaListParam_without : commaListParam (without keys p) key = commaListParam p key := by
  refine read_without h key (fun text => (text.map parseCommaList).filter fun items => items ≠ []) ?_
  intro s hs
  have hnone : parseCommaList s = [] := parseList_blank (by decide) hs
  simp [hnone]

theorem extraUsers_without :
    ((paramStr (without keys p) key).map parseExtraUsers).getD [] =
      ((paramStr p key).map parseExtraUsers).getD [] := by
  refine read_without h key (fun text => (text.map parseExtraUsers).getD []) ?_
  intro s hs
  have hnone : parseCommaList s = [] := parseList_blank (by decide) hs
  simp [parseExtraUsers, hnone]

end Without

/-! ## The CPU of a replica -/

section Cpu

theorem get_insertEntry (name : String) (q : Quantity) (entries : List (String × Quantity))
    (other : String) :
    (ResourceMap.insert.insertEntry name q entries).lookup other =
      if other = name then some q else entries.lookup other := by
  induction entries with
  | nil => exact lookup_cons_ite name q [] other
  | cons entry rest ih =>
    obtain ⟨n, r⟩ := entry
    unfold ResourceMap.insert.insertEntry
    by_cases hlt : name < n
    · rw [if_pos hlt, lookup_cons_ite]
    · rw [if_neg hlt]
      by_cases heq : name = n
      · rw [if_pos heq, lookup_cons_ite, lookup_cons_ite, heq]
        by_cases hother : other = n
        · rw [if_pos hother, if_pos hother]
        · rw [if_neg hother, if_neg hother, if_neg hother]
      · rw [if_neg heq, lookup_cons_ite, lookup_cons_ite, ih]
        by_cases hother : other = n
        · have hne : ¬ other = name := fun h => heq (h.symm.trans hother)
          rw [if_pos hother, if_pos hother, if_neg hne]
        · rw [if_neg hother, if_neg hother]

/-- **An amount that is put is got back**, and the others are as they were. -/
theorem ResourceMap.get_insert (m : ResourceMap) (name : String) (q : Quantity) (other : String) :
    (m.insert name q).get other = if other = name then some q else m.get other :=
  get_insertEntry name q m.entries other

/-- The amount of a resource on one side. -/
def amountOn (which : ResourceRequirements → Option ResourceMap) (name : String)
    (r : Option ResourceRequirements) : Option Quantity :=
  (r.bind which).bind (·.get name)

theorem get_setCpu (side : Option ResourceMap) (cpu : Quantity) (name : String) :
    (setCpu side cpu).bind (·.get name) =
      if name = "cpu" then some cpu else side.bind (·.get name) := by
  show ((side.getD {}).insert "cpu" cpu).get name = _
  rw [ResourceMap.get_insert]
  cases side with
  | none => rfl
  | some m => rfl

variable (parse : String → Option ℚ) (p : Params) (floor : Option ResourceRequirements)

/-- **The requests of the floor**: its parameter gives the CPU, or else the intent. -/
theorem amountOn_requests_cpuFloor (name : String) :
    amountOn (·.requests) name (cpuFloor parse p floor) =
      if name = "cpu" then (cpuParam parse p params.cpuRequest).or (amountOn (·.requests) name floor)
      else amountOn (·.requests) name floor := by
  unfold cpuFloor amountOn
  cases cpuParam parse p params.cpuRequest with
  | none =>
    rw [Option.none_or, ite_self]
    cases cpuParam parse p params.cpuLimit with
    | none => rfl
    | some limit => cases floor <;> rfl
  | some request =>
    have hset := get_setCpu (floor.getD {}).requests request name
    rw [Option.some_or]
    cases cpuParam parse p params.cpuLimit with
    | none => cases floor <;> exact hset
    | some limit => cases floor <;> exact hset

/-- **The limits of the floor**, likewise. -/
theorem amountOn_limits_cpuFloor (name : String) :
    amountOn (·.limits) name (cpuFloor parse p floor) =
      if name = "cpu" then (cpuParam parse p params.cpuLimit).or (amountOn (·.limits) name floor)
      else amountOn (·.limits) name floor := by
  unfold cpuFloor amountOn
  cases cpuParam parse p params.cpuLimit with
  | none =>
    rw [Option.none_or, ite_self]
    cases cpuParam parse p params.cpuRequest with
    | none => rfl
    | some request => cases floor <;> rfl
  | some limit =>
    have hset := get_setCpu (floor.getD {}).limits limit name
    rw [Option.some_or]
    cases cpuParam parse p params.cpuRequest with
    | none => cases floor <;> exact hset
    | some request => cases floor <;> exact hset

end Cpu

/-! ## Leaving out what was not set -/

section Blank

variable (parse : String → Option ℚ)

/-- **Leaving out what was not set changes nothing** in the spec of the replica. -/
def BlankIsUnset (config : IntentConfig) (entry : WorklistEntry) : Prop :=
  ∀ keys, keys ⊆ textParams → AllUnset keys entry.params →
    config.toReplicaSpec parse { entry with params := without keys entry.params } =
      config.toReplicaSpec parse entry

/-- A parameter is a blank text. -/
def GivenBlank (p : Params) (key : String) : Prop := ∃ s, paramStr p key = some s ∧ trim s = ""

/-- The CPU of an intent is an amount. -/
theorem configFor_cpu {intent : String} {config : IntentConfig}
    (hconfig : configFor intent = some config) :
    (∃ q, amountOn (·.requests) "cpu" config.resourcesFloor = some (.amount q)) ∧
      (amountOn (·.limits) "cpu" config.resourcesFloor = none ∨
        ∃ q, amountOn (·.limits) "cpu" config.resourcesFloor = some (.amount q)) := by
  unfold configFor at hconfig
  split_ifs at hconfig
  · cases hconfig
    exact ⟨⟨250 / 1000, rfl⟩, Or.inr ⟨2, rfl⟩⟩
  · cases hconfig
    exact ⟨⟨500 / 1000, rfl⟩, Or.inl rfl⟩
  · cases hconfig
    exact ⟨⟨500 / 1000, rfl⟩, Or.inl rfl⟩

/-- The floor in a spec. -/
theorem toReplicaSpec_resourcesFloor (config : IntentConfig) (entry : WorklistEntry) :
    (config.toReplicaSpec parse entry).resourcesFloor =
      cpuFloor parse entry.params config.resourcesFloor := by
  show (resolveResources parse entry.params config.resourcesFloor).2 = _
  unfold resolveResources
  dsimp only
  split <;> rfl

variable {parse}

/-- A CPU parameter is left out unchanged, unless it is a blank text. -/
theorem cpuParam_without {keys : List String} {p : Params} (h : AllUnset keys p) {key : String}
    (hgiven : ¬ GivenBlank p key) : cpuParam parse (without keys p) key = cpuParam parse p key := by
  unfold cpuParam
  rcases paramStr_without h key with hsame | ⟨_, _, s, hs, hblank⟩
  · rw [hsame]
  · exact absurd ⟨s, hs, hblank⟩ hgiven

/-- There is no CPU without its parameter. -/
theorem cpuParam_eq_none {p : Params} {key : String} (h : paramStr p key = none) :
    cpuParam parse p key = none := by
  unfold cpuParam
  rw [h]
  rfl

theorem cpuParam_without_self (p : Params) (key : String) :
    cpuParam parse (without [key] p) key = none := by
  apply cpuParam_eq_none
  unfold paramStr
  rw [lookup_without, if_pos (List.mem_singleton_self key)]
  rfl

/-- **A text that is no quantity is kept as it is.** -/
theorem cpuParam_unparsable {p : Params} {key s : String} (hs : paramStr p key = some s)
    (hparse : parse s = none) : cpuParam parse p key = some (.unparsable s) := by
  unfold cpuParam Quantity.ofText
  rw [hs, Option.map_some, hparse]

/-- **Without a blank text for the CPU, leaving out what was not set changes nothing.** -/
theorem blankIsUnset_of_cpu (config : IntentConfig) {entry : WorklistEntry}
    (hrequest : ¬ GivenBlank entry.params params.cpuRequest)
    (hlimit : ¬ GivenBlank entry.params params.cpuLimit) : BlankIsUnset parse config entry := by
  intro keys _ hunset
  unfold IntentConfig.toReplicaSpec resolveResources cpuFloor bytesParam redactionSpec migrationTarget
    isExposed
  simp only [paramI64_without hunset, paramBool_without hunset, nonEmpty_without hunset,
    commaListParam_without hunset, extraUsers_without hunset, cpuParam_without hunset hrequest,
    cpuParam_without hunset hlimit]

/-- **A blank text for the CPU is not as if it were absent.** -/
theorem not_blankIsUnset {config : IntentConfig} {entry : WorklistEntry} {key : String}
    (hkey : key ∈ textParams) (hgiven : GivenBlank entry.params key)
    (hchanged : ∀ s, trim s = "" → paramStr entry.params key = some s →
      cpuFloor parse (without [key] entry.params) config.resourcesFloor ≠
        cpuFloor parse entry.params config.resourcesFloor) :
    ¬ BlankIsUnset parse config entry := by
  intro h
  obtain ⟨s, hs, hblank⟩ := hgiven
  have hunset : AllUnset [key] entry.params := by
    intro key' hkey' v hv
    rw [List.mem_singleton.mp hkey', lookup_of_paramStr hs] at hv
    cases hv
    exact decide_eq_true hblank
  have hsame := h [key] (List.cons_subset.mpr ⟨hkey, List.nil_subset _⟩) hunset
  have hfloor := congrArg ReplicaSpec.resourcesFloor hsame
  rw [toReplicaSpec_resourcesFloor, toReplicaSpec_resourcesFloor] at hfloor
  exact hchanged s hblank hs hfloor

/-- **Leaving out what was not set changes nothing exactly when no CPU parameter is a blank text.** -/
theorem blank_is_unset_iff (hparse : ∀ s, trim s = "" → parse s = none) {intent : String}
    {config : IntentConfig} (hconfig : configFor intent = some config) (entry : WorklistEntry) :
    BlankIsUnset parse config entry ↔
      ¬ GivenBlank entry.params params.cpuRequest ∧ ¬ GivenBlank entry.params params.cpuLimit := by
  obtain ⟨⟨request, hrequest⟩, hlimit⟩ := configFor_cpu hconfig
  constructor
  · intro h
    -- what stands for a blank text is no amount, and an intent has amounts
    refine ⟨fun hgiven => ?_, fun hgiven => ?_⟩
    · refine not_blankIsUnset (by simp [textParams]) hgiven ?_ h
      intro s hblank hs hfloor
      have hside := congrArg (amountOn (·.requests) "cpu") hfloor
      rw [amountOn_requests_cpuFloor, amountOn_requests_cpuFloor, if_pos rfl, if_pos rfl,
        cpuParam_without_self, cpuParam_unparsable hs (hparse s hblank), hrequest] at hside
      cases hside
    · refine not_blankIsUnset (by simp [textParams]) hgiven ?_ h
      intro s hblank hs hfloor
      have hside := congrArg (amountOn (·.limits) "cpu") hfloor
      rw [amountOn_limits_cpuFloor, amountOn_limits_cpuFloor, if_pos rfl, if_pos rfl,
        cpuParam_without_self, cpuParam_unparsable hs (hparse s hblank)] at hside
      rcases hlimit with hnone | ⟨limit, hsome⟩
      · rw [hnone] at hside
        cases hside
      · rw [hsome] at hside
        cases hside
  · rintro ⟨hcpuRequest, hcpuLimit⟩
    exact blankIsUnset_of_cpu config hcpuRequest hcpuLimit

end Blank

/-! ## Requests and limits -/

section Limits

/-- **A request within its limit**, where there are both. -/
def RequestWithinLimit (name : String) (r : ResourceRequirements) : Prop :=
  ∀ request limit, (amountOn (·.requests) name (some r)).bind Quantity.parsed = some request →
    (amountOn (·.limits) name (some r)).bind Quantity.parsed = some limit → request ≤ limit

/-- The CPU request of an intent. -/
def IntentConfig.cpuRequest (config : IntentConfig) : Option ℚ :=
  (amountOn (·.requests) "cpu" config.resourcesFloor).bind Quantity.parsed

/-- The CPU limit of an intent. -/
def IntentConfig.cpuLimit (config : IntentConfig) : Option ℚ :=
  (amountOn (·.limits) "cpu" config.resourcesFloor).bind Quantity.parsed

variable (parse : String → Option ℚ)

/-- The CPU a parameter gives. -/
def givenCpu (p : Params) (key : String) : Option ℚ := (cpuParam parse p key).bind Quantity.parsed

theorem get_resourceEntries (cpu memory : Option Quantity) :
    (resourceEntries cpu memory).bind (·.get "cpu") = cpu ∧
      (resourceEntries cpu memory).bind (·.get "memory") = memory := by
  cases cpu <;> cases memory <;> exact ⟨rfl, rfl⟩

/-- **What is pinned**: the CPU of the floor, and the memory of either parameter on both sides. -/
theorem resolveResources_pinned {p : Params} {floor : Option ResourceRequirements}
    {pinned : ResourceRequirements} (h : (resolveResources parse p floor).1 = some pinned) :
    amountOn (·.requests) "cpu" (some pinned) = amountOn (·.requests) "cpu" (cpuFloor parse p floor) ∧
      amountOn (·.limits) "cpu" (some pinned) = amountOn (·.limits) "cpu" (cpuFloor parse p floor) ∧
      amountOn (·.requests) "memory" (some pinned) =
        (bytesParam p params.memoryRequest).or (bytesParam p params.memoryLimit) ∧
      amountOn (·.limits) "memory" (some pinned) =
        (bytesParam p params.memoryLimit).or (bytesParam p params.memoryRequest) := by
  unfold resolveResources at h
  dsimp only at h
  split at h
  · cases h
  · cases h
    refine ⟨?_, ?_, ?_, ?_⟩
    · exact (get_resourceEntries _ _).1
    · exact (get_resourceEntries _ _).1
    · exact (get_resourceEntries _ _).2
    · exact (get_resourceEntries _ _).2

/-- What is derived for a snapshot is the same on both sides. -/
theorem scaleMemoryForSnapshot_sides {snapshotSize floor cap : Quantity}
    {scaled : ResourceRequirements}
    (h : scaleMemoryForSnapshot snapshotSize floor cap = some scaled) :
    scaled.requests = scaled.limits := by
  unfold scaleMemoryForSnapshot at h
  cases snapshotSize with
  | unparsable text => cases h
  | amount snapshot =>
    cases floor with
    | unparsable text => cases h
    | amount floor =>
      cases cap with
      | unparsable text => cases h
      | amount cap =>
        cases h
        rfl

/-- **Where the resources of a database come from**: they are pinned, or the floor itself, or the floor's
    CPU with memory that is the same on both sides. -/
theorem resolvePostgresResources_cases {spec : ReplicaSpec} {snapshotSize : Quantity}
    {r : ResourceRequirements} (h : resolvePostgresResources spec snapshotSize = some r) :
    spec.resources = some r ∨ spec.resourcesFloor = some r ∨
      ∃ floor memory, spec.resourcesFloor = some floor ∧
        r.requests = mergeSide memory floor.requests ∧ r.limits = mergeSide memory floor.limits := by
  unfold resolvePostgresResources at h
  cases hpinned : spec.resources with
  | some pinned =>
    rw [hpinned] at h
    exact Or.inl h
  | none =>
    rw [hpinned] at h
    cases hfloor : spec.resourcesFloor with
    | none =>
      rw [hfloor] at h
      cases h
    | some floor =>
      rw [hfloor] at h
      dsimp only at h
      split at h
      · exact Or.inr (Or.inl h)
      · rename_i scaled hscaled
        cases h
        refine Or.inr (Or.inr ⟨floor, scaled.limits, rfl, ?_, rfl⟩)
        rw [← scaleMemoryForSnapshot_sides hscaled]

/-- The resources of a canopy-managed database are never left open. -/
theorem resolvePostgresResources_isSome {spec : ReplicaSpec} {floor : ResourceRequirements}
    (hfloor : spec.resourcesFloor = some floor) (snapshotSize : Quantity) :
    ∃ r, resolvePostgresResources spec snapshotSize = some r := by
  unfold resolvePostgresResources
  rw [hfloor]
  cases spec.resources with
  | some pinned => exact ⟨pinned, rfl⟩
  | none =>
    dsimp only
    split
    · exact ⟨_, rfl⟩
    · exact ⟨_, rfl⟩

variable {parse} {config : IntentConfig} {entry : WorklistEntry} {snapshotSize : Quantity}
  {r : ResourceRequirements}

/-- **The CPU of the database is that of the floor**, on either side. -/
theorem resolved_cpu
    (h : resolvePostgresResources (config.toReplicaSpec parse entry) snapshotSize = some r) :
    amountOn (·.requests) "cpu" (some r) =
        amountOn (·.requests) "cpu" (cpuFloor parse entry.params config.resourcesFloor) ∧
      amountOn (·.limits) "cpu" (some r) =
        amountOn (·.limits) "cpu" (cpuFloor parse entry.params config.resourcesFloor) := by
  have hfloor := toReplicaSpec_resourcesFloor parse config entry
  rcases resolvePostgresResources_cases h with hpinned | hr | ⟨floor, memory, hr, hrequests, hlimits⟩
  · obtain ⟨hrequests, hlimits, _⟩ := resolveResources_pinned parse hpinned
    exact ⟨hrequests, hlimits⟩
  · rw [← hfloor, hr]
    exact ⟨rfl, rfl⟩
  · rw [← hfloor, hr]
    refine ⟨?_, ?_⟩
    · show r.requests.bind (·.get "cpu") = _
      rw [hrequests]
      exact (get_resourceEntries _ _).1
    · show r.limits.bind (·.get "cpu") = _
      rw [hlimits]
      exact (get_resourceEntries _ _).1

/-- An intent's memory request is within its limit. -/
theorem configFor_memory {intent : String} (hconfig : configFor intent = some config) :
    ∃ request limit : ℚ, request ≤ limit ∧
      amountOn (·.requests) "memory" config.resourcesFloor = some (.amount request) ∧
      amountOn (·.limits) "memory" config.resourcesFloor = some (.amount limit) := by
  unfold configFor at hconfig
  split_ifs at hconfig
  · cases hconfig
    exact ⟨512 * QuantityUnit.Mi.bytes, 2 * QuantityUnit.Gi.bytes, by decide +kernel, rfl, rfl⟩
  · cases hconfig
    exact ⟨2 * QuantityUnit.Gi.bytes, 8 * QuantityUnit.Gi.bytes, by decide +kernel, rfl, rfl⟩
  · cases hconfig
    exact ⟨2 * QuantityUnit.Gi.bytes, 8 * QuantityUnit.Gi.bytes, by decide +kernel, rfl, rfl⟩

/-- **Memory is always within its limit**, as long as one of its parameters at most is given. -/
theorem resolved_memory {intent : String} (hconfig : configFor intent = some config)
    (hmemory : paramI64 entry.params params.memoryRequest = none ∨
      paramI64 entry.params params.memoryLimit = none)
    (h : resolvePostgresResources (config.toReplicaSpec parse entry) snapshotSize = some r) :
    RequestWithinLimit "memory" r := by
  intro request limit hrequest hlimit
  -- where both sides are one amount, the request is the limit
  have hsame : amountOn (·.requests) "memory" (some r) = amountOn (·.limits) "memory" (some r) →
      request ≤ limit := by
    intro heq
    rw [heq, hlimit] at hrequest
    cases hrequest
    exact le_refl request
  have hfloor := toReplicaSpec_resourcesFloor parse config entry
  rcases resolvePostgresResources_cases h with hpinned | hr | ⟨floor, memory, hr, hrequests, hlimits⟩
  · obtain ⟨_, _, hmemRequest, hmemLimit⟩ := resolveResources_pinned parse hpinned
    apply hsame
    rw [hmemRequest, hmemLimit]
    unfold bytesParam
    rcases hmemory with hnone | hnone
    · rw [hnone, Option.map_none, Option.none_or, Option.or_none]
    · rw [hnone, Option.map_none, Option.none_or, Option.or_none]
  · obtain ⟨floorRequest, floorLimit, hle, hfloorRequest, hfloorLimit⟩ := configFor_memory hconfig
    rw [← hr, hfloor, amountOn_requests_cpuFloor, if_neg (by decide), hfloorRequest] at hrequest
    rw [← hr, hfloor, amountOn_limits_cpuFloor, if_neg (by decide), hfloorLimit] at hlimit
    cases hrequest
    cases hlimit
    exact hle
  · apply hsame
    show r.requests.bind (·.get "memory") = r.limits.bind (·.get "memory")
    rw [hrequests, hlimits]
    unfold mergeSide
    rw [(get_resourceEntries _ _).2, (get_resourceEntries _ _).2]

/-- An intent's CPU request is within its limit. -/
theorem configFor_cpu_within {intent : String} (hconfig : configFor intent = some config)
    {request limit : ℚ} (hrequest : config.cpuRequest = some request)
    (hlimit : config.cpuLimit = some limit) : request ≤ limit := by
  unfold configFor at hconfig
  split_ifs at hconfig
  · cases hconfig
    cases hrequest
    cases hlimit
    norm_num
  · cases hconfig
    cases hlimit
  · cases hconfig
    cases hlimit

/-- What the intent has is in order, so only what is given matters. -/
theorem forall_or_iff {given own : Option Quantity} {P : ℚ → Prop}
    (hown : ∀ q, own.bind Quantity.parsed = some q → P q) :
    (∀ q, (given.or own).bind Quantity.parsed = some q → P q) ↔
      ∀ q, given.bind Quantity.parsed = some q → P q := by
  cases given with
  | none =>
    rw [Option.none_or]
    exact iff_of_true hown fun _ h => absurd h (by simp)
  | some given => rw [Option.some_or]

/-- **CPU is within its limit** if what is given for either side is, or what the intent has. -/
theorem resolved_cpu_iff
    (h : resolvePostgresResources (config.toReplicaSpec parse entry) snapshotSize = some r) :
    RequestWithinLimit "cpu" r ↔
      ∀ request limit,
        ((cpuParam parse entry.params params.cpuRequest).or
          (amountOn (·.requests) "cpu" config.resourcesFloor)).bind Quantity.parsed = some request →
        ((cpuParam parse entry.params params.cpuLimit).or
          (amountOn (·.limits) "cpu" config.resourcesFloor)).bind Quantity.parsed = some limit →
        request ≤ limit := by
  obtain ⟨hrequests, hlimits⟩ := resolved_cpu h
  rw [amountOn_requests_cpuFloor, if_pos rfl] at hrequests
  rw [amountOn_limits_cpuFloor, if_pos rfl] at hlimits
  unfold RequestWithinLimit
  rw [hrequests, hlimits]

variable (parse) in
/-- The floor of an intent has a CPU request, given or its own. -/
theorem cpuFloor_isSome {intent : String} (hconfig : configFor intent = some config) (p : Params) :
    ∃ floor, cpuFloor parse p config.resourcesFloor = some floor := by
  obtain ⟨⟨own, hown⟩, _⟩ := configFor_cpu hconfig
  have hside := amountOn_requests_cpuFloor parse p config.resourcesFloor "cpu"
  rw [if_pos rfl, hown] at hside
  cases hfloor : cpuFloor parse p config.resourcesFloor with
  | some floor => exact ⟨floor, rfl⟩
  | none =>
    rw [hfloor] at hside
    have habsent : (cpuParam parse p params.cpuRequest).or (some (.amount own)) = none := hside.symm
    rw [Option.or_eq_none_iff] at habsent
    cases habsent.2

/-- **Only the CPU matters**: resources are always resolved, and memory is in order. -/
theorem resolved_within_iff {intent : String} (hconfig : configFor intent = some config)
    (hmemory : paramI64 entry.params params.memoryRequest = none ∨
      paramI64 entry.params params.memoryLimit = none)
    (hr : resolvePostgresResources (config.toReplicaSpec parse entry) snapshotSize = some r) :
    (∃ r, resolvePostgresResources (config.toReplicaSpec parse entry) snapshotSize = some r ∧
        RequestWithinLimit "cpu" r ∧ RequestWithinLimit "memory" r) ↔ RequestWithinLimit "cpu" r := by
  constructor
  · rintro ⟨r', hr', hcpu, _⟩
    rw [hr] at hr'
    cases hr'
    exact hcpu
  · intro hcpu
    exact ⟨r, hr, hcpu, resolved_memory hconfig hmemory hr⟩

/-- **Requests are within their limits exactly when a CPU parameter is on the right side of what the
    intent has for the other.** -/
theorem requests_within_limits_iff {intent : String} (hconfig : configFor intent = some config)
    (hcpu : paramStr entry.params params.cpuRequest = none ∨
      paramStr entry.params params.cpuLimit = none)
    (hmemory : paramI64 entry.params params.memoryRequest = none ∨
      paramI64 entry.params params.memoryLimit = none) (snapshotSize : Quantity) :
    (∃ r, resolvePostgresResources (config.toReplicaSpec parse entry) snapshotSize = some r ∧
        RequestWithinLimit "cpu" r ∧ RequestWithinLimit "memory" r) ↔
      (∀ request limit, givenCpu parse entry.params params.cpuRequest = some request →
          config.cpuLimit = some limit → request ≤ limit) ∧
        (∀ request limit, givenCpu parse entry.params params.cpuLimit = some limit →
          config.cpuRequest = some request → request ≤ limit) := by
  obtain ⟨floor, hfloor⟩ := cpuFloor_isSome parse hconfig entry.params
  obtain ⟨r, hr⟩ := resolvePostgresResources_isSome
    ((toReplicaSpec_resourcesFloor parse config entry).trans hfloor) snapshotSize
  rw [resolved_within_iff hconfig hmemory hr, resolved_cpu_iff hr]
  unfold givenCpu
  rcases hcpu with hnone | hnone
  · rw [cpuParam_eq_none hnone, Option.none_or]
    constructor
    · intro h
      refine ⟨fun _ _ hgiven => absurd hgiven (by simp), ?_⟩
      intro request limit hgiven hrequest
      exact (forall_or_iff fun q hq => configFor_cpu_within hconfig hrequest hq).mp
        (fun q => h request q hrequest) limit hgiven
    · rintro ⟨_, h⟩ request limit hrequest hlimit
      exact (forall_or_iff fun q hq => configFor_cpu_within hconfig hrequest hq).mpr
        (fun q hq => h request q hq hrequest) limit hlimit
  · rw [cpuParam_eq_none hnone, Option.none_or]
    constructor
    · intro h
      refine ⟨?_, fun _ _ hgiven => absurd hgiven (by simp)⟩
      intro request limit hgiven hlimit
      exact (forall_or_iff fun q hq => configFor_cpu_within hconfig hq hlimit).mp
        (fun q hq => h q limit hq hlimit) request hgiven
    · rintro ⟨h, _⟩ request limit hrequest hlimit
      exact (forall_or_iff fun q hq => configFor_cpu_within hconfig hq hlimit).mpr
        (fun q hq => h q limit hq hlimit) request hrequest

end Limits

/-! ## Analytics replicas -/

/-- The configuration of an analytics replica. -/
def analyticsConfig : IntentConfig := (configFor "analytics").get (by decide)

theorem configFor_analytics : configFor "analytics" = some analyticsConfig := rfl

/-- The quantities of the texts below. -/
def readCpu (text : String) : Option ℚ :=
  if text = "250m" then some (1 / 4) else if text = "3" then some 3 else none

theorem readCpu_blank (s : String) (h : trim s = "") : readCpu s = none := by
  have hquarter : ¬ s = "250m" := by
    rintro rfl
    exact absurd h (by decide)
  have hthree : ¬ s = "3" := by
    rintro rfl
    exact absurd h (by decide)
  unfold readCpu
  rw [if_neg hquarter, if_neg hthree]

/-- An entry with these parameters. -/
def analyticsEntry (p : Params) : WorklistEntry :=
  { name := "site"
    groupId := "22222222-2222-2222-2222-222222222222"
    type := "tamanu-postgres"
    params := p }

/-- Three CPUs, and texts that were not set. -/
def unsetTexts : Params :=
  [(params.cpuRequest, .string "3"), (params.extraUsers, .string " "), (params.migrateTo, .null),
    (params.preMigrateSql, .string "")]

theorem unsetTexts_left_out : BlankIsUnset readCpu analyticsConfig (analyticsEntry unsetTexts) := by
  refine (blank_is_unset_iff readCpu_blank configFor_analytics _).mpr ⟨?_, ?_⟩
  · rintro ⟨s, hs, hblank⟩
    have hthree : paramStr (analyticsEntry unsetTexts).params params.cpuRequest = some "3" := rfl
    rw [hthree] at hs
    cases hs
    exact absurd hblank (by decide)
  · rintro ⟨s, hs, _⟩
    have hnone : paramStr (analyticsEntry unsetTexts).params params.cpuLimit = none := rfl
    rw [hnone] at hs
    cases hs

/-- **A blank CPU request reaches the spec**, in place of the intent's. -/
theorem blank_cpu_request_kept :
    ¬ BlankIsUnset readCpu analyticsConfig (analyticsEntry [(params.cpuRequest, .string "")]) := by
  have hkey : params.cpuRequest ∈ textParams := by decide
  refine not_blankIsUnset hkey ⟨"", rfl, by decide⟩ ?_
  intro s _ _
  decide

theorem request_of_three_within_limits :
    ∃ r, resolvePostgresResources
        (analyticsConfig.toReplicaSpec readCpu (analyticsEntry unsetTexts))
        (.amount (100 * gibibyte)) = some r ∧ RequestWithinLimit "cpu" r ∧ RequestWithinLimit "memory" r := by
  have hnoLimit : analyticsConfig.cpuLimit = none := rfl
  refine (requests_within_limits_iff configFor_analytics (Or.inr rfl) (Or.inl rfl) _).mpr ⟨?_, ?_⟩
  · intro _ _ _ hlimit
    rw [hnoLimit] at hlimit
    cases hlimit
  · intro _ _ hgiven
    cases hgiven

/-- **A limit of a quarter CPU is below the intent's request** of half a CPU. -/
theorem quarter_limit_below_request :
    ¬ ∃ r, resolvePostgresResources
        (analyticsConfig.toReplicaSpec readCpu
          (analyticsEntry [(params.cpuLimit, .string "250m")]))
        (.amount (100 * gibibyte)) = some r ∧ RequestWithinLimit "cpu" r ∧ RequestWithinLimit "memory" r := by
  rintro ⟨r, hr, hcpu, _⟩
  have hle := (resolved_cpu_iff hr).mp hcpu (500 / 1000) (1 / 4) rfl rfl
  norm_num at hle

end RestoreOperator
