import Mathlib.Data.String.Basic
import RestoreOperator.Base.OrderedMap
import RestoreOperator.Canopy.Intent

/-!
# `Jobs.Placement` — where the pods of the operator run

The operator has defaults for the node selector, the annotations and the tolerations of every pod it makes.
They come from three texts of its ConfigMap, and fill what a pod template leaves open.

Of a pod template only these three are named; the rest of its metadata and of its spec is of any type.
-/

namespace RestoreOperator

/-! ## The defaults -/

/-- A taint that a pod tolerates. -/
structure Toleration where
  key : Option String
  operator : Option String
  value : Option String
  effect : Option String
  tolerationSeconds : Option Int
  deriving Repr, DecidableEq

/-- **The scheduling defaults.** -/
structure PodPlacement where
  nodeSelector : OrderedMap String String := ∅
  annotations : OrderedMap String String := ∅
  tolerations : List Toleration := []
  deriving DecidableEq

/-- One `key=value`. -/
def parsePair (entry : String) : Option (String × String) :=
  match splitOnce '=' entry with
  | some (k, v) => if trim k ≠ "" then some (trim k, trim v) else none
  | none => none

/-- **Parse `key=value,key=value`**, without the malformed entries. -/
def parsePairs (raw : String) : OrderedMap String String :=
  .ofList ((parseCommaList raw).filterMap parsePair)

def taintEffects : List String := ["NoSchedule", "PreferNoSchedule", "NoExecute"]

/-- The key of a taint, and its value where it has one. -/
def parseTaint (taint : String) : String × Option String :=
  match splitOnce '=' taint with
  | some (k, v) => (trim k, some (trim v))
  | none => (trim taint, none)

/-- One `key=value:Effect` or `key:Effect`. -/
def parseToleration (entry : String) : Option Toleration :=
  match rsplitOnce ':' entry with
  | none => none
  | some (taint, effect) =>
    let effect := trim effect
    if effect ∉ taintEffects then none
    else
      let (key, value) := parseTaint taint
      if key = "" || value = some "" then none
      else some
        { key := some key
          operator := some (if value.isSome then "Equal" else "Exists")
          value := value
          effect := some effect
          tolerationSeconds := none }

/-- **Parse `key=value:Effect,key:Effect`**, without the malformed entries. -/
def parseTolerations (raw : String) : List Toleration :=
  (parseCommaList raw).filterMap parseToleration

namespace PodPlacement

/-- The defaults from the texts of the ConfigMap. -/
def parse (nodeSelector annotations tolerations : String) : PodPlacement :=
  { nodeSelector := parsePairs nodeSelector
    annotations := parsePairs annotations
    tolerations := parseTolerations tolerations }

/-- Nothing is configured. -/
def isEmpty (p : PodPlacement) : Bool :=
  p.nodeSelector.isEmpty && p.annotations.isEmpty && p.tolerations.isEmpty

end PodPlacement

/-! ## Pod templates -/

/-- The metadata of a pod. -/
structure ObjectMeta (M : Type) where
  annotations : Option (OrderedMap String String)
  others : M

/-- The spec of a pod. -/
structure PodSpec (S : Type) where
  nodeSelector : Option (OrderedMap String String)
  tolerations : Option (List Toleration)
  others : S

/-- **A pod template.** -/
structure PodTemplateSpec (M S : Type) where
  metadata : Option (ObjectMeta M)
  spec : Option (PodSpec S)

variable {M S W X : Type} [Inhabited M] [Inhabited S]

instance : Inhabited (ObjectMeta M) := ⟨⟨none, default⟩⟩

instance : Inhabited (PodSpec S) := ⟨⟨none, none, default⟩⟩

namespace PodTemplateSpec

/-- Change the metadata, which are the default ones if there were none. -/
def withMetadata (template : PodTemplateSpec M S) (f : ObjectMeta M → ObjectMeta M) : PodTemplateSpec M S :=
  { template with metadata := some (f (template.metadata.getD default)) }

/-- Change the spec, which is the default one if there was none. -/
def withSpec (template : PodTemplateSpec M S) (f : PodSpec S → PodSpec S) : PodTemplateSpec M S :=
  { template with spec := some (f (template.spec.getD default)) }

end PodTemplateSpec

namespace PodPlacement

/-- Fill the node selector. -/
def applyNodeSelector (p : PodPlacement) (template : PodTemplateSpec M S) : PodTemplateSpec M S :=
  if p.nodeSelector.isEmpty then template
  else template.withSpec fun spec =>
    { spec with nodeSelector := some ((spec.nodeSelector.getD ∅).fill p.nodeSelector) }

/-- Fill the annotations. -/
def applyAnnotations (p : PodPlacement) (template : PodTemplateSpec M S) : PodTemplateSpec M S :=
  if p.annotations.isEmpty then template
  else template.withMetadata fun metadata =>
    { metadata with annotations := some ((metadata.annotations.getD ∅).fill p.annotations) }

/-- Add the tolerations that are not there. -/
def addTolerations (tolerations configured : List Toleration) : List Toleration :=
  configured.foldl (fun ts t => if t ∈ ts then ts else ts ++ [t]) tolerations

/-- Add the tolerations. -/
def applyTolerations (p : PodPlacement) (template : PodTemplateSpec M S) : PodTemplateSpec M S :=
  if p.tolerations.isEmpty then template
  else template.withSpec fun spec =>
    { spec with tolerations := some (addTolerations (spec.tolerations.getD []) p.tolerations) }

/-- **Stamp the defaults onto a pod template.**  What it has already stays. -/
def apply (p : PodPlacement) (template : PodTemplateSpec M S) : PodTemplateSpec M S :=
  if p.isEmpty then template
  else p.applyTolerations (p.applyAnnotations (p.applyNodeSelector template))

end PodPlacement

/-! ## Jobs and Deployments -/

/-- The spec of what makes pods. -/
structure WorkloadSpec (X M S : Type) where
  template : PodTemplateSpec M S
  others : X

/-- What makes pods: a Job or a Deployment. -/
structure Workload (W X M S : Type) where
  spec : Option (WorkloadSpec X M S)
  others : W

namespace PodPlacement

/-- Stamp the defaults onto the pod template of a workload that has a spec. -/
def applyToWorkload (p : PodPlacement) (workload : Workload W X M S) : Workload W X M S :=
  { workload with spec := workload.spec.map fun spec => { spec with template := p.apply spec.template } }

def applyToJob (p : PodPlacement) (job : Workload W X M S) : Workload W X M S := p.applyToWorkload job

def applyToDeployment (p : PodPlacement) (deployment : Workload W X M S) : Workload W X M S :=
  p.applyToWorkload deployment

end PodPlacement

end RestoreOperator
