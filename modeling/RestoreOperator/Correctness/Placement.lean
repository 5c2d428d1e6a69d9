import RestoreOperator.Jobs.Placement

/-!
# `Correctness.Placement` — the defaults fill gaps, and change nothing else

Stamping a template three times is stamping three different parts of it, each of which is filled at most once.
A text of the ConfigMap is read entry by entry, so a malformed one is as good as none.
-/

namespace RestoreOperator

open Delimited

/-! ## Tolerations -/

section Tolerations

variable {tolerations configured : List Toleration}

namespace PodPlacement

/-- One more is at the end, if it was not there. -/
theorem addTolerations_cons (tolerations : List Toleration) (t : Toleration) (rest : List Toleration) :
    addTolerations tolerations (t :: rest) =
      addTolerations (if t ∈ tolerations then tolerations else tolerations ++ [t]) rest := rfl

/-- **Each toleration keeps its place.** -/
theorem prefix_addTolerations (tolerations configured : List Toleration) :
    tolerations <+: addTolerations tolerations configured := by
  induction configured generalizing tolerations with
  | nil => exact List.prefix_refl _
  | cons t rest ih =>
    rw [addTolerations_cons]
    split
    · exact ih _
    · exact (List.prefix_append _ _).trans (ih _)

/-- **Each configured toleration that is not carried is added once.** -/
theorem count_addTolerations (tolerations configured : List Toleration) (x : Toleration) :
    (addTolerations tolerations configured).count x =
      if x ∈ tolerations then tolerations.count x else if x ∈ configured then 1 else 0 := by
  induction configured generalizing tolerations with
  | nil =>
    by_cases hx : x ∈ tolerations
    · rw [if_pos hx]
      rfl
    · rw [if_neg hx, if_neg List.not_mem_nil]
      exact List.count_eq_zero_of_not_mem hx
  | cons t rest ih =>
    rw [addTolerations_cons, ih]
    by_cases ht : t ∈ tolerations
    · rw [if_pos ht]
      by_cases hx : x ∈ tolerations
      · rw [if_pos hx, if_pos hx]
      · have hne : x ≠ t := fun heq => hx (heq ▸ ht)
        rw [if_neg hx, if_neg hx]
        simp only [List.mem_cons, hne, false_or]
    · rw [if_neg ht]
      by_cases hx : x ∈ tolerations
      · have hne : t ≠ x := fun heq => ht (heq ▸ hx)
        rw [if_pos (List.mem_append_left _ hx), if_pos hx, List.count_append,
          List.count_singleton, if_neg (by simpa using hne), Nat.add_zero]
      · rw [if_neg hx]
        by_cases heq : x = t
        · subst heq
          rw [if_pos (List.mem_append_right _ List.mem_cons_self), if_pos List.mem_cons_self,
            List.count_append, List.count_eq_zero_of_not_mem hx, List.count_singleton_self]
        · have hx' : x ∉ tolerations ++ [t] := by simp [hx, heq]
          rw [if_neg hx']
          simp only [List.mem_cons, heq, false_or]

/-- Nothing is added where all are carried. -/
theorem addTolerations_eq_self (h : ∀ t ∈ configured, t ∈ tolerations) :
    addTolerations tolerations configured = tolerations := by
  induction configured with
  | nil => rfl
  | cons t rest ih =>
    rw [addTolerations_cons, if_pos (h t List.mem_cons_self)]
    exact ih fun t' ht' => h t' (List.mem_cons_of_mem _ ht')

theorem mem_addTolerations {x : Toleration} (h : x ∈ configured) :
    x ∈ addTolerations tolerations configured := by
  rw [← List.count_pos_iff, count_addTolerations]
  by_cases hx : x ∈ tolerations
  · rw [if_pos hx]
    exact List.count_pos_iff.mpr hx
  · rw [if_neg hx, if_pos h]
    exact Nat.one_pos

theorem addTolerations_addTolerations (tolerations configured : List Toleration) :
    addTolerations (addTolerations tolerations configured) configured =
      addTolerations tolerations configured :=
  addTolerations_eq_self fun _ ht => mem_addTolerations ht

end PodPlacement

end Tolerations

/-! ## Templates -/

section Templates

variable {M S W X : Type} [Inhabited M] [Inhabited S]

namespace PodTemplateSpec

/-- The node selector of a template. -/
def nodeSelector (template : PodTemplateSpec M S) : OrderedMap String String :=
  (template.spec.getD default).nodeSelector.getD ∅

/-- The annotations of a template. -/
def annotations (template : PodTemplateSpec M S) : OrderedMap String String :=
  (template.metadata.getD default).annotations.getD ∅

/-- The tolerations of a template. -/
def tolerations (template : PodTemplateSpec M S) : List Toleration :=
  (template.spec.getD default).tolerations.getD []

/-- The rest of a template. -/
def others (template : PodTemplateSpec M S) : M × S :=
  ((template.metadata.getD default).others, (template.spec.getD default).others)

end PodTemplateSpec

namespace PodPlacement

variable (p : PodPlacement) (template : PodTemplateSpec M S)

/-- An empty placement has nothing to stamp. -/
theorem apply_eq : p.apply template =
    p.applyTolerations (p.applyAnnotations (p.applyNodeSelector template)) := by
  unfold apply
  split
  · rename_i hempty
    unfold isEmpty at hempty
    rw [Bool.and_eq_true, Bool.and_eq_true] at hempty
    obtain ⟨⟨hselector, hannotations⟩, htolerations⟩ := hempty
    unfold applyTolerations applyAnnotations applyNodeSelector
    rw [if_pos hselector, if_pos hannotations, if_pos htolerations]
  · rfl

/-! Each of the three stamps another part. -/

theorem applyAnnotations_applyNodeSelector : p.applyAnnotations (p.applyNodeSelector template) =
    p.applyNodeSelector (p.applyAnnotations template) := by
  unfold applyAnnotations applyNodeSelector
  split <;> split <;> rfl

omit [Inhabited M] in
theorem applyTolerations_applyNodeSelector : p.applyTolerations (p.applyNodeSelector template) =
    p.applyNodeSelector (p.applyTolerations template) := by
  unfold applyTolerations applyNodeSelector
  split <;> split <;> rfl

theorem applyTolerations_applyAnnotations : p.applyTolerations (p.applyAnnotations template) =
    p.applyAnnotations (p.applyTolerations template) := by
  unfold applyTolerations applyAnnotations
  split <;> split <;> rfl

/-! Each of the three fills its part once. -/

omit [Inhabited M] in
theorem applyNodeSelector_twice : p.applyNodeSelector (p.applyNodeSelector template) =
    p.applyNodeSelector template := by
  unfold applyNodeSelector
  split
  · rfl
  · unfold PodTemplateSpec.withSpec
    simp only [Option.getD_some, OrderedMap.fill_fill]

omit [Inhabited S] in
theorem applyAnnotations_twice : p.applyAnnotations (p.applyAnnotations template) =
    p.applyAnnotations template := by
  unfold applyAnnotations
  split
  · rfl
  · unfold PodTemplateSpec.withMetadata
    simp only [Option.getD_some, OrderedMap.fill_fill]

omit [Inhabited M] in
theorem applyTolerations_twice : p.applyTolerations (p.applyTolerations template) =
    p.applyTolerations template := by
  unfold applyTolerations
  split
  · rfl
  · unfold PodTemplateSpec.withSpec
    simp only [Option.getD_some, addTolerations_addTolerations]

/-- **Stamping twice is stamping once**: none of the three changes a stamped template. -/
theorem apply_apply : p.apply (p.apply template) = p.apply template := by
  have hselector : p.applyNodeSelector (p.apply template) = p.apply template := by
    rw [apply_eq, ← applyTolerations_applyNodeSelector, ← applyAnnotations_applyNodeSelector,
      applyNodeSelector_twice]
  have hannotations : p.applyAnnotations (p.apply template) = p.apply template := by
    rw [apply_eq, ← applyTolerations_applyAnnotations, applyAnnotations_twice]
  have htolerations : p.applyTolerations (p.apply template) = p.apply template := by
    rw [apply_eq, applyTolerations_twice]
  rw [apply_eq p (p.apply template), hselector, hannotations, htolerations]

theorem nodeSelector_apply : (p.apply template).nodeSelector =
    template.nodeSelector.fill p.nodeSelector := by
  have htolerations : ∀ t : PodTemplateSpec M S, (p.applyTolerations t).nodeSelector = t.nodeSelector := by
    intro t
    unfold applyTolerations
    split <;> rfl
  have hannotations : ∀ t : PodTemplateSpec M S, (p.applyAnnotations t).nodeSelector = t.nodeSelector := by
    intro t
    unfold applyAnnotations
    split <;> rfl
  rw [apply_eq, htolerations, hannotations]
  unfold applyNodeSelector
  split
  · rename_i hempty
    exact (OrderedMap.fill_isEmpty hempty).symm
  · rfl

theorem annotations_apply : (p.apply template).annotations = template.annotations.fill p.annotations := by
  have htolerations : ∀ t : PodTemplateSpec M S, (p.applyTolerations t).annotations = t.annotations := by
    intro t
    unfold applyTolerations
    split <;> rfl
  have hselector : ∀ t : PodTemplateSpec M S, (p.applyNodeSelector t).annotations = t.annotations := by
    intro t
    unfold applyNodeSelector
    split <;> rfl
  rw [apply_eq, htolerations, applyAnnotations_applyNodeSelector, hselector]
  unfold applyAnnotations
  split
  · rename_i hempty
    exact (OrderedMap.fill_isEmpty hempty).symm
  · rfl

theorem tolerations_apply : (p.apply template).tolerations =
    addTolerations template.tolerations p.tolerations := by
  have hannotations : ∀ t : PodTemplateSpec M S, (p.applyAnnotations t).tolerations = t.tolerations := by
    intro t
    unfold applyAnnotations
    split <;> rfl
  have hselector : ∀ t : PodTemplateSpec M S, (p.applyNodeSelector t).tolerations = t.tolerations := by
    intro t
    unfold applyNodeSelector
    split <;> rfl
  rw [apply_eq, applyTolerations_applyAnnotations, hannotations, applyTolerations_applyNodeSelector, hselector]
  unfold applyTolerations
  split
  · rename_i hempty
    rw [List.isEmpty_iff.mp hempty]
    rfl
  · rfl

theorem others_apply : (p.apply template).others = template.others := by
  rw [apply_eq]
  unfold applyTolerations applyAnnotations applyNodeSelector
  split <;> split <;> split <;> rfl

/-- A part of a template is made only to hold what is configured. -/
theorem apply_isSome : ((p.apply template).metadata.isSome =
      (template.metadata.isSome || !p.annotations.isEmpty)) ∧
    ((p.apply template).spec.isSome =
      (template.spec.isSome || !p.nodeSelector.isEmpty || !p.tolerations.isEmpty)) := by
  rw [apply_eq]
  unfold applyTolerations applyAnnotations applyNodeSelector
  unfold PodTemplateSpec.withSpec PodTemplateSpec.withMetadata
  constructor <;> split <;> split <;> split <;> simp_all

/-- Whatever makes pods is stamped once, and nothing but its template. -/
theorem applyToWorkload_twice (workload : Workload W X M S) :
    p.applyToWorkload (p.applyToWorkload workload) = p.applyToWorkload workload := by
  unfold applyToWorkload
  cases workload.spec with
  | none => rfl
  | some spec =>
    dsimp only [Option.map_some]
    rw [apply_apply]

end PodPlacement

end Templates

/-! ## The texts of the ConfigMap -/

section Texts

/-- **The items of joined entries** are the items of each of them. -/
theorem parseCommaList_join (entries : List String) :
    parseCommaList (join ',' entries) = entries.flatMap parseCommaList := by
  cases entries with
  | nil => decide +kernel
  | cons entry rest =>
    unfold parseCommaList parseList
    rw [split_join (List.cons_ne_nil _ _), List.map_flatMap, List.filter_flatMap]

/-- What is read of each item is read of each entry. -/
theorem filterMap_parseCommaList_join {β : Type} (parse : String → Option β) (entries : List String) :
    (parseCommaList (join ',' entries)).filterMap parse =
      entries.flatMap fun entry => (parseCommaList entry).filterMap parse := by
  rw [parseCommaList_join, List.filterMap_flatMap]

/-- **An entry that reads as nothing can be left out.** -/
theorem filterMap_parseCommaList_insert {β : Type} {parse : String → Option β} {bad : String}
    (h : (parseCommaList bad).filterMap parse = []) (before after : List String) :
    (parseCommaList (join ',' (before ++ bad :: after))).filterMap parse =
      (parseCommaList (join ',' (before ++ after))).filterMap parse := by
  rw [filterMap_parseCommaList_join, filterMap_parseCommaList_join, List.flatMap_append,
    List.flatMap_append, List.flatMap_cons, h, List.nil_append]

theorem parsePairs_insert {bad : String} (h : (parsePairs bad).isEmpty = true) (before after : List String) :
    parsePairs (join ',' (before ++ bad :: after)) = parsePairs (join ',' (before ++ after)) := by
  unfold parsePairs
  rw [filterMap_parseCommaList_insert (OrderedMap.ofList_isEmpty h)]

theorem parseTolerations_insert {bad : String} (h : parseTolerations bad = []) (before after : List String) :
    parseTolerations (join ',' (before ++ bad :: after)) = parseTolerations (join ',' (before ++ after)) :=
  filterMap_parseCommaList_insert h before after

end Texts

/-- **Defaults fill gaps**: stamping twice is stamping once; besides the three parts nothing changes; a key
    keeps its value and gets the default one where it had none; a toleration keeps its place, and a configured
    one that was not carried is added once.  A malformed entry of the ConfigMap is as good as none. -/
theorem placement_fills_gaps {M S : Type} [Inhabited M] [Inhabited S] :
    (∀ (p : PodPlacement) (template : PodTemplateSpec M S),
      p.apply (p.apply template) = p.apply template ∧
      (p.apply template).others = template.others ∧
      ((p.apply template).metadata.isSome = (template.metadata.isSome || !p.annotations.isEmpty)) ∧
      ((p.apply template).spec.isSome =
        (template.spec.isSome || !p.nodeSelector.isEmpty || !p.tolerations.isEmpty)) ∧
      (∀ k, (p.apply template).nodeSelector.get k =
        (template.nodeSelector.get k).or (p.nodeSelector.get k)) ∧
      (∀ k, (p.apply template).annotations.get k =
        (template.annotations.get k).or (p.annotations.get k)) ∧
      template.tolerations <+: (p.apply template).tolerations ∧
      ∀ x, (p.apply template).tolerations.count x =
        if x ∈ template.tolerations then template.tolerations.count x
        else if x ∈ p.tolerations then 1 else 0) ∧
    ∀ (before after : List String) (bad selector annotations tolerations : String),
      ((PodPlacement.parse bad "" "").isEmpty = true →
        PodPlacement.parse (join ',' (before ++ bad :: after)) annotations tolerations =
          PodPlacement.parse (join ',' (before ++ after)) annotations tolerations) ∧
      ((PodPlacement.parse "" bad "").isEmpty = true →
        PodPlacement.parse selector (join ',' (before ++ bad :: after)) tolerations =
          PodPlacement.parse selector (join ',' (before ++ after)) tolerations) ∧
      ((PodPlacement.parse "" "" bad).isEmpty = true →
        PodPlacement.parse selector annotations (join ',' (before ++ bad :: after)) =
          PodPlacement.parse selector annotations (join ',' (before ++ after))) := by
  refine ⟨fun p template => ?_, fun before after bad selector annotations tolerations => ?_⟩
  · obtain ⟨hmetadata, hspec⟩ := p.apply_isSome template
    refine ⟨p.apply_apply template, p.others_apply template, hmetadata, hspec, ?_, ?_, ?_, ?_⟩
    · intro k
      rw [PodPlacement.nodeSelector_apply, OrderedMap.get_fill]
    · intro k
      rw [PodPlacement.annotations_apply, OrderedMap.get_fill]
    · rw [PodPlacement.tolerations_apply]
      exact PodPlacement.prefix_addTolerations _ _
    · intro x
      rw [PodPlacement.tolerations_apply, PodPlacement.count_addTolerations]
  · unfold PodPlacement.parse PodPlacement.isEmpty
    simp only [Bool.and_eq_true, List.isEmpty_iff]
    refine ⟨?_, ?_, ?_⟩
    · rintro ⟨⟨hbad, _⟩, _⟩
      rw [parsePairs_insert hbad]
    · rintro ⟨⟨_, hbad⟩, _⟩
      rw [parsePairs_insert hbad]
    · rintro ⟨_, hbad⟩
      rw [parseTolerations_insert hbad]

/-- A pair without its sign of equality is left out of the selector, wherever it stands. -/
theorem pair_without_value_left_out :
    (PodPlacement.parse "garbage" "" "").isEmpty = true ∧
      PodPlacement.parse "tier=db,garbage,zone=a" "" "" = PodPlacement.parse "tier=db,zone=a" "" "" := by
  have hbad : (PodPlacement.parse "garbage" "" "").isEmpty = true := by decide +kernel
  have hinserted := ((placement_fills_gaps (M := Unit) (S := Unit)).2 ["tier=db"] ["zone=a"] "garbage"
    "" "" "").1 hbad
  exact ⟨hbad, hinserted⟩

end RestoreOperator
