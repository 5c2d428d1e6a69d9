import RestoreOperator.Base.Words
import RestoreOperator.Replica.UserSecrets

/-!
# `Correctness.UserSecrets` — whose password a login role has

A Secret is named after its user through a slug, which forgets the case of letters, what stands
between words and everything past fifty characters.  Users whose names differ only there share one
Secret; the others have one each.
-/

namespace RestoreOperator

/-! ## What a slug keeps of a name -/

/-- **What a name reads as**: its words of letters and digits, in lower case, joined by dashes, or
    `replica` without any; of a longer text the first fifty characters, without a dash at the end. -/
def readsAs (name : String) : List Char :=
  let text := Words.joined '-' (Words.words Char.isAlphanum Char.toLower name.toList)
  let text := if text = [] then "replica".toList else text
  if text.length ≤ 50 then text else (text.take 50).rdropWhile (· == '-')

theorem slugStep_foldl (cs out : List Char) (gap : Bool) :
    (cs.foldl slugStep (out, gap)).1
      = out ++ Words.squeeze Char.isAlphanum Char.toLower '-' gap cs := by
  induction cs generalizing out gap with
  | nil => simp [Words.squeeze]
  | cons c cs ih =>
    rw [List.foldl_cons]
    unfold Words.squeeze
    by_cases hc : c.isAlphanum = true
    · have hstep : slugStep (out, gap) c = (out ++ [c.toLower], false) := by simp [slugStep, hc]
      rw [hstep, ih, if_pos hc, List.append_assoc]
      rfl
    · rw [if_neg hc]
      cases gap with
      | true =>
        have hstep : slugStep (out, true) c = (out, true) := by simp [slugStep, hc]
        rw [hstep, ih, if_pos rfl]
      | false =>
        have hstep : slugStep (out, false) c = (out ++ ['-'], true) := by simp [slugStep, hc]
        rw [hstep, ih, if_neg (by simp), List.append_assoc]
        rfl

/-- A letter or digit in lower case is no dash. -/
theorem toLower_ne_dash (c : Char) (h : c.isAlphanum = true) : c.toLower ≠ '-' := by
  intro heq
  unfold Char.toLower at heq
  split at heq
  · rename_i hupper
    have hvalue : (c.val + ('a'.val - 'A'.val)).toNat = ('-' : Char).val.toNat :=
      congrArg (fun c : Char => c.val.toNat) heq
    have hlow : 65 ≤ c.val.toNat := hupper.1
    have hhigh : c.val.toNat ≤ 90 := hupper.2
    rw [UInt32.toNat_add] at hvalue
    have hshift : ('a'.val - 'A'.val).toNat = 32 := rfl
    have hdash : ('-' : Char).val.toNat = 45 := rfl
    omega
  · rw [heq] at h
    exact absurd h (by decide)

/-- **A slug is what a name reads as.** -/
theorem slug_eq (name : String) : slug name = String.ofList (readsAs name) := by
  unfold slug readsAs
  have hfold := slugStep_foldl name.toList [] true
  rw [List.nil_append] at hfold
  have hwords := Words.squeeze_words Char.isAlphanum Char.toLower '-' toLower_ne_dash name.toList
  have hdrop := Words.dropWhile_squeeze Char.isAlphanum Char.toLower '-' toLower_ne_dash name.toList
    (List.rdropWhile_prefix (· == '-') _)
  rw [hwords] at hdrop
  simp only [hfold, hwords, hdrop, List.isEmpty_iff]
  apply congrArg String.ofList
  by_cases hlong : (if Words.joined '-' (Words.words Char.isAlphanum Char.toLower name.toList) = []
      then "replica".toList
      else Words.joined '-' (Words.words Char.isAlphanum Char.toLower name.toList)).length ≤ 50
  · rw [if_pos hlong, if_neg (not_lt.mpr hlong)]
  · rw [if_neg hlong, if_pos (not_le.mp hlong)]

/-! ## Names of Secrets -/

section Names

variable (replica : Replica)

/-- Two users share a Secret exactly when their names read alike. -/
theorem extraUserSecretName_inj {a b : String} :
    extraUserSecretName replica a = extraUserSecretName replica b ↔ readsAs a = readsAs b := by
  unfold extraUserSecretName
  rw [String.append_left_inj, String.append_right_inj, slug_eq, slug_eq, String.ofList_inj]

/-- No extra user has the Secret of the analytics user. -/
theorem extraUserSecretName_ne_creds (a : String) :
    extraUserSecretName replica a ≠ credsSecretName replica := by
  intro h
  have hlength := congrArg String.length h
  unfold extraUserSecretName credsSecretName at hlength
  simp only [String.length_append] at hlength
  have huser : "-user-".length = 6 := rfl
  omega

end Names

/-! ## The Secrets a pass makes -/

section Store

variable (draw : Nat → String) (replica : Replica)

/-- **Each Secret of an extra user is that user's own**: it carries the user's name, and a password
    that was generated for it alone; `drawn` says which. -/
structure Made (drawn : String → Nat) (s : Secrets) : Prop where
  own : ∀ u ∈ extraUsers replica.spec, ∀ c,
    s.byName (extraUserSecretName replica u.name) = some c →
    c = ⟨u.name, draw (drawn u.name)⟩ ∧ drawn u.name < s.generated
  apart : ∀ u ∈ extraUsers replica.spec, ∀ v ∈ extraUsers replica.spec, u.name ≠ v.name →
    s.byName (extraUserSecretName replica u.name) ≠ none →
    s.byName (extraUserSecretName replica v.name) ≠ none → drawn u.name ≠ drawn v.name

/-- No Secret of an extra user is there yet. -/
def Clean (s : Secrets) : Prop :=
  ∀ u ∈ extraUsers replica.spec, s.byName (extraUserSecretName replica u.name) = none

/-- Different users have different Secrets. -/
def DistinctNames : Prop :=
  ∀ u ∈ extraUsers replica.spec, ∀ v ∈ extraUsers replica.spec, u.name ≠ v.name →
    extraUserSecretName replica u.name ≠ extraUserSecretName replica v.name

variable {draw replica}

theorem create_self (s : Secrets) (name username : String) :
    (s.create draw name username).byName name = some ⟨username, draw s.generated⟩ := by
  simp [Secrets.create]

theorem create_of_ne (s : Secrets) {name other : String} (username : String) (h : other ≠ name) :
    (s.create draw name username).byName other = s.byName other := by
  simp [Secrets.create, Function.update_of_ne h]

theorem Clean.made {s : Secrets} (h : Clean replica s) (drawn : String → Nat) :
    Made draw replica drawn s := by
  constructor
  · intro u hu c hc
    rw [h u hu] at hc
    exact absurd hc (by simp)
  · intro u hu _ _ _ hpresent
    exact absurd (h u hu) hpresent

/-- A password generated for nothing disturbs no Secret. -/
theorem Made.skip {drawn : String → Nat} {s : Secrets} (h : Made draw replica drawn s) :
    Made draw replica drawn s.skip := by
  constructor
  · intro u hu c hc
    obtain ⟨hown, hlt⟩ := h.own u hu c hc
    exact ⟨hown, Nat.lt_succ_of_lt hlt⟩
  · exact h.apart

/-- A new Secret is its user's own, and takes no other user's. -/
theorem Made.create (hdistinct : DistinctNames replica) {drawn : String → Nat} {s : Secrets}
    (h : Made draw replica drawn s) {user : ExtraUserSpec}
    (huser : user ∈ extraUsers replica.spec) :
    Made draw replica (Function.update drawn user.name s.generated)
      (s.create draw (extraUserSecretName replica user.name) user.name) := by
  have hother : ∀ v ∈ extraUsers replica.spec, v.name ≠ user.name →
      (s.create draw (extraUserSecretName replica user.name) user.name).byName
        (extraUserSecretName replica v.name) = s.byName (extraUserSecretName replica v.name) := by
    intro v hv hne
    exact create_of_ne s user.name (hdistinct v hv user huser hne)
  have holder : ∀ v ∈ extraUsers replica.spec,
      s.byName (extraUserSecretName replica v.name) ≠ none → drawn v.name < s.generated := by
    intro v hv hpresent
    obtain ⟨c, hc⟩ := Option.ne_none_iff_exists'.mp hpresent
    exact (h.own v hv c hc).2
  constructor
  · intro v hv c hc
    by_cases hname : v.name = user.name
    · rw [hname, Function.update_self]
      rw [hname, create_self] at hc
      exact ⟨(Option.some.inj hc).symm, Nat.lt_succ_self _⟩
    · rw [hother v hv hname] at hc
      obtain ⟨hown, hlt⟩ := h.own v hv c hc
      rw [Function.update_of_ne hname]
      exact ⟨hown, Nat.lt_succ_of_lt hlt⟩
  · intro u hu v hv hne hu' hv'
    by_cases hun : u.name = user.name
    · have hvn : v.name ≠ user.name := fun hvn => hne (hun.trans hvn.symm)
      rw [hother v hv hvn] at hv'
      rw [hun, Function.update_self, Function.update_of_ne hvn]
      exact (holder v hv hv').ne'
    · rw [hother u hu hun] at hu'
      rw [Function.update_of_ne hun]
      by_cases hvn : v.name = user.name
      · rw [hvn, Function.update_self]
        exact (holder u hu hu').ne
      · rw [hother v hv hvn] at hv'
        rw [Function.update_of_ne hvn]
        exact h.apart u hu v hv hne hu' hv'

/-- A Secret that is there stays. -/
theorem ensureUserSecrets_keeps (replies : SecretReplies) {name : String} {c : Credentials} :
    ∀ (users : List ExtraUserSpec) (s : Secrets), s.byName name = some c →
      (ensureUserSecrets draw replies replica users s).2.byName name = some c := by
  intro users
  induction users with
  | nil => exact fun s h => h
  | cons user rest ih =>
    intro s h
    unfold ensureUserSecrets
    simp only []
    cases replies.get (extraUserSecretName replica user.name) with
    | some e => exact h
    | none =>
      cases hpresent : s.byName (extraUserSecretName replica user.name) with
      | some c' => exact ih s h
      | none =>
        have hne : name ≠ extraUserSecretName replica user.name := by
          intro heq
          rw [← heq, h] at hpresent
          exact absurd hpresent (by simp)
        have hcreate : (s.create draw (extraUserSecretName replica user.name) user.name).byName name
            = some c := (create_of_ne s user.name hne).trans h
        cases replies.create (extraUserSecretName replica user.name) with
        | ok => exact ih _ hcreate
        | refused e => exact h
        | cut => exact h
        | lost e => exact hcreate
        | cutAfter => exact hcreate

/-- A name that is no user's Secret is left alone. -/
theorem ensureUserSecrets_other (replies : SecretReplies) {name : String}
    (hname : ∀ user, name ≠ extraUserSecretName replica user) :
    ∀ (users : List ExtraUserSpec) (s : Secrets),
      (ensureUserSecrets draw replies replica users s).2.byName name = s.byName name := by
  intro users
  induction users with
  | nil => exact fun s => rfl
  | cons user rest ih =>
    intro s
    have hcreate : (s.create draw (extraUserSecretName replica user.name) user.name).byName name
        = s.byName name := create_of_ne s user.name (hname user.name)
    unfold ensureUserSecrets
    simp only []
    cases replies.get (extraUserSecretName replica user.name) with
    | some e => rfl
    | none =>
      cases s.byName (extraUserSecretName replica user.name) with
      | some c => exact ih s
      | none =>
        cases replies.create (extraUserSecretName replica user.name) with
        | ok => exact (ih _).trans hcreate
        | refused e => rfl
        | cut => rfl
        | lost e => exact hcreate
        | cutAfter => exact hcreate

/-- **A pass makes Secrets that are their users' own**, wherever it stops; and when it goes through
    each user has one. -/
theorem ensureUserSecrets_made (hdistinct : DistinctNames replica) (replies : SecretReplies) :
    ∀ (users : List ExtraUserSpec) (s : Secrets) (drawn : String → Nat),
      (∀ u ∈ users, u ∈ extraUsers replica.spec) → Made draw replica drawn s →
      (∃ drawn', Made draw replica drawn' (ensureUserSecrets draw replies replica users s).2) ∧
        ((ensureUserSecrets draw replies replica users s).1 = true → ∀ u ∈ users,
          (ensureUserSecrets draw replies replica users s).2.byName
            (extraUserSecretName replica u.name) ≠ none) := by
  intro users
  induction users with
  | nil =>
    intro s drawn _ hmade
    exact ⟨⟨drawn, hmade⟩, fun _ u hu => absurd hu (by simp)⟩
  | cons user rest ih =>
    intro s drawn husers hmade
    have huser := husers user List.mem_cons_self
    have hrest : ∀ u ∈ rest, u ∈ extraUsers replica.spec :=
      fun u hu => husers u (List.mem_cons_of_mem _ hu)
    have hcreate := hmade.create hdistinct huser
    -- once the user's Secret is there, the rest of the pass keeps it
    have hthrough : ∀ (s' : Secrets) (drawn' : String → Nat), Made draw replica drawn' s' →
        s'.byName (extraUserSecretName replica user.name) ≠ none →
        (∃ d, Made draw replica d (ensureUserSecrets draw replies replica rest s').2) ∧
          ((ensureUserSecrets draw replies replica rest s').1 = true → ∀ u ∈ user :: rest,
            (ensureUserSecrets draw replies replica rest s').2.byName
              (extraUserSecretName replica u.name) ≠ none) := by
      intro s' drawn' hmade' hpresent
      obtain ⟨hkept, hall⟩ := ih s' drawn' hrest hmade'
      refine ⟨hkept, ?_⟩
      intro hok u hu
      rcases List.mem_cons.mp hu with rfl | hu
      · obtain ⟨c, hc⟩ := Option.ne_none_iff_exists'.mp hpresent
        rw [ensureUserSecrets_keeps replies rest s' hc]
        simp
      · exact hall hok u hu
    unfold ensureUserSecrets
    simp only []
    cases replies.get (extraUserSecretName replica user.name) with
    | some e => exact ⟨⟨drawn, hmade⟩, fun h => absurd h (by simp)⟩
    | none =>
      cases hpresent : s.byName (extraUserSecretName replica user.name) with
      | some c => exact hthrough s drawn hmade (by simp [hpresent])
      | none =>
        cases replies.create (extraUserSecretName replica user.name) with
        | ok =>
          apply hthrough _ _ hcreate
          rw [create_self]
          simp
        | refused e => exact ⟨⟨drawn, hmade.skip⟩, fun h => absurd h (by simp)⟩
        | cut => exact ⟨⟨drawn, hmade.skip⟩, fun h => absurd h (by simp)⟩
        | lost e => exact ⟨⟨_, hcreate⟩, fun h => absurd h (by simp)⟩
        | cutAfter => exact ⟨⟨_, hcreate⟩, fun h => absurd h (by simp)⟩

/-- The Secrets after some passes, each of which may fail anywhere. -/
def afterPasses (draw : Nat → String) (replica : Replica) (passes : List SecretReplies)
    (s : Secrets) : Secrets :=
  passes.foldl (fun s replies => (ensureExtraUserSecrets draw replies replica s).2) s

theorem afterPasses_made (hdistinct : DistinctNames replica) (passes : List SecretReplies)
    {s : Secrets} (h : ∃ drawn, Made draw replica drawn s) :
    ∃ drawn, Made draw replica drawn (afterPasses draw replica passes s) := by
  induction passes generalizing s with
  | nil => exact h
  | cons replies rest ih =>
    obtain ⟨drawn, hmade⟩ := h
    exact ih (ensureUserSecrets_made hdistinct replies _ s drawn (fun _ hu => hu) hmade).1

theorem afterPasses_other (passes : List SecretReplies) {name : String}
    (hname : ∀ user, name ≠ extraUserSecretName replica user) (s : Secrets) :
    (afterPasses draw replica passes s).byName name = s.byName name := by
  induction passes generalizing s with
  | nil => rfl
  | cons replies rest ih => exact (ih _).trans (ensureUserSecrets_other replies hname _ s)

end Store

/-- **Every login role has its own password**: each extra user's Secret carries that user's name
    and a password generated for it, the Deployment provisions the role with it, and no two roles
    have the same draw of the generator. -/
def OwnPasswords (draw : Nat → String) (replica : Replica) (s : Secrets) : Prop :=
  ∃ drawn : String → Nat,
    (∀ u ∈ extraUsers replica.spec, s.byName (extraUserSecretName replica u.name)
      = some ⟨u.name, draw (drawn u.name)⟩) ∧
    (∀ role ∈ deploymentUsers replica, provisioned s role = some (draw (drawn role.username))) ∧
    (∀ u ∈ extraUsers replica.spec, ∀ v ∈ extraUsers replica.spec, u.name ≠ v.name →
      drawn u.name ≠ drawn v.name)

/-- **What the extra users of a replica are promised.** -/
structure OwnSecrets (replica : Replica) : Prop where
  /-- Different users have different Secrets, none of them the analytics user's. -/
  distinct : DistinctNames replica
  apartFromCreds : ∀ u ∈ extraUsers replica.spec,
    extraUserSecretName replica u.name ≠ credsSecretName replica
  /-- After a pass that goes through, whatever passes failed before it. -/
  ensured : ∀ (draw : Nat → String) (passes : List SecretReplies) (last : SecretReplies)
    (s : Secrets), Clean replica s →
    (ensureExtraUserSecrets draw last replica (afterPasses draw replica passes s)).1 = true →
    let made := (ensureExtraUserSecrets draw last replica (afterPasses draw replica passes s)).2
    made.byName (credsSecretName replica) = s.byName (credsSecretName replica) ∧
      OwnPasswords draw replica made

/-- Distinct names are enough for the rest. -/
theorem DistinctNames.ownSecrets {replica : Replica} (h : DistinctNames replica) :
    OwnSecrets replica := by
  refine ⟨h, fun u _ => extraUserSecretName_ne_creds replica u.name, ?_⟩
  intro draw passes last s hclean hthrough made
  have hcreds : ∀ user, credsSecretName replica ≠ extraUserSecretName replica user :=
    fun user => (extraUserSecretName_ne_creds replica user).symm
  refine ⟨?_, ?_⟩
  · exact (ensureUserSecrets_other last hcreds _ _).trans (afterPasses_other passes hcreds s)
  · have hbefore : ∃ drawn, Made draw replica drawn (afterPasses draw replica passes s) :=
      afterPasses_made h passes ⟨fun _ => 0, hclean.made _⟩
    obtain ⟨drawn₀, hmade₀⟩ := hbefore
    obtain ⟨⟨drawn, hmade⟩, hall⟩ :=
      ensureUserSecrets_made h last _ _ drawn₀ (fun _ hu => hu) hmade₀
    have hpresent := hall hthrough
    have hsecret : ∀ u ∈ extraUsers replica.spec, made.byName (extraUserSecretName replica u.name)
        = some ⟨u.name, draw (drawn u.name)⟩ := by
      intro u hu
      obtain ⟨c, hc⟩ := Option.ne_none_iff_exists'.mp (hpresent u hu)
      rw [← (hmade.own u hu c hc).1]
      exact hc
    refine ⟨drawn, hsecret, ?_, ?_⟩
    · intro role hrole
      obtain ⟨u, hu, rfl⟩ := List.mem_map.mp hrole
      unfold provisioned
      rw [hsecret u hu]
      rfl
    · intro u hu v hv hne
      exact hmade.apart u hu v hv hne (hpresent u hu) (hpresent v hv)

/-- **Extra users have their own Secrets exactly when no two of their names read alike**: the same
    words of ASCII letters and digits, but for case, as far as the first fifty characters. -/
theorem own_secrets_iff (replica : Replica) :
    OwnSecrets replica ↔
      ∀ u ∈ extraUsers replica.spec, ∀ v ∈ extraUsers replica.spec, u.name ≠ v.name →
        readsAs u.name ≠ readsAs v.name := by
  constructor
  · intro h u hu v hv hne halike
    exact h.distinct u hu v hv hne ((extraUserSecretName_inj replica).mpr halike)
  · intro h
    apply DistinctNames.ownSecrets
    intro u hu v hv hne hsame
    exact h u hu v hv hne ((extraUserSecretName_inj replica).mp hsame)

/-- A replica with two users that differ in the case of a letter. -/
def caseReplica : Replica where
  name := "prod"
  spec := { schedule := "0 3 * * *", extraUsers := [{ name := "Ann" }, { name := "ann" }] }

/-- **Two users, one Secret**: the second is provisioned with the password of the first, under
    whose name it is. -/
theorem case_shares_secret :
    (extraUsers caseReplica.spec).map ExtraUserSpec.name = ["Ann", "ann"] ∧
    ¬ OwnSecrets caseReplica ∧
    (ensureExtraUserSecrets toString {} caseReplica { byName := fun _ => none }).1 = true ∧
    (deploymentUsers caseReplica).map (provisioned
      (ensureExtraUserSecrets toString {} caseReplica { byName := fun _ => none }).2)
        = [some "0", some "0"] := by
  refine ⟨by decide +kernel, ?_, by decide +kernel, by decide +kernel⟩
  intro h
  exact h.distinct { name := "Ann" } (by decide +kernel) { name := "ann" } (by decide +kernel)
    (by decide) (by decide +kernel)

end RestoreOperator
