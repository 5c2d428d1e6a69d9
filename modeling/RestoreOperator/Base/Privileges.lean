import Mathlib.Data.List.Basic

/-!
# `Base.Privileges` — owners, grants and what is left of them

An object has an owner and a list of grants, each to one role or to everyone, and each made by somebody.
Privileges only add up: nothing in the list takes anything away, so a role is kept from an object exactly when
no grant lets it in.  A superuser revokes on behalf of the owner, and so takes back what the owner granted
and nothing else.
-/

namespace Privileges

variable {ρ π : Type}

/-- Whom something is granted to. -/
inductive Grantee (ρ : Type) where
  | everyone
  | role (r : ρ)
  deriving Repr, DecidableEq

/-- A privilege that was granted. -/
structure Grant (ρ π : Type) where
  grantee : Grantee ρ
  privilege : π
  grantor : ρ
  deriving Repr, DecidableEq

/-- **Who may do what with an object.** -/
structure Access (ρ π : Type) where
  owner : ρ
  grants : List (Grant ρ π)
  deriving Repr, DecidableEq

namespace Access

variable {a : Access ρ π} {g : Grantee ρ} {r : ρ} {p : π} {P : π → Prop}

/-! ## Granting -/

/-- Grant a privilege, as the owner. -/
def grant (g : Grantee ρ) (p : π) (a : Access ρ π) : Access ρ π :=
  { a with grants := a.grants ++ [⟨g, p, a.owner⟩] }

/-- A grant lets the role use the privilege. -/
def Allows (a : Access ρ π) (r : ρ) (p : π) : Prop :=
  ∃ x ∈ a.grants, x.privilege = p ∧ (x.grantee = .everyone ∨ x.grantee = .role r)

/-- Everything was granted by the owner. -/
def ByOwner (a : Access ρ π) : Prop := ∀ x ∈ a.grants, x.grantor = a.owner

/-- Nothing is granted to everyone. -/
def Closed (a : Access ρ π) : Prop := ∀ x ∈ a.grants, x.grantee ≠ .everyone

/-- **A role may use at most these privileges**: it does not own the object, and nothing else is granted to it
    by its name. -/
def Within (r : ρ) (P : π → Prop) (a : Access ρ π) : Prop :=
  a.owner ≠ r ∧ ∀ x ∈ a.grants, x.grantee = .role r → P x.privilege

/-- **What is closed to everyone and within bounds allows nothing beyond them.** -/
theorem Within.of_allows (h : a.Within r P) (hclosed : a.Closed) (hallows : a.Allows r p) : P p := by
  obtain ⟨x, hx, rfl, hgrantee⟩ := hallows
  exact h.2 x hx (hgrantee.resolve_left (hclosed x hx))

theorem Within.mono {Q : π → Prop} (h : a.Within r P) (hmono : ∀ p, P p → Q p) : a.Within r Q :=
  ⟨h.1, fun x hx heq => hmono _ (h.2 x hx heq)⟩

theorem mem_grant {x : Grant ρ π} : x ∈ (a.grant g p).grants ↔ x ∈ a.grants ∨ x = ⟨g, p, a.owner⟩ := by
  unfold grant
  rw [List.mem_append, List.mem_singleton]

theorem ByOwner.grant (h : a.ByOwner) (g : Grantee ρ) (p : π) : (a.grant g p).ByOwner := by
  intro x hx
  rcases mem_grant.mp hx with hx | rfl
  · exact h x hx
  · rfl

theorem Closed.grant (h : a.Closed) (r : ρ) (p : π) : (a.grant (.role r) p).Closed := by
  intro x hx
  rcases mem_grant.mp hx with hx | rfl
  · exact h x hx
  · exact fun heq => nomatch heq

theorem Within.grant (h : a.Within r P) (hp : g = .role r → P p) : (a.grant g p).Within r P := by
  refine ⟨h.1, fun x hx heq => ?_⟩
  rcases mem_grant.mp hx with hx | rfl
  · exact h.2 x hx heq
  · exact hp heq

theorem allows_grant : (a.grant (.role r) p).Allows r p := ⟨_, mem_grant.mpr (.inr rfl), rfl, .inr rfl⟩

theorem Allows.grant (h : a.Allows r p) (g : Grantee ρ) (q : π) : (a.grant g q).Allows r p := by
  obtain ⟨x, hx, hallows⟩ := h
  exact ⟨x, mem_grant.mpr (.inl hx), hallows⟩

end Access

section Names

variable [DecidableEq ρ]

/-- A role takes the place of another. -/
def rename (old new r : ρ) : ρ := if r = old then new else r

def Grantee.rename (old new : ρ) : Grantee ρ → Grantee ρ
  | everyone => everyone
  | role r => role (Privileges.rename old new r)

theorem Grantee.rename_everyone_iff {old new : ρ} {g : Grantee ρ} :
    g.rename old new = .everyone ↔ g = .everyone := by
  cases g with
  | everyone => exact Iff.rfl
  | role r =>
    constructor
    · exact fun h => nomatch h
    · exact fun h => nomatch h

/-- Who is not the new role is only reached by a grant that reached him before. -/
theorem Grantee.of_rename {old new r : ρ} {g : Grantee ρ} (h : g.rename old new = .role r) (hne : r ≠ new) :
    g = .role r := by
  cases g with
  | everyone => cases h
  | role s =>
    have hrename : Privileges.rename old new s = r := by injection h
    unfold Privileges.rename at hrename
    split at hrename
    · exact absurd hrename.symm hne
    · rw [hrename]

namespace Access

variable {a : Access ρ π} {g : Grantee ρ} {r old new : ρ} {p : π} {P : π → Prop}

/-! ## Taking back -/

/-- Take back what the owner granted to a grantee. -/
def revoke (g : Grantee ρ) (a : Access ρ π) : Access ρ π :=
  { a with grants := a.grants.filter fun x => ¬(x.grantee = g ∧ x.grantor = a.owner) }

theorem mem_revoke {x : Grant ρ π} :
    x ∈ (a.revoke g).grants ↔ x ∈ a.grants ∧ ¬(x.grantee = g ∧ x.grantor = a.owner) := by
  unfold revoke
  rw [List.mem_filter, decide_eq_true_eq]

theorem ByOwner.revoke (h : a.ByOwner) (g : Grantee ρ) : (a.revoke g).ByOwner :=
  fun x hx => h x (mem_revoke.mp hx).1

/-- What the owner granted can be taken back whole. -/
theorem ByOwner.not_mem_revoke (h : a.ByOwner) {x : Grant ρ π} (hx : x ∈ (a.revoke g).grants) :
    x.grantee ≠ g := by
  obtain ⟨hmem, hkept⟩ := mem_revoke.mp hx
  exact fun hg => hkept ⟨hg, h x hmem⟩

theorem ByOwner.closed_revoke (h : a.ByOwner) : (a.revoke .everyone).Closed :=
  fun _ hx => h.not_mem_revoke hx

theorem ByOwner.within_revoke (h : a.ByOwner) (howner : a.owner ≠ r) : (a.revoke (.role r)).Within r P :=
  ⟨howner, fun _ hx heq => absurd heq (h.not_mem_revoke hx)⟩

theorem Closed.revoke (h : a.Closed) (g : Grantee ρ) : (a.revoke g).Closed :=
  fun x hx => h x (mem_revoke.mp hx).1

theorem Within.revoke (h : a.Within r P) (g : Grantee ρ) : (a.revoke g).Within r P :=
  ⟨h.1, fun x hx => h.2 x (mem_revoke.mp hx).1⟩

theorem Allows.revoke (h : a.Allows r p) (hclosed : a.Closed) (hg : g ≠ .role r) :
    (a.revoke g).Allows r p := by
  obtain ⟨x, hx, hp, hgrantee⟩ := h
  have hrole := hgrantee.resolve_left (hclosed x hx)
  refine ⟨x, mem_revoke.mpr ⟨hx, fun hgone => hg ?_⟩, hp, .inr hrole⟩
  rw [← hgone.1, hrole]

/-! ## Handing over -/

/-- **Hand an object over**, if it belongs to `old`: what was granted by and to the old owner is the new one's. -/
def reassign (old new : ρ) (a : Access ρ π) : Access ρ π :=
  if a.owner = old then
    { owner := new
      grants := a.grants.map fun x => ⟨x.grantee.rename old new, x.privilege, rename old new x.grantor⟩ }
  else a

theorem ByOwner.reassign (h : a.ByOwner) (old new : ρ) : (a.reassign old new).ByOwner := by
  unfold Access.reassign
  split
  · rename_i howner
    intro x hx
    obtain ⟨y, hy, rfl⟩ := List.mem_map.mp hx
    show rename old new y.grantor = new
    rw [h y hy, howner, rename, if_pos rfl]
  · exact h

theorem Closed.reassign (h : a.Closed) (old new : ρ) : (a.reassign old new).Closed := by
  unfold Access.reassign
  split
  · intro x hx heq
    obtain ⟨y, hy, rfl⟩ := List.mem_map.mp hx
    exact h y hy (Grantee.rename_everyone_iff.mp heq)
  · exact h

/-- Handed over, an object belongs to its old owner no more. -/
theorem owner_reassign_self (hne : r ≠ new) : (a.reassign r new).owner ≠ r := by
  unfold Access.reassign
  split
  · exact fun heq => hne heq.symm
  · rename_i hother
    exact hother

theorem owner_reassign_ne (hne : r ≠ new) (h : a.owner ≠ r) (old : ρ) : (a.reassign old new).owner ≠ r := by
  unfold Access.reassign
  split
  · exact fun heq => hne heq.symm
  · exact h

theorem Within.reassign (h : a.Within r P) (hne : r ≠ new) (old : ρ) : (a.reassign old new).Within r P := by
  refine ⟨owner_reassign_ne hne h.1 old, ?_⟩
  unfold Access.reassign
  split
  · intro x hx heq
    obtain ⟨y, hy, rfl⟩ := List.mem_map.mp hx
    exact h.2 y hy (Grantee.of_rename heq hne)
  · exact h.2

end Access

end Names

end Privileges
