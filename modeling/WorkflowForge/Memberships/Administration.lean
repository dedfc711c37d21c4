import Mathlib.Logic.Relation
import WorkflowForge.Application.MembershipAdministration

/-! Runs of administered membership mutations over the stored memberships. -/

namespace WorkflowForge

/-- The stored memberships; the identifier is the primary key. -/
structure MembershipStore where
  rows : List Membership
  distinct : (rows.map Membership.id).Nodup

namespace MembershipStore

/-- The organization has an active owner. -/
def HasActiveOwner (store : MembershipStore) (organizationId : UUID) : Prop :=
  ∃ row ∈ store.rows, row.organizationId = organizationId ∧ row.isActiveOwner = true

/-- The memberships with the owner role. -/
def owners (store : MembershipStore) : List Membership :=
  store.rows.filter (fun row => row.role == .owner)

/-- The list has every current membership of the organization, and whatever it has of the
organization is current. Duplicates and other organizations are free. -/
def Current (store : MembershipStore) (organizationId : UUID)
    (memberships : List Membership) : Prop :=
  ∀ membership, membership.organizationId = organizationId →
    (membership ∈ memberships ↔ membership ∈ store.rows)

/-- Saving the target's new version. -/
def replace (rows : List Membership) (changed : Membership) : List Membership :=
  rows.map (fun row => if row.id = changed.id then changed else row)

end MembershipStore

/-- One mutation that the actor makes and the policy allows, with the memberships that the
policy was given. -/
inductive MembershipStep (actor : Membership) (memberships : List Membership)
    : MembershipStore → MembershipStore → Prop where
  | invite {before after id userId organizationId role now invited}
    (created : Membership.invite id userId organizationId role now = .ok invited)
    (fresh : invited.id ∉ before.rows.map Membership.id)
    (allowed
      : MembershipAdministrationPolicy.ensureTargetManageable actor invited .invite
          memberships = .ok ())
    (stored : after.rows = before.rows ++ [invited])
    : MembershipStep actor memberships before after
  | change {before after target now changed}
    (change : MembershipChange)
    (found : target ∈ before.rows)
    (allowed : change.check actor target memberships = .ok ())
    (changes : change.apply now target = .ok changed)
    (stored : after.rows = MembershipStore.replace before.rows changed)
    : MembershipStep actor memberships before after

/-- Runs of allowed mutations whose store, actor and given list satisfy a condition. -/
def MembershipRun (condition : MembershipStore → Membership → List Membership → Prop)
    : MembershipStore → MembershipStore → Prop :=
  Relation.ReflTransGen
    (fun before after =>
      ∃ actor memberships,
        condition before actor memberships ∧ MembershipStep actor memberships before after)

-----------------------------------------------------------------------------------------
-- What the domain's transitions keep
-----------------------------------------------------------------------------------------

namespace Membership

theorem postInit_eq_ok {membership result : Membership}
    (accepted : membership.postInit = .ok result)
    : result = membership := by
  obtain ⟨⟨⟩, -, accepted⟩ := exists_of_bind_ok accepted
  obtain ⟨⟨⟩, -, accepted⟩ := exists_of_bind_ok accepted
  obtain ⟨⟨⟩, -, accepted⟩ := exists_of_bind_ok accepted
  split at accepted
  · exact nomatch accepted
  · obtain ⟨⟨⟩, -, accepted⟩ := exists_of_bind_ok accepted
    exact (Except.ok.inj accepted).symm

/-- A mutation that needs a time stamp ends in the constructor. -/
theorem eq_of_stamped {self result : Membership} {now : Datetime}
    {build : Timestamp → Membership}
    (accepted
      : (do
          let timestamp ← self.mutationTimestamp now
          postInit (build timestamp)) = .ok result)
    : ∃ timestamp, result = build timestamp := by
  obtain ⟨timestamp, -, accepted⟩ := exists_of_bind_ok accepted
  exact ⟨timestamp, postInit_eq_ok accepted⟩

theorem invalidTransition_ne_ok {α : Type} {self : Membership} {operation : String} {value : α}
    : self.invalidTransition operation ≠ .ok value := by
  unfold invalidTransition
  split <;> simp

/-- Activation and reactivation leave an active membership with the same role. -/
theorem activate_eq_ok {self result : Membership} {now : Datetime}
    (activated : self.activate now = .ok result)
    : result.id = self.id ∧ result.organizationId = self.organizationId
      ∧ result.role = self.role ∧ result.status = .active := by
  unfold activate at activated
  split at activated
  · rename_i active
    cases activated
    exact ⟨rfl, rfl, rfl, active⟩
  · split at activated
    · exact absurd activated invalidTransition_ne_ok
    · obtain ⟨timestamp, rfl⟩ := eq_of_stamped activated
      exact ⟨rfl, rfl, rfl, rfl⟩

theorem reactivate_eq_ok {self result : Membership} {now : Datetime}
    (reactivated : self.reactivate now = .ok result)
    : result.id = self.id ∧ result.organizationId = self.organizationId
      ∧ result.role = self.role ∧ result.status = .active := by
  unfold reactivate at reactivated
  split at reactivated
  · rename_i active
    cases reactivated
    exact ⟨rfl, rfl, rfl, active⟩
  · split at reactivated
    · exact absurd reactivated invalidTransition_ne_ok
    · obtain ⟨timestamp, rfl⟩ := eq_of_stamped reactivated
      exact ⟨rfl, rfl, rfl, rfl⟩

theorem suspend_eq_ok {self result : Membership} {now : Datetime}
    (suspended : self.suspend now = .ok result)
    : result.id = self.id ∧ result.organizationId = self.organizationId
      ∧ result.role = self.role := by
  unfold suspend at suspended
  split at suspended
  · exact absurd suspended invalidTransition_ne_ok
  · obtain ⟨timestamp, rfl⟩ := eq_of_stamped suspended
    exact ⟨rfl, rfl, rfl⟩

theorem remove_eq_ok {self result : Membership} {now : Datetime}
    (removed : self.remove now = .ok result)
    : result.id = self.id ∧ result.organizationId = self.organizationId
      ∧ result.role = self.role := by
  unfold remove at removed
  split at removed
  · cases removed
    exact ⟨rfl, rfl, rfl⟩
  · obtain ⟨timestamp, rfl⟩ := eq_of_stamped removed
    exact ⟨rfl, rfl, rfl⟩

/-- A role change to the current role changes nothing. -/
theorem changeRole_eq_ok {self result : Membership} {role : Role} {now : Datetime}
    (changed : self.changeRole role now = .ok result)
    : result.id = self.id ∧ result.organizationId = self.organizationId
      ∧ result.role = role ∧ result.status = self.status
      ∧ (role = self.role → result = self) := by
  unfold changeRole at changed
  split at changed
  · cases changed
  · split at changed
    · exact absurd changed invalidTransition_ne_ok
    · split at changed
      · rename_i same
        cases changed
        exact ⟨rfl, rfl, same.symm, rfl, fun _ => rfl⟩
      · rename_i different
        obtain ⟨timestamp, rfl⟩ := eq_of_stamped changed
        exact ⟨rfl, rfl, rfl, rfl, fun same => absurd same different⟩

end Membership

namespace MembershipChange

/-- No mutation moves a membership to another identifier or organization. -/
theorem apply_identity {change : MembershipChange} {target changed : Membership}
    {now : Datetime} (changes : change.apply now target = .ok changed)
    : changed.id = target.id ∧ changed.organizationId = target.organizationId := by
  cases change with
  | activate =>
      have facts := Membership.activate_eq_ok changes
      exact ⟨facts.1, facts.2.1⟩
  | reactivate =>
      have facts := Membership.reactivate_eq_ok changes
      exact ⟨facts.1, facts.2.1⟩
  | suspend =>
      have facts := Membership.suspend_eq_ok changes
      exact ⟨facts.1, facts.2.1⟩
  | remove =>
      have facts := Membership.remove_eq_ok changes
      exact ⟨facts.1, facts.2.1⟩
  | changeRole role =>
      have facts := Membership.changeRole_eq_ok changes
      exact ⟨facts.1, facts.2.1⟩

end MembershipChange

-----------------------------------------------------------------------------------------
-- What the policy lets through
-----------------------------------------------------------------------------------------

/-- The last active owner is protected: a mutation of an active owner needs another one. -/
theorem exists_other_of_ensureNotLastActiveOwner {target : Membership}
    {memberships : List Membership} {mutation : MembershipMutation}
    (owner : target.isActiveOwner = true)
    (allowed : ensureNotLastActiveOwner target memberships mutation = .ok ())
    : ∃ other ∈ memberships,
        other.organizationId = target.organizationId ∧ other.isActiveOwner = true
        ∧ other.id ≠ target.id := by
  obtain ⟨role, status⟩ : target.role = .owner ∧ target.status = .active := by
    simpa [Membership.isActiveOwner] using owner
  by_contra none
  have only
      : ∀ id ∈ (memberships.filter (fun membership =>
            membership.organizationId == target.organizationId
            && membership.isActiveOwner)).map Membership.id,
          id = target.id := by
    intro id listed
    obtain ⟨other, kept, rfl⟩ := List.mem_map.mp listed
    obtain ⟨member, kind⟩ := List.mem_filter.mp kept
    simp only [Bool.and_eq_true, beq_iff_eq] at kind
    by_contra different
    exact none ⟨other, member, kind.1, kind.2, different⟩
  have single
      : (target.id
          :: (memberships.filter (fun membership =>
                membership.organizationId == target.organizationId
                && membership.isActiveOwner)).map Membership.id).dedup = [target.id] := by
    rw [List.eq_replicate_of_mem only, ← List.replicate_succ]
    exact List.replicate_dedup (Nat.succ_ne_zero _)
  simp [ensureNotLastActiveOwner, role, status, single] at allowed

namespace MembershipAdministrationPolicy

theorem organization_of_ensureSameOrganization {actor target : Membership}
    (allowed : ensureSameOrganization actor target = .ok ())
    : actor.organizationId = target.organizationId := by
  by_contra different
  simp [ensureSameOrganization, different] at allowed

theorem denied_ne_ok {actor target : Membership} {reason : String}
    : denied actor target reason ≠ .ok () :=
  fun allowed => nomatch allowed

/-- Owners manage anyone under the last-owner rule, admins manage anyone but owners. -/
theorem ensureTargetManageable_eq_ok {actor target : Membership}
    {mutation : MembershipAdministrationMutation} {memberships : List Membership}
    (allowed : ensureTargetManageable actor target mutation memberships = .ok ())
    : actor.organizationId = target.organizationId
      ∧ (actor.role = .owner
          ∧ ensureOwnerLastOwnerRule target mutation memberships = .ok ()
        ∨ actor.role = .admin ∧ target.role ≠ .owner) := by
  obtain ⟨⟨⟩, same, allowed⟩ := exists_of_bind_ok allowed
  refine ⟨organization_of_ensureSameOrganization same, ?_⟩
  split at allowed
  · rename_i owner
    exact .inl ⟨owner, allowed⟩
  · split at allowed
    · rename_i admin
      split at allowed
      · exact absurd allowed denied_ne_ok
      · rename_i other
        exact .inr ⟨admin, other⟩
    · exact absurd allowed denied_ne_ok

/-- Owners assign any role under the last-owner rule, admins only among non-owners, and
everyone the role that is already there. -/
theorem ensureRoleAssignmentAllowed_eq_ok {actor target : Membership} {role : Role}
    {memberships : List Membership}
    (allowed : ensureRoleAssignmentAllowed actor target role memberships = .ok ())
    : actor.organizationId = target.organizationId
      ∧ (target.role = role
        ∨ actor.role = .owner
          ∧ (target.role = .owner → role ≠ .owner
            → ensureNotLastActiveOwner target memberships .demoteOwner = .ok ())
        ∨ actor.role = .admin ∧ actor.id ≠ target.id ∧ role ≠ .owner
          ∧ target.role ≠ .owner) := by
  obtain ⟨⟨⟩, same, allowed⟩ := exists_of_bind_ok allowed
  obtain ⟨⟨⟩, self, allowed⟩ := exists_of_bind_ok allowed
  refine ⟨organization_of_ensureSameOrganization same, ?_⟩
  split at allowed
  · rename_i unchanged
    exact .inl unchanged
  rename_i different
  split at allowed
  · rename_i owner
    refine .inr (.inl ⟨owner, fun targetOwner demoted => ?_⟩)
    simpa [targetOwner, demoted] using allowed
  rename_i notOwner
  have other : actor.id ≠ target.id := by
    intro equal
    simp [ensureSelfRoleChangeAllowed, equal, Ne.symm different, notOwner, denied] at self
  split at allowed
  · rename_i admin
    split at allowed
    · exact absurd allowed denied_ne_ok
    · rename_i notAssigned
      split at allowed
      · exact absurd allowed denied_ne_ok
      · rename_i notManaged
        exact .inr (.inr ⟨admin, other, notAssigned, notManaged⟩)
  · exact absurd allowed denied_ne_ok

/-- The last-owner rule for the mutations that concern owners. -/
theorem ensureNotLastActiveOwner_of_rule {target : Membership}
    {mutation : MembershipAdministrationMutation} {domain : MembershipMutation}
    {memberships : List Membership}
    (owner : target.isActiveOwner = true)
    (concerns : domainMutation mutation = some domain)
    (allowed : ensureOwnerLastOwnerRule target mutation memberships = .ok ())
    : ensureNotLastActiveOwner target memberships domain = .ok () := by
  obtain ⟨role, status⟩ : target.role = .owner ∧ target.status = .active := by
    simpa [Membership.isActiveOwner] using owner
  simpa [ensureOwnerLastOwnerRule, role, status, concerns] using allowed

end MembershipAdministrationPolicy

namespace MembershipChange

/-- Actor and target of an allowed mutation belong to one organization. -/
theorem check_organization {change : MembershipChange} {actor target : Membership}
    {memberships : List Membership}
    (allowed : change.check actor target memberships = .ok ())
    : actor.organizationId = target.organizationId := by
  cases change
  case changeRole role =>
      exact (MembershipAdministrationPolicy.ensureRoleAssignmentAllowed_eq_ok allowed).1
  all_goals exact (MembershipAdministrationPolicy.ensureTargetManageable_eq_ok allowed).1

/-- Suspending or removing an active owner takes another active owner. -/
theorem exists_other_of_manageable {actor target : Membership}
    {mutation : MembershipAdministrationMutation} {domain : MembershipMutation}
    {memberships : List Membership}
    (owner : target.isActiveOwner = true)
    (concerns : MembershipAdministrationPolicy.domainMutation mutation = some domain)
    (allowed
      : MembershipAdministrationPolicy.ensureTargetManageable actor target mutation memberships
        = .ok ())
    : ∃ other ∈ memberships,
        other.organizationId = target.organizationId ∧ other.isActiveOwner = true
        ∧ other.id ≠ target.id := by
  rcases (MembershipAdministrationPolicy.ensureTargetManageable_eq_ok allowed).2 with
    ⟨-, rule⟩ | ⟨-, notOwner⟩
  · exact exists_other_of_ensureNotLastActiveOwner owner
      (MembershipAdministrationPolicy.ensureNotLastActiveOwner_of_rule owner concerns rule)
  · simp [Membership.isActiveOwner, notOwner] at owner

/-- After an allowed mutation of an active owner, the target still is one or another one
was given. -/
theorem active_owner_or_other {change : MembershipChange} {actor target changed : Membership}
    {memberships : List Membership} {now : Datetime}
    (owner : target.isActiveOwner = true)
    (allowed : change.check actor target memberships = .ok ())
    (changes : change.apply now target = .ok changed)
    : changed.isActiveOwner = true
      ∨ ∃ other ∈ memberships,
          other.organizationId = target.organizationId ∧ other.isActiveOwner = true
          ∧ other.id ≠ target.id := by
  have parts : target.role = .owner ∧ target.status = .active := by
    simpa [Membership.isActiveOwner] using owner
  cases change with
  | activate =>
      have facts := Membership.activate_eq_ok changes
      exact .inl (by simp [Membership.isActiveOwner, facts, parts])
  | reactivate =>
      have facts := Membership.reactivate_eq_ok changes
      exact .inl (by simp [Membership.isActiveOwner, facts, parts])
  | suspend => exact .inr (exists_other_of_manageable owner rfl allowed)
  | remove => exact .inr (exists_other_of_manageable owner rfl allowed)
  | changeRole role =>
      have facts := Membership.changeRole_eq_ok changes
      by_cases kept : role = .owner
      · exact .inl (by simp [Membership.isActiveOwner, facts, parts, kept])
      · refine .inr ?_
        rcases (MembershipAdministrationPolicy.ensureRoleAssignmentAllowed_eq_ok allowed).2
          with same | ⟨-, rule⟩ | ⟨-, -, -, notOwner⟩
        · exact absurd (same.symm.trans parts.1) kept
        · exact exists_other_of_ensureNotLastActiveOwner owner (rule parts.1 kept)
        · exact absurd parts.1 notOwner

/-- An actor that is no owner changes nothing, or it is an admin and neither the target nor
its new version is an owner; the role of its own membership stays. -/
theorem effect_of_no_owner {change : MembershipChange} {actor target changed : Membership}
    {memberships : List Membership} {now : Datetime}
    (notOwner : actor.role ≠ .owner)
    (allowed : change.check actor target memberships = .ok ())
    (changes : change.apply now target = .ok changed)
    : changed = target
      ∨ actor.role = .admin ∧ target.role ≠ .owner ∧ changed.role ≠ .owner
        ∧ (actor.id = target.id → changed.role = target.role) := by
  have managed
      : ∀ mutation,
          MembershipAdministrationPolicy.ensureTargetManageable actor target mutation
              memberships = .ok ()
          → changed.role = target.role
          → actor.role = .admin ∧ target.role ≠ .owner ∧ changed.role ≠ .owner
            ∧ (actor.id = target.id → changed.role = target.role) := by
    intro mutation manageable same
    rcases (MembershipAdministrationPolicy.ensureTargetManageable_eq_ok manageable).2 with
      ⟨owner, -⟩ | ⟨admin, other⟩
    · exact absurd owner notOwner
    · exact ⟨admin, other, same ▸ other, fun _ => same⟩
  cases change with
  | activate => exact .inr (managed _ allowed (Membership.activate_eq_ok changes).2.2.1)
  | reactivate => exact .inr (managed _ allowed (Membership.reactivate_eq_ok changes).2.2.1)
  | suspend => exact .inr (managed _ allowed (Membership.suspend_eq_ok changes).2.2)
  | remove => exact .inr (managed _ allowed (Membership.remove_eq_ok changes).2.2)
  | changeRole role =>
      obtain ⟨-, -, newRole, -, same⟩ := Membership.changeRole_eq_ok changes
      rcases (MembershipAdministrationPolicy.ensureRoleAssignmentAllowed_eq_ok allowed).2
        with equal | ⟨owner, -⟩ | ⟨admin, other, assigned, target⟩
      · exact .inl (same equal.symm)
      · exact absurd owner notOwner
      · exact .inr ⟨admin, target, newRole ▸ assigned, fun self => absurd self other⟩

end MembershipChange

end WorkflowForge
