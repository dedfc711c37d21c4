import WorkflowForge.Memberships.Administration

/-! The last active owner and the owners' memberships over runs of mutations. -/

namespace WorkflowForge

namespace MembershipStore

@[ext]
theorem ext {first second : MembershipStore} (same : first.rows = second.rows)
    : first = second := by
  cases first
  cases second
  subst same
  rfl

/-- Rows with one identifier are one row. -/
theorem eq_of_id_eq {store : MembershipStore} {first second : Membership}
    (firstRow : first ∈ store.rows) (secondRow : second ∈ store.rows)
    (same : first.id = second.id)
    : first = second :=
  List.inj_on_of_nodup_map store.distinct firstRow secondRow same

/-- A row after a replacement is the new version or an old row with another identifier. -/
theorem mem_replace {rows : List Membership} {changed row : Membership}
    (stored : row ∈ replace rows changed)
    : row = changed ∨ row ∈ rows ∧ row.id ≠ changed.id := by
  obtain ⟨old, member, rfl⟩ := List.mem_map.mp stored
  by_cases same : old.id = changed.id
  · exact .inl (if_pos same)
  · rw [if_neg same]
    exact .inr ⟨member, same⟩

theorem mem_replace_of_ne {rows : List Membership} {changed row : Membership}
    (member : row ∈ rows) (different : row.id ≠ changed.id)
    : row ∈ replace rows changed :=
  List.mem_map.mpr ⟨row, member, if_neg different⟩

theorem changed_mem_replace {rows : List Membership} {changed target : Membership}
    (member : target ∈ rows) (same : changed.id = target.id)
    : changed ∈ replace rows changed :=
  List.mem_map.mpr ⟨target, member, if_pos same.symm⟩

/-- Saving a row as it is changes nothing. -/
theorem replace_self {store : MembershipStore} {target : Membership}
    (member : target ∈ store.rows)
    : replace store.rows target = store.rows := by
  refine (List.map_congr_left fun row rowMember => ?_).trans (List.map_id store.rows)
  by_cases same : row.id = target.id
  · rw [if_pos same]
    exact store.eq_of_id_eq member rowMember same.symm
  · exact if_neg same

/-- Replacing a non-owner by a non-owner leaves the owners. -/
theorem owners_replace {store : MembershipStore} {target changed : Membership}
    (member : target ∈ store.rows) (same : changed.id = target.id)
    (targetRole : target.role ≠ .owner) (changedRole : changed.role ≠ .owner)
    : (replace store.rows changed).filter (fun row => row.role == .owner) = store.owners := by
  unfold owners
  have each
      : ∀ rows, (∀ row ∈ rows, row.id = changed.id → row.role ≠ .owner)
          → (replace rows changed).filter (fun row => row.role == .owner)
            = rows.filter (fun row => row.role == .owner) := by
    intro rows others
    induction rows with
    | nil => rfl
    | cons row rows ih =>
        have rest := ih (fun row rowMember => others row (List.mem_cons_of_mem _ rowMember))
        by_cases hit : row.id = changed.id
        · have role := others row List.mem_cons_self hit
          simpa [replace, hit, role, changedRole] using rest
        · simp only [replace] at rest
          simp only [replace, List.map_cons, if_neg hit, List.filter_cons, rest]
  refine each store.rows (fun row rowMember hit => ?_)
  rw [store.eq_of_id_eq rowMember member (hit.trans same)]
  exact targetRole

end MembershipStore

-----------------------------------------------------------------------------------------
-- A sample organization: an owner, an admin, and an operator that the admin invites
-----------------------------------------------------------------------------------------

def sampleMembership (id userId : UUID) (role : Role) : Membership where
  id := id
  userId := userId
  organizationId := 3
  role := role
  status := .active
  createdAt := 0
  updatedAt := 0
  joinedAt := some 0

def sampleInvited : Membership where
  id := 12
  userId := 22
  organizationId := 3
  role := .operator
  status := .invited
  createdAt := 5
  updatedAt := 5
  invitedAt := some 5

def sampleStart : MembershipStore where
  rows := [sampleMembership 10 20 .owner, sampleMembership 11 21 .admin]
  distinct := by decide

def sampleFinish : MembershipStore where
  rows := sampleStart.rows ++ [sampleInvited]
  distinct := by decide

theorem sample_step
    : MembershipStep (sampleMembership 11 21 .admin) sampleStart.rows sampleStart
        sampleFinish :=
  @MembershipStep.invite _ _ _ _ 12 22 3 .operator (.aware 5) sampleInvited (by decide)
    (by decide) (by decide) rfl

-----------------------------------------------------------------------------------------
-- The last active owner
-----------------------------------------------------------------------------------------

/-- The policy is given all current memberships of the actor's organization. -/
def GivenCurrent (store : MembershipStore) (actor : Membership)
    (memberships : List Membership)
    : Prop :=
  store.Current actor.organizationId memberships

/-- One allowed mutation leaves an active owner. -/
theorem MembershipStep.hasActiveOwner {actor : Membership} {memberships : List Membership}
    {before after : MembershipStore} {organizationId : UUID}
    (step : MembershipStep actor memberships before after)
    (current : GivenCurrent before actor memberships)
    (owned : before.HasActiveOwner organizationId)
    : after.HasActiveOwner organizationId := by
  obtain ⟨owner, member, organization, active⟩ := owned
  cases step with
  | invite created fresh allowed stored =>
      refine ⟨owner, ?_, organization, active⟩
      rw [stored]
      exact List.mem_append_left _ member
  | @change target now changed change found allowed changes stored =>
      obtain ⟨sameId, sameOrganization⟩ := MembershipChange.apply_identity changes
      by_cases hit : owner.id = target.id
      · -- The owner is the target: it stays an active owner, or the list shows another one.
        obtain rfl := before.eq_of_id_eq member found hit
        rcases MembershipChange.active_owner_or_other active allowed changes with
          kept | ⟨other, given, otherOrganization, otherActive, different⟩
        · refine ⟨changed, ?_, sameOrganization.trans organization, kept⟩
          rw [stored]
          exact MembershipStore.changed_mem_replace found sameId
        · have actorOrganization := MembershipChange.check_organization allowed
          have otherMember : other ∈ before.rows :=
            (current other (otherOrganization.trans actorOrganization.symm)).mp given
          refine ⟨other, ?_, otherOrganization.trans organization, otherActive⟩
          rw [stored]
          exact MembershipStore.mem_replace_of_ne otherMember (sameId ▸ different)
      · refine ⟨owner, ?_, organization, active⟩
        rw [stored]
        exact MembershipStore.mem_replace_of_ne member (sameId ▸ hit)

/-- An organization with an active owner has one after every allowed run of mutations.
Witness: the owner that was not the target, or one from the list given to the policy. -/
theorem active_owner_after_run {organizationId : UUID} {start finish : MembershipStore}
    (owned : start.HasActiveOwner organizationId)
    (run : MembershipRun GivenCurrent start finish)
    : finish.HasActiveOwner organizationId := by
  induction run with
  | refl => exact owned
  | tail _ last ih =>
      obtain ⟨actor, memberships, current, step⟩ := last
      exact step.hasActiveOwner current ih

theorem active_owner_after_sample : sampleFinish.HasActiveOwner 3 := by
  have owned : sampleStart.HasActiveOwner 3 :=
    ⟨sampleMembership 10 20 .owner, by decide, by decide, by decide⟩
  exact active_owner_after_run owned (.single ⟨_, _, fun _ _ => Iff.rfl, sample_step⟩)

-----------------------------------------------------------------------------------------
-- Actors that are no owners
-----------------------------------------------------------------------------------------

/-- What a mutation by an actor that is no owner can do. -/
structure KeepsOwners (actor : Membership) (before after : MembershipStore) : Prop where
  owners : after.owners = before.owners
  ownRole
    : ∀ row ∈ before.rows, ∀ row' ∈ after.rows,
        row.id = actor.id → row'.id = actor.id → row'.role = row.role
  administrators : actor.role ≠ .admin → after = before

theorem KeepsOwners.refl {actor : Membership} {store : MembershipStore}
    : KeepsOwners actor store store where
  owners := rfl
  ownRole row member row' member' same same' := by
    rw [store.eq_of_id_eq member' member (same'.trans same.symm)]
  administrators _ := rfl

theorem MembershipStep.keepsOwners {actor : Membership} {memberships : List Membership}
    {before after : MembershipStore}
    (step : MembershipStep actor memberships before after)
    (notOwner : actor.role ≠ .owner)
    : KeepsOwners actor before after := by
  cases step with
  | @invite id userId organizationId role now invited created fresh allowed stored =>
      obtain ⟨admin, other⟩ : actor.role = .admin ∧ invited.role ≠ .owner := by
        rcases (MembershipAdministrationPolicy.ensureTargetManageable_eq_ok allowed).2 with
          ⟨owner, -⟩ | managed
        · exact absurd owner notOwner
        · exact managed
      refine { owners := ?_, ownRole := ?_, administrators := fun none => absurd admin none }
      · simp [MembershipStore.owners, stored, other]
      · intro row member row' member' same same'
        rw [stored] at member'
        rcases List.mem_append.mp member' with old | new
        · rw [before.eq_of_id_eq old member (same'.trans same.symm)]
        · obtain rfl := List.mem_singleton.mp new
          exact absurd (List.mem_map.mpr ⟨row, member, same.trans same'.symm⟩) fresh
  | @change target now changed change found allowed changes stored =>
      obtain ⟨sameId, -⟩ := MembershipChange.apply_identity changes
      rcases MembershipChange.effect_of_no_owner notOwner allowed changes with
        rfl | ⟨admin, targetRole, changedRole, self⟩
      · have same : after = before :=
          MembershipStore.ext (stored.trans (MembershipStore.replace_self found))
        exact same ▸ KeepsOwners.refl
      · refine { owners := ?_, ownRole := ?_, administrators := fun none => absurd admin none }
        · rw [MembershipStore.owners, stored]
          exact MembershipStore.owners_replace found sameId targetRole changedRole
        · intro row member row' member' same same'
          rw [stored] at member'
          rcases MembershipStore.mem_replace member' with rfl | ⟨old, -⟩
          · have hit : target = row :=
              before.eq_of_id_eq found member (sameId.symm.trans (same'.trans same.symm))
            rw [← hit]
            exact self (same'.symm.trans sameId)
          · rw [before.eq_of_id_eq old member (same'.trans same.symm)]

/-- The acting membership is no owner. -/
def ActorNotOwner (_ : MembershipStore) (actor : Membership) (_ : List Membership) : Prop :=
  actor.role ≠ .owner

/-- Runs whose actors are no owners leave the owners' memberships as they are; in each of
their steps the actor's own role stays, and only an admin changes anything. -/
theorem owners_after_run {start finish : MembershipStore}
    (run : MembershipRun ActorNotOwner start finish)
    : finish.owners = start.owners
      ∧ ∀ actor memberships next,
          ActorNotOwner finish actor memberships
          → MembershipStep actor memberships finish next
          → KeepsOwners actor finish next := by
  refine ⟨?_, fun actor memberships next notOwner step => step.keepsOwners notOwner⟩
  induction run with
  | refl => rfl
  | tail _ last ih =>
      obtain ⟨actor, memberships, notOwner, step⟩ := last
      exact (step.keepsOwners notOwner).owners.trans ih

theorem owners_after_sample : sampleFinish.owners = sampleStart.owners := by
  have notOwner
      : ActorNotOwner sampleStart (sampleMembership 11 21 .admin) sampleStart.rows := by
    unfold ActorNotOwner
    decide
  exact (owners_after_run (.single ⟨_, _, notOwner, sample_step⟩)).1

end WorkflowForge
