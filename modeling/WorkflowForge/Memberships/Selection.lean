import WorkflowForge.Application.Organizations
import WorkflowForge.Python.Ascii

/-! Listing the organizations of a user and resolving a tenant context agree.
Both decide whether the user may act in the organization.
-/

namespace WorkflowForge.Organizations

open Python Bootstrap

variable {u : Unicode}

/-- The user has an active membership in an active organization. -/
structure MayAct (store : IdentityStore u) (userId organizationId : UUID)
    (membership : Membership)
    : Prop where
  member : membership ∈ store.memberships
  user : membership.userId = userId
  organization : membership.organizationId = organizationId
  active : membership.status = .active
  opened : ∃ row ∈ store.organizations, row.id = organizationId ∧ row.isActive = true

theorem eq_of_map_nodup {α β : Type} {f : α → β} {rows : List α} (distinct : (rows.map f).Nodup)
    {first second : α} (left : first ∈ rows) (right : second ∈ rows)
    (same : f first = f second)
    : first = second :=
  List.inj_on_of_nodup_map distinct left right same

theorem MayAct.unique {store : IdentityStore u} {userId organizationId : UUID}
    {first second : Membership} (left : MayAct store userId organizationId first)
    (right : MayAct store userId organizationId second)
    : first = second :=
  eq_of_map_nodup store.membership_pair left.member right.member (by
    simp [left.user, left.organization, right.user, right.organization])

-----------------------------------------------------------------------------------------
-- What the repositories answer
-----------------------------------------------------------------------------------------

/-- Rows that all load give the list of what they load to. -/
theorem mapM_loads {α β ε : Type} {load : α → Except ε β} {rows : List α}
    (loads : ∀ row ∈ rows, ∃ value, load row = .ok value)
    : ∃ values,
        rows.mapM load = .ok values
        ∧ ∀ value, value ∈ values ↔ ∃ row ∈ rows, load row = .ok value := by
  induction rows with
  | nil => exact ⟨[], rfl, by simp⟩
  | cons row rest ih =>
      obtain ⟨value, loaded⟩ := loads row (by simp)
      obtain ⟨values, mapped, found⟩ := ih (fun other member => loads other (by simp [member]))
      refine ⟨value :: values, ?_, fun other => ?_⟩
      · simp [List.mapM_cons, loaded, mapped, bind, Except.bind, pure, Except.pure]
      · simp [found, loaded, eq_comm]

theorem mem_oldestFirst {α : Type} {createdAt : α → Timestamp} {id : α → UUID} {rows : List α}
    {row : α}
    : row ∈ oldestFirst createdAt id rows ↔ row ∈ rows :=
  List.mem_mergeSort

theorem organizationFromRecord_ok {record : OrganizationRecord} {organization : Organization}
    (loaded : organizationFromRecord u record = .ok organization)
    : record.id ≠ 0 ∧ organization.id = record.id
      ∧ organization.isActive = record.isActive := by
  obtain ⟨slug, -, built⟩ := exists_of_bind_ok loaded
  obtain ⟨⟨⟩, identified, rest⟩ := exists_of_bind_ok built
  obtain ⟨name, -, rest⟩ := exists_of_bind_ok rest
  refine ⟨?_, ?_⟩
  · intro nil
    simp [validateIdentityUuid, nil, ofIdentity] at identified
  · simp only [bind, Except.bind, pure, Except.pure, throw, throwThe, MonadExceptOf.throw]
      at rest
    split at rest
    · cases rest
    · split at rest
      · cases rest
      · split at rest
        · cases rest
        · cases rest
          exact ⟨rfl, rfl⟩

theorem postInit_ids {membership : Membership} (valid : membership.postInit = .ok membership)
    : membership.id ≠ 0 ∧ membership.userId ≠ 0 := by
  obtain ⟨⟨⟩, own, rest⟩ := exists_of_bind_ok valid
  obtain ⟨⟨⟩, user, -⟩ := exists_of_bind_ok rest
  constructor
  · intro nil
    simp [validateIdentityUuid, nil] at own
  · intro nil
    simp [validateIdentityUuid, nil] at user

theorem membershipFromRecord_eq (store : IdentityStore u) {row : Membership}
    (member : row ∈ store.memberships)
    : Bootstrap.membershipFromRecord row = .ok row := by
  simp [Bootstrap.membershipFromRecord, store.memberships_load row member, ofIdentity]

theorem mem_joined {store : IdentityStore u} {userId : UUID} {row : OrganizationRecord}
    : row ∈ OrganizationRepository.joined store userId
      ↔ row ∈ store.organizations
        ∧ ∃ membership ∈ store.memberships,
            membership.organizationId = row.id ∧ membership.userId = userId := by
  simp only [OrganizationRepository.joined, List.mem_flatMap, List.mem_map, List.mem_filter,
    Bool.and_eq_true, beq_iff_eq]
  constructor
  · rintro ⟨_, listed, membership, ⟨member, belongs⟩, rfl⟩
    exact ⟨listed, membership, member, belongs⟩
  · rintro ⟨listed, membership, member, belongs⟩
    exact ⟨row, listed, membership, ⟨member, belongs⟩, rfl⟩

theorem listOrganizations (store : IdentityStore u) (userId : UUID)
    : ∃ organizations,
        OrganizationRepository.listForUser store userId = .ok organizations
        ∧ ∀ organization,
            organization ∈ organizations
            ↔ ∃ row ∈ OrganizationRepository.joined store userId,
                organizationFromRecord u row = .ok organization := by
  have loads
      : ∀ row ∈ oldestFirst (·.createdAt) (·.id) (OrganizationRepository.joined store userId),
          ∃ organization, organizationFromRecord u row = .ok organization :=
    fun row member =>
      store.organizations_load row (mem_joined.mp (mem_oldestFirst.mp member)).1
  obtain ⟨organizations, mapped, found⟩ := mapM_loads loads
  refine ⟨organizations, ?_, fun organization => ?_⟩
  · rw [OrganizationRepository.listForUser, mapped, ofAccount]
  · simp only [found, mem_oldestFirst]

theorem listMemberships (store : IdentityStore u) (userId : UUID)
    : ∃ memberships,
        MembershipRepository.listForUser store userId = .ok memberships
        ∧ ∀ membership,
            membership ∈ memberships
            ↔ membership ∈ store.memberships ∧ membership.userId = userId := by
  have own
      : ∀ row ∈ oldestFirst (·.createdAt) (·.id)
          (store.memberships.filter (fun row => row.userId == userId)),
          row ∈ store.memberships ∧ row.userId = userId := by
    intro row member
    simpa using mem_oldestFirst.mp member
  obtain ⟨memberships, mapped, found⟩ := mapM_loads
    (fun row member => ⟨row, membershipFromRecord_eq store (own row member).1⟩)
  refine ⟨memberships, ?_, fun membership => ?_⟩
  · rw [MembershipRepository.listForUser, mapped, ofAccount]
  · rw [found]
    constructor
    · rintro ⟨row, member, loaded⟩
      rw [membershipFromRecord_eq store (own row member).1] at loaded
      cases loaded
      exact own _ member
    · rintro ⟨member, user⟩
      refine ⟨membership, mem_oldestFirst.mpr ?_, membershipFromRecord_eq store member⟩
      simp [member, user]

theorem getById_eq {store : IdentityStore u} {row : OrganizationRecord}
    (listed : row ∈ store.organizations) {organization : Organization}
    (loaded : organizationFromRecord u row = .ok organization)
    : OrganizationRepository.getById store row.id = .ok (some organization) := by
  have found : store.organizations.find? (fun other => other.id == row.id) = some row := by
    cases search : store.organizations.find? (fun other => other.id == row.id) with
    | none => simpa using List.find?_eq_none.mp search row listed
    | some other =>
        have same : other.id = row.id := by simpa using List.find?_some search
        rw [eq_of_map_nodup store.organization_key (List.mem_of_find?_eq_some search) listed same]
  simp [OrganizationRepository.getById, found, loaded, ofAccount, bind, Except.bind, pure,
    Except.pure]

theorem getById_ok {store : IdentityStore u} {organizationId : UUID}
    {organization : Organization}
    (answered : OrganizationRepository.getById store organizationId = .ok (some organization))
    : ∃ row ∈ store.organizations,
        row.id = organizationId ∧ organizationFromRecord u row = .ok organization := by
  simp only [OrganizationRepository.getById] at answered
  cases search : store.organizations.find? (fun row => row.id == organizationId) with
  | none => simp [search] at answered
  | some row =>
      have listed := List.mem_of_find?_eq_some search
      obtain ⟨value, loaded⟩ := store.organizations_load row listed
      simp only [search, loaded, ofAccount, bind, Except.bind, pure, Except.pure] at answered
      cases answered
      exact ⟨row, listed, by simpa using List.find?_some search, loaded⟩

theorem filter_pair {store : IdentityStore u} {membership : Membership}
    (member : membership ∈ store.memberships)
    : store.memberships.filter (fun row =>
        row.userId == membership.userId && row.organizationId == membership.organizationId)
      = [membership] := by
  have only := (store.membership_pair.of_map _).filter (fun row =>
    row.userId == membership.userId && row.organizationId == membership.organizationId)
  refine List.perm_singleton.mp ((List.perm_ext_iff_of_nodup only (by simp)).mpr ?_)
  intro row
  simp only [List.mem_filter, Bool.and_eq_true, beq_iff_eq, List.mem_singleton]
  constructor
  · rintro ⟨listed, user, organization⟩
    exact eq_of_map_nodup store.membership_pair listed member (by simp [user, organization])
  · rintro rfl
    exact ⟨member, rfl, rfl⟩

theorem getMembership_eq {store : IdentityStore u} {membership : Membership}
    (member : membership ∈ store.memberships)
    : MembershipRepository.getByUserAndOrganization store membership.userId
        membership.organizationId = .ok (some membership) := by
  simp [MembershipRepository.getByUserAndOrganization, filter_pair member, scalarOneOrNone,
    membershipFromRecord_eq store member, ofAccount, bind, Except.bind, pure, Except.pure]

theorem getMembership_ok {store : IdentityStore u} {userId organizationId : UUID}
    {membership : Membership}
    (answered
      : MembershipRepository.getByUserAndOrganization store userId organizationId
        = .ok (some membership))
    : membership ∈ store.memberships ∧ membership.userId = userId
      ∧ membership.organizationId = organizationId := by
  obtain ⟨found, scalar, rest⟩ := exists_of_bind_ok answered
  cases found with
  | none => cases rest
  | some record =>
      have listed
          : record ∈ store.memberships.filter (fun row =>
              row.userId == userId && row.organizationId == organizationId) := by
        revert scalar
        cases store.memberships.filter (fun row =>
          row.userId == userId && row.organizationId == organizationId) with
        | nil => simp [scalarOneOrNone]
        | cons first rest =>
            cases rest <;> simp [scalarOneOrNone, eq_comm]
      simp only [List.mem_filter, Bool.and_eq_true, beq_iff_eq] at listed
      simp only [membershipFromRecord_eq store listed.1, ofAccount, bind, Except.bind, pure,
        Except.pure] at rest
      cases rest
      exact listed

-----------------------------------------------------------------------------------------
-- The list
-----------------------------------------------------------------------------------------

theorem activeOrganization_mem {organizations : List Organization} {id : UUID}
    {organization : Organization}
    (found : activeOrganization organizations id = some organization)
    : organization ∈ organizations ∧ organization.isActive = true ∧ organization.id = id := by
  have listed := List.mem_of_find?_eq_some found
  rw [List.mem_reverse, List.mem_filter] at listed
  exact ⟨listed.1, listed.2, by simpa using List.find?_some found⟩

theorem activeOrganization_isSome {organizations : List Organization}
    {organization : Organization} (listed : organization ∈ organizations)
    (active : organization.isActive = true)
    : ∃ found, activeOrganization organizations organization.id = some found := by
  rw [← Option.isSome_iff_exists, activeOrganization, List.find?_isSome]
  exact ⟨organization, by simp [listed, active], by simp⟩

/-- The summaries in order, before the cut. -/
theorem listUserOrganizations_eq (store : IdentityStore u) (userId : UUID)
    : ∃ summaries : List UserOrganizationSummary,
        (∀ maxResults ≥ 1, listUserOrganizations maxResults store userId
          = .ok (summaries.take maxResults.toNat))
        ∧ ∀ summary,
            summary ∈ summaries
            ↔ ∃ memberships organizations,
                MembershipRepository.listForUser store userId = .ok memberships
                ∧ OrganizationRepository.listForUser store userId = .ok organizations
                ∧ ∃ membership ∈ memberships,
                    summaryOf organizations membership = some summary := by
  obtain ⟨memberships, first, -⟩ := listMemberships store userId
  obtain ⟨organizations, second, -⟩ := listOrganizations store userId
  refine ⟨sortSummaries u (memberships.filterMap (summaryOf organizations)), ?_, ?_⟩
  · intro maxResults positive
    have notSmall : ¬ maxResults < 1 := by omega
    simp [listUserOrganizations, notSmall, first, second, bind, Except.bind, pure, Except.pure]
  · intro summary
    rw [sortSummaries, List.mem_mergeSort, List.mem_filterMap]
    constructor
    · intro shown
      exact ⟨memberships, organizations, first, second, shown⟩
    · rintro ⟨_, _, firstAgain, secondAgain, shown⟩
      rw [first] at firstAgain
      rw [second] at secondAgain
      cases firstAgain
      cases secondAgain
      exact shown

theorem summary_mayAct {store : IdentityStore u} {userId : UUID} {memberships : List Membership}
    {organizations : List Organization}
    (first : MembershipRepository.listForUser store userId = .ok memberships)
    (second : OrganizationRepository.listForUser store userId = .ok organizations)
    {membership : Membership} (member : membership ∈ memberships)
    {summary : UserOrganizationSummary}
    (shown : summaryOf organizations membership = some summary)
    : MayAct store userId summary.id membership
      ∧ summary.membershipId = membership.id ∧ summary.membershipRole = membership.role := by
  obtain ⟨values, loaded, ofUser⟩ := listMemberships store userId
  obtain ⟨others, read, ofRows⟩ := listOrganizations store userId
  rw [first] at loaded
  rw [second] at read
  cases loaded
  cases read
  obtain ⟨listed, user⟩ := (ofUser membership).mp member
  unfold summaryOf at shown
  split at shown
  · cases shown
  next active =>
    cases search : activeOrganization organizations membership.organizationId with
    | none => simp [search] at shown
    | some organization =>
        simp only [search] at shown
        cases shown
        obtain ⟨found, isActive, same⟩ := activeOrganization_mem search
        obtain ⟨row, joined, loads⟩ := (ofRows organization).mp found
        obtain ⟨-, id, activity⟩ := organizationFromRecord_ok loads
        refine ⟨⟨listed, user, same.symm, ?_, ?_⟩, rfl, rfl⟩
        · simpa using active
        · exact ⟨row, (mem_joined.mp joined).1, id.symm, by rw [← activity, isActive]⟩

theorem MayAct.summary {store : IdentityStore u} {userId organizationId : UUID}
    {membership : Membership} (acts : MayAct store userId organizationId membership)
    : ∃ memberships organizations summary,
        MembershipRepository.listForUser store userId = .ok memberships
        ∧ OrganizationRepository.listForUser store userId = .ok organizations
        ∧ membership ∈ memberships
        ∧ summaryOf organizations membership = some summary
        ∧ summary.id = organizationId := by
  obtain ⟨memberships, first, ofUser⟩ := listMemberships store userId
  obtain ⟨organizations, second, ofRows⟩ := listOrganizations store userId
  obtain ⟨row, listed, same, activity⟩ := acts.opened
  obtain ⟨organization, loads⟩ := store.organizations_load row listed
  obtain ⟨-, id, active⟩ := organizationFromRecord_ok loads
  have shown : organization ∈ organizations :=
    (ofRows organization).mpr ⟨row,
      mem_joined.mpr ⟨listed, membership, acts.member, by rw [acts.organization, same],
        acts.user⟩, loads⟩
  obtain ⟨found, search⟩ := activeOrganization_isSome shown (active.trans activity)
  rw [id, same, ← acts.organization] at search
  let summary : UserOrganizationSummary := {
    id := found.id
    name := found.name
    slug := found.slug
    membershipId := membership.id
    membershipRole := membership.role
    membershipStatus := membership.status
  }
  refine ⟨memberships, organizations, summary, first, second, ?_, ?_, ?_⟩
  · exact (ofUser membership).mpr ⟨acts.member, acts.user⟩
  · simp only [summaryOf, acts.active, search, ne_eq, not_true_eq_false, if_false, summary]
  · exact (activeOrganization_mem search).2.2.trans acts.organization

-----------------------------------------------------------------------------------------
-- The tenant context
-----------------------------------------------------------------------------------------

theorem createTenantContext_ok {userId organizationId membershipId : UUID} {role : Role}
    {context : TenantContext}
    (created : createTenantContext userId organizationId membershipId role = .ok context)
    : context.membershipId = membershipId ∧ context.role = role := by
  obtain ⟨⟨⟩, -, rest⟩ := exists_of_bind_ok created
  obtain ⟨⟨⟩, -, rest⟩ := exists_of_bind_ok rest
  obtain ⟨⟨⟩, -, rest⟩ := exists_of_bind_ok rest
  simp only [pure, Except.pure, throw, throwThe, MonadExceptOf.throw] at rest
  split at rest
  · cases rest
    exact ⟨rfl, rfl⟩
  · cases rest

theorem createTenantContext_succeeds {userId organizationId membershipId : UUID} (role : Role)
    (user : userId ≠ 0) (organization : organizationId ≠ 0) (membership : membershipId ≠ 0)
    (small : organizationId < 2 ^ 128)
    : ∃ context, createTenantContext userId organizationId membershipId role = .ok context := by
  have valid : userId ≠ 0 ∧ organizationId ≠ 0 ∧ membershipId ≠ 0 ∧ organizationId < 2 ^ 128 :=
    ⟨user, organization, membership, small⟩
  simp only [createTenantContext, validateIdentityUuid, ofIdentityExn, ofIdentity, ofAccount,
    if_neg user, if_neg organization, if_neg membership, bind, Except.bind, dif_pos valid]
  exact ⟨_, rfl⟩

theorem resolveTenantContext_mayAct {store : IdentityStore u} {userId organizationId : UUID}
    {context : TenantContext}
    (resolved : resolveTenantContext store userId organizationId = .ok context)
    : ∃ membership,
        MayAct store userId organizationId membership
        ∧ context.membershipId = membership.id ∧ context.role = membership.role := by
  obtain ⟨found, read, rest⟩ := exists_of_bind_ok resolved
  cases found with
  | none => cases rest
  | some organization =>
      obtain ⟨row, listed, same, loads⟩ := getById_ok read
      simp only at rest
      split at rest
      · cases rest
      next running =>
        obtain ⟨answer, selected, rest⟩ := exists_of_bind_ok rest
        cases answer with
        | none => cases rest
        | some membership =>
            obtain ⟨member, user, belongs⟩ := getMembership_ok selected
            simp only at rest
            split at rest
            · cases rest
            next active =>
              obtain ⟨-, -, activity⟩ := organizationFromRecord_ok loads
              refine ⟨membership, ⟨member, user, belongs, by simpa using active, ?_⟩,
                createTenantContext_ok rest⟩
              exact ⟨row, listed, same, by simpa [← activity] using running⟩

theorem MayAct.resolves {store : IdentityStore u} {userId organizationId : UUID}
    {membership : Membership} (acts : MayAct store userId organizationId membership)
    : ∃ context, resolveTenantContext store userId organizationId = .ok context := by
  obtain ⟨row, listed, same, activity⟩ := acts.opened
  obtain ⟨organization, loads⟩ := store.organizations_load row listed
  obtain ⟨notNil, -, active⟩ := organizationFromRecord_ok loads
  obtain ⟨own, user⟩ := postInit_ids (store.memberships_load membership acts.member)
  have read := getById_eq listed loads
  have selected := getMembership_eq acts.member
  have small := store.organization_lt row listed
  rw [same] at read notNil small
  rw [acts.user] at user selected
  rw [acts.organization] at selected
  obtain ⟨context, created⟩ :=
    createTenantContext_succeeds membership.role user notNil own small
  refine ⟨context, ?_⟩
  simp [resolveTenantContext, read, active, activity, selected, acts.active, created, bind,
    Except.bind]

-----------------------------------------------------------------------------------------
-- Agreement
-----------------------------------------------------------------------------------------

/-- An organization is listed exactly when its tenant context resolves, with the same
membership and role. -/
theorem listed_iff_resolved (store : IdentityStore u) (userId : UUID)
    : ∃ summaries : List UserOrganizationSummary,
        (∀ maxResults ≥ 1, listUserOrganizations maxResults store userId
          = .ok (summaries.take maxResults.toNat))
        ∧ ∀ organizationId,
            ((∃ summary ∈ summaries, summary.id = organizationId)
              ↔ ∃ context, resolveTenantContext store userId organizationId = .ok context)
            ∧ ∀ summary ∈ summaries,
                summary.id = organizationId
                → ∀ context,
                    resolveTenantContext store userId organizationId = .ok context
                    → summary.membershipId = context.membershipId
                      ∧ summary.membershipRole = context.role := by
  obtain ⟨summaries, cut, shown⟩ := listUserOrganizations_eq store userId
  refine ⟨summaries, cut, fun organizationId => ⟨⟨?_, ?_⟩, ?_⟩⟩
  · rintro ⟨summary, listed, rfl⟩
    obtain ⟨memberships, organizations, first, second, membership, member, made⟩ :=
      (shown summary).mp listed
    exact (summary_mayAct first second member made).1.resolves
  · rintro ⟨context, resolved⟩
    obtain ⟨membership, acts, -⟩ := resolveTenantContext_mayAct resolved
    obtain ⟨memberships, organizations, summary, first, second, member, made, same⟩ :=
      acts.summary
    exact ⟨summary, (shown summary).mpr
      ⟨memberships, organizations, first, second, membership, member, made⟩, same⟩
  · rintro summary listed rfl context resolved
    obtain ⟨memberships, organizations, first, second, membership, member, made⟩ :=
      (shown summary).mp listed
    obtain ⟨acts, id, role⟩ := summary_mayAct first second member made
    obtain ⟨other, actsToo, otherId, otherRole⟩ := resolveTenantContext_mayAct resolved
    cases acts.unique actsToo
    exact ⟨id.trans otherId.symm, role.trans otherRole.symm⟩

namespace Sample

def organization (id : UUID) (name : String) (isActive : Bool) : OrganizationRecord where
  id
  name := name.toList
  slug := name.toList
  isActive
  createdAt := 0
  updatedAt := 0
  deactivatedAt := if isActive then none else some 0

def membership (id organizationId : UUID) (status : MembershipStatus) : Membership where
  id
  userId := 9
  organizationId
  role := .reviewer
  status
  createdAt := 0
  updatedAt := 0
  joinedAt := some 0
  suspendedAt := if status = .suspended then some 0 else none

/-- User 9 is active in 1, suspended in 2, and active in 3, which is closed. -/
def store : IdentityStore asciiUnicode where
  organizations := [organization 1 "acme" true, organization 2 "globex" true,
    organization 3 "initech" false]
  memberships := [membership 4 1 .active, membership 5 2 .suspended, membership 6 3 .active]
  organization_key := by decide
  membership_pair := by decide
  organizations_load := by
    have loads
        : [organization 1 "acme" true, organization 2 "globex" true,
            organization 3 "initech" false].all
            (fun row => (organizationFromRecord asciiUnicode row).isOk) = true := by
      decide +kernel
    intro row member
    have ok := List.all_eq_true.mp loads row member
    cases loaded : organizationFromRecord asciiUnicode row with
    | ok organization => exact ⟨organization, rfl⟩
    | error failure => simp [loaded, Except.isOk, Except.toBool] at ok
  memberships_load := by decide
  organization_lt := by decide

end Sample

example : (resolveTenantContext Sample.store 9 1).map (·.membershipId) = .ok 4 := by
  decide +kernel

example
    : [1, 2, 3].map (fun id => (resolveTenantContext Sample.store 9 id).isOk)
      = [true, false, false] := by
  decide +kernel

end WorkflowForge.Organizations
