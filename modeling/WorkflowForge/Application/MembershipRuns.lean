import WorkflowForge.Application.MembershipCalls
import WorkflowForge.Documents.Runs

/-! Sequences of `add_document` and `remove_document` calls of any tenants. -/

namespace WorkflowForge

open Python Transactions Concurrency

/-- No transaction is open, and the constraints hold. -/
structure World.Rested (world : World) : Prop where
  pending : world.store.pending = []
  locks : world.store.locks = []
  constrained : Constrained world.store.committed

/-- A call as a tenant makes it, in a session of its own. -/
structure MembershipRequest where
  session : Nat
  tenant : TenantContext
  call : MembershipCall

namespace MembershipRequest

variable (services : Services)

def run (request : MembershipRequest) (world : World)
    : Option (Except Exn ServiceReply × World) :=
  App.run request.session
    (TenantCall.body services { tenant := request.tenant, call := request.call.call }) world

/-- What the call makes of the member sets. -/
def applied (request : MembershipRequest) (result : Except Exn ServiceReply)
    (members : Aggregate → Set UUID)
    : Aggregate → Set UUID :=
  match result with
  | .error _ => members
  | .ok _ =>
      Function.update members request.call.aggregate
        (if request.call.adds then
          {request.call.documentId} ∪ members request.call.aggregate
        else members request.call.aggregate \ {request.call.documentId})

end MembershipRequest

/-- One call after the other, with their results. -/
def runRequests (services : Services)
    : List MembershipRequest → World → Option (List (Except Exn ServiceReply) × World)
  | [], world => some ([], world)
  | request :: rest, world => do
      let (result, next) ← request.run services world
      let (results, last) ← runRequests services rest next
      return (result :: results, last)

/-- What the calls make of the member sets. -/
def appliedAll (calls : List (MembershipRequest × Except Exn ServiceReply))
    (members : Aggregate → Set UUID)
    : Aggregate → Set UUID :=
  calls.foldl (fun current call => call.1.applied call.2 current) members

section Runs

variable {services : Services} {world : World}

/-- A call ends; if it returns it has its effect, if it raises it has none. -/
theorem MembershipRequest.ends (services : Services) (request : MembershipRequest)
    (rested : world.Rested)
    : ∃ result after,
        request.run services world = some (result, after)
        ∧ after.Rested
        ∧ (∀ reply, result = .ok reply
          → request.call.Effect request.tenant world.store.committed reply after.store.committed)
        ∧ (∀ failure, result = .error failure
          → after.store.committed = world.store.committed) := by
  have last : CommitsLast (request.call.call.useCase services request.tenant) :=
    request.call.commitsLast
  have lawful : Store.Lawful request.session world.store :=
    .of_rested rested.pending rested.locks rested.constrained
  have fresh : world.store.own request.session = [] := by simp [Store.own, rested.pending]
  obtain ⟨result, after, ran, pending, locks, constrained⟩ := last.writes.request_ends lawful
  refine ⟨result, after, ran, ⟨pending, locks, constrained⟩, ?_, ?_⟩
  · rintro reply rfl
    rw [run_request] at ran
    obtain ⟨⟨result, middle⟩, called, ended⟩ := Option.map_eq_some_iff.mp ran
    obtain ⟨rfl, rfl⟩ := Prod.mk.inj ended
    have effect := MembershipCall.effect lawful fresh called
    exact effect
  · rintro failure rfl
    exact last.unsaved.request request.session world failure after ran

/-- What a call does that is made in these tables, and what it answers. -/
structure MembershipRequest.Settled (services : Services) (request : MembershipRequest)
    (world : World) (result : Except Exn ServiceReply) (db' : Database)
    : Prop where
  /-- A repeated addition answers the existing membership. -/
  repeated
    : request.call.adds = true
      → ∀ id,
          membershipIds world.store.committed request.call.aggregate request.call.documentId
            = [id]
          → SameMemberships world.store.committed db'
            ∧ ∀ reply, result = .ok reply → reply.membershipId? = some id
  /-- A removal answers whether the document was a member. -/
  removed
    : request.call.adds = false
      → ∀ reply, result = .ok reply
        → ∃ removed,
            reply.removed? = some removed
            ∧ (removed = true
                ↔ request.call.documentId
                  ∈ memberSets world.store.committed request.call.aggregate)
  /-- Where the document is no member, a removal changes no membership. -/
  absent
    : request.call.adds = false
      → request.call.documentId ∉ memberSets world.store.committed request.call.aggregate
      → SameMemberships world.store.committed db'
  /-- An aggregate of another tenant is refused, and for an addition also a document. -/
  foreign
    : ownsAggregate world.store.committed request.tenant.organizationId request.call.aggregate
          = false
        ∨ (request.call.adds = true
          ∧ hasDocument world.store.committed request.tenant.organizationId
              request.call.documentId = false)
      → (∃ failure, result = .error failure) ∧ SameMemberships world.store.committed db'
  /-- Removing a document of another tenant answers that nothing was removed. -/
  stray
    : request.call.adds = false
      → hasDocument world.store.committed request.tenant.organizationId request.call.documentId
          = false
      → SameMemberships world.store.committed db'
        ∧ ∀ reply, result = .ok reply → reply.removed? = some false
  /-- A call that nothing is in the way of returns. -/
  served
    : request.call.Served services request.tenant world → ∃ reply, result = .ok reply

theorem SameMemberships.of_eq {db db' : Database} (same : db' = db) : SameMemberships db db' :=
  ⟨congrFun same _, congrFun same _⟩

theorem MembershipRequest.settled {request : MembershipRequest} {after : World}
    {result : Except Exn ServiceReply} (rested : world.Rested)
    (ran : request.run services world = some (result, after))
    (returned
      : ∀ reply, result = .ok reply
        → request.call.Effect request.tenant world.store.committed reply after.store.committed)
    (raised
      : ∀ failure, result = .error failure → after.store.committed = world.store.committed)
    : request.Settled services world result after.store.committed := by
  have constrained := rested.constrained
  cases result with
  | error failure =>
      have same : SameMemberships world.store.committed after.store.committed :=
        .of_eq (raised failure rfl)
      refine ⟨fun _ _ _ => ⟨same, fun reply answer => (by cases answer)⟩,
        fun _ reply answer => (by cases answer), fun _ _ => same,
        fun _ => ⟨⟨failure, rfl⟩, same⟩,
        fun _ _ => ⟨same, fun reply answer => (by cases answer)⟩, fun served => ?_⟩
      have lawful : Store.Lawful request.session world.store :=
        .of_rested rested.pending rested.locks constrained
      obtain ⟨reply, middle, yields⟩ :=
        served.returns lawful (by simp [Store.own, rested.pending])
      have called
          : App.run request.session (request.call.call.useCase services request.tenant) world
            = some (.ok reply, middle) := yields
      rw [MembershipRequest.run, TenantCall.body, run_request, called] at ran
      cases (Prod.mk.inj (Option.some.inj ran)).1
  | ok reply =>
      have effect := returned reply rfl
      refine ⟨fun adding id member => ?_, fun removing reply' same => ?_,
        fun removing missing => ?_, fun foreign => ?_, fun removing stray => ?_,
        fun _ => ⟨reply, rfl⟩⟩
      · obtain ⟨answer, same⟩ := effect.repeated constrained adding member
        exact ⟨same, fun reply' equal => Except.ok.inj equal ▸ answer⟩
      · obtain ⟨removed, answer, member, -⟩ := effect.removed constrained removing
        exact ⟨removed, Except.ok.inj same ▸ answer, member⟩
      · obtain ⟨removed, -, member, unchanged⟩ := effect.removed constrained removing
        exact unchanged (Bool.eq_false_iff.mpr (fun found => missing (member.mp found)))
      · rcases foreign with other | ⟨adding, other⟩
        · cases effect.owned.1.symm.trans other
        · cases (effect.owned.2 adding).symm.trans other
      · obtain ⟨removed, answer, member, unchanged⟩ := effect.removed constrained removing
        have kept : removed = false := by
          refine Bool.eq_false_iff.mpr (fun found => ?_)
          have filed := memberSets_filed constrained effect.owned.1 (member.mp found)
          cases filed.symm.trans stray
        rw [kept] at answer
        exact ⟨unchanged kept, fun reply' same => Except.ok.inj same ▸ answer⟩

/-- From any tables that satisfy the constraints, any sequence of calls runs to its end. Then
there is at most one membership for each aggregate and document, the members of each aggregate
are those of the start changed by the calls that returned, and every next call is settled. -/
theorem memberships_follow_calls (services : Services) {start : World} (rested : start.Rested)
    (requests : List MembershipRequest)
    : ∃ results world,
        runRequests services requests start = some (results, world)
        ∧ (∀ aggregate documentId,
            (membershipIds world.store.committed aggregate documentId).length ≤ 1)
        ∧ memberSets world.store.committed
          = appliedAll (requests.zip results) (memberSets start.store.committed)
        ∧ ∀ request : MembershipRequest, ∃ result after,
            request.run services world = some (result, after)
            ∧ request.Settled services world result after.store.committed := by
  obtain ⟨results, world, ran, rests, members⟩
      : ∃ results world,
          runRequests services requests start = some (results, world)
          ∧ world.Rested
          ∧ memberSets world.store.committed
            = appliedAll (requests.zip results) (memberSets start.store.committed) := by
    induction requests generalizing start with
    | nil => exact ⟨[], start, rfl, rested, rfl⟩
    | cons request rest ih =>
        obtain ⟨result, next, ran, rests, returned, raised⟩ := request.ends services rested
        obtain ⟨results, last, remaining, ends, members⟩ := ih rests
        refine ⟨result :: results, last, ?_, ends, ?_⟩
        · simp only [runRequests, ran, remaining, bind, Option.bind, pure]
        · rw [members]
          cases result with
          | error failure =>
              rw [raised failure rfl]
              rfl
          | ok reply =>
              rw [(returned reply rfl).members rested.constrained]
              rfl
  refine ⟨results, world, ran, ?_, members, fun request => ?_⟩
  · intro aggregate documentId
    cases aggregate with
    | batch id => exact MembershipTable.ids_length rests.constrained id documentId
    | case id => exact MembershipTable.ids_length rests.constrained id documentId
  · obtain ⟨result, after, called, -, returned, raised⟩ := request.ends services rests
    exact ⟨result, after, called, MembershipRequest.settled rests called returned raised⟩

end Runs

namespace Sample

/-- A member of an organization who manages the documents of its batches. -/
def clerk (organizationId : UUID) (organization_ne_nil : organizationId ≠ 0)
    (organization_lt : organizationId < 2 ^ 128)
    : TenantContext where
  userId := 7
  organizationId := organizationId
  membershipId := 9
  role := .owner
  permissions := [.batchManageDocuments, .batchRead]
  user_ne_nil := tenant.user_ne_nil
  organization_ne_nil := organization_ne_nil
  membership_ne_nil := tenant.membership_ne_nil
  organization_lt := organization_lt

def holding (db : Database) : World := { world (fun _ => .ok) with store := { committed := db } }

theorem holding_rested {db : Database} (constrained : Constrained db) : (holding db).Rested where
  pending := rfl
  locks := rfl
  constrained := constrained

def addition : MembershipRequest where
  session := 0
  tenant := clerk 5 tenant.organization_ne_nil tenant.organization_lt
  call := .addToBatch { batchId := 3, documentId := 1 }

def removal : MembershipRequest where
  session := 0
  tenant := clerk 5 tenant.organization_ne_nil tenant.organization_lt
  call := .removeFromBatch { batchId := 3, documentId := 1 }

end Sample

theorem memberships_follow_calls_sample
    : ∃ results world,
        runRequests Sample.services [Sample.addition, Sample.addition]
            (Sample.holding (filed ['a']))
          = some (results, world)
        ∧ (membershipIds world.store.committed (.batch 3) 1).length ≤ 1 := by
  have constrained : Constrained (filed ['a']) := filed_constrained (by decide)
  obtain ⟨results, world, ran, few, -⟩ :=
    memberships_follow_calls Sample.services (Sample.holding_rested constrained)
      [Sample.addition, Sample.addition]
  exact ⟨results, world, ran, few (.batch 3) 1⟩

example
    : (runRequests Sample.services
          [Sample.addition, Sample.addition, Sample.removal, Sample.removal]
          (Sample.holding (filed ['a']))).map
        (fun ended => ended.1.map (fun result =>
          result.toOption.map (fun reply => (reply.membershipId?, reply.removed?))))
      = some [some (some 100, none), some (some 100, none), some (none, some true),
          some (none, some false)] := by
  decide +kernel

namespace Sample

/-- The document of organization 5, and a batch of organization 6. -/
def twoTenants : Database
  | .organizations => [5, 6]
  | .batches =>
      (filed ['a'] .batches : List Batch).map (fun row => { row with organizationId := 6 })
  | t => filed ['a'] t

theorem twoTenants_constrained : Constrained twoTenants where
  keyed t := by cases t <;> simp [twoTenants, filed, primaryKey]
  unique t first second left right different := by
    cases t <;> simp only [twoTenants, filed, List.map_cons, List.map_nil, List.mem_singleton,
      List.not_mem_nil] at left right <;> first
      | rfl
      | subst left; subst right; exact absurd rfl different
  sound t row member := by
    cases t <;> simp only [twoTenants, filed, List.map_cons, List.map_nil, List.mem_singleton,
      List.not_mem_nil] at member <;> first
      | rfl
      | subst member; rfl
  fits t row member := by
    cases t <;> simp only [twoTenants, filed, List.map_cons, List.map_nil, List.mem_singleton,
      List.not_mem_nil] at member <;> first
      | rfl
      | subst member; rfl
  current row member := by
    simp only [twoTenants, filed, List.mem_singleton] at member
    subst member
    rfl

/-- Organization 6 removes the document of organization 5 from its own batch. -/
def foreignRemoval : MembershipRequest where
  session := 0
  tenant := clerk 6 (by decide) (by decide)
  call := .removeFromBatch { batchId := 3, documentId := 1 }

end Sample

/-- Removing a document of another tenant does not raise: it answers that nothing was removed. -/
theorem foreign_removal_returns
    : (Sample.holding Sample.twoTenants).Rested
      ∧ hasDocument Sample.twoTenants 5 Sample.foreignRemoval.call.documentId = true
      ∧ hasDocument Sample.twoTenants Sample.foreignRemoval.tenant.organizationId
          Sample.foreignRemoval.call.documentId
        = false
      ∧ (Sample.foreignRemoval.run Sample.services (Sample.holding Sample.twoTenants)).map Prod.fst
        = some (.ok (.batches (.removed false))) :=
  ⟨Sample.holding_rested Sample.twoTenants_constrained, by decide, by decide, by decide +kernel⟩

end WorkflowForge
