import WorkflowForge.Domain.AccountLifecycle
import WorkflowForge.Domain.Aggregates
import WorkflowForge.Domain.CaseLifecycle
import WorkflowForge.Infrastructure.AggregateRecords
import WorkflowForge.Memberships.Lifecycle
import WorkflowForge.Python.Ascii

/-! Values that the domain produces come back from their records as they are. -/

namespace WorkflowForge

open Python Records

variable {u : Unicode}

-----------------------------------------------------------------------------------------
-- What constructors and transitions produce
-----------------------------------------------------------------------------------------

/-- The users that the constructor and the transitions return; `create` is a use of the
constructor. Their addresses were constructed, too. -/
inductive User.Produced (u : Unicode) : User → Prop where
  | constructed {draft user : User} {address : Text}
      (parsed : EmailAddress.parse u address = .ok draft.email)
      (made : User.postInit u draft = .ok user)
    : Produced u user
  | disabled {user changed : User} {now : Datetime} (produced : Produced u user)
      (done : user.disable u now = .ok changed)
    : Produced u changed
  | reactivated {user changed : User} {now : Datetime} (produced : Produced u user)
      (done : user.reactivate u now = .ok changed)
    : Produced u changed
  | renamed {user changed : User} {displayName : Text} {now : Datetime}
      (produced : Produced u user) (done : user.rename u displayName now = .ok changed)
    : Produced u changed
  | emailChanged {user changed : User} {address : Text} {email : EmailAddress} {now : Datetime}
      (produced : Produced u user) (parsed : EmailAddress.parse u address = .ok email)
      (done : user.changeEmail u email now = .ok changed)
    : Produced u changed

inductive Organization.Produced (u : Unicode) : Organization → Prop where
  | constructed {draft organization : Organization} {text : Text}
      (parsed : OrganizationSlug.parse u text = .ok draft.slug)
      (made : Organization.postInit u draft = .ok organization)
    : Produced u organization
  | renamed {organization changed : Organization} {name : Text} {now : Datetime}
      (produced : Produced u organization) (done : organization.rename u name now = .ok changed)
    : Produced u changed
  | deactivated {organization changed : Organization} {now : Datetime}
      (produced : Produced u organization) (done : organization.deactivate u now = .ok changed)
    : Produced u changed
  | reactivated {organization changed : Organization} {now : Datetime}
      (produced : Produced u organization) (done : organization.reactivate u now = .ok changed)
    : Produced u changed

inductive Membership.Produced : Membership → Prop where
  | constructed {draft membership : Membership} (made : Membership.postInit draft = .ok membership)
    : Produced membership
  | changed {membership changed : Membership} {change : MembershipChange} {now : Datetime}
      (produced : Produced membership) (done : change.apply now membership = .ok changed)
    : Produced changed

inductive Identity.AuthSession.Produced : Identity.AuthSession → Prop where
  | constructed {draft session : Identity.AuthSession} (made : draft.postInit = .ok session)
    : Produced session
  | revoked {session changed : Identity.AuthSession} {now : Timestamp}
      (produced : Produced session) (done : session.revoke now = .ok changed)
    : Produced changed

/-- Identifiers of other tokens are constructed, so not nil. -/
inductive Identity.RefreshTokenRecord.Produced : Identity.RefreshTokenRecord → Prop where
  | constructed {draft token : Identity.RefreshTokenRecord}
      (replacement : ∀ other, draft.replacedByTokenId = some other → other ≠ 0)
      (made : draft.postInit = .ok token)
    : Produced token
  | consumed {token changed : Identity.RefreshTokenRecord} {other : UUID} {now : Timestamp}
      (produced : Produced token) (replacement : other ≠ 0)
      (done : token.consume other now = .ok changed)
    : Produced changed
  | replaced {token next : Identity.RefreshTokenRecord} {id : UUID}
      {tokenDigest : Identity.RefreshTokenDigest} {issuedAt expiresAt : Timestamp}
      (produced : Produced token)
      (done : token.replacement id tokenDigest issuedAt expiresAt = .ok next)
    : Produced next
  | revoked {token changed : Identity.RefreshTokenRecord} {now : Timestamp}
      (produced : Produced token) (done : token.revoke now = .ok changed)
    : Produced changed

/-- A `BatchId` is not nil. -/
inductive Batch.Produced (u : Unicode) : Batch → Prop where
  | constructed {draft batch : Batch} (identifier : draft.id ≠ 0)
      (made : Batch.postInit u draft = .ok batch)
    : Produced u batch
  | updated {batch changed : Batch} {name description externalReference : Option Text}
      {actorUserId : UUID} {timestamp : Timestamp} (produced : Produced u batch)
      (done
        : batch.update u name description externalReference actorUserId timestamp = .ok changed)
    : Produced u changed
  | archived {batch changed : Batch} {actorUserId : UUID} {timestamp : Timestamp}
      (produced : Produced u batch) (done : batch.archive u actorUserId timestamp = .ok changed)
    : Produced u changed

inductive Case.Produced (u : Unicode) : Case → Prop where
  | constructed {draft case : Case} (made : Case.postInit u draft = .ok case)
    : Produced u case
  | changed {case changed : Case} {operation : CaseOperation} (produced : Produced u case)
      (done : operation.apply u case = .ok changed)
    : Produced u changed

-----------------------------------------------------------------------------------------
-- Every produced value is a constructed one
-----------------------------------------------------------------------------------------

theorem mutation_cases {α : Type} {subject : String} {createdAt : Timestamp} {now : Datetime}
    {build : Timestamp → Except AccountExn α} {changed : α}
    (done
      : (do
          let timestamp ← mutationTimestamp subject createdAt now
          build timestamp) = .ok changed)
    : ∃ timestamp, build timestamp = .ok changed := by
  obtain ⟨timestamp, -, made⟩ := exists_of_bind_ok done
  exact ⟨timestamp, made⟩

/-- By induction on how the user came about. -/
theorem User.Produced.sound {user : User} (produced : User.Produced u user)
    : user.Valid u ∧ ∃ address, EmailAddress.parse u address = .ok user.email := by
  induction produced with
  | constructed parsed made =>
      obtain ⟨displayName, rfl, valid⟩ := User.postInit_ok made
      exact ⟨valid, _, parsed⟩
  | disabled produced done ih =>
      unfold User.disable at done
      split at done
      · cases done
        exact ih
      · obtain ⟨timestamp, made⟩ := mutation_cases done
        obtain ⟨displayName, rfl, valid⟩ := User.postInit_ok made
        exact ⟨valid, ih.2⟩
  | reactivated produced done ih =>
      unfold User.reactivate at done
      split at done
      · cases done
        exact ih
      · obtain ⟨timestamp, made⟩ := mutation_cases done
        obtain ⟨displayName, rfl, valid⟩ := User.postInit_ok made
        exact ⟨valid, ih.2⟩
  | renamed produced done ih =>
      obtain ⟨normalized, -, done⟩ := exists_of_bind_ok done
      split at done
      · cases done
        exact ih
      · obtain ⟨timestamp, made⟩ := mutation_cases done
        obtain ⟨displayName, rfl, valid⟩ := User.postInit_ok made
        exact ⟨valid, ih.2⟩
  | emailChanged produced parsed done ih =>
      unfold User.changeEmail at done
      split at done
      · cases done
        exact ih
      · obtain ⟨timestamp, made⟩ := mutation_cases done
        obtain ⟨displayName, rfl, valid⟩ := User.postInit_ok made
        exact ⟨valid, _, parsed⟩

theorem Organization.Produced.sound {organization : Organization}
    (produced : Organization.Produced u organization)
    : organization.Valid u ∧ ∃ text, OrganizationSlug.parse u text = .ok organization.slug := by
  induction produced with
  | constructed parsed made =>
      obtain ⟨name, rfl, valid⟩ := Organization.postInit_ok made
      exact ⟨valid, _, parsed⟩
  | renamed produced done ih =>
      obtain ⟨normalized, -, done⟩ := exists_of_bind_ok done
      split at done
      · cases done
        exact ih
      · obtain ⟨timestamp, made⟩ := mutation_cases done
        obtain ⟨name, rfl, valid⟩ := Organization.postInit_ok made
        exact ⟨valid, ih.2⟩
  | deactivated produced done ih =>
      unfold Organization.deactivate at done
      split at done
      · cases done
        exact ih
      · obtain ⟨timestamp, made⟩ := mutation_cases done
        obtain ⟨name, rfl, valid⟩ := Organization.postInit_ok made
        exact ⟨valid, ih.2⟩
  | reactivated produced done ih =>
      unfold Organization.reactivate at done
      split at done
      · cases done
        exact ih
      · obtain ⟨timestamp, made⟩ := mutation_cases done
        obtain ⟨name, rfl, valid⟩ := Organization.postInit_ok made
        exact ⟨valid, ih.2⟩

theorem Membership.Produced.sound {membership : Membership}
    (produced : Membership.Produced membership)
    : membership.WellFormed := by
  induction produced with
  | constructed made =>
      obtain ⟨valid, rfl⟩ := Membership.postInit_iff.mp made
      exact valid
  | @changed membership changed change now produced done ih =>
      have outcome := change.apply_outcome now ih
      rw [done] at outcome
      exact outcome.2

theorem Identity.AuthSession.Produced.sound {session : Identity.AuthSession}
    (produced : session.Produced)
    : session.Valid := by
  induction produced with
  | constructed made =>
      obtain ⟨valid, rfl⟩ := Identity.AuthSession.postInit_eq_ok.mp made
      exact valid
  | revoked produced done ih => exact Identity.AuthSession.revoke_valid ih done

theorem Identity.RefreshTokenRecord.Produced.sound {token : Identity.RefreshTokenRecord}
    (produced : token.Produced)
    : token.Valid ∧ ∀ other, token.replacedByTokenId = some other → other ≠ 0 := by
  induction produced with
  | constructed replacement made =>
      obtain ⟨valid, rfl⟩ := Identity.RefreshTokenRecord.postInit_eq_ok.mp made
      exact ⟨valid, replacement⟩
  | consumed produced replacement done ih =>
      unfold Identity.RefreshTokenRecord.consume at done
      split at done
      · cases done
      · obtain ⟨valid, rfl⟩ := Identity.RefreshTokenRecord.postInit_eq_ok.mp done
        exact ⟨valid, fun other found => Option.some.inj found ▸ replacement⟩
  | replaced produced done ih =>
      unfold Identity.RefreshTokenRecord.replacement at done
      split at done
      · cases done
      · obtain ⟨valid, rfl⟩ := Identity.RefreshTokenRecord.postInit_eq_ok.mp done
        exact ⟨valid, fun _ found => nomatch found⟩
  | revoked produced done ih =>
      unfold Identity.RefreshTokenRecord.revoke at done
      split at done
      · cases done
        exact ih
      · obtain ⟨valid, rfl⟩ := Identity.RefreshTokenRecord.postInit_eq_ok.mp done
        exact ⟨valid, ih.2⟩

theorem Batch.Produced.sound {batch : Batch} (produced : Batch.Produced u batch)
    : batch.id ≠ 0 ∧ Batch.postInit u batch = .ok batch := by
  induction produced with
  | constructed identifier made =>
      refine ⟨?_, Batch.postInit_again made⟩
      obtain ⟨_, _, _, -, -, -, -, -, rfl⟩ := Batch.postInit_eq_ok made
      exact identifier
  | updated produced done ih =>
      have made := (Batch.postInit_of_update done).2
      refine ⟨?_, Batch.postInit_again made⟩
      obtain ⟨_, _, _, -, -, -, -, -, rfl⟩ := Batch.postInit_eq_ok made
      exact ih.1
  | archived produced done ih =>
      have made := (Batch.postInit_of_archive done).2
      refine ⟨?_, Batch.postInit_again made⟩
      obtain ⟨_, _, _, -, -, -, -, -, rfl⟩ := Batch.postInit_eq_ok made
      exact ih.1

/-- Every operation on a case ends in the constructor. -/
theorem CaseOperation.apply_constructs {case changed : Case} {operation : CaseOperation}
    (applied : operation.apply u case = .ok changed)
    : ∃ draft, Case.postInit u draft = .ok changed := by
  cases operation with
  | update title summary priority externalReference actorUserId now =>
      obtain ⟨⟨⟩, -, applied⟩ := exists_of_bind_ok applied
      obtain ⟨timestamp, -, applied⟩ := exists_of_bind_ok applied
      exact ⟨_, (Case.postInit_of_update applied).2⟩
  | close actorUserId now =>
      obtain ⟨⟨⟩, -, applied⟩ := exists_of_bind_ok applied
      obtain ⟨timestamp, -, applied⟩ := exists_of_bind_ok applied
      exact ⟨_, (Case.postInit_of_close applied).2⟩
  | reopen actorUserId now =>
      simp only [apply] at applied
      split at applied
      · cases applied
      · obtain ⟨timestamp, -, applied⟩ := exists_of_bind_ok applied
        exact ⟨_, (Case.postInit_of_reopen applied).2⟩
  | archive actorUserId now =>
      obtain ⟨timestamp, -, built⟩ := exists_of_bind_ok applied
      exact ⟨_, built⟩

theorem Case.Produced.sound {case : Case} (produced : Case.Produced u case)
    : Case.postInit u case = .ok case := by
  cases produced with
  | constructed made => exact Case.postInit_again made
  | changed produced done =>
      obtain ⟨draft, made⟩ := CaseOperation.apply_constructs done
      exact Case.postInit_again made

-----------------------------------------------------------------------------------------
-- Records of produced values
-----------------------------------------------------------------------------------------

section Returned

variable (zone : Timestamp → Int)

@[simp] theorem astimezoneUtc_returned (instant : Timestamp)
    : ((ZonedDatetime.utc instant).returned zone).astimezoneUtc = instant :=
  rfl

@[simp] theorem map_astimezoneUtc_returned (instant : Option Timestamp)
    : ((instant.map ZonedDatetime.utc).map (ZonedDatetime.returned zone)).map
        ZonedDatetime.astimezoneUtc = instant := by
  cases instant <;> rfl

theorem raised_ok {ε α : Type} {failure : ε → RecordExn} {result : Except ε α} {value : α}
    (accepted : result = .ok value)
    : raised failure result = .ok value := by
  rw [accepted]
  rfl

theorem userFromRecord_returned {user : User} (produced : User.Produced u user)
    : userFromRecord u ((recordFromUser user).returned zone) = .ok user := by
  obtain ⟨valid, address, parsed⟩ := produced.sound
  have email : raised .account (EmailAddress.parse u user.email.display) = .ok user.email :=
    raised_ok (EmailAddress.parse_parsed parsed).2.1
  simp only [userFromRecord, UserRecord.returned, recordFromUser, email,
    astimezoneUtc_returned, map_astimezoneUtc_returned, bind, Except.bind]
  exact raised_ok valid.postInit

theorem recordFromUser_accepted {user : User} (produced : User.Produced u user)
    : (recordFromUser user).accepted = true := by
  obtain ⟨valid, address, parsed⟩ := produced.sound
  obtain ⟨shown, -, short⟩ := EmailAddress.parse_parsed parsed
  have displayed : user.email.display.length ≤ 254 := by
    rw [shown] at short ⊢
    exact Nat.le_trans (u.casefold_length _) short
  have named := (normalizeName_normalized valid.name).2
  have stamped := valid.stamped
  cases disabled : user.disabledAt
    <;> simp_all [UserRecord.accepted, recordFromUser, within]

theorem organizationFromRecord_returned {organization : Organization}
    (produced : Organization.Produced u organization)
    : organizationFromRecord u ((recordFromOrganization organization).returned zone)
      = .ok organization := by
  obtain ⟨valid, text, parsed⟩ := produced.sound
  have slug : raised .account (OrganizationSlug.parse u organization.slug.value)
      = .ok organization.slug :=
    raised_ok (OrganizationSlug.parse_parsed parsed).1
  simp only [organizationFromRecord, OrganizationRecord.returned, recordFromOrganization, slug,
    astimezoneUtc_returned, map_astimezoneUtc_returned, bind, Except.bind]
  exact raised_ok valid.postInit

theorem recordFromOrganization_accepted {organization : Organization}
    (produced : Organization.Produced u organization)
    : (recordFromOrganization organization).accepted = true := by
  obtain ⟨valid, text, parsed⟩ := produced.sound
  have short := (OrganizationSlug.parse_parsed parsed).2
  have named := (normalizeName_normalized valid.name).2
  have stamped := valid.stamped
  cases deactivated : organization.deactivatedAt
    <;> simp_all [OrganizationRecord.accepted, recordFromOrganization, within]

theorem parseRole_value (role : Role) : parseRole (roleValue role) = .ok role := by
  cases role <;> rfl

theorem parseMembershipStatus_value (status : MembershipStatus)
    : parseMembershipStatus status.value = .ok status := by
  cases status <;> rfl

theorem membershipFromRecord_returned {membership : Membership} (produced : membership.Produced)
    : Records.membershipFromRecord ((recordFromMembership membership).returned zone)
      = .ok membership := by
  have built := Membership.postInit_iff.mpr ⟨produced.sound, rfl⟩
  simp only [Records.membershipFromRecord, MembershipRecord.returned, recordFromMembership,
    parseRole_value, parseMembershipStatus_value, astimezoneUtc_returned,
    map_astimezoneUtc_returned, bind, Except.bind]
  exact raised_ok built

theorem recordFromMembership_accepted {membership : Membership} (produced : membership.Produced)
    : (recordFromMembership membership).accepted = true := by
  have consistent := Membership.lifecycleTimestampsConsistent_iff.mpr produced.sound.stamped
  have roles : ["owner", "admin", "operator", "reviewer", "auditor"].contains
        (roleValue membership.role) = true
      ∧ within (roleValue membership.role).toList 32 = true := by
    cases membership.role <;> decide
  have statuses : ["invited", "active", "suspended", "removed"].contains
        membership.status.value = true
      ∧ within membership.status.value.toList 32 = true := by
    cases membership.status <;> decide
  simp only [MembershipRecord.accepted, consistent, Bool.and_true, Bool.and_eq_true]
  exact ⟨⟨⟨roles.1, statuses.1⟩, roles.2⟩, statuses.2⟩

theorem authSessionFromRecord_returned {session : Identity.AuthSession}
    (produced : session.Produced)
    : authSessionFromRecord ((recordFromAuthSession session).returned zone) = .ok session := by
  have built := Identity.AuthSession.postInit_eq_ok.mpr ⟨produced.sound, rfl⟩
  simp only [authSessionFromRecord, AuthSessionRecord.returned, recordFromAuthSession,
    astimezoneUtc_returned, map_astimezoneUtc_returned]
  exact raised_ok built

theorem recordFromAuthSession_accepted {session : Identity.AuthSession}
    (produced : session.Produced)
    : (recordFromAuthSession session).accepted = true := by
  have valid := produced.sound
  have expires := valid.expires
  have updated := valid.updated
  have revoked := valid.revoked
  cases stamp : session.revokedAt
    <;> simp_all [AuthSessionRecord.accepted, recordFromAuthSession, ZonedDatetime.utc]

/-- A digest is in lower case and has no white space around it. -/
theorem parseRefreshTokenDigest_value (digest : Identity.RefreshTokenDigest)
    : parseRefreshTokenDigest u digest.value = .ok digest := by
  have hex : ∀ c ∈ digest.value, isAsciiLower c = true ∨ isAsciiDigit c = true ∨ c = '-' := by
    intro c member
    have valid := digest.valid
    simp only [isSha256Hex, Bool.and_eq_true, List.all_eq_true] at valid
    rcases Bool.or_eq_true _ _ ▸ valid.2 c member with digit | letter
    · exact .inr (.inl digit)
    · simp only [Bool.and_eq_true, decide_eq_true_eq] at letter
      have lower : 'a' ≤ c ∧ c ≤ 'z' := ⟨letter.1, Char.le_trans letter.2 (by decide)⟩
      exact .inl (by simpa [isAsciiLower] using lower)
  simp only [parseRefreshTokenDigest, lower_strip_of_ascii hex, dif_pos digest.valid]

theorem refreshTokenFromRecord_returned {token : Identity.RefreshTokenRecord}
    (produced : token.Produced)
    : refreshTokenFromRecord u ((recordFromRefreshToken token).returned zone) = .ok token := by
  obtain ⟨valid, replacement⟩ := produced.sound
  have built := Identity.RefreshTokenRecord.postInit_eq_ok.mpr ⟨valid, rfl⟩
  have nonNil {value : UUID} {fieldName : String} (some : value ≠ 0)
      : raised RecordExn.session (Identity.validateUuid value fieldName) = .ok () :=
    raised_ok (if_neg some)
  have replaced : raised RecordExn.session (token.replacedByTokenId.forM
      (Identity.validateUuid · "Refresh token identifier")) = .ok () := by
    cases found : token.replacedByTokenId with
    | none => rfl
    | some other => exact nonNil (replacement other found)
  have generation : ¬ (token.generation : Int) < 0 := Int.not_lt.mpr (Int.natCast_nonneg _)
  simp only [refreshTokenFromRecord, RefreshTokenRecordModel.returned, recordFromRefreshToken,
    nonNil valid.id, nonNil valid.session, nonNil valid.family, replaced,
    raised_ok (parseRefreshTokenDigest_value token.tokenDigest), if_neg generation,
    astimezoneUtc_returned, map_astimezoneUtc_returned, Int.toNat_natCast, bind, Except.bind]
  exact raised_ok built

theorem recordFromRefreshToken_accepted {token : Identity.RefreshTokenRecord}
    (produced : token.Produced)
    : (recordFromRefreshToken token).accepted = true := by
  obtain ⟨valid, -⟩ := produced.sound
  have expires := valid.expires
  have used := valid.used
  have revoked := valid.revoked
  have digest : token.tokenDigest.value.length = 64 := by
    have hex := token.tokenDigest.valid
    simp only [isSha256Hex, Bool.and_eq_true, beq_iff_eq] at hex
    exact hex.1
  cases usedAt : token.usedAt <;> cases revokedAt : token.revokedAt
    <;> simp_all [RefreshTokenRecordModel.accepted, recordFromRefreshToken, ZonedDatetime.utc,
      within]

theorem batchFromRecord_returned {batch : Batch} (produced : Batch.Produced u batch)
    : Records.batchFromRecord u ((recordFromBatch batch).returned zone) = .ok batch := by
  obtain ⟨identifier, built⟩ := produced.sound
  have nonNil : validateBatchUuid batch.id "Batch identifier" = .ok () := if_neg identifier
  have status : parseBatchStatus (batchStatusValue batch.status) = .ok batch.status := by
    cases batch.status <;> rfl
  simp only [Records.batchFromRecord, BatchRecord.returned, recordFromBatch, status,
    raised_ok nonNil, astimezoneUtc_returned, map_astimezoneUtc_returned, bind, Except.bind]
  exact raised_ok built

/-- The optional texts of a batch or a case fit their columns. -/
theorem all_within {text : Option Text} {width : Nat}
    (short : ∀ content, text = some content → content.length ≤ width)
    : text.all (within · width) = true := by
  cases text with
  | none => rfl
  | some content => simpa [within] using short content rfl

theorem recordFromBatch_accepted {batch : Batch} (produced : Batch.Produced u batch)
    : (recordFromBatch batch).accepted = true := by
  obtain ⟨name, description, externalReference, hasName, hasDescription, hasReference, positive,
    -, same⟩ := Batch.postInit_eq_ok produced.sound.2
  have status : ["open", "closed", "archived"].contains (batchStatusValue batch.status) = true
      ∧ within (batchStatusValue batch.status).toList 32 = true := by
    cases batch.status <;> decide
  have named : within batch.name 255 = true := by
    rw [same]
    simpa [within] using (requiredText_bounded hasName).2
  have described : batch.description.all (within · 2000) = true := by
    rw [same]
    exact all_within (boundedText_bounded hasDescription).2
  have referenced : batch.externalReference.all (within · 255) = true := by
    rw [same]
    exact all_within (boundedText_bounded hasReference).2
  simp only [BatchRecord.accepted, recordFromBatch, Bool.and_eq_true]
  exact ⟨⟨⟨⟨⟨status.1, decide_eq_true positive⟩, named⟩, described⟩, status.2⟩, referenced⟩

theorem caseFromRecord_returned {case : Case} (produced : Case.Produced u case)
    : Records.caseFromRecord u ((Records.caseRecord case).returned zone) = .ok case := by
  have status : parseCaseStatus (caseStatusValue case.status) = .ok case.status := by
    cases case.status <;> rfl
  have priority : parseCasePriority (casePriorityValue case.priority) = .ok case.priority := by
    cases case.priority <;> rfl
  simp only [Records.caseFromRecord, CaseRecord.returned, Records.caseRecord, status, priority,
    astimezoneUtc_returned, map_astimezoneUtc_returned, bind, Except.bind]
  exact raised_ok produced.sound

theorem caseRecord_accepted {case : Case} (produced : Case.Produced u case)
    : (Records.caseRecord case).accepted = true := by
  obtain ⟨title, summary, externalReference, hasTitle, hasSummary, hasReference, positive, same⟩ :=
    Case.postInit_eq_ok produced.sound
  have status : ["open", "closed", "archived"].contains (caseStatusValue case.status) = true
      ∧ within (caseStatusValue case.status).toList 32 = true := by
    cases case.status <;> decide
  have priority : ["low", "normal", "high", "urgent"].contains (casePriorityValue case.priority)
        = true
      ∧ within (casePriorityValue case.priority).toList 32 = true := by
    cases case.priority <;> decide
  have titled : within case.title 255 = true := by
    rw [same]
    simpa [within] using (requiredText_bounded hasTitle).2
  have summed : case.summary.all (within · 4000) = true := by
    rw [same]
    exact all_within (boundedText_bounded hasSummary).2
  have referenced : case.externalReference.all (within · 255) = true := by
    rw [same]
    exact all_within (boundedText_bounded hasReference).2
  simp only [CaseRecord.accepted, Records.caseRecord, Bool.and_eq_true]
  exact ⟨⟨⟨⟨⟨⟨⟨status.1, priority.1⟩, decide_eq_true positive⟩, titled⟩, summed⟩, status.2⟩,
    priority.2⟩, referenced⟩

end Returned

/-- Values of the seven entities that the domain produces are accepted by their tables, and
come back from the returned rows with every field as it was. -/
theorem records_round_trip (zone : Timestamp → Int)
    : (∀ user, User.Produced u user
        → (recordFromUser user).accepted = true
          ∧ userFromRecord u ((recordFromUser user).returned zone) = .ok user)
      ∧ (∀ organization, Organization.Produced u organization
          → (recordFromOrganization organization).accepted = true
            ∧ organizationFromRecord u ((recordFromOrganization organization).returned zone)
              = .ok organization)
      ∧ (∀ membership : Membership, membership.Produced
          → (recordFromMembership membership).accepted = true
            ∧ Records.membershipFromRecord ((recordFromMembership membership).returned zone)
              = .ok membership)
      ∧ (∀ session : Identity.AuthSession, session.Produced
          → (recordFromAuthSession session).accepted = true
            ∧ authSessionFromRecord ((recordFromAuthSession session).returned zone)
              = .ok session)
      ∧ (∀ token : Identity.RefreshTokenRecord, token.Produced
          → (recordFromRefreshToken token).accepted = true
            ∧ refreshTokenFromRecord u ((recordFromRefreshToken token).returned zone)
              = .ok token)
      ∧ (∀ batch, Batch.Produced u batch
          → (recordFromBatch batch).accepted = true
            ∧ Records.batchFromRecord u ((recordFromBatch batch).returned zone) = .ok batch)
      ∧ ∀ case, Case.Produced u case
          → (Records.caseRecord case).accepted = true
            ∧ Records.caseFromRecord u ((Records.caseRecord case).returned zone) = .ok case :=
  ⟨fun _ produced =>
      ⟨recordFromUser_accepted produced, userFromRecord_returned zone produced⟩,
    fun _ produced =>
      ⟨recordFromOrganization_accepted produced, organizationFromRecord_returned zone produced⟩,
    fun _ produced =>
      ⟨recordFromMembership_accepted produced, membershipFromRecord_returned zone produced⟩,
    fun _ produced =>
      ⟨recordFromAuthSession_accepted produced, authSessionFromRecord_returned zone produced⟩,
    fun _ produced =>
      ⟨recordFromRefreshToken_accepted produced, refreshTokenFromRecord_returned zone produced⟩,
    fun _ produced => ⟨recordFromBatch_accepted produced, batchFromRecord_returned zone produced⟩,
    fun _ produced => ⟨caseRecord_accepted produced, caseFromRecord_returned zone produced⟩⟩

/-- An account whose address is written with capitals, and disabled later. -/
def userSample : User where
  id := 7
  email := ⟨"Ada@Example.org".toList, "ada@example.org".toList⟩
  displayName := "Ada Lovelace".toList
  isActive := false
  createdAt := 10
  updatedAt := 20
  disabledAt := some 20

/-- The account before it was disabled. -/
def userBefore : User := { userSample with isActive := true, updatedAt := 10, disabledAt := none }

theorem userSample_produced : User.Produced asciiUnicode userSample := by
  have parsed : EmailAddress.parse asciiUnicode " Ada@Example.org ".toList
      = .ok userBefore.email := rfl
  have made : User.postInit asciiUnicode
      { userBefore with displayName := "  Ada   Lovelace ".toList } = .ok userBefore := rfl
  have before : User.Produced asciiUnicode userBefore :=
    @User.Produced.constructed asciiUnicode _ _ _ parsed made
  have done : User.disable asciiUnicode userBefore (.aware 20) = .ok userSample := rfl
  exact .disabled before done

/-- The record is returned with its times at an offset of two hours. -/
theorem records_round_trip_sample
    : userFromRecord asciiUnicode
        ((recordFromUser userSample).returned (fun _ => 7200000000))
      = .ok userSample :=
  ((records_round_trip (fun _ => 7200000000)).1 userSample
    userSample_produced).2

end WorkflowForge
