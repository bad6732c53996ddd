import NetLookup.Proofs.Attempts
import NetLookup.Proofs.Failures

/-! # What lookups attempt

What a lookup answers accounts for what it attempts: either nothing was raised, or the last attempt raised
what the answer names. Stage by stage, this holds of every lookup. -/

namespace NetLookup

variable {α β : Type} {r : Remote}

/-! ## Judged listings -/

theorem describe_attempts (hr : r.FailsPlainly) (operation key : String) {params : Fields}
    (hparams : Listing.anySaid [Listing.ownName] params = false) :
    Effect.Attempts r (describeEffect operation key params r)
      (describeEffect operation key params r.begun) := by
  have hlisting := listAll_attempts hr .ec2 operation key hparams
  obtain ⟨-, hanswer, hevents⟩ := Work.listAll_asks .ec2 (.str Api.ec2.service) operation key hparams
  unfold Work.Attempts Work.alone at hlisting
  rw [hanswer, hevents] at hlisting
  exact hlisting

theorem judged_attempts (hr : r.FailsPlainly) (operation key : String) {params : Fields}
    (hparams : Listing.anySaid [Listing.ownName] params = false)
    {judge : List Json → Except Failure α} (hjudge : ∀ records, Blameless (judge records)) :
    (judged operation key params judge).Attempts r :=
  Work.Attempts.bind (Work.listAll_asks _ _ _ _ hparams).1 (fun _ => Work.check_uncached _)
    (listAll_attempts hr .ec2 operation key hparams) fun records => Work.check_attempts (hjudge records)

def Sight.begun (seen : Sight) : Sight := { seen with remote := seen.remote.begun }

variable {seen : Sight}

theorem View.orAskEffect_attempts {v : View} {key : String} {use : Stored → β}
    {ask : Work (β × Option Stored)} (h : ask.Attempts seen.remote) :
    Effect.Attempts seen.remote (v.orAskEffect key use ask seen)
      (v.orAskEffect key use ask seen.begun) := by
  have hlive : seen.begun.live = seen.live := rfl
  unfold orAskEffect
  rw [hlive]
  cases seen.live (v.slot (.text key)) with
  | some found => exact .of (.ok _)
  | none =>
    have hmapped := h.map (·.1)
    exact ⟨hmapped.answer, hmapped.sent, hmapped.accounts⟩

namespace Lookup

/-! ## Lookups of one key -/

theorem networkOf_blameless (reservations : List Json) : Blameless (networkOf (.arr reservations)) := by
  have size (v : Json) : Blameless v.size := (Json.size_onlyFaults v).blameless
  have first (v : Json) : Blameless v.first := (Json.first_onlyFaults v).blameless
  have field (v : Json) (name : String) (default : Json) : Blameless (v.fieldD name default) :=
    (Json.fieldD_onlyFaults v name default).blameless
  unfold networkOf
  refine (size _).bind fun count => ?_
  split
  · exact .lookup _ _ _ _
  refine (first _).bind fun reservation => (field _ _ _).bind fun instances => ?_
  refine (size _).bind fun number => ?_
  split
  · exact .lookup _ _ _ _
  refine (first _).bind fun host => (field _ _ _).bind fun id => ?_
  split
  · exact .lookup _ _ _ _
  · exact .lookup _ _ _ _
  · exact .ok _

theorem askNetwork_attempts (hr : r.FailsPlainly) (s : Settings) : (askNetwork s).Attempts r :=
  Work.Attempts.bind (hostIdentity_asks s.metadata).1 (fun _ => instanceNetwork_uncached _)
    (hostIdentity_attempts hr s.metadata) fun _ =>
      judged_attempts hr _ _ rfl fun reservations => (networkOf_blameless reservations).map

theorem vpcGiven_blameless (id : String) (records : List Json) : Blameless (vpcGiven id records) := by
  unfold vpcGiven
  split
  · exact (Vpc.ofJson_onlyFaults _).blameless.map
  · exact fun _ _ h => by cases h

theorem verdictOf_onlyFaults (id : String) (records : List Json) : OnlyFaults (verdictOf id records) := by
  induction records with
  | nil => exact .ok none
  | cons record records ih =>
    unfold verdictOf
    refine (InstanceStatus.ofJson_onlyFaults record).bind fun status => ?_
    split
    · exact (running_onlyFaults _).bind fun _ => .ok _
    · exact ih

theorem networkEffect_attempts (hr : seen.remote.FailsPlainly) (s : Settings) :
    Effect.Attempts seen.remote (networkEffect s seen) (networkEffect s seen.begun) := by
  unfold networkEffect
  cases nonEmpty s.vpcId with
  | some id => exact .of (.ok _)
  | none => exact View.orAskEffect_attempts (askNetwork_attempts hr s)

/-! ## The subnets of a cluster -/

theorem fetchedOf_onlyFaults (record : Json) : OnlyFaults (fetchedOf record) :=
  (Subnet.ofJson_onlyFaults record).bind fun _ => (Key.ofJson_onlyFaults _).bind fun _ => .ok _

theorem fetchEffect_attempts (hr : r.FailsPlainly) (missing : List String) :
    Effect.Attempts r (fetchEffect missing r) (fetchEffect missing r.begun) := by
  unfold fetchEffect
  by_cases hnone : missing.isEmpty = true
  · simp only [hnone, if_true]
    exact .of (.ok [])
  · simp only [hnone, Bool.false_eq_true, if_false]
    exact (describe_attempts hr _ _ rfl).andThen fun records =>
      .of (OnlyFaults.mapM fetchedOf_onlyFaults).blameless

theorem chooseEffect_events (v : View) (now : Float) (fetched : List (Key × Subnet))
    (known : Named Stored) (ids : List String) (admitted : List Subnet) :
    (chooseEffect v now fetched known ids admitted).events = [] := by
  induction ids generalizing admitted with
  | nil => rfl
  | cons id ids ih =>
    unfold chooseEffect
    cases lastFetched fetched id with
    | some subnet =>
      by_cases husable : subnet.usable admitted = true
      · simp only [husable, if_true, Effect.andThen, List.nil_append, ih]
      · simp only [husable, Bool.false_eq_true, if_false, ih]
    | none =>
      cases known.lookup id with
      | some stored =>
        simp only [Effect.of_andThen]
        cases stored.asSubnet with
        | error e => rfl
        | ok subnet => exact ih _
      | none => exact ih admitted

theorem finished_blameless (s : Settings) (scheme : Scheme) (admitted : List Subnet) :
    Blameless (finished s scheme admitted) := by
  refine (Json.sorted_onlyFaults _).blameless.bind fun found => ?_
  split
  · exact .lookup _ _ _ _
  · exact .ok found

theorem Scheme.ofJson_blameless (scheme : Json) : Blameless (Scheme.ofJson scheme) := by
  unfold Scheme.ofJson
  split
  · exact .ok _
  · exact .ok _
  · exact fun _ _ h => by cases h
  · exact fun _ _ h => by cases h
  · exact fun _ _ h => by cases h

theorem Mapping.ofJson_onlyFaults (record : Json) : OnlyFaults (Mapping.ofJson record) := by
  have field (name : String) (default : Json) := Json.fieldD_onlyFaults record name default
  refine (field _ _).bind fun arn => (field _ _).bind fun tags => ?_
  refine (Json.elements_onlyFaults tags).bind fun _ => ?_
  refine (OnlyFaults.mapM Tags.pairOf_onlyFaults).bind fun _ => ?_
  split
  · exact .ok _
  · exact .fault _

theorem clusterIndex_attempts (hr : r.FailsPlainly) (cluster : String) :
    (clusterIndex cluster).Attempts r := by
  have hread (records : List Json) : Blameless (records.mapM Mapping.ofJson) :=
    (OnlyFaults.mapM Mapping.ofJson_onlyFaults).blameless
  refine Work.Attempts.bind (Work.listAll_asks _ _ _ _ rfl).1 (fun records => ?_)
    (listAll_attempts hr .tagging _ _ rfl) fun records => ?_
  · exact (Work.check_uncached _).bind fun _ => Work.pure_uncached _
  · exact Work.Attempts.bind (Work.check_uncached _) (fun _ => Work.pure_uncached _)
      (Work.check_attempts (hread records)) fun mappings => Work.check_attempts (.ok _)

theorem clusterEffect_attempts (hr : seen.remote.FailsPlainly) (s : Settings) (scheme : Json) :
    Effect.Attempts seen.remote (clusterEffect s scheme seen) (clusterEffect s scheme seen.begun) := by
  refine (Effect.Attempts.of (Scheme.ofJson_blameless scheme)).andThen fun asked => ?_
  refine (clusterIndex_attempts hr s.clusterName).andThen fun index => ?_
  refine (fetchEffect_attempts hr _).andThen fun fetched => ?_
  refine Effect.Attempts.andThen ?_ fun admitted => .of (finished_blameless s asked admitted)
  exact .of_idle rfl (chooseEffect_events _ _ _ _ _ _) (chooseEffect_events _ _ _ _ _ _)
    (chooseEffect_onlyFaults _ _ _ _ _ _).blameless

end Lookup

/-! ## Lookups by name -/

theorem NameLookup.effect_attempts (n : NameLookup) (hr : seen.remote.FailsPlainly) (s : Settings)
    (names : List String) :
    Effect.Attempts seen.remote (n.effect s names seen) (n.effect s names seen.begun) := by
  by_cases hmissing : n.missing s seen names = []
  · have hbegun : n.missing s seen.begun names = [] := hmissing
    rw [effect_of_live hmissing, effect_of_live hbegun]
    exact .of (.ok _)
  · have hbegun : n.missing s seen.begun names ≠ [] := hmissing
    rw [effect_of_missing hmissing, effect_of_missing hbegun]
    refine Effect.Attempts.map ?_ _
    refine (Lookup.networkEffect_attempts hr s).andThen fun network => ?_
    refine (describe_attempts hr _ _ rfl).andThen fun records => ?_
    exact .of_idle rfl rfl rfl (filedIds_onlyFaults n.read_onlyFaults n.unnamed records).blameless

/-! ## Lookups without the cache -/

namespace Lookup

theorem instancesOf_onlyFaults (reservation : Json) : OnlyFaults (instancesOf reservation) :=
  (Json.fieldD_onlyFaults _ _ _).bind fun found => (Json.elements_onlyFaults found).bind fun _ =>
    .mapM Instance.ofJson_onlyFaults

theorem firstGroup_onlyFaults (records : List Json) : OnlyFaults (firstGroup records) := by
  cases records with
  | nil => exact .ok none
  | cons record rest => exact (SecurityGroup.ofJson_onlyFaults record).map

theorem instances_uncached (ids : List String) : (instances ids).Uncached :=
  (Work.listAll_asks _ _ _ _ rfl).1.bind fun _ => (Work.check_uncached _).bind fun _ => Work.pure_uncached _

theorem instances_attempts (hr : r.FailsPlainly) (ids : List String) :
    (instances ids).Attempts r := by
  have hread (reservations : List Json) : Blameless (reservations.mapM instancesOf) :=
    (OnlyFaults.mapM instancesOf_onlyFaults).blameless
  refine Work.Attempts.bind (Work.listAll_asks _ _ _ _ rfl).1 (fun reservations => ?_)
    (listAll_attempts hr .ec2 _ _ rfl) fun reservations => ?_
  · exact (Work.check_uncached _).bind fun _ => Work.pure_uncached _
  · exact Work.Attempts.bind (Work.check_uncached _) (fun _ => Work.pure_uncached _)
      (Work.check_attempts (hread reservations)) fun _ => Work.check_attempts (.ok _)

theorem securityGroupByName_attempts (hr : r.FailsPlainly) (network name : String) :
    (securityGroupByName network name).Attempts r :=
  judged_attempts hr _ _ rfl fun records => (firstGroup_onlyFaults records).blameless

theorem status_asks : status.Uncached ∧
    status.answer = (fun r => match r.tagsFailure with
      | some e => .error (e.named (.str "ec2") (.str "describe_tags") [])
      | none => .ok ()) ∧
    status.events = fun _ => [.call "describe_tags" [("MaxResults", .num 6)]] := by
  refine Work.Uncached.of_run fun st => ?_
  unfold status
  rw [Work.bind_run_ok (Work.perform_run _ st), Work.bind_run_ok (Work.get_run _)]
  cases st.remote.tagsFailure with
  | none => rfl
  | some e => rfl

theorem status_attempts (hr : r.FailsPlainly) : status.Attempts r := by
  obtain ⟨-, hanswer, hevents⟩ := status_asks
  unfold Work.Attempts Work.alone
  rw [hanswer, hevents]
  refine ⟨rfl, rfl, ?_⟩
  show r.Accounts (match r.tagsFailure with
    | some e => .error (e.named (.str "ec2") (.str "describe_tags") [])
    | none => .ok ()) [.call "describe_tags" [("MaxResults", .num 6)]]
  cases htags : r.tagsFailure with
  | none =>
    refine .smooth (fun event hevent => ?_) (.ok ())
    obtain rfl := List.mem_singleton.1 hevent
    exact fun _ => htags
  | some e =>
    refine .stopped [] _ e (by simp) (fun _ => htags) fun request cause hnamed => ?_
    exact FailedRequest.names_of_named (hr.tags e htags) rfl (fun _ _ _ h => by cases h) hnamed

/-! ### One group by its id -/

def unknownOr (e : Failure) : Except Failure (List Json) :=
  match e with
  | .transport _ _ => e.isNotFound.bind fun unknown => if unknown then .ok [] else .error e
  | _ => .error e

theorem noneIfUnknown_run (e : Failure) (st : State) :
    (noneIfUnknown e).run.run st = (unknownOr e, st) := by
  unfold noneIfUnknown unknownOr
  cases e with
  | transport request cause =>
    rw [Work.check_bind_run]
    rcases (Failure.transport request cause).isNotFound with e | _ | _
    · rfl
    · rfl
    · rfl
  | _ => rfl

theorem eq_of_unknownOr {e : Failure} {request : FailedRequest} {cause : Option Failure}
    (h : unknownOr e = .error (.transport request cause)) : e = .transport request cause := by
  unfold unknownOr at h
  split at h
  · rename_i own ownCause
    have hblameless := (Failure.codeAmong_onlyFaults Failure.notFoundCodes (.transport own ownCause)).blameless
    cases hcode : (Failure.transport own ownCause).isNotFound with
    | error fault =>
      rw [hcode] at h
      exact absurd (Except.error.inj h) (hblameless.failure hcode request cause)
    | ok unknown =>
      rw [hcode] at h
      cases unknown with
      | true => cases h
      | false => exact Except.error.inj h
  · exact Except.error.inj h

def groupParams (id : String) : Fields := [("GroupIds", .arr [.str id])]

theorem securityGroupById_asks (id : String) : (securityGroupById id).Uncached ∧
    (securityGroupById id).answer = (fun r =>
      ((describeGroups (groupParams id)).answer r |>.tryCatch unknownOr).bind firstGroup) ∧
    (securityGroupById id).events = (describeGroups (groupParams id)).events := by
  refine Work.Uncached.of_run fun st => ?_
  have hdescribed : (describeGroups (groupParams id)).run.run st
      = ((describeGroups (groupParams id)).answer st.remote,
        st.adding ((describeGroups (groupParams id)).events st.remote)) :=
    describeGroups_uncached rfl st
  unfold securityGroupById
  rw [Work.bind_run, Work.tryCatch_run, ← groupParams, hdescribed]
  cases (describeGroups (groupParams id)).answer st.remote with
  | ok records => rfl
  | error e =>
    simp only [noneIfUnknown_run, Except.tryCatch]
    cases unknownOr e with
    | ok records => rfl
    | error e' => rfl

theorem describeGroups_attempts (hr : r.FailsPlainly) (id : String) :
    (describeGroups (groupParams id)).Attempts r :=
  listAll_attempts hr .ec2 _ _ rfl

theorem failure_of_securityGroupById {id : String} {request : FailedRequest} {cause : Option Failure}
    (h : (securityGroupById id).answer r = .error (.transport request cause)) :
    (describeGroups (groupParams id)).answer r = .error (.transport request cause) := by
  obtain ⟨-, hanswer, -⟩ := securityGroupById_asks id
  simp only [hanswer] at h
  have first {records : List Json} (h : firstGroup records = .error (.transport request cause)) : False :=
    (firstGroup_onlyFaults records).blameless.failure h request cause rfl
  cases hdescribed : (describeGroups (groupParams id)).answer r with
  | ok records =>
    rw [hdescribed] at h
    exact (first h).elim
  | error e =>
    simp only [hdescribed, Except.tryCatch] at h
    cases hunknown : unknownOr e with
    | ok records =>
      rw [hunknown] at h
      exact (first h).elim
    | error e' =>
      rw [hunknown] at h
      obtain rfl : e' = .transport request cause := Except.error.inj h
      rw [eq_of_unknownOr hunknown]

end Lookup

end NetLookup
