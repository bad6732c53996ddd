import NetLookup.Proofs.Clock
import NetLookup.Proofs.Failures
import Mathlib.Data.List.DropRight

/-! # Finding our own network

Unless it is set or cached, our network is found in three stages: a token, the document that names the host,
and the record that says where the host is. Each stage needs the ones before it, and nothing is stored before
the last one. -/

namespace NetLookup

/-! ## The host -/

namespace Reply

/-- An answer came, and its status is no error. -/
def Good (reply : Reply) : Prop := reply.noAnswer = none ∧ reply.badStatus = none

/-- The document is an object that names an instance. -/
def Names (reply : Reply) (id : Json) : Prop :=
  ∃ fields, reply.document = .ok (.obj fields) ∧ fields.lookup "instanceId" = some id ∧ id.truthy = true

theorem Names.unique {reply : Reply} {id other : Json} (h : reply.Names id) (k : reply.Names other) :
    id = other := by
  obtain ⟨fields, hdocument, hid, -⟩ := h
  obtain ⟨others, hother, hk, -⟩ := k
  rw [hdocument] at hother
  cases hother
  exact Option.some.inj (hid.symm.trans hk)

theorem received_eq_ok {reply : Reply} : reply.received = .ok () ↔ reply.Good := by
  unfold received Good
  rcases reply.noAnswer with _ | e
  · rcases reply.badStatus with _ | message <;> simp
  · simp

end Reply

theorem eq_some_of_getD {β : Type} {o : Option β} {default b : β} (h : o.getD default = b) (hb : b ≠ default) :
    o = some b := by
  cases o with
  | none => exact absurd h.symm hb
  | some c => exact congrArg some h

theorem Json.obj_of_fieldD {v default found : Json} {name : String} (h : v.fieldD name default = .ok found) :
    ∃ fields, v = .obj fields ∧ (fields.lookup name).getD default = found := by
  cases v with
  | obj fields => exact ⟨fields, rfl, Except.ok.inj h⟩
  | _ => cases h

theorem Json.arr_of_first {v : Json} {fields : Fields} (h : v.first = .ok (.obj fields)) :
    ∃ others, v = .arr (.obj fields :: others) := by
  unfold first at h
  split at h
  · rename_i first others
    obtain rfl := Except.ok.inj h
    exact ⟨others, rfl⟩
  all_goals cases h

theorem Identity.ofJson_names {document id : Json} :
    (∃ identity, ofJson document = .ok identity ∧ identity.instanceId = id)
      ↔ ∃ fields, document = .obj fields ∧ fields.lookup "instanceId" = some id ∧ id.truthy = true := by
  constructor
  · rintro ⟨identity, h, rfl⟩
    unfold ofJson at h
    obtain ⟨found, hfound, h⟩ := ok_of_bind h
    obtain ⟨fields, rfl, hlookup⟩ := Json.obj_of_fieldD hfound
    by_cases htruthy : found.truthy = true
    · simp only [htruthy, Bool.not_true, Bool.false_eq_true, if_false] at h
      cases h
      refine ⟨fields, rfl, eq_some_of_getD hlookup ?_, htruthy⟩
      rintro rfl
      cases htruthy
    · simp only [htruthy, Bool.not_false, if_true] at h
      cases h
  · rintro ⟨fields, rfl, hlookup, htruthy⟩
    unfold ofJson
    simp only [Json.fieldOrEmpty, Json.fieldD_obj, hlookup, Option.getD_some, bind, Except.bind, htruthy,
      Bool.not_true, Bool.false_eq_true, if_false]
    exact ⟨_, rfl, rfl⟩

namespace MetadataService

theorem identityOf_names {r : Remote} {id : Json} :
    (∃ identity, identityOf r = .ok identity ∧ identity.instanceId = id)
      ↔ r.token.Good ∧ r.identity.Good ∧ r.identity.Names id := by
  constructor
  · rintro ⟨identity, h, hid⟩
    unfold identityOf at h
    obtain ⟨_, htoken, h⟩ := ok_of_bind h
    obtain ⟨_, hidentity, h⟩ := ok_of_bind h
    refine ⟨Reply.received_eq_ok.1 (ok_of_mapError htoken),
      Reply.received_eq_ok.1 (ok_of_mapError hidentity), ?_⟩
    cases hdocument : r.identity.document with
    | error reason =>
      rw [hdocument] at h
      cases h
    | ok document =>
      rw [hdocument] at h
      obtain ⟨fields, rfl, hnamed⟩ := Identity.ofJson_names.1 ⟨identity, h, hid⟩
      exact ⟨fields, hdocument, hnamed⟩
  · rintro ⟨htoken, hidentity, fields, hdocument, hnamed⟩
    unfold identityOf
    rw [Reply.received_eq_ok.2 htoken, Reply.received_eq_ok.2 hidentity, hdocument]
    exact Identity.ofJson_names.2 ⟨fields, rfl, hnamed⟩

end MetadataService

/-! ## The endpoint -/

/-- An endpoint is its stem with slashes after it, and the stem ends in none. -/
structure Stem (endpoint stem : String) : Prop where
  slashes : ∃ n, endpoint = stem ++ String.ofList (List.replicate n '/')
  bare : ∀ h : stem.toList ≠ [], stem.toList.getLast h ≠ '/'

namespace MetadataService

theorem base_eq_rdropWhile (m : MetadataService) :
    m.base = String.ofList (m.endpoint.toList.rdropWhile (· == '/')) := rfl

theorem base_slashes (endpoint : String) (timeout : Float) (slashes : Nat) :
    base ⟨endpoint ++ String.ofList (List.replicate slashes '/'), timeout⟩ = base ⟨endpoint, timeout⟩ := by
  unfold base
  simp only [String.toList_append, String.toList_ofList, List.reverse_append, List.reverse_replicate]
  rw [List.dropWhile_append_of_pos fun c hc => by simp [List.eq_of_mem_replicate hc]]

theorem stem_base (m : MetadataService) : Stem m.endpoint m.base where
  slashes := by
    refine ⟨(m.endpoint.toList.rtakeWhile (· == '/')).length, ?_⟩
    have htaken : List.replicate (m.endpoint.toList.rtakeWhile (· == '/')).length '/'
        = m.endpoint.toList.rtakeWhile (· == '/') :=
      (List.eq_replicate_of_mem fun c hc => by simpa using List.mem_rtakeWhile_imp hc).symm
    rw [htaken, base_eq_rdropWhile, ← String.ofList_append, List.rdropWhile_append_rtakeWhile,
      String.ofList_toList]
  bare := by
    rw [base_eq_rdropWhile, String.toList_ofList]
    intro h
    simpa using List.rdropWhile_last_not _ _ h

theorem base_of_stem {m : MetadataService} {stem : String} (h : Stem m.endpoint stem) : m.base = stem := by
  obtain ⟨⟨n, hslashes⟩, hbare⟩ := h
  have hkept : stem.toList.rdropWhile (· == '/') = stem.toList :=
    List.rdropWhile_eq_self_iff.2 fun h => by simpa using hbare h
  calc m.base
    _ = base ⟨stem ++ String.ofList (List.replicate n '/'), m.timeout⟩ := by rw [← hslashes]
    _ = base ⟨stem, m.timeout⟩ := base_slashes stem m.timeout n
    _ = stem := by rw [base_eq_rdropWhile, hkept, String.ofList_toList]

end MetadataService

theorem Stem.unique {endpoint stem other : String} (h : Stem endpoint stem) (k : Stem endpoint other) :
    stem = other := by
  have hbase : MetadataService.base ⟨endpoint, 0⟩ = stem := MetadataService.base_of_stem h
  rw [← hbase]
  exact MetadataService.base_of_stem k

/-! ## Where the host is -/

namespace Lookup

/-- The first instance of the first reservation says which network it is in. -/
def Places (reservations : List Json) (network : Json) : Prop :=
  ∃ fields rest host others, reservations = .obj fields :: rest ∧
    fields.lookup "Instances" = some (.arr (.obj host :: others)) ∧ host.lookup "VpcId" = some network

theorem networkOf_eq_ok {reservations : List Json} {network : Json} :
    networkOf (.arr reservations) = .ok network
      ↔ Places reservations network ∧ network ≠ .null ∧ network ≠ .str "" := by
  constructor
  · intro h
    refine ⟨?_, networkOf_present h⟩
    unfold networkOf at h
    cases reservations with
    | nil => cases h
    | cons reservation rest =>
      -- Every step has succeeded, and each shows one more part of the first record.
      obtain ⟨count, hcount, h⟩ := ok_of_bind h
      cases hcount
      simp only [List.length_cons, Nat.succ_ne_zero, if_false] at h
      obtain ⟨first, hfirst, h⟩ := ok_of_bind h
      cases hfirst
      obtain ⟨instances, hinstances, h⟩ := ok_of_bind h
      obtain ⟨size, -, h⟩ := ok_of_bind h
      by_cases hsize : size = 0
      · simp only [hsize, if_true] at h
        cases h
      · simp only [hsize, if_false] at h
        obtain ⟨host, hhost, h⟩ := ok_of_bind h
        obtain ⟨found, hfound, h⟩ := ok_of_bind h
        -- A null network was refused, so the field does not read as its default.
        have hnetwork : found = network ∧ found ≠ .null := by
          split at h
          · cases h
          · cases h
          · rename_i hnull _
            exact ⟨Except.ok.inj h, hnull⟩
        obtain ⟨rfl, hpresent⟩ := hnetwork
        obtain ⟨host, rfl, hplace⟩ := Json.obj_of_fieldD hfound
        obtain ⟨others, rfl⟩ := Json.arr_of_first hhost
        obtain ⟨fields, rfl, hhosts⟩ := Json.obj_of_fieldD hinstances
        exact ⟨fields, rest, host, others, rfl, eq_some_of_getD hhosts (by simp),
          eq_some_of_getD hplace hpresent⟩
  · rintro ⟨⟨fields, rest, host, others, rfl, hinstances, hnetwork⟩, hnull, hempty⟩
    unfold networkOf
    simp only [Json.size_arr, Json.first, Json.fieldD_obj, hinstances, hnetwork, bind, Except.bind,
      List.length_cons, Nat.succ_ne_zero, if_false, Option.getD_some]
    rfl

/-- Every stage succeeds, and the last one says which network the named host is in. -/
structure Found (r : Remote) (network : Json) : Prop where
  token : r.token.Good
  identity : r.identity.Good
  named : ∃ id, r.identity.Names id
  placed : ∃ reservations, r.listed .ec2 "describe_instances" "Reservations" = .ok reservations ∧
    Places reservations network
  present : network ≠ .null ∧ network ≠ .str ""

theorem askNetwork_eq_ok {s : Settings} {r : Remote} {network : Json} :
    (askNetwork s).answer r = .ok (network, some (.plain network)) ↔ Found r network := by
  rw [askNetwork_answer]
  constructor
  · intro h
    obtain ⟨identity, hidentity, h⟩ := ok_of_bind h
    obtain ⟨reservations, hlisted, hgiven⟩ := judged_ok _ _ networkGiven rfl h
    obtain ⟨found, hfound, heq⟩ := ok_of_map hgiven
    obtain ⟨rfl, -⟩ := Prod.mk.inj heq
    obtain ⟨hplaced, hpresent⟩ := networkOf_eq_ok.1 hfound
    obtain ⟨htoken, hgood, hnames⟩ := MetadataService.identityOf_names.1 ⟨identity, hidentity, rfl⟩
    exact ⟨htoken, hgood, ⟨_, hnames⟩, ⟨reservations, hlisted, hplaced⟩, hpresent⟩
  · rintro ⟨htoken, hgood, ⟨id, hnames⟩, ⟨reservations, hlisted, hplaced⟩, hpresent⟩
    obtain ⟨identity, hidentity, rfl⟩ := MetadataService.identityOf_names.2 ⟨htoken, hgood, hnames⟩
    have hgiven : networkGiven reservations = .ok (network, some (.plain network)) := by
      unfold networkGiven
      rw [networkOf_eq_ok.2 ⟨hplaced, hpresent⟩]
      rfl
    rw [hidentity]
    refine (judged_answer _ _ networkGiven rfl r).trans ?_
    rw [hlisted]
    exact hgiven

/-! ## The requests -/

/-- The request for a token, which is to last six hours. -/
def putToken (stem : String) : Event :=
  .http "PUT" (stem ++ "/latest/api/token") [("X-aws-ec2-metadata-token-ttl-seconds", "21600")] 2.0

def getDocument (stem token : String) : Event :=
  .http "GET" (stem ++ "/latest/dynamic/instance-identity/document")
    [("X-aws-ec2-metadata-token", token)] 2.0

def hostRequest (id : Json) : Event := .page .ec2 "describe_instances" [("InstanceIds", .arr [id])]

/-- Of three requests a first part is sent: the token, the document for whoever has just that token, and the
record of just the host that the document names. Each of them needs the success of those before it. -/
structure Staged (stem : String) (r : Remote) (events : List Event) : Prop where
  order : ∃ id, events <+: [putToken stem, getDocument stem r.token.text, hostRequest id]
  token : putToken stem ∈ events
  document : getDocument stem r.token.text ∈ events ↔ r.token.Good
  record : ∀ id, hostRequest id ∈ events ↔ r.token.Good ∧ r.identity.Good ∧ r.identity.Names id ∧
    r.starts .ec2 "describe_instances" = true

section Requests

variable {stem token : String} {id other : Json}

@[simp] theorem getDocument_ne : getDocument stem token ≠ putToken stem := by
  simp [getDocument, putToken]

@[simp] theorem hostRequest_ne_putToken : hostRequest id ≠ putToken stem := by
  simp [hostRequest, putToken]

@[simp] theorem hostRequest_ne_getDocument : hostRequest id ≠ getDocument stem token := by
  simp [hostRequest, getDocument]

@[simp] theorem hostRequest_inj : hostRequest id = hostRequest other ↔ id = other := by
  simp [hostRequest]

theorem Staged.all {r : Remote} {events : List Event} (h : Staged stem r events)
    (hsent : hostRequest id ∈ events) :
    events = [putToken stem, getDocument stem r.token.text, hostRequest id] := by
  obtain ⟨asked, rest, hrest⟩ := h.order
  rcases rest.eq_nil_or_concat with rfl | ⟨unsent, last, rfl⟩
  · have hwhole : events = [putToken stem, getDocument stem r.token.text, hostRequest asked] := by
      simpa using hrest
    rw [hwhole] at hsent ⊢
    obtain rfl : id = asked := by simpa using hsent
    rfl
  · -- Something was not sent, so what was sent is among the first two.
    have hsplit : (events ++ unsent) ++ [last]
        = [putToken stem, getDocument stem r.token.text] ++ [hostRequest asked] := by
      simpa using hrest
    have hfirst : events ++ unsent = [putToken stem, getDocument stem r.token.text] :=
      List.append_inj_left' hsplit rfl
    have hmem : hostRequest id ∈ events ++ unsent := List.mem_append_left _ hsent
    rw [hfirst] at hmem
    simp at hmem

theorem tokenRequest_eq {s : Settings} (h : Stem s.endpoint stem) :
    s.metadata.tokenRequest = putToken stem := by
  have hbase : s.metadata.base = stem := MetadataService.base_of_stem h
  unfold MetadataService.tokenRequest putToken
  rw [hbase]
  rfl

theorem documentRequest_eq {s : Settings} (h : Stem s.endpoint stem) :
    s.metadata.documentRequest token = getDocument stem token := by
  have hbase : s.metadata.base = stem := MetadataService.base_of_stem h
  unfold MetadataService.documentRequest getDocument
  rw [hbase]
  rfl

end Requests

theorem askNetwork_staged {s : Settings} {stem : String} (h : Stem s.endpoint stem) (r : Remote) :
    Staged stem r ((askNetwork s).events r) := by
  have hnames := @MetadataService.identityOf_names r
  rw [askNetwork_events]
  unfold MetadataService.requests
  rw [tokenRequest_eq h, documentRequest_eq h]
  -- One case for each stage that the search may end at.
  cases htoken : r.token.received with
  | error e =>
    have hbad : ¬ r.token.Good := fun h => by simp [Reply.received_eq_ok.2 h] at htoken
    have hunknown : MetadataService.identityOf r = .error (MetadataService.named e) := by
      unfold MetadataService.identityOf
      rw [htoken]
      rfl
    rw [hunknown]
    exact ⟨⟨.null, by simp⟩, by simp, by simp [hbad], by simp [hbad]⟩
  | ok u =>
    have hgood := Reply.received_eq_ok.1 htoken
    cases hidentity : MetadataService.identityOf r with
    | error e =>
      have hnone : ∀ id, r.identity.Good → ¬ r.identity.Names id := fun id hidentityGood hid => by
        obtain ⟨identity, hok, -⟩ := hnames.2 ⟨hgood, hidentityGood, hid⟩
        simp [hok] at hidentity
      refine ⟨⟨.null, by simp⟩, by simp, by simp [hgood], fun id => ?_⟩
      simpa [hgood] using fun hidentityGood hid => absurd hid (hnone id hidentityGood)
    | ok identity =>
      obtain ⟨-, hidentityGood, hid⟩ := hnames.1 ⟨identity, hidentity, rfl⟩
      have hsent : (instanceNetwork identity.instanceId).events r
          = if r.starts .ec2 "describe_instances" then [hostRequest identity.instanceId] else [] :=
        judged_events _ _ networkGiven rfl r
      simp only [hsent]
      refine ⟨⟨identity.instanceId, ?_⟩, by simp, by simp [hgood], fun id => ?_⟩
      · split <;> simp
      · have hsame : id = identity.instanceId ↔ r.identity.Names id :=
          ⟨fun h => h ▸ hid, fun h => h.unique hid⟩
        cases hstarts : r.starts .ec2 "describe_instances" <;>
          simp [hgood, hidentityGood, hsame]

end Lookup

/-! ## Slashes at the end of the endpoint -/

theorem hostIdentity_congr {m n : MetadataService} (htoken : m.tokenRequest = n.tokenRequest)
    (hdocument : m.documentRequest = n.documentRequest) : hostIdentity m = hostIdentity n := by
  unfold hostIdentity
  rw [htoken, hdocument]

def Settings.slashed (s : Settings) (slashes : Nat) : Settings :=
  { s with endpoint := s.endpoint ++ String.ofList (List.replicate slashes '/') }

theorem Lookup.vpcId_slashed (s : Settings) (slashes : Nat) : vpcId (s.slashed slashes) = vpcId s := by
  have hbase : (s.slashed slashes).metadata.base = s.metadata.base :=
    MetadataService.base_slashes s.endpoint MetadataService.defaultTimeout slashes
  have hidentity : hostIdentity (s.slashed slashes).metadata = hostIdentity s.metadata := by
    refine hostIdentity_congr ?_ ?_
    · unfold MetadataService.tokenRequest
      rw [hbase]
      rfl
    · unfold MetadataService.documentRequest
      rw [hbase]
      rfl
  unfold vpcId
  rw [hidentity]
  rfl

namespace Operation

variable {s : Settings} {m : Moment} {cache : Cache Stored}

/-! ## Set, cached, or asked for -/

theorem vpcId_of_set {id : String} (hset : nonEmpty s.vpcId = some id) :
    vpcId.outcome s m cache = (.ok (.value (.str id)), []) ∧ vpcId.cacheAfter s m cache = cache := by
  have hrun : Lookup.vpcId s = pure (.str id) := by
    unfold Lookup.vpcId
    rw [hset]
  unfold outcome cacheAfter run
  rw [hrun]
  exact ⟨rfl, rfl⟩

theorem vpcId_run (hunset : nonEmpty s.vpcId = none) : vpcId.run s
    = (Lookup.vpcIds s).orAsk "" Stored.toJson (Lookup.askNetwork s) >>= fun id => pure (.value id) := by
  unfold run
  simp only
  rw [Lookup.vpcId_eq, hunset]

theorem vpcId_of_live {found : Stored} (hunset : nonEmpty s.vpcId = none)
    (hlive : (m.state cache).live ((Lookup.vpcIds s).slot (.text "")) = some found) :
    vpcId.outcome s m cache = (.ok (.value found.toJson), []) ∧
      vpcId.cacheAfter s m cache = (cache.get ((Lookup.vpcIds s).slot (.text "")) m.clock).2 := by
  rw [vpcId.outcome_orAsk m cache (vpcId_run hunset) (Lookup.askNetwork_uncached s),
    vpcId.cacheAfter_orAsk m cache (vpcId_run hunset) (Lookup.askNetwork_uncached s), hlive]
  exact ⟨rfl, rfl⟩

theorem vpcId_of_unknown (hunset : nonEmpty s.vpcId = none)
    (hunknown : (m.state cache).live ((Lookup.vpcIds s).slot (.text "")) = none) :
    vpcId.outcome s m cache = (((Lookup.askNetwork s).answer m.remote).map fun found => .value found.1,
      (Lookup.askNetwork s).events m.remote) := by
  rw [vpcId.outcome_orAsk m cache (vpcId_run hunset) (Lookup.askNetwork_uncached s), hunknown]

theorem vpcId_finds (hunset : nonEmpty s.vpcId = none)
    (hunknown : (m.state cache).live ((Lookup.vpcIds s).slot (.text "")) = none) (network : Json) :
    (vpcId.outcome s m cache).1 = .ok (.value network) ↔ Lookup.Found m.remote network := by
  rw [vpcId_of_unknown hunset hunknown, ← Lookup.askNetwork_eq_ok (s := s)]
  constructor
  · intro h
    obtain ⟨⟨id, given⟩, hanswer, heq⟩ := ok_of_map h
    cases heq
    obtain ⟨rfl, -⟩ := Lookup.askNetwork_given hanswer
    exact hanswer
  · intro h
    rw [h]
    rfl

theorem vpcId_stores (hunset : nonEmpty s.vpcId = none)
    (hunknown : (m.state cache).live ((Lookup.vpcIds s).slot (.text "")) = none) {network : Json}
    (hfound : Lookup.Found m.remote network) :
    vpcId.cacheAfter s m cache = (cache.get ((Lookup.vpcIds s).slot (.text "")) m.clock).2.set
      ((Lookup.vpcIds s).slot (.text "")) (.plain network) (s.vpcTtl.deadline m.clock) := by
  rw [vpcId.cacheAfter_orAsk m cache (vpcId_run hunset) (Lookup.askNetwork_uncached s), hunknown,
    Lookup.askNetwork_eq_ok.2 hfound]
  rfl

theorem vpcId_fails (hunset : nonEmpty s.vpcId = none)
    (hunknown : (m.state cache).live ((Lookup.vpcIds s).slot (.text "")) = none)
    (hnone : ∀ network, ¬ Lookup.Found m.remote network) :
    (∃ e, (vpcId.outcome s m cache).1 = .error e) ∧
      vpcId.cacheAfter s m cache = (cache.get ((Lookup.vpcIds s).slot (.text "")) m.clock).2 := by
  rw [vpcId_of_unknown hunset hunknown,
    vpcId.cacheAfter_orAsk m cache (vpcId_run hunset) (Lookup.askNetwork_uncached s), hunknown]
  cases hanswer : (Lookup.askNetwork s).answer m.remote with
  | error e => exact ⟨⟨e, rfl⟩, rfl⟩
  | ok found =>
    obtain ⟨network, given⟩ := found
    obtain ⟨rfl, -⟩ := Lookup.askNetwork_given hanswer
    exact absurd (Lookup.askNetwork_eq_ok.1 hanswer) (hnone network)

theorem vpcId_slashed (s : Settings) (slashes : Nat) : vpcId.run (s.slashed slashes) = vpcId.run s := by
  unfold run
  simp only [Lookup.vpcId_slashed]

/-- Our network is the one that is set, or else the cached one, or else what three stages find, each of which
needs the ones before it. Only a found one is stored. -/
theorem vpcId_stages (s : Settings) (m : Moment) (cache : Cache Stored) :
    let slot : Slot := ⟨"EC2.GetVPCID", .text ""⟩
    let read := (cache.get slot m.clock).2
    let outcome := vpcId.outcome s m cache
    let after := vpcId.cacheAfter s m cache
    (∀ id, nonEmpty s.vpcId = some id → outcome = (.ok (.value (.str id)), []) ∧ after = cache) ∧
      (nonEmpty s.vpcId = none → ∀ found, (m.state cache).live slot = some found →
        outcome = (.ok (.value found.toJson), []) ∧ after = read) ∧
      (nonEmpty s.vpcId = none → (m.state cache).live slot = none →
        (∃ stem, Stem s.endpoint stem ∧ Lookup.Staged stem m.remote outcome.2) ∧
          (∀ network, outcome.1 = .ok (.value network) ↔ Lookup.Found m.remote network) ∧
          (∀ network, Lookup.Found m.remote network →
            after = read.set slot (.plain network) (m.clock + s.vpcTtl.inSeconds)) ∧
          ((∀ network, ¬ Lookup.Found m.remote network) → (∃ e, outcome.1 = .error e) ∧ after = read)) ∧
      ∀ slashes, vpcId.outcome (s.slashed slashes) m cache = outcome ∧
        vpcId.cacheAfter (s.slashed slashes) m cache = after := by
  intro slot read outcome after
  refine ⟨fun id hset => vpcId_of_set hset, fun hunset found hlive => vpcId_of_live hunset hlive,
    fun hunset hunknown => ⟨?_, vpcId_finds hunset hunknown, fun network hfound => ?_,
      vpcId_fails hunset hunknown⟩, fun slashes => ?_⟩
  · have hevents : outcome.2 = (Lookup.askNetwork s).events m.remote :=
      congrArg Prod.snd (vpcId_of_unknown hunset hunknown)
    have hstem : Stem s.endpoint s.metadata.base := s.metadata.stem_base
    rw [hevents]
    exact ⟨_, hstem, Lookup.askNetwork_staged hstem m.remote⟩
  · rw [← Ttl.deadline_eq]
    exact vpcId_stores hunset hunknown hfound
  · have hrun := vpcId_slashed s slashes
    constructor
    · exact congrArg (fun w : Work Answer => ((w.run.run (m.state cache)).1,
        (w.run.run (m.state cache)).2.trace)) hrun
    · exact congrArg (fun w : Work Answer => (w.run.run (m.state cache)).2.cache) hrun

def secretHost : Remote := { noSubnets with token := ⟨none, none, "secret", .ok .null⟩ }

theorem found_secretHost : Lookup.Found secretHost (.str "east") where
  token := ⟨rfl, rfl⟩
  identity := ⟨rfl, rfl⟩
  named := ⟨.str "host", _, rfl, rfl, rfl⟩
  placed := ⟨_, rfl, _, [], _, [], rfl, rfl, rfl⟩
  present := by simp

def eastKnown : Cache Stored := Cache.empty.set ⟨"EC2.GetVPCID", .text ""⟩ (.plain (.str "east")) 9

theorem live_eastKnown (r : Remote) (now : Float) : (Moment.state ⟨r, now, fun _ => 0⟩ eastKnown).live
    ⟨"EC2.GetVPCID", .text ""⟩ = if 9 ≤ now then none else some (.plain (.str "east")) := by
  by_cases hdue : 9 ≤ now
  · simp [State.live, Cache.get_answer, eastKnown, Moment.state, Entry.expired, hdue]
  · simp [State.live, Cache.get_answer, eastKnown, Moment.state, Entry.expired, hdue, Stored.isNull]

/-- A set network, a cached one, one that is found and kept for an hour, and one that is not found, as the
document is refused just when the cached one has reached its deadline. -/
theorem vpcId_stages_secretHost :
    let s : Settings := { endpoint := "http://host//" }
    let slot : Slot := ⟨"EC2.GetVPCID", .text ""⟩
    let host : Moment := ⟨secretHost, 5, fun _ => 0⟩
    let refused : Moment :=
      ⟨{ secretHost with identity := ⟨none, some "404 Not Found", "", .ok .null⟩ }, 5, fun _ => 0⟩
    let late := { refused with clock := 9 }
    vpcId.outcome { s with vpcId := some "west" } host eastKnown = (.ok (.value (.str "west")), []) ∧
      vpcId.outcome s refused eastKnown = (.ok (.value (.str "east")), []) ∧
      vpcId.outcome s host .empty = (.ok (.value (.str "east")),
        [.http "PUT" "http://host/latest/api/token" [("X-aws-ec2-metadata-token-ttl-seconds", "21600")] 2.0,
          .http "GET" "http://host/latest/dynamic/instance-identity/document"
            [("X-aws-ec2-metadata-token", "secret")] 2.0,
          .page .ec2 "describe_instances" [("InstanceIds", .arr [.str "host"])]]) ∧
      ((vpcId.cacheAfter s host .empty).find? slot).map (fun e => (e.value, e.deadline))
        = some (.plain (.str "east"), 3605) ∧
      (∃ e, (vpcId.outcome s late eastKnown).1 = .error e) ∧
      Lookup.hostRequest (.str "host") ∉ (vpcId.outcome s late eastKnown).2 := by
  intro s slot host refused late
  have hstem : Stem s.endpoint "http://host" := ⟨⟨2, rfl⟩, by decide⟩
  have hlive : (refused.state eastKnown).live slot = some (.plain (.str "east")) :=
    (live_eastKnown _ 5).trans (if_neg (by decide +kernel))
  have hoverdue : (late.state eastKnown).live slot = none :=
    (live_eastKnown _ 9).trans (if_pos (by decide +kernel))
  obtain ⟨hset, -⟩ := vpcId_stages { s with vpcId := some "west" } host eastKnown
  obtain ⟨-, hcached, -, -⟩ := vpcId_stages s refused eastKnown
  obtain ⟨-, -, hasked, -⟩ := vpcId_stages s host .empty
  obtain ⟨-, -, hrefused, -⟩ := vpcId_stages s late eastKnown
  obtain ⟨⟨stem, hsame, hall⟩, hfinds, hstores, -⟩ := hasked rfl rfl
  obtain rfl := hsame.unique hstem
  obtain ⟨⟨_, -, hstaged⟩, -, -, hfails⟩ := hrefused rfl hoverdue
  refine ⟨(hset "west" (by decide)).1, (hcached rfl _ hlive).1, Prod.ext ?_ ?_, ?_,
    (hfails fun network hfound => ?_).1, fun hsent => ?_⟩
  · exact (hfinds (.str "east")).2 found_secretHost
  · have hlast := (hall.record (.str "host")).2
      ⟨found_secretHost.token, found_secretHost.identity, ⟨_, rfl, rfl, rfl⟩, rfl⟩
    exact hall.all hlast
  · rw [hstores _ found_secretHost, Cache.find?_set_self]
    have hdeadline : host.clock + s.vpcTtl.inSeconds = 3605 := by decide +kernel
    exact congrArg (fun deadline => some (Stored.plain (.str "east"), deadline)) hdeadline
  · cases hfound.identity.2
  · cases ((hstaged.record (.str "host")).1 hsent).2.1.2

end Operation

end NetLookup
