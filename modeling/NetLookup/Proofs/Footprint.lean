import NetLookup.Proofs.Failures

/-! # Which entries an operation can change

All lookups share one cache. Reads drop entries as stores add them, and the records of an answer choose the
keys. Still each operation stays among the slots of its own lookup, whether it succeeds or fails. -/

namespace NetLookup

variable {α β : Type} {slot : Slot} {st : State}

/-! ## Work that leaves a slot alone -/

namespace Work

def Leaves (w : Work α) (slot : Slot) (st : State) : Prop :=
  (w.run.run st).2.cache.find? slot = st.cache.find? slot

theorem KeepsCache.leaves {w : Work α} (h : w.KeepsCache) : w.Leaves slot st :=
  congrArg (Cache.find? · slot) (h st)

theorem pure_leaves (a : α) : (pure a : Work α).Leaves slot st := rfl

theorem Leaves.bind {w : Work α} {f : α → Work β} (hw : w.Leaves slot st)
    (hf : ∀ a t, w.run.run st = (.ok a, t) → (f a).Leaves slot t) : (w >>= f).Leaves slot st := by
  unfold Leaves at hw ⊢
  rw [bind_run]
  rcases hrun : w.run.run st with ⟨e | a, t⟩
  · simpa [hrun] using hw
  · rw [hrun] at hw
    exact (hf a t hrun).trans hw

theorem Does.run_ok {w : Work α} {E : Sight → Effect α} (h : w.Does E) {a : α} {t : State}
    (hrun : w.run.run st = (.ok a, t)) :
    (E st.sight).answer = .ok a ∧ ∃ cache, t = { st with
      cache := cache, trace := st.trace ++ (E st.sight).events } ∧
        Cache.Used st.clock (E st.sight).stores st.cache cache := by
  obtain ⟨cache, hresult, hused⟩ := h st
  obtain ⟨hanswer, rfl⟩ := Prod.mk.inj (hresult.symm.trans hrun)
  exact ⟨hanswer, cache, rfl, hused⟩

end Work

namespace View

variable {v : View}

theorem leaves_read {key : String} (h : v.slot (.text key) ≠ slot) : (v.read key).Leaves slot st := by
  show (st.cache.get (v.slot (.text key)) st.clock).2.find? slot = _
  rw [Cache.find?_get, if_neg (Ne.symm h)]

theorem leaves_write {key : Key} {value : Stored} {label : Json} (h : v.slot key ≠ slot) :
    (v.write key value label).Leaves slot st :=
  Cache.find?_set_of_ne _ _ _ _ (Ne.symm h)

/-! ## Lookups of one key -/

theorem leaves_orAsk {key : String} {use : Stored → β} {ask : Work (β × Option Stored)}
    (hask : ask.Uncached) (h : v.slot (.text key) ≠ slot) : (v.orAsk key use ask).Leaves slot st := by
  unfold orAsk
  refine (leaves_read h).bind fun found t _ => ?_
  cases found with
  | some found => exact Work.pure_leaves _
  | none =>
    refine hask.keepsCache.leaves.bind fun answer t _ => ?_
    obtain ⟨answer, given⟩ := answer
    cases given with
    | none => exact Work.pure_leaves answer
    | some value => exact (leaves_write h).bind fun _ _ _ => Work.pure_leaves answer

end View

theorem Lookup.leaves_vpcId {s : Settings} (h : (vpcIds s).slot (.text "") ≠ slot) :
    (vpcId s).Leaves slot st := by
  rw [vpcId_eq]
  cases nonEmpty s.vpcId with
  | some id => exact Work.pure_leaves _
  | none => exact View.leaves_orAsk (askNetwork_uncached s) h

/-! ## Lookups by name -/

namespace View

variable {v : View}

theorem leaves_readWith {form : String → Stored → β} {names : List String}
    (h : ∀ name ∈ names, v.slot (.text name) ≠ slot) : (v.readWith form names).Leaves slot st := by
  induction names generalizing st with
  | nil => exact Work.pure_leaves _
  | cons name names ih =>
    have hrest (t : State) := @ih t fun other hother => h other (List.mem_cons_of_mem name hother)
    exact (leaves_read (h name List.mem_cons_self)).bind fun _ t _ =>
      (hrest t).bind fun _ _ _ => Work.pure_leaves _

theorem leaves_fileAll {read : Reader} {unnamed : Json → List Json} {records : List Json}
    (h : ∀ p ∈ filed read records, v.slot p.1 ≠ slot) :
    (v.fileAll read unnamed records).Leaves slot st := by
  induction records generalizing st with
  | nil => exact Work.pure_leaves _
  | cons record records ih =>
    unfold fileAll
    unfold filed at h
    refine (Work.check_uncached _).keepsCache.leaves.bind fun nameAndId t hrun => ?_
    obtain ⟨hread, rfl⟩ := Prod.mk.inj hrun
    -- What is filed from here on depends on what this record is read as.
    rw [hread] at h
    obtain ⟨_ | name, id⟩ := nameAndId
    · exact (ih h).bind fun _ _ _ => Work.pure_leaves _
    · have hremember : (v.remember name id).Leaves slot st := by
        refine (Work.check_uncached _).keepsCache.leaves.bind fun key t hrun => ?_
        obtain ⟨hkey, rfl⟩ := Prod.mk.inj hrun
        simp only [hkey] at h
        exact leaves_write (h (key, id) List.mem_cons_self)
      refine hremember.bind fun _ t hrun => ?_
      obtain ⟨hfiled, -⟩ := (v.remember_does name id).run_ok hrun
      cases hkey : Key.ofJson name with
      | error e => simp [hkey, Effect.of] at hfiled
      | ok key =>
        simp only [hkey] at h
        have hrest := @ih t fun p hp => h p (List.mem_cons_of_mem _ hp)
        exact hrest.bind fun _ _ _ => Work.pure_leaves _

theorem told_queryEffect {s : Settings} {operation key : String} {read : Reader}
    {unnamed : Json → List Json} {names : List String} {seen : Sight} {network : Json}
    {records : List Json} (hnetwork : (Lookup.networkEffect s seen).answer = .ok network)
    (hlisted : seen.remote.listed .ec2 operation key = .ok records) :
    told seen.remote operation key (v.queryEffect s operation key read unnamed names seen).events
      = some records := by
  have hsent : sent operation (v.queryEffect s operation key read unnamed names seen).events = true := by
    simp [queryEffect, Effect.andThen, hnetwork, describeEffect, hlisted, mapError_ok, sent_append,
      sent_firstPage, Remote.starts_of_listed hlisted]
  rw [told, if_pos hsent, hlisted]
  rfl

theorem leaves_query {s : Settings} {operation key : String} {read : Reader}
    {unnamed : Json → List Json} {names : List String}
    (hnetwork : (Lookup.vpcIds s).slot (.text "") ≠ slot)
    (hrecords : ∀ records, told st.remote operation key
        (v.queryEffect s operation key read unnamed names st.sight).events = some records →
      ∀ p ∈ filed read records, v.slot p.1 ≠ slot) :
    (v.query s operation key read unnamed names).Leaves slot st := by
  refine (Lookup.leaves_vpcId hnetwork).bind fun network t hrun => ?_
  obtain ⟨hfound, cache, rfl, -⟩ := (Lookup.vpcId_does s).run_ok hrun
  have hparams : Listing.anySaid [Listing.ownName] (Lookup.namedParams names network) = false := rfl
  refine (Work.listAll_asks .ec2 mainService operation key hparams).1.keepsCache.leaves.bind
    fun records t hrun => ?_
  obtain ⟨hlisted, rfl⟩ := Prod.mk.inj ((Work.listAll_run _ _ _ _ hparams _).symm.trans hrun)
  have hlisted : st.remote.listed .ec2 operation key = .ok records := ok_of_mapError hlisted
  exact leaves_fileAll (hrecords records (told_queryEffect hfound hlisted))

theorem leaves_byName {s : Settings} {operation key : String} {read : Reader}
    {unnamed : Json → List Json} {names : List String}
    (hnetwork : (Lookup.vpcIds s).slot (.text "") ≠ slot)
    (hnames : ∀ name ∈ names, v.slot (.text name) ≠ slot)
    (hrecords : ∀ records, told st.remote operation key
        (v.byNameEffect s operation key read unnamed names st.sight).events = some records →
      ∀ p ∈ filed read records, v.slot p.1 ≠ slot) :
    (v.byName s operation key read unnamed names).Leaves slot st := by
  unfold byName
  refine Work.Leaves.bind ?_ fun split t hrun => ?_
  · rw [readAll_eq]
    exact leaves_readWith hnames
  · obtain ⟨hsplit, cache, rfl, hused⟩ := (v.readAll_does names).run_ok hrun
    obtain rfl := Except.ok.inj hsplit
    unfold byNameEffect at hrecords
    by_cases hnone : (v.notLive st.live names).isEmpty = true
    · simp only [State.sight, hnone, if_true]
      exact Work.pure_leaves _
    · simp only [State.sight, hnone, Bool.false_eq_true, if_false] at hrecords ⊢
      refine (leaves_query hnetwork ?_).bind fun _ _ _ => Work.pure_leaves _
      rw [State.sight_of_used hused]
      exact hrecords

end View

/-! ## The subnets of a cluster -/

namespace Lookup

theorem leaves_choose {v : View} {fetched : List (Key × Subnet)} {known : Named Stored}
    {ids : List String} (admitted : List Subnet) (h : ∀ id ∈ ids, v.slot (.text id) ≠ slot) :
    (choose v fetched known ids admitted).Leaves slot st := by
  induction ids generalizing admitted st with
  | nil => exact Work.pure_leaves admitted
  | cons id ids ih =>
    have hrest (t : State) (admitted : List Subnet) :=
      @ih t admitted fun other hother => h other (List.mem_cons_of_mem id hother)
    -- Only one branch stores anything, and it does so under the id at hand.
    unfold choose
    cases lastFetched fetched id with
    | some subnet =>
      by_cases husable : subnet.usable admitted = true
      · simp only [husable, if_true]
        exact (View.leaves_write (h id List.mem_cons_self)).bind fun _ t _ => hrest t _
      · simp only [husable, if_false, Bool.false_eq_true]
        exact hrest st admitted
    | none =>
      cases known.lookup id with
      | some stored =>
        exact (Work.check_uncached _).keepsCache.leaves.bind fun subnet t _ => hrest t _
      | none => exact hrest st admitted

theorem fetchSnapshots_keepsCache (missing : List String) : (fetchSnapshots missing).KeepsCache := by
  unfold fetchSnapshots
  by_cases hnone : missing.isEmpty = true
  · simp only [hnone, if_true]
    exact (Work.pure_uncached []).keepsCache
  · simp only [hnone, Bool.false_eq_true, if_false]
    exact ((Work.listAll_asks _ _ _ _ rfl).1.bind fun _ => Work.check_uncached _).keepsCache

theorem leaves_among {s : Settings} {scheme : Scheme} {ids : List String}
    (h : ∀ id ∈ ids, (clusterSubnetsById s).slot (.text id) ≠ slot) :
    (among s scheme ids).Leaves slot st := by
  unfold among
  refine Work.Leaves.bind ?_ fun split t _ => ?_
  · rw [readSnapshots_eq]
    exact View.leaves_readWith h
  · refine (fetchSnapshots_keepsCache split.2).leaves.bind fun fetched t _ => ?_
    refine (leaves_choose [] h).bind fun admitted t _ => ?_
    exact (Work.check_uncached _).keepsCache.leaves

theorem leaves_clusterSubnets {s : Settings} {scheme : Json}
    (h : ∀ asked index, Scheme.ofJson scheme = .ok asked →
      (clusterIndex s.clusterName).answer st.remote = .ok index →
      ∀ id ∈ candidates index asked.roleTag, (clusterSubnetsById s).slot (.text id) ≠ slot) :
    (clusterSubnets s scheme).Leaves slot st := by
  rw [clusterSubnets_eq]
  refine (Work.check_uncached _).keepsCache.leaves.bind fun asked t hrun => ?_
  obtain ⟨hasked, rfl⟩ := Prod.mk.inj hrun
  refine (clusterIndex_uncached _).keepsCache.leaves.bind fun index t hrun => ?_
  obtain ⟨hindex, -⟩ := (clusterIndex_uncached _).does.run_ok hrun
  exact leaves_among (h asked index hasked hindex)

end Lookup

theorem Lookup.Scheme.eq_name_of_ofJson {scheme : Json} {asked : Scheme}
    (h : ofJson scheme = .ok asked) : scheme = .str asked.name := by
  unfold ofJson at h
  split at h
  · cases h
    rfl
  · cases h
    rfl
  · cases h
  · cases h
  · cases h

/-! ## All operations -/

namespace Operation

def usesCache : Operation → Bool
  | .subnets _ | .clusterSubnets _ | .securityGroups _ | .vpcId | .vpc _ | .nodeHealthy _ => true
  | .securityGroupById _ | .securityGroupByName _ _ | .deleteSecurityGroup _ | .instances _ | .status =>
    false

/-- The slots of an operation. Those of a lookup by name are chosen by its caller, and by the names in the
records that it was told; those of a cluster by its index. -/
inductive Footprint (s : Settings) (m : Moment) (cache : Cache Stored) : Operation → Slot → Prop where
  | network {op : Operation} (hop : op.needsNetwork = true) :
    Footprint s m cache op ⟨"EC2.GetVPCID", .text ""⟩
  | vpc (id : String) : Footprint s m cache (.vpc id) ⟨"EC2.GetVPC", .text id⟩
  | verdict (id : String) : Footprint s m cache (.nodeHealthy id) ⟨"EC2.IsNodeHealthy", .text id⟩
  | requested {n : NameLookup} {names : List String} {name : String} (hname : name ∈ names) :
    Footprint s m cache (n.call names) ((n.view s).slot (.text name))
  | returned {n : NameLookup} {names : List String} {records : List Json} {record name id : Json}
    {key : Key}
    (htold : told m.remote n.listing n.recordsKey ((n.call names).outcome s m cache).2 = some records)
    (hrecord : record ∈ records) (hread : n.read record = .ok (some name, id))
    (hkey : Key.ofJson name = .ok key) :
    Footprint s m cache (n.call names) ((n.view s).slot key)
  | candidate {scheme : Lookup.Scheme} {index : ClusterIndex} {id : String}
    (hindex : (clusterIndex s.clusterName).answer m.remote = .ok index)
    (hid : id ∈ Lookup.candidates index scheme.roleTag) :
    Footprint s m cache (.clusterSubnets (.str scheme.name)) ⟨"ClusterSubnets", .text id⟩

section Outside

variable {s : Settings} {op : Operation} {m : Moment} {cache : Cache Stored}

theorem find?_cacheAfter {γ : Type} {w : Work γ} {f : γ → Answer}
    (hrun : op.run s = w >>= fun a => pure (f a)) (h : w.Leaves slot (m.state cache)) :
    (op.cacheAfter s m cache).find? slot = cache.find? slot := by
  have hop : (op.run s).Leaves slot (m.state cache) := by
    rw [hrun]
    exact h.bind fun _ _ _ => Work.pure_leaves _
  exact hop

theorem find?_cacheAfter_byName (n : NameLookup) (names : List String)
    (h : ¬ (n.call names).Footprint s m cache slot) :
    ((n.call names).cacheAfter s m cache).find? slot = cache.find? slot := by
  refine find?_cacheAfter (n.run_call s names) (View.leaves_byName ?_ ?_ ?_)
  · exact fun heq => h (heq ▸ .network (by cases n <;> rfl))
  · exact fun name hname heq => h (heq ▸ .requested hname)
  · intro records htold p hp heq
    obtain ⟨record, hrecord, name, hread, hkey⟩ := mem_filed hp
    refine h (heq ▸ .returned ?_ hrecord hread hkey)
    rw [(n.call names).outcome_eq m cache (n.effect?_call s names)]
    exact htold

end Outside

theorem run_clusterSubnets_unknown (s : Settings) {scheme : Json}
    (h : ∀ known : Lookup.Scheme, scheme ≠ .str known.name) (st : State) :
    ∃ e, ((clusterSubnets scheme).run s).run.run st = (.error e, st) := by
  cases hscheme : Lookup.Scheme.ofJson scheme with
  | ok known => exact absurd (Lookup.Scheme.eq_name_of_ofJson hscheme) (h known)
  | error e =>
    refine ⟨e, Work.bind_run_error ?_ _⟩
    unfold Lookup.clusterSubnets
    rw [hscheme]
    rfl

/-- Entries outside the footprint of an operation are what they were, whatever it comes to. An operation
that does not use the cache leaves it whole, with its counters, and so does a cluster lookup for no scheme,
which sends nothing either. -/
theorem stays_in_footprint (s : Settings) (op : Operation) (m : Moment) (cache : Cache Stored) :
    (∀ slot, ¬ op.Footprint s m cache slot →
        (op.cacheAfter s m cache).find? slot = cache.find? slot) ∧
      (op.usesCache = false → op.cacheAfter s m cache = cache) ∧
      ∀ scheme, op = .clusterSubnets scheme → (∀ known : Lookup.Scheme, scheme ≠ .str known.name) →
        op.cacheAfter s m cache = cache ∧ (op.outcome s m cache).2 = [] := by
  refine ⟨fun slot h => ?_, fun h => ?_, ?_⟩
  · cases op with
    | subnets names => exact find?_cacheAfter_byName .subnets names h
    | securityGroups names => exact find?_cacheAfter_byName .groups names h
    | clusterSubnets scheme =>
      refine find?_cacheAfter rfl (Lookup.leaves_clusterSubnets fun asked index hasked hindex id hid heq => ?_)
      obtain rfl := Lookup.Scheme.eq_name_of_ofJson hasked
      exact h (heq ▸ .candidate hindex hid)
    | vpcId => exact find?_cacheAfter rfl (Lookup.leaves_vpcId fun heq => h (heq ▸ .network rfl))
    | vpc id =>
      refine find?_cacheAfter (w := Lookup.vpc s id) rfl ?_
      rw [Lookup.vpc_eq]
      exact View.leaves_orAsk (Lookup.askVpc_uncached id) fun heq => h (heq ▸ .vpc id)
    | nodeHealthy id =>
      refine find?_cacheAfter (w := Lookup.nodeHealthy s id) rfl ?_
      rw [Lookup.nodeHealthy_eq]
      exact View.leaves_orAsk (Lookup.askHealth_uncached id) fun heq => h (heq ▸ .verdict id)
    | _ => exact congrArg (Cache.find? · slot) (cacheAfter_kept m cache rfl)
  · cases op with
    | securityGroupById _ | securityGroupByName _ _ | deleteSecurityGroup _ | instances _ | status =>
      exact cacheAfter_kept m cache rfl
    | _ => cases h
  · rintro scheme rfl hunknown
    unfold cacheAfter outcome
    obtain ⟨e, hrun⟩ := run_clusterSubnets_unknown s hunknown (m.state cache)
    rw [hrun]
    exact ⟨rfl, rfl⟩

/-- A name stays outside of the footprint if it is neither asked for nor told of. -/
theorem outside_subnets {s : Settings} {m : Moment} {cache : Cache Stored} {names : List String}
    {name : String} (hname : name ∉ names)
    (hothers : ∀ records, told m.remote "describe_subnets" "Subnets" ((subnets names).outcome s m cache).2
        = some records → ∀ record ∈ records, ∀ other id, Subnet.nameAndId record = .ok (some other, id) →
      Key.ofJson other ≠ .ok (.text name)) :
    ¬ (subnets names).Footprint s m cache ⟨"EC2.GetSubnets", .text name⟩ := by
  generalize hop : subnets names = op
  generalize hslot : (⟨"EC2.GetSubnets", .text name⟩ : Slot) = slot
  intro h
  cases h with
  | network => simp at hslot
  | vpc | verdict | candidate => cases hop
  | @requested n _ asked hasked =>
    cases n with
    | subnets =>
      cases hop
      cases hslot
      exact hname hasked
    | groups => cases hop
  | @returned n _ records record other id key htold hrecord hread hkey =>
    cases n with
    | subnets =>
      cases hop
      cases hslot
      exact hothers records htold record hrecord other id hread hkey
    | groups => cases hop

def webRecord : Json :=
  .obj [("SubnetId", .str "s2"), ("Tags", .arr [.obj [("Key", .str "Name"), ("Value", .str "web")]])]

def oneSubnet : Remote :=
  { noSubnets with
    pages := fun api operation =>
      if operation = "describe_subnets" then [.obj [("Subnets", .arr [webRecord])]]
      else noSubnets.pages api operation
    outage := fun _ _ => none }

/-- After the old name is overdue, a request for a new one fails, or tells of yet another one. The old one
stays where it is, and the one that was told of is there. Nothing is touched by the check of the interface, or
for a scheme that is none. -/
theorem stays_in_footprint_noSubnets :
    let failing : Moment := ⟨noSubnets, 20, fun _ => 0⟩
    let telling : Moment := ⟨oneSubnet, 20, fun _ => 0⟩
    let old : Slot := ⟨"EC2.GetSubnets", .text "old"⟩
    let web : Slot := ⟨"EC2.GetSubnets", .text "web"⟩
    ((subnets ["new"]).cacheAfter {} failing oneName).find? old = oneName.find? old ∧
      ((subnets ["new"]).cacheAfter {} telling oneName).find? old = oneName.find? old ∧
      (subnets ["new"]).Footprint {} telling oneName web ∧
      (((subnets ["new"]).cacheAfter {} telling oneName).find? web).map (·.value)
        = some (.plain (.str "s2")) ∧
      status.cacheAfter {} failing oneName = oneName ∧
      ((clusterSubnets (.str "public")).outcome {} failing oneName).2 = [] := by
  intro failing telling old web
  have hfailing : told noSubnets "describe_subnets" "Subnets"
    ((subnets ["new"]).outcome {} failing oneName).2 = none := by rfl
  have htelling : told oneSubnet "describe_subnets" "Subnets"
    ((subnets ["new"]).outcome {} telling oneName).2 = some [webRecord] := by rfl
  obtain ⟨hfails, -⟩ := stays_in_footprint {} (subnets ["new"]) failing oneName
  obtain ⟨htells, -⟩ := stays_in_footprint {} (subnets ["new"]) telling oneName
  obtain ⟨-, hkeeps, -⟩ := stays_in_footprint {} status failing oneName
  obtain ⟨-, -, hunknown⟩ := stays_in_footprint {} (clusterSubnets (.str "public")) failing oneName
  refine ⟨hfails _ (outside_subnets (by simp) fun records htold => ?_),
    htells _ (outside_subnets (by simp) fun records htold record hrecord name id hread => ?_),
    .returned (n := .subnets) htelling List.mem_cons_self (by rfl) (by rfl), by rfl,
    hkeeps rfl, (hunknown _ rfl fun known => ?_).2⟩
  · cases hfailing.symm.trans htold
  · cases htelling.symm.trans htold
    obtain rfl := List.mem_singleton.1 hrecord
    cases hread
    show Except.ok (Key.text "web") ≠ .ok (.text "old")
    simp
  · cases known <;> simp [Lookup.Scheme.name]

end Operation

end NetLookup
