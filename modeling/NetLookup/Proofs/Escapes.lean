import NetLookup.Proofs.Codes
import NetLookup.Proofs.Lookup.Documented
import NetLookup.Proofs.Retry.Dependency

/-! # No undocumented failure escapes

If the remote side keeps to its documents, every operation comes to an answer or to a failure that this
library documents. What earlier operations left in the cache does not get in the way. -/

namespace NetLookup

open Kind

/-! ## Repeated requests -/

theorem Policy.shouldRetry_comes (p : Policy) {e : Failure} (he : e.codeReadable = true) (count : Int) :
    ∃ again, p.shouldRetry e count = .ok again := by
  induction p with
  | standard b =>
    obtain ⟨again, hagain, -⟩ := shouldRetry_of_readable b he count
    exact ⟨again, hagain⟩
  | dependency inner n ih =>
    unfold shouldRetry
    split
    · exact ⟨_, rfl⟩
    · exact ih

def Policy.Waits (p : Policy) : Prop :=
  ∀ n : Nat, 1 ≤ n → (n : Int) < p.maxAttempts → ∀ draw, ∃ wait, p.delay n draw = .ok wait

theorem Repeated.continueRun_comes {α : Type} {R : Repeated α} {p : Policy} (hp : p.Waits)
    (hfail : ∀ i e, R.outcome i = .error e → e.FromCloud) (draw : Nat → Float) (spare i : Nat)
    {seen : List String} (hseen : seen.length = i)
    (hspare : spare ≠ 0 → (i : Int) + 1 + spare ≤ p.maxAttempts) :
    Comes (fun _ => True) (R.continueRun p draw spare i seen).result := by
  induction spare generalizing i seen with
  | zero =>
    have houtcome : Ends (fun _ => True) Failure.FromCloud (R.outcome i) := by
      cases hi : R.outcome i with
      | ok a => trivial
      | error e => exact hfail i e hi
    exact houtcome.mapError fun e he => he.named _ _ _
  | succ spare ih =>
    have hbound := hspare (Nat.succ_ne_zero spare)
    unfold continueRun
    cases hi : R.outcome i with
    | ok a => trivial
    | error e =>
      have he := hfail i e hi
      -- Each call before this one counted at most one failure of this key.
      have hcount : seen.count (p.attemptKey e) ≤ i := hseen ▸ List.count_le_length
      obtain ⟨again, hagain⟩ :=
        p.shouldRetry_comes he.codeReadable (seen.count (p.attemptKey e) + 1 : Nat)
      obtain ⟨wait, hwait⟩ := hp (seen.count (p.attemptKey e) + 1) (by omega) (by omega) (draw i)
      have hnext := p.wait?_eq hagain hwait
      push_cast at hnext
      simp only [he.isRemote, if_true, hnext]
      cases again with
      | false => exact he.named _ _ _
      | true => exact ih (i + 1) (by simp [hseen]) (by omega)

theorem Repeated.run_comes {α : Type} {R : Repeated α} {p : Policy} (hp : p.Waits)
    (hfail : ∀ i e, R.outcome i = .error e → e.FromCloud) (draw : Nat → Float) :
    Comes (fun _ => True) (R.run p draw).result := by
  refine continueRun_comes hp hfail draw _ 0 rfl fun hspare => ?_
  unfold spareCalls at hspare ⊢
  omega

theorem Policy.waits_of_ceilings {p : Policy} (n : Nat) (hmax : p.maxAttempts ≤ n + 1)
    (hceilings : ∀ k < n, (p.backoff.ceiling (k : Nat)).toOption.isSome = true) : p.Waits := by
  intro count hpos hcount draw
  obtain ⟨wait, hwait⟩ := Option.isSome_iff_exists.1 (hceilings (count - 1) (by omega))
  have hbefore : ((count - 1 : Nat) : Int) = (count : Int) - 1 := by omega
  rw [p.delay_eq_backoff, ← hbefore]
  unfold Backoff.delay
  rw [ok_of_toOption hwait]
  exact ⟨_, rfl⟩

theorem Lookup.deletePolicy_waits : (deletePolicy {}).Waits :=
  Policy.waits_of_ceilings 19 (by decide) (by decide +kernel)

/-! ## Operations without the cache -/

namespace Lookup

variable {st : State}

theorem describeGroups_comes (h : st.remote.Documented) {params : Fields}
    (hparams : Listing.anySaid [Listing.ownName] params = false) :
    Comes (∀ x ∈ ·, SecurityGroup.kind x) ((describeGroups params).run.run st).1 := by
  unfold describeGroups describeAll
  rw [Work.listAll_run _ _ _ _ hparams]
  exact h.named_ends (c := .groups) (by simp [Catalog.all]) _ _ _

theorem firstGroup_comes {records : List Json} (h : ∀ x ∈ records, SecurityGroup.kind x) :
    Comes (fun _ => True) (firstGroup records) := by
  cases records with
  | nil => trivial
  | cons record rest => exact (SecurityGroup.ofJson_ends (h record List.mem_cons_self)).map fun _ _ => trivial

theorem noneIfUnknown_comes {cause : Failure} (h : cause.FromCloud) (service operation : Json)
    (params : Fields) (st : State) :
    Comes (∀ x ∈ ·, SecurityGroup.kind x)
      ((noneIfUnknown (cause.named service operation params)).run.run st).1 := by
  have hnamed := h.named service operation params
  have hreadable : (cause.named service operation params).codeReadable = true := by
    rw [Failure.named_remote h.isRemote]
    exact Failure.codeReadable_ofRequest service operation params h.isRemote h.codeReadable
  obtain ⟨unknown, hunknown⟩ : ∃ unknown,
      (cause.named service operation params).isNotFound = .ok unknown :=
    ⟨_, Failure.codeAmong_of_readable _ hreadable⟩
  unfold noneIfUnknown
  split
  · rw [Work.check_bind_run, hunknown]
    cases unknown with
    | true => exact fun x hx => by cases hx
    | false => exact hnamed
  · exact hnamed

theorem securityGroupById_comes (id : String) (h : st.remote.Documented) :
    Comes (fun _ => True) ((securityGroupById id).run.run st).1 := by
  have hlisted := h.listed_ends (c := .groups) (by simp [Catalog.all])
  refine Comes.bind_run (P := (∀ x ∈ ·, SecurityGroup.kind x)) ?_ fun records t hall =>
    Comes.check_run (firstGroup_comes hall) t
  unfold describeGroups describeAll
  rw [Work.tryCatch_run, Work.listAll_run _ _ _ _ rfl]
  cases hanswer : st.remote.listed .ec2 "describe_security_groups" "SecurityGroups" with
  | ok records => exact hlisted.result hanswer
  | error cause => exact noneIfUnknown_comes (hlisted.failure hanswer) _ _ _ _

theorem securityGroupByName_comes (network name : String) (h : st.remote.Documented) :
    Comes (fun _ => True) ((securityGroupByName network name).run.run st).1 :=
  Comes.bind_run (describeGroups_comes h rfl) fun _ t hall => Comes.check_run (firstGroup_comes hall) t

theorem deleteSecurityGroup_comes {s : Settings} (id : String) (h : st.remote.Documented)
    (hwaits : (deletePolicy s).Waits) :
    Comes (fun _ => True) ((deleteSecurityGroup s id).run.run st).1 := by
  have hfail (i : Nat) (e : Failure) (he : (deletions st.remote.deletion).outcome i = .error e) :
      e.FromCloud := by
    unfold deletions at he
    cases hi : st.remote.deletion i with
    | none => simp [hi] at he
    | some e' =>
      simp only [hi, Except.error.injEq] at he
      exact he ▸ h.deletions i e' hi
  exact Repeated.run_comes hwaits hfail st.draw

theorem instancesOf_comes {reservation : Json} (h : Instance.reservation reservation) :
    Comes (fun _ => True) (instancesOf reservation) := by
  refine (record.fieldD h (k := list Instance.kind) (by simp) ⟨[], rfl, by simp⟩).bind fun found hfound => ?_
  refine (list.elements hfound).bind fun items hitems => ?_
  exact (Ends.mapM fun x hx => Instance.ofJson_ends (hitems x hx)).mono (fun _ _ => trivial) fun _ he => he

theorem instances_comes (ids : List String) (h : st.remote.Documented) :
    Comes (fun _ => True) ((instances ids).run.run st).1 := by
  refine Comes.bind_run (P := (∀ x ∈ ·, Instance.reservation x)) ?_ fun reservations t hall => ?_
  · unfold describeAll
    rw [Work.listAll_run _ _ _ _ rfl]
    exact h.named_ends (c := .reservations) (by simp [Catalog.all]) _ _ _
  · refine Comes.bind_run (Comes.check_run (P := fun _ => True) ?_ t) fun _ _ _ => trivial
    exact (Ends.mapM fun x hx => instancesOf_comes (hall x hx)).mono (fun _ _ => trivial) fun _ he => he

theorem status_comes (h : st.remote.Documented) :
    Comes (fun _ => True) (status.run.run st).1 := by
  unfold status
  rw [Work.bind_run_ok (Work.perform_run _ st), Work.bind_run_ok (Work.get_run _)]
  cases hfailure : st.remote.tagsFailure with
  | none => trivial
  | some e => exact (h.tags e hfailure).named _ _ _

end Lookup

/-! ## All operations -/

namespace Operation

theorem effect_comes {s : Settings} {op : Operation} {E : Sight → Effect Answer}
    (heffect : op.effect? s = some E) (hop : ∀ scheme, op = .clusterSubnets scheme → text scheme)
    {seen : Sight} (h : seen.remote.Documented)
    (hlive : ∀ id value, seen.live ((Lookup.clusterSubnetsById s).slot (.text id)) = some value →
      ∃ subnet, value = .subnet subnet ∧ text subnet.id) :
    Comes (fun _ => True) (E seen).answer := by
  have told {α : Type} {r : Except Failure α} (f : α → Answer) (hr : Comes (fun _ => True) r) :
      Comes (fun _ => True) (r.map f) := hr.map fun _ _ => trivial
  cases op with
  | subnets names =>
    obtain rfl := Option.some.inj heffect
    exact told _ (NameLookup.subnets.effect_comes s names h)
  | securityGroups names =>
    obtain rfl := Option.some.inj heffect
    exact told _ (NameLookup.groups.effect_comes s names h)
  | clusterSubnets scheme =>
    obtain rfl := Option.some.inj heffect
    exact told _ (Lookup.clusterEffect_comes s (hop scheme rfl) h hlive)
  | vpcId =>
    obtain rfl := Option.some.inj heffect
    exact told _ (Lookup.networkEffect_comes s h)
  | vpc id =>
    obtain rfl := Option.some.inj heffect
    exact told _ (View.orAskEffect_comes (Lookup.askVpc_comes id h))
  | nodeHealthy id =>
    obtain rfl := Option.some.inj heffect
    exact told _ (View.orAskEffect_comes (Lookup.askHealth_comes id h))
  | _ => cases heffect

theorem run_comes {s : Settings} {op : Operation} (heffect : op.effect? s = none) {st : State}
    (h : st.remote.Documented) (hwaits : (Lookup.deletePolicy s).Waits) :
    Comes (fun _ => True) ((op.run s).run.run st).1 := by
  have told {α : Type} {w : Work α} (f : α → Answer) (hw : Comes (fun _ => True) (w.run.run st).1) :
      Comes (fun _ => True) ((w >>= fun a => pure (f a)).run.run st).1 :=
    hw.bind_run fun _ _ _ => trivial
  cases op with
  | securityGroupById id => exact told _ (Lookup.securityGroupById_comes id h)
  | securityGroupByName network name => exact told _ (Lookup.securityGroupByName_comes network name h)
  | deleteSecurityGroup id => exact told _ (Lookup.deleteSecurityGroup_comes id h hwaits)
  | instances ids => exact told _ (Lookup.instances_comes ids h)
  | status => exact told _ (Lookup.status_comes h)
  | _ => cases heffect

/-- After any session, an operation in a documented world either answers or fails as documented. -/
theorem answers_or_documented (s : Settings) (steps : List Step) (op : Operation) (m : Moment)
    (hop : ∀ scheme, op = .clusterSubnets scheme → text scheme) (hworld : m.remote.Documented)
    (hwaits : (Lookup.deletePolicy s).Waits) :
    (∃ a, (op.outcome s m (sessionCache s steps)).1 = .ok a) ∨
      ∃ e, (op.outcome s m (sessionCache s steps)).1 = .error e ∧ e.isDocumented = true := by
  have hformed := (Formed.of_empty s).run steps
  have hcomes : Comes (fun _ => True) (op.outcome s m (sessionCache s steps)).1 := by
    cases heffect : op.effect? s with
    | none => exact run_comes heffect hworld hwaits
    | some E =>
      rw [op.outcome_eq _ _ heffect]
      refine effect_comes heffect hop hworld fun id value hlive => ?_
      obtain ⟨subnet, hvalue, hid⟩ := hformed.live_snapshot hlive
      exact ⟨subnet, hvalue, id, hid⟩
  cases houtcome : (op.outcome s m (sessionCache s steps)).1 with
  | ok a => exact Or.inl ⟨a, rfl⟩
  | error e => exact Or.inr ⟨e, rfl, hcomes.failure houtcome⟩

end Operation

def webGroup : Json :=
  .obj [("GroupId", .str "sg-1"),
    ("Tags", .arr [.obj [("Key", .str "Name"), ("Value", .str "web")]])]

theorem webGroup_kind : SecurityGroup.kind webGroup := by
  have htag : Tags.pair (.obj [("Key", .str "Name"), ("Value", .str "web")]) :=
    ⟨_, rfl, by simp [List.lookup_cons, text]⟩
  have htags : Tags.kind (.arr [.obj [("Key", .str "Name"), ("Value", .str "web")]]) :=
    Or.inr ⟨_, rfl, by simpa using htag⟩
  exact ⟨_, rfl, by simpa [List.lookup_cons, text] using htags⟩

/-- A world whose only group is never let go by another resource. -/
def heldGroup : Remote where
  pages _ operation :=
    if operation = "describe_security_groups" then [.obj [("SecurityGroups", .arr [webGroup])]] else []
  outage _ operation := if operation = "describe_vpcs" then some (.beforeStart (.sdk .noRegion)) else none
  deletion _ := some (.service ⟨some (.str "DependencyViolation"), none, "DeleteSecurityGroup", none⟩)
  tagsFailure := some (.service ⟨none, none, "DescribeTags", none⟩)
  token := ⟨some (.http "ConnectTimeout" "timed out"), none, "", .ok .null⟩
  identity := ⟨none, none, "", .error "no document"⟩

theorem heldGroup_documented : heldGroup.Documented where
  pages c hc page hpage := by
    simp only [Catalog.all, List.mem_cons, List.not_mem_nil, or_false] at hc
    by_cases hgroups : c = .groups
    · subst hgroups
      obtain rfl : page = .obj [("SecurityGroups", .arr [webGroup])] := List.mem_singleton.1 hpage
      have hlist : list SecurityGroup.kind (.arr [webGroup]) := ⟨_, rfl, by simpa using webGroup_kind⟩
      exact ⟨_, rfl, by simpa [List.lookup_cons, Catalog.groups] using hlist⟩
    · rcases hc with rfl | rfl | rfl | rfl | rfl | rfl <;> contradiction
  outages api operation outage h := by
    simp only [heldGroup, Option.ite_none_right_eq_some] at h
    obtain ⟨-, h⟩ := h
    obtain rfl := Option.some.inj h
    exact .unanswered .noRegion
  deletions n e h := by
    obtain rfl := Option.some.inj h
    exact .answered fun code hcode => Or.inr ⟨_, (Option.some.inj hcode).symm⟩
  tags e h := by
    obtain rfl := Option.some.inj h
    exact .answered fun code hcode => by cases hcode
  token e h := by
    obtain rfl := Option.some.inj h
    rfl
  identity e h := by cases h
  document d h := by cases h

/-- Twenty attempts end in a documented failure. -/
theorem Operation.answers_or_documented_heldGroup :
    ∃ e, ((Operation.deleteSecurityGroup "sg-1").outcome {} ⟨heldGroup, 0, fun _ => 0⟩
      (sessionCache {} [.call (.securityGroups ["web"]) ⟨heldGroup, 0, fun _ => 0⟩])).1 = .error e ∧
        e.isDocumented = true := by
  have hcalls : ((Operation.deleteSecurityGroup "sg-1").outcome {} ⟨heldGroup, 0, fun _ => 0⟩
      (sessionCache {} [.call (.securityGroups ["web"]) ⟨heldGroup, 0, fun _ => 0⟩])).1.toOption.isNone
        = true := by decide +kernel
  rcases Operation.answers_or_documented {} [.call (.securityGroups ["web"]) ⟨heldGroup, 0, fun _ => 0⟩]
    (.deleteSecurityGroup "sg-1") ⟨heldGroup, 0, fun _ => 0⟩ (fun _ h => by cases h)
    heldGroup_documented Lookup.deletePolicy_waits with ⟨a, ha⟩ | hfailed
  · rw [ha] at hcalls
    cases hcalls
  · exact hfailed

end NetLookup
