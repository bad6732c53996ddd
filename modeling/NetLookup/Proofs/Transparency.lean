import NetLookup.Proofs.Stores

/-! # The cache does not show while the world stays the same

If the remote side always answers the same, every entry is what asking again would give. So an answer from
the cache is the answer that an empty cache would lead to. -/

namespace NetLookup

/-! ## One world -/

structure Remote.SameAnswers (r w : Remote) : Prop where
  pages : r.pages = w.pages
  outage : r.outage = w.outage
  token : r.token = w.token
  identity : r.identity = w.identity

namespace Remote.SameAnswers

variable {r w : Remote}

theorem refl (r : Remote) : r.SameAnswers r := ⟨rfl, rfl, rfl, rfl⟩

theorem listed (h : r.SameAnswers w) (api : Api) (operation key : String) :
    r.listed api operation key = w.listed api operation key := by
  simp only [Remote.listed, h.pages, h.outage]

theorem identityOf (h : r.SameAnswers w) :
    MetadataService.identityOf r = MetadataService.identityOf w := by
  simp only [MetadataService.identityOf, h.token, h.identity]

end Remote.SameAnswers

namespace Lookup

theorem judged_same {α : Type} (operation key : String) {params : Fields}
    (judge : List Json → Except Failure α) (hparams : Listing.anySaid [Listing.ownName] params = false)
    {r w : Remote} (h : r.SameAnswers w) :
    (judged operation key params judge).answer r = (judged operation key params judge).answer w := by
  rw [judged_answer operation key judge hparams, judged_answer operation key judge hparams, h.listed]

theorem askNetwork_same (s : Settings) {r w : Remote} (h : r.SameAnswers w) :
    (askNetwork s).answer r = (askNetwork s).answer w := by
  rw [askNetwork_answer, askNetwork_answer, h.identityOf]
  refine congrArg _ (funext fun identity => ?_)
  exact judged_same _ _ networkGiven rfl h

theorem askVpc_same (id : String) {r w : Remote} (h : r.SameAnswers w) :
    (askVpc id).answer r = (askVpc id).answer w :=
  judged_same _ _ (vpcGiven id) rfl h

theorem askHealth_same (id : String) {r w : Remote} (h : r.SameAnswers w) :
    (askHealth id).answer r = (askHealth id).answer w :=
  judged_same _ _ (healthGiven id) rfl h

theorem fetchedIn_same {r w : Remote} (h : r.SameAnswers w) : fetchedIn r = fetchedIn w := by
  rw [fetchedIn, fetchedIn, h.listed]

/-! ## What entries hold -/

structure Told (s : Settings) (w : Remote) (slot : Slot) (value : Stored) : Prop where
  network : slot = (vpcIds s).slot (.text "") →
    (askNetwork s).answer w = .ok (value.toJson, some value)
  vpc : ∀ id, slot = (vpcs s).slot (.text id) → (askVpc id).answer w = .ok (value, some value)
  health : ∀ id, slot = (verdicts s).slot (.text id) →
    (askHealth id).answer w = .ok (value.toJson, some value)
  snapshot : ∀ id, slot = (clusterSubnetsById s).slot (.text id) → ∃ fetched subnet,
    fetchedIn w = some fetched ∧ lastFetched fetched id = some subnet ∧ value = .subnet subnet

namespace Told

variable {s : Settings} {r w : Remote} {slot : Slot} {value : Stored}

theorem of_same (h : r.SameAnswers w) (ht : Told s r slot value) : Told s w slot value where
  network hslot := askNetwork_same s h ▸ ht.network hslot
  vpc id hslot := askVpc_same id h ▸ ht.vpc id hslot
  health id hslot := askHealth_same id h ▸ ht.health id hslot
  snapshot id hslot := fetchedIn_same h ▸ ht.snapshot id hslot

theorem of_area {v : View}
    (h : v.area ∉ ["EC2.GetVPCID", "EC2.GetVPC", "EC2.IsNodeHealthy", "ClusterSubnets"]) (key : Key) :
    Told s w (v.slot key) value := by
  simp only [List.mem_cons, List.not_mem_nil, or_false, not_or] at h
  obtain ⟨hnetwork, hvpc, hhealth, hsnapshot⟩ := h
  exact ⟨fun hslot => absurd hslot (View.slot_ne_of_area hnetwork _ _),
    fun _ hslot => absurd hslot (View.slot_ne_of_area hvpc _ _),
    fun _ hslot => absurd hslot (View.slot_ne_of_area hhealth _ _),
    fun _ hslot => absurd hslot (View.slot_ne_of_area hsnapshot _ _)⟩

theorem of_askNetwork {id : Json} (h : (askNetwork s).answer w = .ok (id, some value)) :
    Told s w ((vpcIds s).slot (.text "")) value where
  network _ := by rw [h, askNetwork_use h]
  vpc _ hslot := absurd hslot (View.slot_ne_of_area (by simp) _ _)
  health _ hslot := absurd hslot (View.slot_ne_of_area (by simp) _ _)
  snapshot _ hslot := absurd hslot (View.slot_ne_of_area (by simp) _ _)

theorem of_askVpc {id : String} {found : Stored}
    (h : (askVpc id).answer w = .ok (found, some value)) :
    Told s w ((vpcs s).slot (.text id)) value where
  network hslot := absurd hslot (View.slot_ne_of_area (by simp) _ _)
  vpc other hslot := by
    obtain rfl : id = other := by simpa [View.slot] using hslot
    rw [h, (askVpc_given h).1]
  health _ hslot := absurd hslot (View.slot_ne_of_area (by simp) _ _)
  snapshot _ hslot := absurd hslot (View.slot_ne_of_area (by simp) _ _)

theorem of_askHealth {id : String} {verdict : Json}
    (h : (askHealth id).answer w = .ok (verdict, some value)) :
    Told s w ((verdicts s).slot (.text id)) value where
  network hslot := absurd hslot (View.slot_ne_of_area (by simp) _ _)
  vpc _ hslot := absurd hslot (View.slot_ne_of_area (by simp) _ _)
  health other hslot := by
    obtain rfl : id = other := by simpa [View.slot] using hslot
    rw [h, (askHealth_given h).1]
  snapshot _ hslot := absurd hslot (View.slot_ne_of_area (by simp) _ _)

theorem of_fetched {fetched : List (Key × Subnet)} {id : String} {subnet : Subnet}
    (hw : fetchedIn w = some fetched) (h : lastFetched fetched id = some subnet) :
    Told s w ((clusterSubnetsById s).slot (.text id)) (.subnet subnet) where
  network hslot := absurd hslot (View.slot_ne_of_area (by simp) _ _)
  vpc _ hslot := absurd hslot (View.slot_ne_of_area (by simp) _ _)
  health _ hslot := absurd hslot (View.slot_ne_of_area (by simp) _ _)
  snapshot other hslot := by
    obtain rfl : id = other := by simpa [View.slot] using hslot
    exact ⟨fetched, subnet, hw, h, rfl⟩

/-! ### Stores -/

def All (s : Settings) (w : Remote) (stores : List (Cache.Store Stored)) : Prop :=
  ∀ x ∈ stores, Told s w x.1 x.2.1

theorem of_keeps {op : Operation} {seen : Sight} {x : Cache.Store Stored}
    (h : op.Keeps s seen x) : Told s seen.remote x.1 x.2.1 := by
  cases h with
  | network _ _ hasked => exact of_askNetwork hasked
  | vpc hasked => exact of_askVpc hasked
  | verdict hasked => exact of_askHealth hasked
  | @named n _ _ p => exact of_area (by cases n <;> simp [NameLookup.view]) p.1
  | snapshot hfetched hlast => exact of_fetched hfetched hlast

theorem all_stores {op : Operation} {E : Sight → Effect Answer} (h : op.effect? s = some E)
    (seen : Sight) : All s seen.remote (E seen).stores :=
  fun _ hx => of_keeps (Operation.keeps_of_mem_stores h hx)

end Told

/-! ## Sessions in one world -/

def Coherent (s : Settings) (w : Remote) (cache : Cache Stored) : Prop :=
  ∀ e ∈ cache.entries, Told s w e.slot e.value

theorem Coherent.step {s : Settings} {w : Remote} {cache : Cache Stored} (h : Coherent s w cache)
    {step : Step} (hstep : ∀ op m, step = .call op m → m.remote.SameAnswers w) :
    Coherent s w (step.cacheAfter s cache) := by
  cases step with
  | call op m =>
    obtain ⟨stores, hused, hstores⟩ := Step.cacheAfter_call s cache op m
    refine hused.entries h fun x hx => ?_
    obtain ⟨E, hE, hmem⟩ := hstores x hx
    exact (Told.all_stores hE _ x hmem).of_same (hstep op m rfl)
  | purge now => exact fun e he => h e (List.mem_of_mem_filter he)

theorem coherent_session {s : Settings} {w : Remote} {steps : List Step}
    (h : ∀ op m, .call op m ∈ steps → m.remote.SameAnswers w) :
    Coherent s w (sessionCache s steps) := by
  induction steps using List.reverseRecOn with
  | nil => exact fun e he => by cases he
  | append_singleton steps step ih =>
    rw [sessionCache_append]
    refine (ih fun op m hm => h op m (by simp [hm])).step fun op m hm => h op m ?_
    simp [hm]

theorem Coherent.told_live {s : Settings} {w : Remote} {cache : Cache Stored}
    (h : Coherent s w cache) {m : Moment} {slot : Slot} {value : Stored}
    (hlive : (m.state cache).live slot = some value) : Told s w slot value := by
  obtain ⟨e, he, rfl, rfl⟩ := State.exists_entry_of_live hlive
  exact h e he

/-! ## Answers -/

section Answers

variable {s : Settings} {seen : Sight}

theorem orAsk_answer {β : Type} {v : View} {key : String} {use : Stored → β}
    {ask : Work (β × Option Stored)}
    (h : ∀ value, seen.live (v.slot (.text key)) = some value →
      ask.answer seen.remote = .ok (use value, some value)) :
    (v.orAskEffect key use ask seen).answer = (ask.answer seen.remote).map (·.1) := by
  unfold View.orAskEffect
  cases hlive : seen.live (v.slot (.text key)) with
  | none => rfl
  | some value =>
    rw [h value hlive]
    rfl

def amongAnswer (s : Settings) (scheme : Scheme) (ids : List String) (r : Remote) :
    Except Failure (List Json) :=
  (fetchEffect ids r).answer.bind fun fetched =>
    finished s scheme ((ids.filterMap (lastFetched fetched)).foldl addUsable [])

theorem standing_eq {v : View} {fetched known : List (Key × Subnet)} {ids : List String}
    (hfetched : v.notLive seen.live ids = [] ∧ fetched = [] ∨ fetched = known)
    (hlive : ∀ id ∈ ids, ∀ value, seen.live (v.slot (.text id)) = some value →
      ∃ subnet, lastFetched known id = some subnet ∧ value = .subnet subnet)
    {id : String} (hid : id ∈ ids) :
    standing fetched (liveSnapshots v seen.live ids) id = .ok (lastFetched known id) := by
  unfold standing
  rw [lookup_liveSnapshots, if_pos hid]
  rcases hfetched with ⟨hnone, rfl⟩ | rfl
  · cases hvalue : seen.live (v.slot (.text id)) with
    | none =>
      have hmem : id ∈ v.notLive seen.live ids := List.mem_filter.2 ⟨hid, by simp [hvalue]⟩
      simp [hnone] at hmem
    | some value =>
      obtain ⟨subnet, hlast, rfl⟩ := hlive id hid value hvalue
      rw [hlast]
      rfl
  · cases hlast : lastFetched fetched id with
    | some subnet => rfl
    | none =>
      cases hvalue : seen.live (v.slot (.text id)) with
      | none => rfl
      | some value =>
        obtain ⟨subnet, hsome, -⟩ := hlive id hid value hvalue
        rw [hlast] at hsome
        cases hsome

theorem notLive_of_untold
    (hlive : ∀ slot value, seen.live slot = some value → Told s seen.remote slot value)
    (hworld : fetchedIn seen.remote = none) (ids : List String) :
    (clusterSubnetsById s).notLive seen.live ids = ids := by
  refine List.filter_eq_self.2 fun id _ => ?_
  cases hvalue : seen.live ((clusterSubnetsById s).slot (.text id)) with
  | none => rfl
  | some value =>
    obtain ⟨fetched, -, hsome, -⟩ := (hlive _ value hvalue).snapshot id rfl
    simp [hworld] at hsome

theorem fetch_missing {r : Remote} {known : List (Key × Subnet)} (hworld : fetchedIn r = some known)
    (missing : List String) :
    ∃ fetched, (fetchEffect missing r).answer = .ok fetched ∧
      (missing = [] ∧ fetched = [] ∨ fetched = known) := by
  by_cases hnone : missing = []
  · subst hnone
    exact ⟨[], rfl, Or.inl ⟨rfl, rfl⟩⟩
  · exact ⟨known, (fetchEffect_eq_ok hnone).2 hworld, Or.inr rfl⟩

/-- It does not show which of the candidates were cached. -/
theorem among_answer (scheme : Scheme) (ids : List String)
    (hlive : ∀ slot value, seen.live slot = some value → Told s seen.remote slot value) :
    (amongEffect s scheme ids seen).answer = amongAnswer s scheme ids seen.remote := by
  unfold amongEffect amongAnswer
  simp only [Effect.answer_andThen]
  by_cases hids : ids = []
  · subst hids
    rfl
  · cases hworld : fetchedIn seen.remote with
    | none =>
      -- All candidates are asked for, so a failure names the same request.
      rw [notLive_of_untold hlive hworld]
      cases hfetch : (fetchEffect ids seen.remote).answer with
      | error e => rfl
      | ok fetched => simp [(fetchEffect_eq_ok hids).1 hfetch] at hworld
    | some known =>
      have hsnapshots : ∀ id ∈ ids, ∀ value,
          seen.live ((clusterSubnetsById s).slot (.text id)) = some value →
            ∃ subnet, lastFetched known id = some subnet ∧ value = .subnet subnet := by
        intro id _ value hvalue
        obtain ⟨fetched, subnet, hsome, hlast, heq⟩ := (hlive _ value hvalue).snapshot id rfl
        obtain rfl : known = fetched := by simpa [hworld] using hsome
        exact ⟨subnet, hlast, heq⟩
      obtain ⟨fetched, hfetch, hfetched⟩ :=
        fetch_missing hworld ((clusterSubnetsById s).notLive seen.live ids)
      rw [hfetch, (fetchEffect_eq_ok hids).2 hworld]
      have hchoice := chooseEffect_answer (clusterSubnetsById s) seen.clock
        (fun id hid => standing_eq hfetched hsnapshots hid) []
      simp only [Except.bind, hchoice]
      rfl

end Answers

/-! ## No difference -/

def plainLookup : Operation → Bool
  | .vpcId | .vpc _ | .nodeHealthy _ | .clusterSubnets _ => true
  | _ => false

theorem effect_of_plainLookup (s : Settings) {op : Operation} (h : plainLookup op = true) :
    ∃ E, op.effect? s = some E := by
  cases op with
  | vpcId | vpc | nodeHealthy | clusterSubnets => exact ⟨_, rfl⟩
  | _ => cases h

theorem effect_answer {s : Settings} {op : Operation} {E : Sight → Effect Answer}
    (h : op.effect? s = some E) (hop : plainLookup op = true) {seen : Sight}
    (hlive : ∀ slot value, seen.live slot = some value → Told s seen.remote slot value) :
    (E seen).answer = (E { seen with live := fun _ => none }).answer := by
  -- What is live is what would be asked for anew, for each operation in its own area.
  cases op with
  | vpcId =>
    obtain rfl := Option.some.inj h
    refine congrArg (Except.map Answer.value) ?_
    unfold networkEffect
    cases nonEmpty s.vpcId with
    | some id => rfl
    | none => exact orAsk_answer fun value hvalue => (hlive _ value hvalue).network rfl
  | vpc id =>
    obtain rfl := Option.some.inj h
    refine congrArg (Except.map Answer.stored) ?_
    exact orAsk_answer fun value hvalue => (hlive _ value hvalue).vpc id rfl
  | nodeHealthy id =>
    obtain rfl := Option.some.inj h
    refine congrArg (Except.map Answer.value) ?_
    exact orAsk_answer fun value hvalue => (hlive _ value hvalue).health id rfl
  | clusterSubnets scheme =>
    obtain rfl := Option.some.inj h
    refine congrArg (Except.map fun ids => Answer.value (.arr ids)) ?_
    unfold clusterEffect
    simp only [Effect.answer_andThen]
    refine congrArg _ (funext fun scheme => congrArg _ (funext fun index => ?_))
    have hempty : (amongEffect s scheme (candidates index scheme.roleTag)
        { seen with live := fun _ => none }).answer
          = amongAnswer s scheme (candidates index scheme.roleTag) seen.remote :=
      among_answer scheme _ fun _ _ hnone => by simp at hnone
    rw [hempty]
    exact among_answer scheme _ hlive
  | _ => cases hop

end Lookup

/-- In a world that always answers the same, nothing that was asked for before shows in an answer, whatever
the clock did and however often the cache was purged. -/
theorem sessionCache_transparent (s : Settings) (steps : List Step) (op : Operation)
    (hop : Lookup.plainLookup op = true) (m : Moment)
    (hworld : ∀ past before, .call past before ∈ steps → before.remote.SameAnswers m.remote) :
    (op.outcome s m (sessionCache s steps)).1 = (op.outcome s m .empty).1 := by
  have hcoherent := Lookup.coherent_session (s := s) hworld
  obtain ⟨E, heffect⟩ := Lookup.effect_of_plainLookup s hop
  rw [op.outcome_eq _ _ heffect, op.outcome_eq _ _ heffect]
  exact Lookup.effect_answer heffect hop fun slot value hlive => hcoherent.told_live hlive

def oneNetwork : Remote where
  pages _ operation :=
    if operation = "describe_vpcs" then
      [.obj [("Vpcs", .arr [.obj [("VpcId", .str "network")]])]]
    else []
  outage _ _ := none
  deletion _ := none
  tagsFailure := none
  token := ⟨none, none, "", .ok .null⟩
  identity := ⟨none, none, "", .ok .null⟩

def backwards : List Step :=
  [.call (.vpc "network") ⟨oneNetwork, 20, fun _ => 0⟩, .purge 10,
    .call (.clusterSubnets .null) ⟨oneNetwork, 0, fun _ => 0⟩]

/-- The later answer needs no request, and is the same. -/
theorem sessionCache_transparent_backwards :
    ((Operation.vpc "network").outcome {} ⟨oneNetwork, 5, fun _ => 0⟩ (sessionCache {} backwards)).1
        = ((Operation.vpc "network").outcome {} ⟨oneNetwork, 5, fun _ => 0⟩ .empty).1 ∧
      ((Operation.vpc "network").outcome {} ⟨oneNetwork, 5, fun _ => 0⟩
        (sessionCache {} backwards)).2.length = 0 ∧
      ((Operation.vpc "network").outcome {} ⟨oneNetwork, 5, fun _ => 0⟩ .empty).2.length = 1 := by
  refine ⟨sessionCache_transparent {} backwards (.vpc "network") rfl _ ?_, by decide, by decide⟩
  intro past before hmem
  have hbefore : before.remote = oneNetwork := by
    simp only [backwards, List.mem_cons, Step.call.injEq, reduceCtorEq, false_or, List.not_mem_nil,
      or_false] at hmem
    rcases hmem with ⟨-, rfl⟩ | ⟨-, rfl⟩ <;> rfl
  rw [hbefore]
  exact .refl oneNetwork

end NetLookup
