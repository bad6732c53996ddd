import NetLookup.Proofs.Contents
import NetLookup.Proofs.Documented
import NetLookup.Proofs.HostDocument

/-! # Lookups in a documented world

If the remote side keeps to its documents, a lookup that uses the cache comes to an answer or to a failure
that this library documents. -/

namespace NetLookup

open Kind

variable {α β : Type}

/-- It comes to a result of which something holds, or to a documented failure. -/
def Comes (P : α → Prop) (r : Except Failure α) : Prop := Ends P (fun e => e.isDocumented = true) r

namespace Comes

variable {P : α → Prop} {Q : β → Prop}

theorem bind {r : Except Failure α} {f : α → Except Failure β} (h : Comes P r)
    (hf : ∀ a, P a → Comes Q (f a)) : Comes Q (r.bind f) :=
  Ends.bind h hf

theorem map {r : Except Failure α} {f : α → β} (h : Comes P r) (hf : ∀ a, P a → Q (f a)) :
    Comes Q (r.map f) :=
  Ends.map h hf

theorem andThen {E : Effect α} {F : α → Effect β} (h : Comes P E.answer)
    (hF : ∀ a, P a → Comes Q (F a).answer) : Comes Q (E.andThen F).answer := by
  rw [Effect.answer_andThen]
  exact h.bind hF

theorem bind_run {w : Work α} {f : α → Work β} {st : State} (h : Comes P (w.run.run st).1)
    (hf : ∀ a t, P a → Comes Q ((f a).run.run t).1) : Comes Q ((w >>= f).run.run st).1 := by
  rw [Work.bind_run]
  rcases hrun : w.run.run st with ⟨e | a, t⟩
  · rw [hrun] at h
    exact h
  · rw [hrun] at h
    exact hf a t h

theorem check_run {r : Except Failure α} (h : Comes P r) (st : State) :
    Comes P ((Work.check r).run.run st).1 := h

end Comes

variable {r : Remote}

/-! ## Listings -/

theorem Remote.Documented.named_ends (h : r.Documented) {c : Catalog} (hc : c ∈ Catalog.all)
    (service operation : Json) (params : Fields) :
    Comes (∀ x ∈ ·, c.record x)
      ((r.listed c.api c.operation c.key).mapError (·.named service operation params)) :=
  (h.listed_ends hc).mapError fun _ he => he.named service operation params

theorem judged_comes (h : r.Documented) {c : Catalog} (hc : c ∈ Catalog.all) (hapi : c.api = .ec2)
    {params : Fields} (hparams : Listing.anySaid [Listing.ownName] params = false) {P : α → Prop}
    {judge : List Json → Except Failure α}
    (hjudge : ∀ records, (∀ x ∈ records, c.record x) → Comes P (judge records)) :
    Comes P ((judged c.operation c.key params judge).answer r) := by
  rw [judged_answer _ _ judge hparams, ← hapi]
  exact (h.named_ends hc _ _ _).bind hjudge

/-! ## The host -/

theorem Failure.documented_of_unmet {e : Failure} (h : e.isUnmet = true) : e.isDocumented = true := by
  cases e with
  | transport | lookup => rfl
  | _ => cases h

theorem MetadataService.identityOf_comes (h : r.Documented) :
    Comes (fun _ => True) (identityOf r) := by
  have hfields : ¬ r.Fieldless := by
    intro hfieldless
    obtain ⟨v, hdocument, hnone⟩ := hfieldless.document
    obtain ⟨fields, rfl⟩ := h.document v hdocument
    exact hnone fields rfl
  have hends := identityOf_ends h.token h.identity hfields
  exact hends.mono (fun _ _ => trivial) fun _ he => Failure.documented_of_unmet he

/-! ## Lookups of one key -/

namespace Lookup

theorem networkOf_comes {reservations : List Json}
    (h : ∀ x ∈ reservations, Instance.reservation x) :
    Comes (fun _ => True) (networkOf (.arr reservations)) := by
  cases reservations with
  | nil => exact rfl
  | cons reservation rest =>
    have hsize : Comes (· = rest.length + 1) (Json.arr (reservation :: rest)).size := rfl
    have hfirst : Comes Instance.reservation (Json.arr (reservation :: rest)).first :=
      h reservation List.mem_cons_self
    -- The sizes are those of the cases, so a first item is only taken where there is one.
    unfold networkOf
    refine hsize.bind fun count hcount => ?_
    simp only [hcount, Nat.succ_ne_zero, if_false]
    refine hfirst.bind fun first hfirst => ?_
    refine (record.fieldD hfirst (k := list Instance.kind) (by simp) ⟨[], rfl, by simp⟩).bind
      fun found hfound => ?_
    obtain ⟨instances, rfl, hinstances⟩ := hfound
    cases instances with
    | nil => exact rfl
    | cons host others =>
      have hsize : Comes (· = others.length + 1) (Json.arr (host :: others)).size := rfl
      have hfirst : Comes Instance.kind (Json.arr (host :: others)).first :=
        hinstances host List.mem_cons_self
      refine hsize.bind fun size hsize => ?_
      simp only [hsize, Nat.succ_ne_zero, if_false]
      refine hfirst.bind fun host hhost => ?_
      refine (record.fieldD hhost (k := orNull text) (by simp) (Or.inl rfl)).bind fun id _ => ?_
      split
      · exact rfl
      · exact rfl
      · trivial

theorem askNetwork_comes (s : Settings) (h : r.Documented) :
    Comes (fun _ => True) ((askNetwork s).answer r) := by
  rw [askNetwork_answer]
  refine (MetadataService.identityOf_comes h).bind fun identity _ => ?_
  refine judged_comes h (c := .reservations) (by simp [Catalog.all]) rfl rfl fun reservations hall => ?_
  exact (networkOf_comes hall).map fun _ _ => trivial

theorem askVpc_comes (id : String) (h : r.Documented) :
    Comes (fun _ => True) ((askVpc id).answer r) := by
  refine judged_comes h (c := .vpcs) (by simp [Catalog.all]) rfl rfl fun records hall => ?_
  unfold vpcGiven
  split
  · rename_i record
    exact (Vpc.ofJson_ends (hall record List.mem_cons_self)).map fun _ _ => trivial
  · exact rfl

theorem verdictOf_comes (id : String) {records : List Json}
    (h : ∀ x ∈ records, InstanceStatus.kind x) : Comes (fun _ => True) (verdictOf id records) := by
  induction records with
  | nil => trivial
  | cons record records ih =>
    refine (InstanceStatus.ofJson_ends (h record List.mem_cons_self)).bind fun status hcode => ?_
    split
    · obtain ⟨code, hcode⟩ := hcode
      unfold InstanceStatus.isRunning
      rw [hcode]
      trivial
    · exact ih fun x hx => h x (List.mem_cons_of_mem _ hx)

theorem askHealth_comes (id : String) (h : r.Documented) :
    Comes (fun _ => True) ((askHealth id).answer r) := by
  refine judged_comes h (c := .statuses) (by simp [Catalog.all]) rfl rfl fun records hall => ?_
  exact (verdictOf_comes id hall).map fun _ _ => trivial

end Lookup

theorem View.orAskEffect_comes {v : View} {key : String} {use : Stored → β}
    {ask : Work (β × Option Stored)} {seen : Sight}
    (h : Comes (fun _ => True) (ask.answer seen.remote)) :
    Comes (fun _ => True) (v.orAskEffect key use ask seen).answer := by
  unfold orAskEffect
  split
  · trivial
  · exact h.map fun _ _ => trivial

theorem Lookup.networkEffect_comes (s : Settings) {seen : Sight} (h : seen.remote.Documented) :
    Comes (fun _ => True) (networkEffect s seen).answer := by
  unfold networkEffect
  split
  · trivial
  · exact View.orAskEffect_comes (askNetwork_comes s h)

/-! ## Lookups by name -/

theorem filedIds_comes {k : Kind} {read : Reader} {unnamed : Json → List Json} {records : List Json}
    (hread : ∀ v, k v → Comes (fun p => ∀ name, p.1 = some name → text name) (read v))
    (h : ∀ x ∈ records, k x) : Comes (fun _ => True) (filedIds read unnamed records) := by
  induction records with
  | nil => trivial
  | cons record records ih =>
    have hrecord := hread record (h record List.mem_cons_self)
    have hrest := ih fun x hx => h x (List.mem_cons_of_mem _ hx)
    unfold filedIds
    rcases hresult : read record with e | ⟨_ | name, id⟩
    · exact hrecord.failure hresult
    · exact hrest.map fun _ _ => trivial
    · rw [hresult] at hrecord
      obtain ⟨name, rfl⟩ := hrecord name rfl
      exact hrest.map fun _ _ => trivial

namespace NameLookup

def catalog : NameLookup → Catalog
  | subnets => .subnets
  | groups => .groups

theorem read_comes (n : NameLookup) (v : Json) (h : n.catalog.record v) :
    Comes (fun p => ∀ name, p.1 = some name → text name) (n.read v) := by
  cases n with
  | subnets => exact (Subnet.ofJson_ends h).map fun s hs name hname => Tags.name?_text hs.2 hname
  | groups => exact (SecurityGroup.ofJson_ends h).map fun g hg name hname => Tags.name?_text hg.2 hname

theorem effect_comes (n : NameLookup) (s : Settings) (names : List String) {seen : Sight}
    (h : seen.remote.Documented) : Comes (fun _ => True) (n.effect s names seen).answer := by
  have hlisted (params : Fields) : Comes (∀ x ∈ ·, n.catalog.record x)
      (describeEffect n.listing n.recordsKey params seen.remote).answer := by
    cases n with
    | subnets => exact h.named_ends (c := .subnets) (by simp [Catalog.all]) _ _ _
    | groups => exact h.named_ends (c := .groups) (by simp [Catalog.all]) _ _ _
  unfold effect View.byNameEffect
  split
  · trivial
  · refine Comes.map (P := fun _ => True) ?_ fun _ _ => trivial
    refine (Lookup.networkEffect_comes s h).andThen fun network _ => ?_
    refine (hlisted _).andThen fun records hall => ?_
    exact filedIds_comes n.read_comes hall

end NameLookup

/-! ## The subnets of a cluster -/

namespace Lookup

theorem fetchedOf_comes {record : Json} (h : Subnet.kind record) :
    Comes (fun p => text p.2.id) (fetchedOf record) := by
  refine (Subnet.ofJson_ends h).bind fun subnet hsubnet => ?_
  obtain ⟨id, hid⟩ := hsubnet.1
  have hkey : Comes (fun _ => True) (Key.ofJson subnet.id) := by
    rw [hid]
    trivial
  exact hkey.bind fun key _ => hsubnet.1

theorem fetchEffect_comes (missing : List String) (h : r.Documented) :
    Comes (∀ p ∈ ·, text p.2.id) (fetchEffect missing r).answer := by
  unfold fetchEffect
  split
  · exact fun p hp => by cases hp
  · refine Comes.andThen (P := (∀ x ∈ ·, Subnet.kind x)) ?_ fun records hall => ?_
    · exact h.named_ends (c := .subnets) (by simp [Catalog.all]) _ _ _
    · exact Ends.mapM fun record hrecord => fetchedOf_comes (hall record hrecord)

theorem chooseEffect_comes {v : View} {now : Float} {fetched : List (Key × Subnet)}
    {known : Named Stored} (hfetched : ∀ p ∈ fetched, text p.2.id)
    (hknown : ∀ id value, known.lookup id = some value → ∃ subnet, value = .subnet subnet ∧ text subnet.id)
    (ids : List String) {admitted : List Subnet} (hadmitted : ∀ x ∈ admitted, text x.id) :
    Comes (∀ x ∈ ·, text x.id) (chooseEffect v now fetched known ids admitted).answer := by
  have hadded {subnet : Subnet} (hid : text subnet.id) {admitted : List Subnet}
      (h : ∀ x ∈ admitted, text x.id) : ∀ x ∈ admitted ++ [subnet], text x.id := by
    simpa [or_imp, forall_and] using ⟨h, hid⟩
  -- The admitted ones keep texts for their ids, whether the next one was fetched or known.
  induction ids generalizing admitted with
  | nil => exact hadmitted
  | cons id ids ih =>
    unfold chooseEffect
    cases hlast : lastFetched fetched id with
    | some subnet =>
      have hid := hfetched _ (mem_of_lastFetched hlast)
      by_cases husable : subnet.usable admitted = true
      · simp only [husable, if_true, Effect.answer_andThen]
        exact ih (hadded hid hadmitted)
      · simp only [husable, if_false, Bool.false_eq_true]
        exact ih hadmitted
    | none =>
      cases hlookup : known.lookup id with
      | some stored =>
        obtain ⟨subnet, rfl, hid⟩ := hknown id stored hlookup
        simp only [Effect.answer_andThen]
        refine ih ?_
        split
        · exact hadded hid hadmitted
        · exact hadmitted
      | none => exact ih hadmitted

theorem sorted_comes {vs : List Json} (h : ∀ v ∈ vs, text v) : Comes (fun _ => True) (Json.sorted vs) := by
  have htexts : ∃ texts : List String, vs = texts.map .str := by
    induction vs with
    | nil => exact ⟨[], rfl⟩
    | cons v vs ih =>
      obtain ⟨text, rfl⟩ := h v List.mem_cons_self
      obtain ⟨texts, rfl⟩ := ih fun w hw => h w (List.mem_cons_of_mem _ hw)
      exact ⟨text :: texts, rfl⟩
  obtain ⟨texts, rfl⟩ := htexts
  rw [Json.sorted_map_str]
  trivial

theorem finished_comes (s : Settings) (scheme : Scheme) {admitted : List Subnet}
    (h : ∀ x ∈ admitted, text x.id) : Comes (fun _ => True) (finished s scheme admitted) := by
  have hids : ∀ v ∈ admitted.map (·.id), text v := by simpa using h
  refine (sorted_comes hids).bind fun found _ => ?_
  split
  · exact rfl
  · trivial

theorem Scheme.ofJson_comes {scheme : Json} (h : text scheme) :
    Comes (fun _ => True) (Scheme.ofJson scheme) := by
  obtain ⟨name, rfl⟩ := h
  unfold Scheme.ofJson
  split <;> trivial

theorem clusterIndex_comes (cluster : String) (h : r.Documented) :
    Comes (fun _ => True) ((clusterIndex cluster).answer r) := by
  have hlisted := h.named_ends (c := .mappings) (by simp [Catalog.all])
    (.str "resourcegroupstaggingapi") (.str "get_resources") (clusterParams cluster)
  unfold Work.answer clusterIndex
  refine Comes.bind_run (P := (∀ x ∈ ·, Mapping.kind x)) ?_ fun records t hall => ?_
  · rw [Work.listAll_run _ _ _ _ rfl]
    exact hlisted
  · refine Comes.bind_run (Comes.check_run (P := fun _ => True) ?_ _) fun _ _ _ => trivial
    exact (Ends.mapM fun x hx => Mapping.ofJson_ends (hall x hx)).mono (fun _ _ => trivial) fun _ he => he

theorem clusterEffect_comes (s : Settings) {scheme : Json} (hscheme : text scheme) {seen : Sight}
    (h : seen.remote.Documented)
    (hlive : ∀ id value, seen.live ((clusterSubnetsById s).slot (.text id)) = some value →
      ∃ subnet, value = .subnet subnet ∧ text subnet.id) :
    Comes (fun _ => True) (clusterEffect s scheme seen).answer := by
  refine Comes.andThen (Scheme.ofJson_comes hscheme) fun asked _ => ?_
  refine Comes.andThen (clusterIndex_comes s.clusterName h) fun index _ => ?_
  refine Comes.andThen (fetchEffect_comes _ h) fun fetched hfetched => ?_
  refine Comes.andThen (chooseEffect_comes hfetched (fun id value hvalue => ?_) _ (by simp))
    fun admitted hadmitted => finished_comes s asked hadmitted
  rw [lookup_liveSnapshots] at hvalue
  split at hvalue
  · exact hlive id value hvalue
  · cases hvalue

end Lookup

end NetLookup
