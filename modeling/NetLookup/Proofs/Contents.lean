import NetLookup.Proofs.Stores

/-! # What the cache can hold

The areas of the cache are not typed, and all operations share them. Still every entry is of the kind that
the reads of its area expect. -/

namespace NetLookup

/-! ## Forms of entries -/

inductive Form (s : Settings) : Slot → Stored → Prop where
  /-- There is one network of our own at most. Nothing is looked up that is set. -/
  | network {id : Json} (hunset : nonEmpty s.vpcId = none) (hid : id ≠ .null ∧ id ≠ .str "") :
    Form s ((Lookup.vpcIds s).slot (.text "")) (.plain id)
  | vpc (key : Key) (v : Vpc) : Form s ((Lookup.vpcs s).slot key) (.vpc v)
  | verdict (key : Key) (healthy : Bool) :
    Form s ((Lookup.verdicts s).slot key) (.plain (.bool healthy))
  | named (n : NameLookup) (key : Key) (id : Json) : Form s ((n.view s).slot key) (.plain id)
  /-- A snapshot is under its own id. -/
  | snapshot {id : String} {subnet : Subnet} (hid : subnet.id = .str id) :
    Form s ((Lookup.clusterSubnetsById s).slot (.text id)) (.subnet subnet)

namespace Form

variable {s : Settings} {slot : Slot} {value : Stored}

theorem area_mem (h : Form s slot value) : slot.area ∈ ["EC2.GetSubnets", "EC2.GetSecurityGroups",
    "EC2.GetVPCID", "EC2.GetVPC", "EC2.IsNodeHealthy", "ClusterSubnets"] := by
  cases h with
  | named n => cases n <;> simp [View.slot, NameLookup.view]
  | _ => simp [View.slot]

theorem of_network (h : Form s slot value) (harea : slot.area = "EC2.GetVPCID") :
    nonEmpty s.vpcId = none ∧ slot.key = .text "" ∧
      ∃ id, value = .plain id ∧ id ≠ .null ∧ id ≠ .str "" := by
  cases h with
  | @network id hunset hid => exact ⟨hunset, rfl, id, rfl, hid⟩
  | named n => cases n <;> simp [View.slot, NameLookup.view] at harea
  | _ => simp [View.slot] at harea

theorem of_vpc (h : Form s slot value) (harea : slot.area = "EC2.GetVPC") :
    ∃ v, value = .vpc v := by
  cases h with
  | vpc key v => exact ⟨v, rfl⟩
  | named n => cases n <;> simp [View.slot, NameLookup.view] at harea
  | _ => simp [View.slot] at harea

theorem of_verdict (h : Form s slot value) (harea : slot.area = "EC2.IsNodeHealthy") :
    ∃ healthy, value = .plain (.bool healthy) := by
  cases h with
  | verdict key healthy => exact ⟨healthy, rfl⟩
  | named n => cases n <;> simp [View.slot, NameLookup.view] at harea
  | _ => simp [View.slot] at harea

theorem of_snapshot (h : Form s slot value) (harea : slot.area = "ClusterSubnets") :
    ∃ id subnet, slot.key = .text id ∧ value = .subnet subnet ∧ subnet.id = .str id := by
  cases h with
  | @snapshot id subnet hid => exact ⟨id, subnet, rfl, rfl, hid⟩
  | named n => cases n <;> simp [View.slot, NameLookup.view] at harea
  | _ => simp [View.slot] at harea

end Form

/-! ## Snapshots by their ids -/

namespace Lookup

theorem fetchedOf_key {record : Json} {key : Key} {subnet : Subnet}
    (h : fetchedOf record = .ok (key, subnet)) : Key.ofJson subnet.id = .ok key := by
  obtain ⟨found, -, h⟩ := ok_of_bind h
  obtain ⟨key, hkey, heq⟩ := ok_of_bind h
  cases heq
  exact hkey

theorem mem_of_lastFetched {fetched : List (Key × Subnet)} {id : String} {subnet : Subnet}
    (h : lastFetched fetched id = some subnet) : (.text id, subnet) ∈ fetched := by
  unfold lastFetched at h
  obtain ⟨before, after, heq, -⟩ := List.lookup_eq_some_iff.1 h
  rw [← List.mem_reverse, heq]
  simp

theorem id_of_lastFetched {r : Remote} {fetched : List (Key × Subnet)} {id : String} {subnet : Subnet}
    (hfetched : fetchedIn r = some fetched) (hlast : lastFetched fetched id = some subnet) :
    subnet.id = .str id := by
  obtain ⟨records, -, hrecords⟩ := Option.bind_eq_some_iff.1 hfetched
  have hall := ok_of_toOption hrecords
  obtain ⟨record, -, hrecord⟩ := exists_of_mem_mapM hall (mem_of_lastFetched hlast)
  exact Key.ofJson_eq_text.1 (fetchedOf_key hrecord)

end Lookup

/-! ## Sessions -/

theorem Operation.Keeps.form {s : Settings} {seen : Sight} {op : Operation} {x : Cache.Store Stored}
    (h : op.Keeps s seen x) : Form s x.1 x.2.1 := by
  cases h with
  | network _ hunset hasked =>
    obtain ⟨heq, hid⟩ := Lookup.askNetwork_given hasked
    cases heq
    exact .network hunset hid
  | vpc hasked =>
    obtain ⟨-, v, rfl⟩ := Lookup.askVpc_given hasked
    exact .vpc _ v
  | verdict hasked =>
    obtain ⟨-, healthy, rfl⟩ := Lookup.askHealth_given hasked
    exact .verdict _ healthy
  | named => exact .named _ _ _
  | snapshot hfetched hlast => exact .snapshot (Lookup.id_of_lastFetched hfetched hlast)

def Formed (s : Settings) (cache : Cache Stored) : Prop := ∀ e ∈ cache.entries, Form s e.slot e.value

namespace Formed

variable {s : Settings} {cache : Cache Stored}

theorem of_empty (s : Settings) : Formed s .empty := fun _ he => by cases he

/-- Whatever an operation meets, what it stores has the form of its area, also if it fails later. -/
theorem step (h : Formed s cache) (step : Step) : Formed s (step.cacheAfter s cache) := by
  cases step with
  | call op m =>
    obtain ⟨stores, hused, hstores⟩ := Step.cacheAfter_call s cache op m
    refine hused.entries h fun x hx => ?_
    obtain ⟨E, hE, hmem⟩ := hstores x hx
    exact (Operation.keeps_of_mem_stores hE hmem).form
  | purge now => exact fun e he => h e (List.mem_of_mem_filter he)

theorem run (h : Formed s cache) (steps : List Step) :
    Formed s (steps.foldl (Step.cacheAfter s) cache) := by
  induction steps generalizing cache with
  | nil => exact h
  | cons step steps ih => exact ih (h.step step)

theorem live_snapshot (h : Formed s cache) {m : Moment} {id : String} {value : Stored}
    (hlive : (m.state cache).live ((Lookup.clusterSubnetsById s).slot (.text id)) = some value) :
    ∃ subnet, value = .subnet subnet ∧ subnet.id = .str id := by
  obtain ⟨e, he, hslot, rfl⟩ := State.exists_entry_of_live hlive
  obtain ⟨key, subnet, hkey, hvalue, hid⟩ := (h e he).of_snapshot (by rw [hslot]; rfl)
  rw [hslot] at hkey
  cases hkey
  exact ⟨subnet, hvalue, hid⟩

end Formed

structure WellKept (s : Settings) (cache : Cache Stored) : Prop where
  areas : ∀ e ∈ cache.entries, e.slot.area ∈ ["EC2.GetSubnets", "EC2.GetSecurityGroups",
    "EC2.GetVPCID", "EC2.GetVPC", "EC2.IsNodeHealthy", "ClusterSubnets"]
  snapshots : ∀ e ∈ cache.entries, e.slot.area = "ClusterSubnets" →
    ∃ id subnet, e.slot.key = .text id ∧ e.value = .subnet subnet ∧ subnet.id = .str id
  network : ∀ e ∈ cache.entries, e.slot.area = "EC2.GetVPCID" →
    e.slot.key = .text "" ∧ ∃ id, e.value = .plain id ∧ id ≠ .null ∧ id ≠ .str ""
  vpcs : ∀ e ∈ cache.entries, e.slot.area = "EC2.GetVPC" → ∃ v, e.value = .vpc v
  verdicts : ∀ e ∈ cache.entries, e.slot.area = "EC2.IsNodeHealthy" →
    ∃ healthy, e.value = .plain (.bool healthy)
  unset : nonEmpty s.vpcId ≠ none → ∀ e ∈ cache.entries, e.slot.area ≠ "EC2.GetVPCID"

/-- After any session, whatever its operations met and however they ended, every area holds what its reads
rely on. -/
theorem sessionCache_wellKept (s : Settings) (steps : List Step) :
    WellKept s (sessionCache s steps) := by
  have hformed := (Formed.of_empty s).run steps
  exact {
    areas := fun e he => (hformed e he).area_mem
    snapshots := fun e he => (hformed e he).of_snapshot
    network := fun e he harea => ((hformed e he).of_network harea).2
    vpcs := fun e he => (hformed e he).of_vpc
    verdicts := fun e he => (hformed e he).of_verdict
    unset := fun hset e he harea => hset ((hformed e he).of_network harea).1 }

def oneSubnet : Remote where
  pages
    | .tagging, _ => [.obj [("ResourceTagMappingList", .arr [.obj
        [("ResourceARN", .str "arn:aws:ec2:r:a:subnet/s1"),
          ("Tags", .arr [.obj [("Key", .str Lookup.Scheme.internal.roleTag)]])]])]]
    | .ec2, _ => [.obj [("Subnets", .arr [.obj [("SubnetId", .str "s1")]])]]
  outage _ _ := none
  deletion _ := none
  tagsFailure := none
  token := ⟨none, none, "", .ok .null⟩
  identity := ⟨none, none, "", .ok .null⟩

/-- A session whose only operation fails: one subnet is too few. -/
def tooFew : List Step := [.call (.clusterSubnets (.str "internal")) ⟨oneSubnet, 0, fun _ => 0⟩]

/-- The failed operation has left a snapshot under the id that it has. -/
theorem sessionCache_wellKept_tooFew :
    ((Operation.clusterSubnets (.str "internal")).outcome {} ⟨oneSubnet, 0, fun _ => 0⟩
        .empty).1.toOption.isNone = true ∧
      ∃ e ∈ (sessionCache {} tooFew).entries, e.slot = ⟨"ClusterSubnets", .text "s1"⟩ ∧
        ∃ subnet, e.value = .subnet subnet ∧ subnet.id = .str "s1" := by
  have hslots : (sessionCache {} tooFew).entries.map (·.slot) = [⟨"ClusterSubnets", .text "s1"⟩] := by
    decide +kernel
  have hmem : ⟨"ClusterSubnets", .text "s1"⟩ ∈ (sessionCache {} tooFew).entries.map (·.slot) :=
    hslots ▸ List.mem_singleton_self _
  obtain ⟨e, he, hslot⟩ := List.exists_of_mem_map hmem
  refine ⟨by decide +kernel, e, he, hslot, ?_⟩
  obtain ⟨id, subnet, hid, hvalue, hsubnet⟩ :=
    (sessionCache_wellKept {} tooFew).snapshots e he (by rw [hslot])
  rw [hslot] at hid
  cases hid
  exact ⟨subnet, hvalue, hsubnet⟩

end NetLookup
