import NetLookup.Proofs.Session

/-! # What an operation may store

Every store of an operation keeps one answer of the remote side: the network of the host, a network, a
verdict, the id of a record with a name, or a fetched snapshot. -/

namespace NetLookup

/-! ## The two lookups by name -/

inductive NameLookup where
  | subnets
  | groups

namespace NameLookup

def call : NameLookup → List String → Operation
  | subnets => .subnets
  | groups => .securityGroups

def view (s : Settings) : NameLookup → View
  | subnets => Lookup.subnetIds s
  | groups => Lookup.groupIds s

def listing : NameLookup → String
  | subnets => "describe_subnets"
  | groups => "describe_security_groups"

def recordsKey : NameLookup → String
  | subnets => "Subnets"
  | groups => "SecurityGroups"

def read : NameLookup → Reader
  | subnets => Subnet.nameAndId
  | groups => SecurityGroup.nameAndId

/-- What a record without a name adds to the answer. -/
def unnamed : NameLookup → Json → List Json
  | subnets, _ => []
  | groups, id => [id]

def effect (n : NameLookup) (s : Settings) (names : List String) : Sight → Effect (List Json) :=
  (n.view s).byNameEffect s n.listing n.recordsKey n.read n.unnamed names

theorem effect?_call (n : NameLookup) (s : Settings) (names : List String) :
    (n.call names).effect? s
      = some fun seen => (n.effect s names seen).map fun ids => .value (.arr ids) := by
  cases n <;> rfl

end NameLookup

/-! ## Stores of each kind of effect -/

section Members

variable {β : Type} {s : Settings} {seen : Sight} {x : Cache.Store Stored}

theorem View.mem_stores_orAskEffect {v : View} {key : String} {use : Stored → β}
    {ask : Work (β × Option Stored)} (hx : x ∈ (v.orAskEffect key use ask seen).stores) :
    seen.live (v.slot (.text key)) = none ∧ ∃ a value,
      ask.answer seen.remote = .ok (a, some value) ∧ x = v.stamped seen.clock (.text key) value := by
  unfold orAskEffect at hx
  split at hx
  · cases hx
  · rename_i hlive
    obtain ⟨value, hvalue, rfl⟩ := List.mem_map.1 hx
    obtain ⟨a, ha⟩ := given_eq_some.1 (Option.mem_toList.1 hvalue)
    exact ⟨hlive, a, value, ha, rfl⟩

theorem Lookup.mem_stores_networkEffect (hx : x ∈ (networkEffect s seen).stores) :
    nonEmpty s.vpcId = none ∧ seen.live ((vpcIds s).slot (.text "")) = none ∧ ∃ id value,
      (askNetwork s).answer seen.remote = .ok (id, some value) ∧
        x = (vpcIds s).stamped seen.clock (.text "") value := by
  unfold networkEffect at hx
  split at hx
  · cases hx
  · rename_i hunset
    exact ⟨hunset, View.mem_stores_orAskEffect hx⟩

theorem NameLookup.mem_stores_effect {n : NameLookup} {names : List String}
    (hx : x ∈ (n.effect s names seen).stores) :
    x ∈ (Lookup.networkEffect s seen).stores ∨
      ∃ records p, seen.remote.listed .ec2 n.listing n.recordsKey = .ok records ∧
        p ∈ filed n.read records ∧ x = (n.view s).stamped seen.clock p.1 (.plain p.2) := by
  unfold effect View.byNameEffect at hx
  split at hx
  · cases hx
  rcases Effect.mem_stores_andThen hx with hx | ⟨network, -, hx⟩
  · exact Or.inl hx
  rcases Effect.mem_stores_andThen hx with hx | ⟨records, hlisted, hx⟩
  · cases hx
  · obtain ⟨p, hp, rfl⟩ := List.mem_map.1 hx
    exact Or.inr ⟨records, p, ok_of_mapError hlisted, hp, rfl⟩

end Members

/-! ## Stores of an operation -/

namespace Operation

def needsNetwork : Operation → Bool
  | .vpcId | .subnets _ | .securityGroups _ => true
  | _ => false

inductive Keeps (s : Settings) (seen : Sight) : Operation → Cache.Store Stored → Prop where
  | network {op : Operation} {id : Json} {value : Stored} (hop : op.needsNetwork = true)
    (hunset : nonEmpty s.vpcId = none)
    (hasked : (Lookup.askNetwork s).answer seen.remote = .ok (id, some value)) :
    Keeps s seen op ((Lookup.vpcIds s).stamped seen.clock (.text "") value)
  | vpc {id : String} {found value : Stored}
    (hasked : (Lookup.askVpc id).answer seen.remote = .ok (found, some value)) :
    Keeps s seen (.vpc id) ((Lookup.vpcs s).stamped seen.clock (.text id) value)
  | verdict {id : String} {verdict : Json} {value : Stored}
    (hasked : (Lookup.askHealth id).answer seen.remote = .ok (verdict, some value)) :
    Keeps s seen (.nodeHealthy id) ((Lookup.verdicts s).stamped seen.clock (.text id) value)
  | named {n : NameLookup} {names : List String} {records : List Json} {p : Key × Json}
    (hlisted : seen.remote.listed .ec2 n.listing n.recordsKey = .ok records)
    (hfiled : p ∈ filed n.read records) :
    Keeps s seen (n.call names) ((n.view s).stamped seen.clock p.1 (.plain p.2))
  | snapshot {scheme : Json} {fetched : List (Key × Subnet)} {id : String} {subnet : Subnet}
    (hfetched : Lookup.fetchedIn seen.remote = some fetched)
    (hlast : Lookup.lastFetched fetched id = some subnet) :
    Keeps s seen (.clusterSubnets scheme)
      ((Lookup.clusterSubnetsById s).stamped seen.clock (.text id) (.subnet subnet))

section Members

variable {s : Settings} {seen : Sight} {x : Cache.Store Stored}

theorem Keeps.of_network {op : Operation} (hop : op.needsNetwork = true)
    (hx : x ∈ (Lookup.networkEffect s seen).stores) : Keeps s seen op x := by
  obtain ⟨hunset, -, id, value, hasked, rfl⟩ := Lookup.mem_stores_networkEffect hx
  exact .network hop hunset hasked

theorem Keeps.of_byName {n : NameLookup} {names : List String}
    (hx : x ∈ (n.effect s names seen).stores) : Keeps s seen (n.call names) x := by
  rcases NameLookup.mem_stores_effect hx with hx | ⟨records, p, hlisted, hfiled, rfl⟩
  · exact .of_network (by cases n <;> rfl) hx
  · exact .named hlisted hfiled

theorem keeps_of_mem_stores {op : Operation} {E : Sight → Effect Answer}
    (h : op.effect? s = some E) (hx : x ∈ (E seen).stores) : Keeps s seen op x := by
  -- One case for each operation with an effect; the others have none.
  cases op with
  | subnets names =>
    obtain rfl := Option.some.inj h
    exact Keeps.of_byName (n := .subnets) hx
  | securityGroups names =>
    obtain rfl := Option.some.inj h
    exact Keeps.of_byName (n := .groups) hx
  | clusterSubnets scheme =>
    obtain rfl := Option.some.inj h
    obtain ⟨fetched, id, subnet, hfetched, hlast, rfl⟩ := Lookup.clusterEffect_stores hx
    exact .snapshot hfetched hlast
  | vpcId =>
    obtain rfl := Option.some.inj h
    exact .of_network rfl hx
  | vpc id =>
    obtain rfl := Option.some.inj h
    have hx : x ∈ ((Lookup.vpcs s).orAskEffect id (·) (Lookup.askVpc id) seen).stores := hx
    obtain ⟨-, found, value, hasked, rfl⟩ := View.mem_stores_orAskEffect hx
    exact .vpc hasked
  | nodeHealthy id =>
    obtain rfl := Option.some.inj h
    have hx : x ∈ ((Lookup.verdicts s).orAskEffect id Stored.toJson (Lookup.askHealth id) seen).stores :=
      hx
    obtain ⟨-, verdict, value, hasked, rfl⟩ := View.mem_stores_orAskEffect hx
    exact .verdict hasked
  | _ => cases h

end Members

end Operation

end NetLookup
