import NetLookup.Proofs.Session

/-! # What the answers of the remote side supply

An answer supplies values for the keys of later lookups. What it supplies is read off the listings that
were sent and what they came to, without a look at the cache. -/

namespace NetLookup

/-! ## Supplies -/

namespace Lookup

def networkTold (r : Remote) (events : List Event) : Option Stored :=
  (told r "describe_instances" "Reservations" events).bind fun reservations =>
    (networkOf (.arr reservations)).toOption.map .plain

def onlyVpc : List Json → Option Stored
  | [record] => (Vpc.ofJson record).toOption.map .vpc
  | _ => none

def vpcTold (r : Remote) (events : List Event) : Option Stored :=
  (told r "describe_vpcs" "Vpcs" events).bind onlyVpc

def verdictTold (id : String) (r : Remote) (events : List Event) : Option Stored :=
  (told r "describe_instance_status" "InstanceStatuses" events).bind fun records =>
    (verdictOf id records).toOption.join.map fun healthy => .plain (.bool healthy)

def namedTold (operation key : String) (read : Reader) (r : Remote) (events : List Event) :
    List (Key × Json) :=
  (told r operation key events).elim [] (filed read)

end Lookup

def View.supply (v : View) (now : Float) (key : String) (value : Option Stored) :
    List (Cache.Store Stored) :=
  value.toList.map (v.stamped now (.text key))

def View.supplyNamed (v : View) (now : Float) (found : List (Key × Json)) :
    List (Cache.Store Stored) :=
  found.map fun p => v.stamped now p.1 (.plain p.2)

namespace Operation

/-- What the answers to an operation supply, each with its deadline. -/
def supplies (s : Settings) (m : Moment) (events : List Event) : Operation → List (Cache.Store Stored)
  | .vpcId => (Lookup.vpcIds s).supply m.clock "" (Lookup.networkTold m.remote events)
  | .vpc id => (Lookup.vpcs s).supply m.clock id (Lookup.vpcTold m.remote events)
  | .nodeHealthy id => (Lookup.verdicts s).supply m.clock id (Lookup.verdictTold id m.remote events)
  | .subnets _ =>
    (Lookup.vpcIds s).supply m.clock "" (Lookup.networkTold m.remote events)
      ++ (Lookup.subnetIds s).supplyNamed m.clock
        (Lookup.namedTold "describe_subnets" "Subnets" Subnet.nameAndId m.remote events)
  | .securityGroups _ =>
    (Lookup.vpcIds s).supply m.clock "" (Lookup.networkTold m.remote events)
      ++ (Lookup.groupIds s).supplyNamed m.clock
        (Lookup.namedTold "describe_security_groups" "SecurityGroups" SecurityGroup.nameAndId m.remote
          events)
  | _ => []

end Operation

/-! ## What is stored is what is supplied -/

theorem given_judged {β : Type} (operation key : String) {params : Fields}
    (judge : List Json → Except Failure (β × Option Stored))
    (h : Listing.anySaid [Listing.ownName] params = false) (r : Remote) :
    View.given ((judged operation key params judge).answer r)
      = (told r operation key ((judged operation key params judge).events r)).bind
        fun records => View.given (judge records) := by
  unfold View.given
  rw [judged_told operation key judge h]
  cases told r operation key ((judged operation key params judge).events r) <;> rfl

namespace Lookup

theorem given_askNetwork (s : Settings) (r : Remote) :
    View.given ((askNetwork s).answer r) = networkTold r ((askNetwork s).events r) := by
  rw [askNetwork_answer, askNetwork_events]
  unfold networkTold
  rw [told_unsent_append (sent_requests _ _ r)]
  cases MetadataService.identityOf r with
  | error e => rfl
  | ok identity =>
    refine (given_judged _ _ networkGiven rfl r).trans (congrArg _ (funext fun reservations => ?_))
    unfold networkGiven
    cases networkOf (.arr reservations) <;> rfl

theorem given_askVpc (id : String) (r : Remote) :
    View.given ((askVpc id).answer r) = vpcTold r ((askVpc id).events r) := by
  refine (given_judged _ _ (vpcGiven id) rfl r).trans (congrArg _ (funext fun records => ?_))
  rcases records with _ | ⟨record, _ | ⟨second, records⟩⟩
  · rfl
  · simp only [vpcGiven, onlyVpc]
    cases Vpc.ofJson record <;> rfl
  · rfl

theorem given_askHealth (id : String) (r : Remote) :
    View.given ((askHealth id).answer r) = verdictTold id r ((askHealth id).events r) := by
  refine (given_judged _ _ (healthGiven id) rfl r).trans (congrArg _ (funext fun records => ?_))
  unfold healthGiven
  rcases verdictOf id records with e | _ | healthy <;> rfl

theorem orAskEffect_stores {β : Type} (v : View) (key : String) (use : Stored → β)
    {ask : Work (β × Option Stored)} {supplied : List Event → Option Stored} {seen : Sight}
    (hnil : supplied [] = none)
    (hask : View.given (ask.answer seen.remote) = supplied (ask.events seen.remote)) :
    (v.orAskEffect key use ask seen).stores
      = v.supply seen.clock key (supplied (v.orAskEffect key use ask seen).events) := by
  unfold View.orAskEffect
  cases seen.live (v.slot (.text key)) with
  | some found => simp [Effect.of, hnil, View.supply]
  | none => simp [View.askEffect, View.supply, hask]

theorem networkEffect_stores (s : Settings) (seen : Sight) :
    (networkEffect s seen).stores
      = (vpcIds s).supply seen.clock "" (networkTold seen.remote (networkEffect s seen).events) := by
  unfold networkEffect
  cases nonEmpty s.vpcId with
  | some id => rfl
  | none => exact orAskEffect_stores (vpcIds s) "" Stored.toJson rfl (given_askNetwork s seen.remote)

theorem sent_networkEffect {operation : String} (h : operation ≠ "describe_instances") (s : Settings)
    (seen : Sight) : sent operation (networkEffect s seen).events = false := by
  unfold networkEffect
  cases nonEmpty s.vpcId with
  | some id => rfl
  | none =>
    unfold View.orAskEffect
    cases seen.live ((vpcIds s).slot (.text "")) with
    | some found => rfl
    | none =>
      show sent operation ((askNetwork s).events seen.remote) = false
      rw [askNetwork_events, sent_append, sent_requests, Bool.false_or]
      cases MetadataService.identityOf seen.remote with
      | error e => rfl
      | ok identity =>
        refine (congrArg (sent operation) (judged_events _ _ networkGiven rfl seen.remote)).trans ?_
        rw [sent_firstPage]
        simp [Ne.symm h]

theorem namedTold_unsent {operation : String} {events : List Event}
    (h : sent operation events = false) (key : String) (read : Reader) (r : Remote) :
    namedTold operation key read r events = [] := by
  simp [namedTold, told, h]

theorem queryEffect_stores (v : View) (s : Settings) {operation : String} (key : String)
    (read : Reader) (unnamed : Json → List Json) (names : List String) (seen : Sight)
    (h : operation ≠ "describe_instances") :
    (v.queryEffect s operation key read unnamed names seen).stores
      = (vpcIds s).supply seen.clock "" (networkTold seen.remote
          (v.queryEffect s operation key read unnamed names seen).events)
        ++ v.supplyNamed seen.clock (namedTold operation key read seen.remote
          (v.queryEffect s operation key read unnamed names seen).events) := by
  have hnetwork := networkEffect_stores s seen
  have hunsent := sent_networkEffect h s seen
  unfold View.queryEffect
  cases hanswer : (networkEffect s seen).answer with
  | error e =>
    simp only [Effect.andThen, hanswer]
    rw [namedTold_unsent hunsent, hnetwork]
    simp [View.supplyNamed]
  | ok network =>
    -- Of the two listings each supplies values of its own kind only.
    have hinstances : sent "describe_instances"
        (firstPage seen.remote .ec2 operation (namedParams names network)) = false := by
      rw [sent_firstPage]
      simp [h]
    simp only [Effect.andThen, hanswer, describeEffect]
    cases hlisted : seen.remote.listed .ec2 operation key with
    | error e =>
      simp only [mapError_error, networkTold, namedTold]
      rw [told_append_unsent hinstances, told_unsent_append hunsent, told_firstPage, hlisted,
        List.append_nil, hnetwork]
      simp [View.supplyNamed, Except.toOption, networkTold]
    | ok records =>
      simp only [mapError_ok, networkTold, namedTold, View.fileEffect, List.append_nil]
      rw [told_append_unsent hinstances, told_unsent_append hunsent, told_firstPage, hlisted,
        hnetwork]
      rfl

theorem byNameEffect_stores (v : View) (s : Settings) {operation : String} (key : String)
    (read : Reader) (unnamed : Json → List Json) (names : List String) (seen : Sight)
    (h : operation ≠ "describe_instances") :
    (v.byNameEffect s operation key read unnamed names seen).stores
      = (vpcIds s).supply seen.clock "" (networkTold seen.remote
          (v.byNameEffect s operation key read unnamed names seen).events)
        ++ v.supplyNamed seen.clock (namedTold operation key read seen.remote
          (v.byNameEffect s operation key read unnamed names seen).events) := by
  unfold View.byNameEffect
  split
  · rfl
  · exact queryEffect_stores v s key read unnamed _ seen h

end Lookup

def Slot.keyed (slot : Slot) : Prop := slot.area ≠ "ClusterSubnets"

theorem Operation.storedTo_stores {s : Settings} {op : Operation} {E : Sight → Effect Answer}
    (h : op.effect? s = some E) (m : Moment) (live : Slot → Option Stored) {slot : Slot}
    (hslot : slot.keyed) :
    Cache.storedTo slot (E (m.sight live)).stores
      = Cache.storedTo slot (op.supplies s m (E (m.sight live)).events) := by
  cases op with
  | subnets names =>
    obtain rfl := Option.some.inj h
    exact congrArg _ (Lookup.byNameEffect_stores (Lookup.subnetIds s) s _ _ _ names _ (by simp))
  | clusterSubnets scheme =>
    obtain rfl := Option.some.inj h
    -- Snapshots are stored in an area of their own, which is left out here.
    refine Cache.storedTo_eq_nil fun x hx hxs => hslot ?_
    obtain ⟨fetched, id, subnet, -, -, rfl⟩ := Lookup.clusterEffect_stores hx
    rw [← hxs]
    rfl
  | securityGroups names =>
    obtain rfl := Option.some.inj h
    exact congrArg _ (Lookup.byNameEffect_stores (Lookup.groupIds s) s _ _ _ names _ (by simp))
  | vpcId =>
    obtain rfl := Option.some.inj h
    exact congrArg _ (Lookup.networkEffect_stores s _)
  | vpc id =>
    obtain rfl := Option.some.inj h
    exact congrArg _ (Lookup.orAskEffect_stores _ id _ rfl (Lookup.given_askVpc id _))
  | nodeHealthy id =>
    obtain rfl := Option.some.inj h
    exact congrArg _ (Lookup.orAskEffect_stores _ id _ rfl (Lookup.given_askHealth id _))
  | _ => cases h

theorem Operation.supplies_of_no_effect {s : Settings} {op : Operation} (h : op.effect? s = none)
    (m : Moment) (events : List Event) : op.supplies s m events = [] := by
  cases op with
  | subnets | clusterSubnets | securityGroups | vpcId | vpc | nodeHealthy => cases h
  | _ => rfl

/-! ## No supply is null -/

structure Remote.IdsPresent (r : Remote) : Prop where
  subnets : ∀ records, r.listed .ec2 "describe_subnets" "Subnets" = .ok records →
    ∀ record ∈ records, ∀ subnet, Subnet.ofJson record = .ok subnet → subnet.id ≠ .null
  groups : ∀ records, r.listed .ec2 "describe_security_groups" "SecurityGroups" = .ok records →
    ∀ record ∈ records, ∀ group, SecurityGroup.ofJson record = .ok group → group.id ≠ .null

namespace Lookup

theorem networkTold_present {r : Remote} {events : List Event} {value : Stored}
    (h : networkTold r events = some value) : value.isNull = false := by
  obtain ⟨reservations, -, hvalue⟩ := Option.bind_eq_some_iff.1 h
  obtain ⟨id, hid, rfl⟩ := Option.map_eq_some_iff.1 hvalue
  exact isNull_plain (networkOf_present (ok_of_toOption hid)).1

theorem vpcTold_present {r : Remote} {events : List Event} {value : Stored}
    (h : vpcTold r events = some value) : value.isNull = false := by
  obtain ⟨records, -, hvalue⟩ := Option.bind_eq_some_iff.1 h
  unfold onlyVpc at hvalue
  split at hvalue
  · obtain ⟨vpc, -, rfl⟩ := Option.map_eq_some_iff.1 hvalue
    rfl
  · cases hvalue

theorem verdictTold_present {id : String} {r : Remote} {events : List Event} {value : Stored}
    (h : verdictTold id r events = some value) : value.isNull = false := by
  obtain ⟨records, -, hvalue⟩ := Option.bind_eq_some_iff.1 h
  obtain ⟨healthy, -, rfl⟩ := Option.map_eq_some_iff.1 hvalue
  rfl

theorem supply_present {v : View} {now : Float} {key : String} {value : Option Stored}
    (h : ∀ x, value = some x → x.isNull = false) :
    ∀ x ∈ v.supply now key value, x.2.1.isNull = false := by
  intro x hx
  obtain ⟨y, hy, rfl⟩ := List.mem_map.1 hx
  exact h y (Option.mem_toList.1 hy)

theorem supplyNamed_present {v : View} {now : Float} {operation key : String} {read : Reader}
    {r : Remote} {events : List Event}
    (h : ∀ records, r.listed .ec2 operation key = .ok records →
      ∀ record ∈ records, ∀ name id, read record = .ok (name, id) → id ≠ .null) :
    ∀ x ∈ v.supplyNamed now (namedTold operation key read r events), x.2.1.isNull = false := by
  intro x hx
  obtain ⟨p, hp, rfl⟩ := List.mem_map.1 hx
  unfold namedTold told at hp
  split at hp
  · cases hlisted : r.listed .ec2 operation key with
    | error e => simp [hlisted, Except.toOption] at hp
    | ok records =>
      have hp : p ∈ filed read records := by simpa [hlisted, Except.toOption] using hp
      obtain ⟨record, hrecord, name, hread, -⟩ := mem_filed hp
      exact isNull_plain (h records hlisted record hrecord (some name) p.2 hread)
  · cases hp

end Lookup

theorem Operation.supplies_present {s : Settings} (op : Operation) {m : Moment}
    (h : m.remote.IdsPresent) (events : List Event) :
    ∀ x ∈ op.supplies s m events, x.2.1.isNull = false := by
  have hnetwork : ∀ x ∈ (Lookup.vpcIds s).supply m.clock "" (Lookup.networkTold m.remote events),
      x.2.1.isNull = false :=
    Lookup.supply_present fun x hx => Lookup.networkTold_present hx
  cases op with
  | vpcId => exact hnetwork
  | vpc id => exact Lookup.supply_present fun x hx => Lookup.vpcTold_present hx
  | nodeHealthy id => exact Lookup.supply_present fun x hx => Lookup.verdictTold_present hx
  | subnets names =>
    intro x hx
    rcases List.mem_append.1 hx with hx | hx
    · exact hnetwork x hx
    · refine Lookup.supplyNamed_present (fun records hrecords record hrecord name id hread => ?_) x hx
      obtain ⟨subnet, hsubnet, heq⟩ := ok_of_map hread
      obtain ⟨-, rfl⟩ := Prod.mk.inj heq
      exact h.subnets records hrecords record hrecord subnet hsubnet
  | securityGroups names =>
    intro x hx
    rcases List.mem_append.1 hx with hx | hx
    · exact hnetwork x hx
    · refine Lookup.supplyNamed_present (fun records hrecords record hrecord name id hread => ?_) x hx
      obtain ⟨group, hgroup, heq⟩ := ok_of_map hread
      obtain ⟨-, rfl⟩ := Prod.mk.inj heq
      exact h.groups records hrecords record hrecord group hgroup
  | _ => exact fun x hx => by cases hx

end NetLookup
