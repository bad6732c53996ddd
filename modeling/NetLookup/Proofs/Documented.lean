import NetLookup.Proofs.Ends
import NetLookup.Proofs.Lookup.Asked

/-! # A remote side that keeps to its documents

Its answers are made of records whose fields, where they are not missing, have the documented kinds, and
its failures are those that the cloud interface and the metadata service are documented to have. -/

namespace NetLookup

/-! ## Kinds of values -/

abbrev Kind := Json → Prop

namespace Kind

def text : Kind := fun v => ∃ s, v = .str s

def whole : Kind := fun v => ∃ n, v = .num n

def flag : Kind := fun v => ∃ b, v = .bool b

def orNull (k : Kind) : Kind := fun v => v = .null ∨ k v

def list (k : Kind) : Kind := fun v => ∃ items, v = .arr items ∧ ∀ x ∈ items, k x

/-- An object. Any of the fields may be missing, and there may be others. -/
def record (fields : List (String × Kind)) : Kind := fun v =>
  ∃ present, v = .obj present ∧ ∀ f ∈ fields, ∀ x, present.lookup f.1 = some x → f.2 x

/-! ### Reading -/

variable {k : Kind} {v : Json} {fields : List (String × Kind)} {name : String} {R : Failure → Prop}

theorem list.elements (h : (list k) v) : Ends (∀ x ∈ ·, k x) R v.elements := by
  obtain ⟨items, rfl, hitems⟩ := h
  exact hitems

theorem record.fieldD (h : (record fields) v) (hfield : (name, k) ∈ fields) {default : Json}
    (hdefault : k default) : Ends k R (v.fieldD name default) := by
  obtain ⟨present, rfl, hpresent⟩ := h
  cases hlookup : present.lookup name with
  | none => simpa [Ends, hlookup] using hdefault
  | some x => simpa [Ends, hlookup] using hpresent _ hfield x hlookup

theorem record.fieldOrEmpty (h : (record fields) v) (hfield : (name, text) ∈ fields) :
    Ends text R (v.fieldOrEmpty name) :=
  h.fieldD hfield ⟨"", rfl⟩

end Kind

/-! ## Kinds of records -/

open Kind

def Tags.pair : Kind := record [("Key", text), ("Value", text)]

def Tags.kind : Kind := orNull (list Tags.pair)

def Subnet.kind : Kind :=
  record [("SubnetId", text), ("AvailabilityZone", text), ("VpcId", text), ("CidrBlock", text),
    ("Tags", Tags.kind)]

def SecurityGroup.kind : Kind :=
  record [("GroupId", text), ("GroupName", text), ("VpcId", text), ("Description", text),
    ("Tags", Tags.kind)]

def Vpc.kind : Kind :=
  record [("VpcId", text), ("CidrBlock", text), ("State", text), ("IsDefault", flag),
    ("Tags", Tags.kind)]

def Instance.state : Kind := record [("Code", whole), ("Name", text)]

def Instance.placement : Kind := record [("AvailabilityZone", text)]

def Instance.kind : Kind :=
  record [("InstanceId", text), ("VpcId", orNull text), ("State", Instance.state), ("SubnetId", text),
    ("Placement", Instance.placement), ("Tags", Tags.kind)]

def Instance.reservation : Kind := record [("Instances", list Instance.kind)]

def InstanceStatus.kind : Kind := record [("InstanceId", text), ("InstanceState", Instance.state)]

def Mapping.kind : Kind := record [("ResourceARN", text), ("Tags", list Tags.pair)]

/-! ## Records are read without a failure -/

section Records

variable {R : Failure → Prop} {v : Json}

theorem Tags.pairOf_ends (h : Tags.pair v) : Ends (fun t => text t.2) R (Tags.pairOf v) := by
  refine (record.fieldOrEmpty h (by simp)).bind fun key _ => ?_
  exact (record.fieldOrEmpty h (by simp)).bind fun value hvalue => hvalue

def Tags.Texts (tags : Tags) : Prop := ∀ t ∈ tags, text t.2

theorem Tags.ofJson_ends (h : Tags.kind v) : Ends Tags.Texts R (Tags.ofJson v) := by
  rcases h with rfl | h
  · exact fun t ht => by cases ht
  · unfold Tags.ofJson
    split
    · exact (list.elements h).bind fun items hitems => .mapM fun x hx => Tags.pairOf_ends (hitems x hx)
    · exact fun t ht => by cases ht

theorem Tags.name?_text {tags : Tags} (h : tags.Texts) {name : Json} (hname : tags.name? = some name) :
    text name := by
  unfold Tags.name? Tags.value? at hname
  split at hname
  · cases hname
  · obtain ⟨t, ht, rfl⟩ := Option.map_eq_some_iff.1 hname
    exact h t (List.mem_of_find?_eq_some ht)

theorem Subnet.ofJson_ends (h : Subnet.kind v) :
    Ends (fun s => text s.id ∧ s.tags.Texts) R (Subnet.ofJson v) := by
  refine (record.fieldOrEmpty h (by simp)).bind fun id hid => ?_
  refine (record.fieldOrEmpty h (by simp)).bind fun zone _ => ?_
  refine (record.fieldOrEmpty h (by simp)).bind fun vpcId _ => ?_
  refine (record.fieldOrEmpty h (by simp)).bind fun cidrBlock _ => ?_
  refine (record.fieldD h (k := Tags.kind) (by simp) (Or.inl rfl)).bind fun raw hraw => ?_
  exact (Tags.ofJson_ends hraw).bind fun tags htags => ⟨hid, htags⟩

theorem SecurityGroup.ofJson_ends (h : SecurityGroup.kind v) :
    Ends (fun g => text g.id ∧ g.tags.Texts) R (SecurityGroup.ofJson v) := by
  refine (record.fieldOrEmpty h (by simp)).bind fun id hid => ?_
  refine (record.fieldOrEmpty h (by simp)).bind fun groupName _ => ?_
  refine (record.fieldOrEmpty h (by simp)).bind fun vpcId _ => ?_
  refine (record.fieldOrEmpty h (by simp)).bind fun description _ => ?_
  refine (record.fieldD h (k := Tags.kind) (by simp) (Or.inl rfl)).bind fun raw hraw => ?_
  exact (Tags.ofJson_ends hraw).bind fun tags htags => ⟨hid, htags⟩

theorem Vpc.ofJson_ends (h : Vpc.kind v) : Ends (fun _ => True) R (Vpc.ofJson v) := by
  refine (record.fieldOrEmpty h (by simp)).bind fun id _ => ?_
  refine (record.fieldOrEmpty h (by simp)).bind fun cidrBlock _ => ?_
  refine (record.fieldOrEmpty h (by simp)).bind fun state _ => ?_
  refine (record.fieldD h (k := flag) (by simp) ⟨false, rfl⟩).bind fun isDefault _ => ?_
  refine (record.fieldD h (k := Tags.kind) (by simp) (Or.inl rfl)).bind fun raw hraw => ?_
  exact (Tags.ofJson_ends hraw).bind fun _ _ => trivial

theorem Instance.no_state : Instance.state (.obj []) := ⟨[], rfl, by simp⟩

theorem Instance.ofJson_ends (h : Instance.kind v) : Ends (fun _ => True) R (Instance.ofJson v) := by
  refine (record.fieldD h (k := Instance.state) (by simp) Instance.no_state).bind fun state hstate => ?_
  refine (record.fieldOrEmpty h (by simp)).bind fun id _ => ?_
  refine (record.fieldD h (k := orNull text) (by simp) (Or.inl rfl)).bind fun vpcId _ => ?_
  refine (record.fieldD hstate (k := whole) (by simp) ⟨0, rfl⟩).bind fun stateCode _ => ?_
  refine (record.fieldOrEmpty hstate (by simp)).bind fun stateName _ => ?_
  refine (record.fieldOrEmpty h (by simp)).bind fun subnetId _ => ?_
  refine (record.fieldD h (k := Instance.placement) (by simp) ⟨[], rfl, by simp⟩).bind
    fun placement hplacement => ?_
  refine (record.fieldOrEmpty hplacement (by simp)).bind fun zone _ => ?_
  refine (record.fieldD h (k := Tags.kind) (by simp) (Or.inl rfl)).bind fun raw hraw => ?_
  exact (Tags.ofJson_ends hraw).bind fun _ _ => trivial

theorem InstanceStatus.ofJson_ends (h : InstanceStatus.kind v) :
    Ends (fun s => whole s.stateCode) R (InstanceStatus.ofJson v) := by
  refine (record.fieldD h (k := Instance.state) (by simp) Instance.no_state).bind fun state hstate => ?_
  refine (record.fieldOrEmpty h (by simp)).bind fun id _ => ?_
  refine (record.fieldD hstate (k := whole) (by simp) ⟨0, rfl⟩).bind fun stateCode hcode => ?_
  exact (record.fieldOrEmpty hstate (by simp)).bind fun stateName _ => hcode

theorem Mapping.ofJson_ends (h : Mapping.kind v) : Ends (fun _ => True) R (Mapping.ofJson v) := by
  refine (record.fieldOrEmpty h (by simp)).bind fun arn harn => ?_
  refine (record.fieldD h (k := list Tags.pair) (by simp) ⟨[], rfl, by simp⟩).bind fun raw hraw => ?_
  refine (list.elements hraw).bind fun items hitems => ?_
  refine (Ends.mapM fun x hx => Tags.pairOf_ends (hitems x hx)).bind fun tags _ => ?_
  obtain ⟨arn, rfl⟩ := harn
  trivial

end Records

/-! ## Failures -/

namespace Failure

/-- The failures that this library documents: each says what was asked for. -/
def isDocumented : Failure → Bool
  | validation _ _ _ _ | lookup _ _ _ _ | invariant _ _ _ _ | transport _ _ => true
  | _ => false

theorem named_remote {e : Failure} (h : e.isRemote = true) (service operation : Json) (params : Fields) :
    e.named service operation params = e.ofRequest service operation params :=
  if_pos h

/-- A failure of the cloud interface. Of an error answer the code may be missing or null, and else it is a
text. -/
inductive FromCloud : Failure → Prop where
  | unanswered (f : SdkFault) : FromCloud (.sdk f)
  | answered {error : ServiceError} (hcode : ∀ code, error.code = some code → orNull Kind.text code) :
    FromCloud (.service error)

namespace FromCloud

variable {e : Failure}

theorem isRemote (h : FromCloud e) : e.isRemote = true := by cases h <;> rfl

theorem codeReadable (h : FromCloud e) : e.codeReadable = true := by
  cases h with
  | unanswered f => rfl
  | @answered error hcode =>
    unfold Failure.codeReadable code
    cases hsome : error.code with
    | none => simp [hsome]
    | some code => rcases hcode code hsome with rfl | ⟨s, rfl⟩ <;> simp [hsome]

theorem named (h : FromCloud e) (service operation : Json) (params : Fields) :
    (e.named service operation params).isDocumented = true := by
  rw [named_remote h.isRemote]
  rfl

end FromCloud

end Failure

/-! ## The remote side -/

/-- A listing by the interface, its name, where its pages hold the records, and what these are like. -/
structure Catalog where
  api : Api
  operation : String
  key : String
  record : Kind

namespace Catalog

def subnets : Catalog := ⟨.ec2, "describe_subnets", "Subnets", Subnet.kind⟩

def groups : Catalog := ⟨.ec2, "describe_security_groups", "SecurityGroups", SecurityGroup.kind⟩

def vpcs : Catalog := ⟨.ec2, "describe_vpcs", "Vpcs", Vpc.kind⟩

def reservations : Catalog := ⟨.ec2, "describe_instances", "Reservations", Instance.reservation⟩

def statuses : Catalog :=
  ⟨.ec2, "describe_instance_status", "InstanceStatuses", InstanceStatus.kind⟩

def mappings : Catalog := ⟨.tagging, "get_resources", "ResourceTagMappingList", Mapping.kind⟩

def all : List Catalog := [subnets, groups, vpcs, reservations, statuses, mappings]

end Catalog

def Outage.failure : Outage → Failure
  | .beforeStart e | .atPage _ e => e

structure Remote.Documented (r : Remote) : Prop where
  pages : ∀ c ∈ Catalog.all, ∀ page ∈ r.pages c.api c.operation, record [(c.key, list c.record)] page
  outages : ∀ api operation outage, r.outage api operation = some outage → outage.failure.FromCloud
  deletions : ∀ n e, r.deletion n = some e → e.FromCloud
  tags : ∀ e, r.tagsFailure = some e → e.FromCloud
  token : ∀ e, r.token.noAnswer = some e → e.isHttp = true
  identity : ∀ e, r.identity.noAnswer = some e → e.isHttp = true
  document : ∀ d, r.identity.document = .ok d → ∃ fields, d = .obj fields

namespace Remote.Documented

variable {r : Remote}

theorem collect_ends {c : Catalog} {R : Failure → Prop} {pages : List Json}
    (h : ∀ page ∈ pages, record [(c.key, list c.record)] page) :
    Ends (∀ x ∈ ·, c.record x) R (Listing.collect c.key pages) := by
  have hpage : ∀ page ∈ pages, Ends (∀ x ∈ ·, c.record x) R (Listing.records c.key page) := by
    intro page hmem
    refine (record.fieldD (h page hmem) (k := list c.record) (by simp) ⟨[], rfl, by simp⟩).bind
      fun found hfound => list.elements hfound
  refine (Ends.mapM hpage).bind fun parts hparts => ?_
  intro x hx
  obtain ⟨part, hpart, hx⟩ := List.mem_flatten.1 hx
  exact hparts part hpart x hx

theorem listed_ends (h : r.Documented) {c : Catalog} (hc : c ∈ Catalog.all) :
    Ends (∀ x ∈ ·, c.record x) Failure.FromCloud (r.listed c.api c.operation c.key) := by
  have hpages := h.pages c hc
  have houtage := h.outages c.api c.operation
  unfold Remote.listed
  rcases ho : r.outage c.api c.operation with _ | e | ⟨n, e⟩
  · exact collect_ends hpages
  · exact houtage _ ho
  · refine (collect_ends fun page hpage => hpages page (List.mem_of_mem_take hpage)).bind fun _ _ => ?_
    exact houtage _ ho

end Remote.Documented

end NetLookup
