import NetLookup.Proofs.Lookup.Single

/-! # Lookups of resources by name

All names without a live value are asked for in one request, and every record of the answer that has a
name is filed under it. -/

namespace NetLookup

/-! ## Reading -/

namespace View

variable {γ : Type}

/-- The live values of names, each in a form that may hold the name. -/
def liveWith (v : View) (form : String → Stored → γ) (live : Slot → Option Stored)
    (names : List String) : List γ :=
  names.filterMap fun name => (live (v.slot (.text name))).map (form name)

def liveValues (v : View) : (Slot → Option Stored) → List String → List Json :=
  v.liveWith fun _ => Stored.toJson

def notLive (v : View) (live : Slot → Option Stored) (names : List String) : List String :=
  names.filter fun name => (live (v.slot (.text name))).isNone

def sift (form : String → Stored → γ) (name : String) (found : Option Stored)
    (rest : List γ × List String) : List γ × List String :=
  match found with
  | some value => (form name value :: rest.1, rest.2)
  | none => (rest.1, name :: rest.2)

def readWith (v : View) (form : String → Stored → γ) : List String → Work (List γ × List String)
  | [] => return ([], [])
  | name :: names => do
    let found ← v.read name
    let rest ← readWith v form names
    return sift form name found rest

theorem sift_live (v : View) (form : String → Stored → γ) (live : Slot → Option Stored)
    (name : String) (names : List String) :
    sift form name (live (v.slot (.text name))) (v.liveWith form live names, v.notLive live names)
      = (v.liveWith form live (name :: names), v.notLive live (name :: names)) := by
  unfold sift liveWith notLive
  cases hlive : live (v.slot (.text name)) <;> simp [hlive]

theorem readWith_does (v : View) (form : String → Stored → γ) (names : List String) :
    (v.readWith form names).Does fun seen =>
      .of (.ok (v.liveWith form seen.live names, v.notLive seen.live names)) := by
  induction names with
  | nil => exact Work.pure_does ([], [])
  | cons name names ih =>
    have hdoes := (Work.read_does v name).bind (fun _ => rfl) fun found => ih.map (sift form name found)
    simp only [Effect.of_andThen, Effect.map_of_ok, sift_live] at hdoes
    exact hdoes

theorem readAll_eq (v : View) (names : List String) :
    v.readAll names = v.readWith (fun _ => Stored.toJson) names := by
  induction names with
  | nil => rfl
  | cons name names ih =>
    unfold readAll readWith
    rw [ih]
    refine bind_congr fun found => bind_congr fun rest => ?_
    cases found with
    | some value => rfl
    | none => rfl

theorem readAll_does (v : View) (names : List String) :
    (v.readAll names).Does fun seen =>
      .of (.ok (v.liveValues seen.live names, v.notLive seen.live names)) := by
  rw [readAll_eq]
  exact v.readWith_does _ names

end View

/-! ## Filing -/

/-- The name and the id of a record. -/
abbrev Reader := Json → Except Failure (Option Json × Json)

def Subnet.nameAndId : Reader := fun record => (ofJson record).map fun s => (s.name?, s.id)

def SecurityGroup.nameAndId : Reader := fun record => (ofJson record).map fun g => (g.name?, g.id)

/-- What is filed of records, up to the first one that cannot be read or filed. -/
def filed (read : Reader) : List Json → List (Key × Json)
  | [] => []
  | record :: records =>
    match read record with
    | .error _ => []
    | .ok (none, _) => filed read records
    | .ok (some name, id) =>
      match Key.ofJson name with
      | .error _ => []
      | .ok key => (key, id) :: filed read records

theorem mem_filed {read : Reader} {records : List Json} {p : Key × Json}
    (h : p ∈ filed read records) : ∃ record ∈ records, ∃ name,
      read record = .ok (some name, p.2) ∧ Key.ofJson name = .ok p.1 := by
  induction records with
  | nil => cases h
  | cons record records ih =>
    unfold filed at h
    have hlater (h : p ∈ filed read records) : ∃ other ∈ record :: records, ∃ name,
        read other = .ok (some name, p.2) ∧ Key.ofJson name = .ok p.1 := by
      obtain ⟨other, hother, hname⟩ := ih h
      exact ⟨other, List.mem_cons_of_mem record hother, hname⟩
    -- A record that cannot be read ends the pass, and one without a name is passed over.
    split at h
    · cases h
    · exact hlater h
    · rename_i name id hread
      split at h
      · cases h
      · rename_i key hkey
        rcases List.mem_cons.1 h with rfl | h
        · exact ⟨record, List.mem_cons_self, name, hread, hkey⟩
        · exact hlater h

def filedIds (read : Reader) (unnamed : Json → List Json) : List Json → Except Failure (List Json)
  | [] => .ok []
  | record :: records =>
    match read record with
    | .error e => .error e
    | .ok (none, id) => (filedIds read unnamed records).map (unnamed id ++ ·)
    | .ok (some name, id) =>
      match Key.ofJson name with
      | .error e => .error e
      | .ok _ => (filedIds read unnamed records).map (id :: ·)

namespace View

def fileAll (v : View) (read : Reader) (unnamed : Json → List Json) : List Json → Work (List Json)
  | [] => return []
  | record :: records => do
    let (name, id) ← Work.check (read record)
    match name with
    | none => return unnamed id ++ (← fileAll v read unnamed records)
    | some name =>
      v.remember name id
      return id :: (← fileAll v read unnamed records)

def fileEffect (v : View) (read : Reader) (unnamed : Json → List Json) (records : List Json)
    (seen : Sight) : Effect (List Json) :=
  ⟨filedIds read unnamed records, [],
    (filed read records).map fun p => v.stamped seen.clock p.1 (.plain p.2)⟩

theorem remember_does (v : View) (name id : Json) :
    (v.remember name id).Does fun seen => match Key.ofJson name with
      | .error e => .of (.error e)
      | .ok key => ⟨.ok (), [], [v.stamped seen.clock key (.plain id)]⟩ := by
  unfold remember
  cases Key.ofJson name with
  | error e => exact Work.throw_does e
  | ok key => exact Work.write_does v key (.plain id) name

theorem fileAll_does (v : View) (read : Reader) (unnamed : Json → List Json) (records : List Json) :
    (v.fileAll read unnamed records).Does (v.fileEffect read unnamed records) := by
  induction records with
  | nil => exact Work.pure_does []
  | cons record records ih =>
    unfold fileAll fileEffect filedIds filed
    rcases read record with e | ⟨_ | name, id⟩
    · exact Work.throw_does e
    · exact ih.map (unnamed id ++ ·)
    · have hdoes := (v.remember_does name id).bind_blind (fun _ => ih.map (id :: ·)) fun _ _ _ => rfl
      cases hkey : Key.ofJson name with
      | error e =>
        simp only [hkey, Effect.of_andThen] at hdoes ⊢
        exact hdoes
      | ok key =>
        simp only [hkey] at hdoes ⊢
        exact hdoes

end View

/-! ## One request -/

def describeEffect (operation key : String) (params : Fields) (r : Remote) : Effect (List Json) :=
  ⟨(r.listed .ec2 operation key).mapError (·.named mainService (.str operation) params),
    firstPage r .ec2 operation params, []⟩

theorem describe_does (operation key : String) {params : Fields}
    (h : Listing.anySaid [Listing.ownName] params = false) :
    (describeAll operation key params).Does fun seen =>
      describeEffect operation key params seen.remote := by
  obtain ⟨huncached, hanswer, hevents⟩ := Work.listAll_asks .ec2 mainService operation key h
  have hdoes := huncached.does
  rw [hanswer, hevents] at hdoes
  exact hdoes

namespace View

def query (v : View) (s : Settings) (operation key : String) (read : Reader)
    (unnamed : Json → List Json) (names : List String) : Work (List Json) := do
  let network ← Lookup.vpcId s
  let records ← describeAll operation key (Lookup.namedParams names network)
  v.fileAll read unnamed records

def byName (v : View) (s : Settings) (operation key : String) (read : Reader)
    (unnamed : Json → List Json) (names : List String) : Work (List Json) := do
  let (found, missing) ← v.readAll names
  if missing.isEmpty then return found
  return found ++ (← v.query s operation key read unnamed missing)

def queryEffect (v : View) (s : Settings) (operation key : String) (read : Reader)
    (unnamed : Json → List Json) (names : List String) (seen : Sight) : Effect (List Json) :=
  (Lookup.networkEffect s seen).andThen fun network =>
    (describeEffect operation key (Lookup.namedParams names network) seen.remote).andThen
      fun records => v.fileEffect read unnamed records seen

def byNameEffect (v : View) (s : Settings) (operation key : String) (read : Reader)
    (unnamed : Json → List Json) (names : List String) (seen : Sight) : Effect (List Json) :=
  if (v.notLive seen.live names).isEmpty then .of (.ok (v.liveValues seen.live names))
  else (v.queryEffect s operation key read unnamed (v.notLive seen.live names) seen).map
    (v.liveValues seen.live names ++ ·)

theorem query_does (v : View) (s : Settings) (operation key : String) (read : Reader)
    (unnamed : Json → List Json) (names : List String) :
    (v.query s operation key read unnamed names).Does
      (v.queryEffect s operation key read unnamed names) := by
  have hlisting (network : Json) : Work.Does
      (describeAll operation key (Lookup.namedParams names network) >>= v.fileAll read unnamed)
      fun seen => (describeEffect operation key (Lookup.namedParams names network)
        seen.remote).andThen fun records => v.fileEffect read unnamed records seen := by
    exact (describe_does operation key rfl).bind (fun _ => rfl) (v.fileAll_does read unnamed)
  exact (Lookup.vpcId_does s).bind_blind hlisting fun _ _ _ => rfl

theorem byName_does (v : View) (s : Settings) (operation key : String) (read : Reader)
    (unnamed : Json → List Json) (names : List String) :
    (v.byName s operation key read unnamed names).Does
      (v.byNameEffect s operation key read unnamed names) := by
  have hrest (split : List Json × List String) : Work.Does (do
      if split.2.isEmpty then return split.1
      return split.1 ++ (← v.query s operation key read unnamed split.2)) fun seen =>
        if split.2.isEmpty then .of (.ok split.1)
        else (v.queryEffect s operation key read unnamed split.2 seen).map (split.1 ++ ·) := by
    by_cases hnone : split.2.isEmpty = true
    · simp only [hnone, if_true]
      exact Work.pure_does split.1
    · simp only [hnone, if_false, Bool.false_eq_true]
      exact (v.query_does s operation key read unnamed split.2).map (split.1 ++ ·)
  have hdoes := (v.readAll_does names).bind (fun _ => rfl) hrest
  simp only [Effect.of_andThen] at hdoes
  exact hdoes

end View

namespace Lookup

/-! ## Subnets and groups -/

theorem rememberSubnets_eq (v : View) (records : List Json) :
    rememberSubnets v records = v.fileAll Subnet.nameAndId (fun _ => []) records := by
  induction records with
  | nil => rfl
  | cons record records ih =>
    unfold rememberSubnets View.fileAll Subnet.nameAndId
    rw [Work.check_map, bind_assoc]
    refine bind_congr fun subnet => ?_
    rw [pure_bind]
    cases subnet.name? with
    | none =>
      rw [ih]
      exact (bind_pure _).symm
    | some name =>
      simp only [ih]
      rfl

theorem rememberGroups_eq (v : View) (records : List Json) :
    rememberGroups v records = v.fileAll SecurityGroup.nameAndId (fun id => [id]) records := by
  induction records with
  | nil => rfl
  | cons record records ih =>
    unfold rememberGroups View.fileAll SecurityGroup.nameAndId
    rw [Work.check_map, bind_assoc]
    refine bind_congr fun group => ?_
    rw [pure_bind]
    cases group.name? with
    | none =>
      simp only [ih]
      rfl
    | some name =>
      simp only [ih]
      rfl

def subnetsEffect (s : Settings) (names : List String) : Sight → Effect (List Json) :=
  (subnetIds s).byNameEffect s "describe_subnets" "Subnets" Subnet.nameAndId (fun _ => []) names

def groupsEffect (s : Settings) (names : List String) : Sight → Effect (List Json) :=
  (groupIds s).byNameEffect s "describe_security_groups" "SecurityGroups" SecurityGroup.nameAndId
    (fun id => [id]) names

theorem subnets_eq (s : Settings) (names : List String) :
    subnets s names = (subnetIds s).byName s "describe_subnets" "Subnets" Subnet.nameAndId
      (fun _ => []) names := by
  unfold subnets View.byName View.query
  refine bind_congr fun split => ?_
  simp only [rememberSubnets_eq, bind_assoc]

theorem securityGroups_eq (s : Settings) (names : List String) :
    securityGroups s names = (groupIds s).byName s "describe_security_groups" "SecurityGroups"
      SecurityGroup.nameAndId (fun id => [id]) names := by
  unfold securityGroups View.byName View.query describeGroups
  refine bind_congr fun split => ?_
  simp only [rememberGroups_eq, bind_assoc]

theorem subnets_does (s : Settings) (names : List String) :
    (subnets s names).Does (subnetsEffect s names) := by
  rw [subnets_eq]
  exact (subnetIds s).byName_does s _ _ _ _ names

theorem securityGroups_does (s : Settings) (names : List String) :
    (securityGroups s names).Does (groupsEffect s names) := by
  rw [securityGroups_eq]
  exact (groupIds s).byName_does s _ _ _ _ names

end Lookup

end NetLookup
