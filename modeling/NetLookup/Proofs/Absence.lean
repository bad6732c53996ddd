import NetLookup.Proofs.Blame
import NetLookup.Proofs.Codes
import NetLookup.Proofs.Pages

/-! # Absence

There is no such group if the listing is empty, or if it is refused because the id is unknown. Any other
failure says nothing about the group, whatever the pages before it said. -/

namespace NetLookup

/-! ## Refusals -/

def Outage.SaysUnknown (o : Outage) : Prop := ∃ code ∈ Failure.notFoundCodes, o.failure.code = .str code

theorem Outage.saysUnknown_iff (o : Outage) :
    o.SaysUnknown ↔ o.failure.code.text?.any Failure.notFoundCodes.contains = true := by
  unfold SaysUnknown
  cases o.failure.code with
  | str s => simp [Json.text?]
  | _ => simp [Json.text?]

namespace Lookup

theorem unknownOr_ofRequest {e : Failure} (h : e.isRemote = true) (hcode : e.codeReadable = true)
    (service operation : Json) (params : Fields) :
    unknownOr (e.ofRequest service operation params)
      = if e.code.text?.any Failure.notFoundCodes.contains then .ok []
        else .error (e.ofRequest service operation params) := by
  obtain ⟨among, hamong, hw⟩ :=
    Failure.codeAmong_ofRequest service operation params h hcode Failure.telling_notFoundCodes
  rw [Failure.codeAmong_of_readable _ hcode] at hamong
  obtain rfl := Except.ok.inj hamong
  show (((e.ofRequest service operation params).codeAmong Failure.notFoundCodes).bind fun unknown =>
    if unknown then .ok [] else .error (e.ofRequest service operation params)) = _
  rw [hw]
  rfl

end Lookup

/-! ## One group by its id -/

section OneGroup

variable (r : Remote) (id : String) {pages : List Json}

def Remote.showingGroups (pages : List Json) (outage : Option Outage) : Remote :=
  r.showing .ec2 "describe_security_groups" pages outage

namespace Lookup

theorem describeGroups_answer : (describeGroups (groupParams id)).answer r
    = (r.listed .ec2 "describe_security_groups" "SecurityGroups").mapError
      (·.named mainService (.str "describe_security_groups") (groupParams id)) := by
  have hparams : Listing.anySaid [Listing.ownName] (groupParams id) = false := rfl
  obtain ⟨-, hanswer, -⟩ := Work.listAll_asks .ec2 mainService "describe_security_groups"
    "SecurityGroups" hparams
  exact congrFun hanswer r

variable (hpages : ∀ page ∈ pages, (Kind.page "SecurityGroups") page)
include hpages

theorem securityGroupById_whole : (securityGroupById id).answer (r.showingGroups pages none)
    = firstGroup (Listing.recordsIn "SecurityGroups" pages) := by
  obtain ⟨-, hanswer, -⟩ := securityGroupById_asks id
  simp only [hanswer, describeGroups_answer]
  rw [Remote.showingGroups, Remote.listed_showing_none _ _ _ hpages]
  rfl

theorem securityGroupById_refused {o : Outage} (hremote : o.failure.isRemote = true)
    (hcode : o.failure.codeReadable = true) :
    (securityGroupById id).answer (r.showingGroups pages (some o))
      = if o.failure.code.text?.any Failure.notFoundCodes.contains then .ok none
        else .error (o.failure.ofRequest mainService (.str "describe_security_groups")
          (groupParams id)) := by
  obtain ⟨-, hanswer, -⟩ := securityGroupById_asks id
  simp only [hanswer, describeGroups_answer]
  rw [Remote.showingGroups, Remote.listed_showing_some _ _ _ hpages, mapError_error,
    Failure.named_remote hremote]
  show (unknownOr (o.failure.ofRequest mainService (.str "describe_security_groups")
    (groupParams id))).bind firstGroup = _
  rw [unknownOr_ofRequest hremote hcode]
  split
  · rfl
  · rfl

end Lookup

end OneGroup

namespace Operation

/-- No group is answered if no page has one or the id is unknown, and a group only if nothing failed: the
first one. Every other failure is passed on under the name of its request. -/
theorem securityGroupById_absent (s : Settings) (id : String) (m : Moment) (cache : Cache Stored)
    {pages : List Json} (hpages : ∀ page ∈ pages, (Kind.page "SecurityGroups") page)
    {outage : Option Outage}
    (houtage : ∀ o, outage = some o → o.failure.isRemote = true ∧ o.failure.codeReadable = true) :
    let answer := ((securityGroupById id).outcome s
      { m with remote := m.remote.showingGroups pages outage } cache).1
    let records := Listing.recordsIn "SecurityGroups" pages
    (answer = .ok (.group none) ↔
      outage = none ∧ records = [] ∨ ∃ o, outage = some o ∧ o.SaysUnknown) ∧
      (∀ o, outage = some o → ¬ o.SaysUnknown → answer = .error (.transport
        ⟨mainService, .str "describe_security_groups", o.failure.codeAndMessage.1,
          o.failure.codeAndMessage.2, Lookup.groupParams id⟩ (some o.failure))) ∧
      (∀ g, answer = .ok (.group (some g)) ↔
        outage = none ∧ ∃ first rest, records = first :: rest ∧ SecurityGroup.ofJson first = .ok g) ∧
      (outage = none → ∀ first rest, records = first :: rest →
        answer = (SecurityGroup.ofJson first).map fun g => .group (some g)) := by
  intro answer records
  have hanswer : answer
      = ((Lookup.securityGroupById id).answer (m.remote.showingGroups pages outage)).map .group :=
    congrArg Prod.fst (outcome_alone rfl (Lookup.securityGroupById_asks id).1 _)
  cases outage with
  | none =>
    rw [Lookup.securityGroupById_whole _ _ hpages] at hanswer
    have hfirst : answer = (Lookup.firstGroup records).map .group := hanswer
    rw [hfirst]
    cases hrecords : records with
    | nil => simp [Lookup.firstGroup, Except.map]
    | cons first rest =>
      cases hread : SecurityGroup.ofJson first with
      | error e => simp [Lookup.firstGroup, Except.map, hread]
      | ok g => simp [Lookup.firstGroup, Except.map, hread]
  | some o =>
    -- Whatever the pages hold, the failure alone decides.
    obtain ⟨hremote, hcode⟩ := houtage o rfl
    rw [Lookup.securityGroupById_refused _ _ hpages hremote hcode] at hanswer
    rw [hanswer]
    by_cases hunknown : o.SaysUnknown
    · rw [if_pos (o.saysUnknown_iff.1 hunknown)]
      simp [Except.map, hunknown]
    · rw [if_neg (mt o.saysUnknown_iff.2 hunknown)]
      simp [Except.map, hunknown, Failure.ofRequest]

/-- A group on the first of two pages is found, is said not to exist if the id is unknown at the second page,
and is not told of if that page is throttled. -/
theorem securityGroupById_absent_webGroup :
    let page records := Json.obj [("SecurityGroups", .arr records)]
    let answer pages outage := ((securityGroupById "sg-1").outcome {}
      ⟨heldGroup.showingGroups pages outage, 0, fun _ => 0⟩ .empty).1
    let refused (code : String) := Failure.service ⟨some (.str code), none, "DescribeSecurityGroups", none⟩
    answer [page [webGroup], page []] none
        = .ok (.group (some ⟨.str "sg-1", .str "", .str "", .str "", [(.str "Name", .str "web")]⟩)) ∧
      answer [page [webGroup], page []] (some (.atPage 1 (refused "InvalidGroup.NotFound")))
        = .ok (.group none) ∧
      answer [page [webGroup], page []] (some (.atPage 1 (refused "Throttling")))
        = .error (.transport ⟨mainService, .str "describe_security_groups", .str "Throttling", .null,
          [("GroupIds", .arr [.str "sg-1"])]⟩ (some (refused "Throttling"))) := by
  intro page answer refused
  have hpages : ∀ p ∈ [page [webGroup], page []], (Kind.page "SecurityGroups") p := by
    simp only [List.forall_mem_cons, List.not_mem_nil, false_implies, implies_true, and_true]
    exact ⟨Kind.page_arr _ _, Kind.page_arr _ _⟩
  have hrefused (code : String) (o : Outage) (ho : some (.atPage 1 (refused code)) = some o) :
      o.failure.isRemote = true ∧ o.failure.codeReadable = true := by
    obtain rfl := Option.some.inj ho
    exact ⟨rfl, rfl⟩
  have hnever (o : Outage) (ho : none = some o) :
      o.failure.isRemote = true ∧ o.failure.codeReadable = true := by
    cases ho
  obtain ⟨-, -, -, hfound⟩ := securityGroupById_absent {} "sg-1" ⟨heldGroup, 0, fun _ => 0⟩ .empty hpages
    hnever
  obtain ⟨hnone, -, -, -⟩ := securityGroupById_absent {} "sg-1" ⟨heldGroup, 0, fun _ => 0⟩ .empty hpages
    (hrefused "InvalidGroup.NotFound")
  obtain ⟨-, hfails, -, -⟩ := securityGroupById_absent {} "sg-1" ⟨heldGroup, 0, fun _ => 0⟩ .empty hpages
    (hrefused "Throttling")
  refine ⟨hfound rfl webGroup [] rfl, hnone.2 (Or.inr ⟨_, rfl, "InvalidGroup.NotFound", ?_, rfl⟩),
    hfails _ rfl ?_⟩
  · decide
  · rintro ⟨code, hcode, hsame⟩
    obtain rfl : "Throttling" = code := Json.str.inj hsame
    exact absurd hcode (by decide)

end Operation

end NetLookup
