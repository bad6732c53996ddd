import NetLookup.Lookup.Operation
import NetLookup.Proofs.Work

/-! # What the remote side answers, and what it is sent

Listings and the identity of the host do not touch the cache. A listing is sent unless it breaks off
before it starts. -/

namespace NetLookup

/-! ## Listings -/

namespace Remote

def starts (r : Remote) (api : Api) (operation : String) : Bool :=
  match r.outage api operation with
  | some (.beforeStart _) => false
  | _ => true

def listed (r : Remote) (api : Api) (operation key : String) : Except Failure (List Json) :=
  match r.outage api operation with
  | some (.beforeStart e) => .error e
  | outage => Listing.outcome key (r.pages api operation) outage

theorem starts_of_listed {r : Remote} {api : Api} {operation key : String} {records : List Json}
    (h : r.listed api operation key = .ok records) : r.starts api operation = true := by
  unfold listed at h
  unfold starts
  rcases ho : r.outage api operation with _ | e | ⟨n, e⟩
  · rfl
  · simp [ho] at h
  · rfl

end Remote

def firstPage (r : Remote) (api : Api) (operation : String) (params : Fields) : List Event :=
  if r.starts api operation then [.page api operation params] else []

namespace Work

variable (api : Api) (service : Json) (operation key : String) {params : Fields}

/-- No parameter has the name that the listing has for itself. -/
theorem listAll_run (h : Listing.anySaid [Listing.ownName] params = false) (s : State) :
    (listAll api service operation key params).run.run s
      = ((s.remote.listed api operation key).mapError (·.named service (.str operation) params),
        s.adding (firstPage s.remote api operation params)) := by
  unfold listAll Remote.listed firstPage Remote.starts
  rw [bind_run_ok (get_run s)]
  rcases ho : s.remote.outage api operation with _ | e | ⟨n, e⟩
  · simp only [ho, h, Bool.false_eq_true, if_false, if_true]
    rfl
  · simp only [ho, Bool.false_eq_true, if_false]
    rw [State.adding, List.append_nil]
    rfl
  · simp only [ho, h, Bool.false_eq_true, if_false, if_true]
    rfl

theorem listAll_asks (h : Listing.anySaid [Listing.ownName] params = false) :
    (listAll api service operation key params).Uncached ∧
      (listAll api service operation key params).answer
        = (fun r => (r.listed api operation key).mapError (·.named service (.str operation) params)) ∧
      (listAll api service operation key params).events
        = fun r => firstPage r api operation params :=
  Uncached.of_run (listAll_run api service operation key h)

end Work

/-! ## Judged listings -/

/-- A listing of the main interface with what its records come to as a whole. -/
def judged {α : Type} (operation key : String) (params : Fields)
    (judge : List Json → Except Failure α) : Work α := do
  Work.check (judge (← describeAll operation key params))

section Judged

variable {α : Type} (operation key : String) {params : Fields} (judge : List Json → Except Failure α)

theorem judged_uncached (h : Listing.anySaid [Listing.ownName] params = false) :
    (judged operation key params judge).Uncached :=
  (Work.listAll_asks .ec2 mainService operation key h).1.bind fun records =>
    Work.check_uncached (judge records)

theorem judged_answer (h : Listing.anySaid [Listing.ownName] params = false) (r : Remote) :
    (judged operation key params judge).answer r
      = ((r.listed .ec2 operation key).mapError (·.named mainService (.str operation) params)).bind
        judge := by
  obtain ⟨huncached, hanswer, -⟩ := Work.listAll_asks .ec2 mainService operation key h
  refine (Work.answer_bind huncached (fun records => Work.check_uncached (judge records)) r).trans ?_
  rw [hanswer]
  rfl

theorem judged_events (h : Listing.anySaid [Listing.ownName] params = false) (r : Remote) :
    (judged operation key params judge).events r = firstPage r .ec2 operation params := by
  obtain ⟨huncached, -, hevents⟩ := Work.listAll_asks .ec2 mainService operation key h
  refine (Work.events_bind huncached (fun records => Work.check_uncached (judge records)) r).trans ?_
  rw [hevents]
  split <;> simp

theorem judged_ok (h : Listing.anySaid [Listing.ownName] params = false) {r : Remote} {a : α}
    (ha : (judged operation key params judge).answer r = .ok a) :
    ∃ records, r.listed .ec2 operation key = .ok records ∧ judge records = .ok a := by
  rw [judged_answer operation key judge h] at ha
  obtain ⟨records, hrecords, hjudge⟩ := ok_of_bind ha
  exact ⟨records, ok_of_mapError hrecords, hjudge⟩

end Judged

/-! ## The host -/

theorem Reply.isHttp_of_received {reply : Reply} (h : ∀ e, reply.noAnswer = some e → e.isHttp = true)
    {e : Failure} (he : reply.received = .error e) : e.isHttp = true := by
  unfold received at he
  cases hnone : reply.noAnswer with
  | some unanswered =>
    obtain rfl : unanswered = e := by simpa [hnone] using he
    exact h unanswered hnone
  | none =>
    cases hstatus : reply.badStatus with
    | some message =>
      obtain rfl : Failure.http "HTTPError" message = e := by simpa [hnone, hstatus] using he
      rfl
    | none => simp [hnone, hstatus] at he

namespace MetadataService

def identityOf (r : Remote) : Except Failure Identity := do
  r.token.received.mapError named
  r.identity.received.mapError named
  let document ← r.identity.document.mapError Reply.notJson
  Identity.ofJson document

def requests (m : MetadataService) (r : Remote) : List Event :=
  m.tokenRequest :: match r.token.received with
    | .ok _ => [m.documentRequest r.token.text]
    | .error _ => []

theorem hostIdentity_run (m : MetadataService) (s : State) :
    (hostIdentity m).run.run s = (identityOf s.remote, s.adding (m.requests s.remote)) := by
  unfold hostIdentity identityOf requests
  rw [Work.bind_run_ok (Work.perform_run _ s), Work.bind_run_ok (Work.get_run _),
    Work.check_bind_run]
  rcases s.remote.token.received with e | ⟨⟩
  · rfl
  · refine (Work.bind_run_ok (Work.perform_run _ _) _).trans ?_
    rw [Work.check_bind_run]
    simp only [State.adding, List.append_assoc, List.singleton_append]
    rcases s.remote.identity.received with e | ⟨⟩
    · rfl
    · refine (Work.check_bind_run _ _ _).trans ?_
      rcases s.remote.identity.document with e | document
      · rfl
      · rfl

end MetadataService

theorem hostIdentity_asks (m : MetadataService) :
    (hostIdentity m).Uncached ∧ (hostIdentity m).answer = MetadataService.identityOf ∧
      (hostIdentity m).events = m.requests :=
  Work.Uncached.of_run m.hostIdentity_run

/-! ## Listings among events -/

def sent (operation : String) (events : List Event) : Bool :=
  events.any fun e => match e with
    | .page .ec2 name _ => name == operation
    | _ => false

theorem sent_append (operation : String) (a b : List Event) :
    sent operation (a ++ b) = (sent operation a || sent operation b) :=
  List.any_append

theorem sent_firstPage (operation name : String) (r : Remote) (params : Fields) :
    sent operation (firstPage r .ec2 name params) = (r.starts .ec2 name && name == operation) := by
  unfold firstPage
  cases r.starts .ec2 name <;> simp [sent]

theorem sent_requests (operation : String) (m : MetadataService) (r : Remote) :
    sent operation (m.requests r) = false := by
  unfold MetadataService.requests
  cases r.token.received <;> rfl

/-- The records of a listing that was sent, unless it failed. -/
def told (r : Remote) (operation key : String) (events : List Event) : Option (List Json) :=
  if sent operation events then (r.listed .ec2 operation key).toOption else none

theorem told_unsent_append {operation : String} {before : List Event}
    (h : sent operation before = false) (r : Remote) (key : String) (events : List Event) :
    told r operation key (before ++ events) = told r operation key events := by
  unfold told
  rw [sent_append, h, Bool.false_or]

theorem told_append_unsent {operation : String} {after : List Event}
    (h : sent operation after = false) (r : Remote) (key : String) (events : List Event) :
    told r operation key (events ++ after) = told r operation key events := by
  unfold told
  rw [sent_append, h, Bool.or_false]

theorem told_firstPage (r : Remote) (operation key : String) (params : Fields) :
    told r operation key (firstPage r .ec2 operation params)
      = (r.listed .ec2 operation key).toOption := by
  unfold told
  rw [sent_firstPage]
  cases hl : r.listed .ec2 operation key with
  | error e => simp [Except.toOption]
  | ok records => simp [r.starts_of_listed hl]

theorem judged_told {α : Type} (operation key : String) {params : Fields}
    (judge : List Json → Except Failure α) (h : Listing.anySaid [Listing.ownName] params = false)
    (r : Remote) :
    ((judged operation key params judge).answer r).toOption
      = (told r operation key ((judged operation key params judge).events r)).bind
        fun records => (judge records).toOption := by
  rw [judged_answer operation key judge h, judged_events operation key judge h, told_firstPage]
  cases r.listed .ec2 operation key <;> rfl

end NetLookup
