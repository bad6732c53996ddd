import NetLookup.Proofs.Documented
import NetLookup.Proofs.Effect

/-! # What is attempted, and what it raises

A listing may be refused before it is sent, and then nothing of it shows. What an operation attempts shows
in a world that is the same but for this: there such a listing breaks off at its first page. -/

namespace NetLookup

variable {α β : Type}

/-! ## What the remote side raises -/

def Reply.raises (reply : Reply) : Option Failure :=
  reply.noAnswer <|> reply.badStatus.map (.http "HTTPError")

theorem Reply.raises_eq (reply : Reply) : reply.raises = match reply.received with
    | .error e => some e
    | .ok () => none := by
  unfold raises received
  cases reply.noAnswer with
  | some e => rfl
  | none =>
    cases reply.badStatus with
    | some status => rfl
    | none => rfl

namespace Event

def isDeletion : Event → Bool
  | .call operation _ => operation == "delete_security_group"
  | _ => false

def title : Event → Option (String × String)
  | .page .ec2 operation _ => some ("ec2", operation)
  | .page .tagging operation _ => some ("resourcegroupstaggingapi", operation)
  | .call operation _ => some ("ec2", operation)
  | .http _ _ _ _ => some ("ec2metadata", "get_instance_identity_document")
  | .sleep _ => none

end Event

/-- A listing that is refused before it is sent breaks off at its first page instead. -/
def Outage.onceSent : Outage → Outage
  | .beforeStart e => .atPage 0 e
  | .atPage n e => .atPage n e

namespace Remote

/-- What the remote side raises at an action, after the actions before it. Only the outcome of a deletion
depends on these. -/
def raises (r : Remote) (before : List Event) : Event → Option Failure
  | .page api operation _ => (r.outage api operation).map Outage.failure
  | .call operation _ =>
    if operation == "delete_security_group" then r.deletion (before.countP Event.isDeletion)
    else r.tagsFailure
  | .http method _ _ _ => if method = "PUT" then r.token.raises else r.identity.raises
  | .sleep _ => none

def sends (r : Remote) : Event → Bool
  | .page api operation _ => r.starts api operation
  | _ => true

/-- The same remote side, but every listing is sent before it breaks off. -/
def begun (r : Remote) : Remote :=
  { r with outage := fun api operation => (r.outage api operation).map Outage.onceSent }

structure FailsPlainly (r : Remote) : Prop where
  outages : ∀ api operation o, r.outage api operation = some o → o.failure.isRemote = true
  deletions : ∀ n e, r.deletion n = some e → e.isRemote = true
  tags : ∀ e, r.tagsFailure = some e → e.isRemote = true
  token : ∀ e, r.token.noAnswer = some e → e.isHttp = true
  identity : ∀ e, r.identity.noAnswer = some e → e.isHttp = true

theorem Documented.failsPlainly {r : Remote} (h : r.Documented) : r.FailsPlainly where
  outages api operation o ho := (h.outages api operation o ho).isRemote
  deletions n e he := (h.deletions n e he).isRemote
  tags e he := (h.tags e he).isRemote
  token := h.token
  identity := h.identity

end Remote

/-! ## Failures that name no request -/

def Blameless (r : Except Failure α) : Prop :=
  Ends (fun _ => True) (fun e => ∀ request cause, e ≠ .transport request cause) r

theorem OnlyFaults.blameless {r : Except Failure α} (h : OnlyFaults r) : Blameless r := by
  refine h.mono (fun _ _ => trivial) fun e he request cause heq => ?_
  obtain ⟨f, rfl⟩ := he
  cases heq

namespace Blameless

theorem ok (a : α) : Blameless (.ok a) := trivial

theorem lookup (resource message : String) (details : Fields) (cause : Option Failure) :
    Blameless (.error (.lookup resource message details cause) : Except Failure α) :=
  fun _ _ h => by cases h

theorem bind {r : Except Failure α} {f : α → Except Failure β} (h : Blameless r)
    (hf : ∀ a, Blameless (f a)) : Blameless (r.bind f) :=
  Ends.bind h fun a _ => hf a

theorem map {r : Except Failure α} {f : α → β} (h : Blameless r) : Blameless (r.map f) :=
  Ends.map h fun _ _ => trivial

end Blameless

/-! ## Answers and attempts -/

structure FailedRequest.Names (request : FailedRequest) (event : Event) (raised : Failure) : Prop where
  title : ∃ service operation, event.title = some (service, operation) ∧
    request.service = .str service ∧ request.operation = .str operation
  code : request.code = match raised with
    | .service e => e.code.getD .null
    | e => .str e.kind
  params : ∀ api operation params, event = .page api operation params → request.params = params

namespace Remote

def Quiet (r : Remote) (event : Event) : Prop := ∀ before, r.raises before event = none

/-- Either nothing is raised, or it is raised at the last attempt and no other. A failure of a request
names that attempt. -/
inductive Accounts (r : Remote) : Except Failure α → List Event → Prop where
  | smooth {answer : Except Failure α} {events : List Event}
    (hquiet : ∀ event ∈ events, r.Quiet event) (hanswer : Blameless answer) : Accounts r answer events
  | stopped (before : List Event) (event : Event) (raised : Failure) {e : Failure}
    (hquiet : ∀ event ∈ before, r.Quiet event) (hraised : ∀ before, r.raises before event = some raised)
    (hblamed : ∀ request cause, e = .transport request cause →
      request.Names event raised ∧ cause = some raised) :
    Accounts r (.error e) (before ++ [event])

variable {r : Remote}

theorem Accounts.map {answer : Except Failure α} {events : List Event} (h : r.Accounts answer events)
    (f : α → β) : r.Accounts (answer.map f) events := by
  cases h with
  | smooth hquiet hanswer => exact .smooth hquiet hanswer.map
  | stopped before event raised hquiet hraised hblamed =>
    exact .stopped before event raised hquiet hraised hblamed

theorem Accounts.of_error {e : Failure} {events : List Event}
    (h : r.Accounts (.error e : Except Failure α) events) :
    r.Accounts (.error e : Except Failure β) events := by
  cases h with
  | smooth hquiet hanswer => exact .smooth hquiet hanswer
  | stopped before event raised hquiet hraised hblamed =>
    exact .stopped before event raised hquiet hraised hblamed

theorem Accounts.quiet_of_ok {a : α} {events : List Event} (h : r.Accounts (.ok a) events) :
    ∀ event ∈ events, r.Quiet event := by
  cases h with
  | smooth hquiet _ => exact hquiet

theorem Accounts.prepend {answer : Except Failure α} {events first : List Event}
    (h : r.Accounts answer events) (hfirst : ∀ event ∈ first, r.Quiet event) :
    r.Accounts answer (first ++ events) := by
  have hboth {rest : List Event} (hrest : ∀ event ∈ rest, r.Quiet event) :
      ∀ event ∈ first ++ rest, r.Quiet event :=
    fun event hevent => (List.mem_append.1 hevent).elim (hfirst event) (hrest event)
  cases h with
  | smooth hquiet hanswer => exact .smooth (hboth hquiet) hanswer
  | stopped before event raised hquiet hraised hblamed =>
    rw [← List.append_assoc]
    exact .stopped (first ++ before) event raised (hboth hquiet) hraised hblamed

end Remote

/-! ## Effects in both worlds -/

/-- An effect, and what it is where every listing is sent: the answer is the same, what is sent is what is
attempted but for the listings that are refused, and the answer accounts for what is attempted. -/
structure Effect.Attempts (r : Remote) (E attempted : Effect α) : Prop where
  answer : attempted.answer = E.answer
  sent : E.events = attempted.events.filter r.sends
  accounts : r.Accounts attempted.answer attempted.events

namespace Effect.Attempts

variable {r : Remote}

theorem of_idle {E attempted : Effect α} (hanswer : attempted.answer = E.answer)
    (hE : E.events = []) (hevents : attempted.events = []) (hblameless : Blameless E.answer) :
    Attempts r E attempted where
  answer := hanswer
  sent := by simp [hE, hevents]
  accounts := by
    rw [hanswer, hevents]
    exact .smooth (by simp) hblameless

theorem of {answer : Except Failure α} (h : Blameless answer) :
    Attempts r (.of answer) (.of answer) :=
  of_idle rfl rfl rfl h

theorem map {E attempted : Effect α} (h : Attempts r E attempted) (f : α → β) :
    Attempts r (E.map f) (attempted.map f) where
  answer := congrArg (Except.map f) h.answer
  sent := h.sent
  accounts := h.accounts.map f

theorem andThen {E attempted : Effect α} {F next : α → Effect β} (h : Attempts r E attempted)
    (hF : ∀ a, Attempts r (F a) (next a)) : Attempts r (E.andThen F) (attempted.andThen next) := by
  have hanswer := h.answer
  have haccounts := h.accounts
  unfold Effect.andThen
  rw [hanswer] at haccounts ⊢
  cases hE : E.answer with
  | error e =>
    rw [hE] at haccounts
    exact ⟨rfl, h.sent, haccounts.of_error⟩
  | ok a =>
    rw [hE] at haccounts
    refine ⟨(hF a).answer, ?_, (hF a).accounts.prepend haccounts.quiet_of_ok⟩
    rw [List.filter_append, ← h.sent, ← (hF a).sent]

end Effect.Attempts

/-! ## Work on its own -/

namespace Work

def alone (w : Work α) (r : Remote) : Effect α := ⟨w.answer r, w.events r, []⟩

theorem alone_bind {w : Work α} {f : α → Work β} (hw : w.Uncached) (hf : ∀ a, (f a).Uncached)
    (r : Remote) : (w >>= f).alone r = (w.alone r).andThen fun a => (f a).alone r := by
  unfold alone Effect.andThen
  rw [answer_bind hw hf, events_bind hw hf]
  cases w.answer r with
  | error e => simp [Except.bind]
  | ok a => rfl

def Attempts (w : Work α) (r : Remote) : Prop := Effect.Attempts r (w.alone r) (w.alone r.begun)

variable {r : Remote}

theorem check_attempts {a : Except Failure α} (h : Blameless a) : (check a).Attempts r :=
  Effect.Attempts.of_idle rfl rfl rfl h

theorem Attempts.bind {w : Work α} {f : α → Work β} (hw : w.Uncached) (hf : ∀ a, (f a).Uncached)
    (h : w.Attempts r) (hnext : ∀ a, (f a).Attempts r) : (w >>= f).Attempts r := by
  unfold Attempts
  rw [alone_bind hw hf, alone_bind hw hf]
  exact Effect.Attempts.andThen h hnext

end Work

/-! ## Listings -/

theorem Listing.collect_onlyFaults (key : String) (pages : List Json) :
    OnlyFaults (collect key pages) := by
  refine (OnlyFaults.mapM fun page => ?_).bind fun _ => .ok _
  exact (Json.fieldD_onlyFaults page key _).bind Json.elements_onlyFaults

theorem Remote.listed_begun (r : Remote) (api : Api) (operation key : String) :
    r.begun.listed api operation key = r.listed api operation key := by
  unfold listed begun
  rcases ho : r.outage api operation with _ | e | ⟨n, e⟩
  · simp [ho]
  · simp [ho, Outage.onceSent, Listing.outcome, Listing.collect]
    rfl
  · simp [ho, Outage.onceSent]

theorem Remote.starts_begun (r : Remote) (api : Api) (operation : String) :
    r.begun.starts api operation = true := by
  unfold starts begun
  rcases ho : r.outage api operation with _ | e | ⟨n, e⟩
  · simp [ho]
  · simp [ho, Outage.onceSent]
  · simp [ho, Outage.onceSent]

theorem Remote.listed_of_outage {r : Remote} {api : Api} {operation : String} {o : Outage} (key : String)
    (h : r.outage api operation = some o) :
    ∃ e, r.listed api operation key = .error e ∧ (e.IsFault ∨ e = o.failure) := by
  unfold listed
  rcases o with e | ⟨n, e⟩
  · exact ⟨e, by simp [h], Or.inr rfl⟩
  · simp only [h, Listing.outcome]
    have hcollected := Listing.collect_onlyFaults key ((r.pages api operation).take n)
    cases hpages : Listing.collect key ((r.pages api operation).take n) with
    | ok records => exact ⟨e, rfl, Or.inr rfl⟩
    | error fault => exact ⟨fault, rfl, Or.inl (hcollected.failure hpages)⟩

def Api.service : Api → String
  | .ec2 => "ec2"
  | .tagging => "resourcegroupstaggingapi"

theorem FailedRequest.names_of_named {event : Event} {service operation : String} {params : Fields}
    {e : Failure} {request : FailedRequest} {cause : Option Failure} (he : e.isRemote = true)
    (htitle : event.title = some (service, operation))
    (hparams : ∀ api operation sent, event = .page api operation sent → params = sent)
    (h : e.named (.str service) (.str operation) params = .transport request cause) :
    request.Names event e ∧ cause = some e := by
  rw [Failure.named, if_pos he] at h
  obtain ⟨rfl, rfl⟩ := Failure.transport.inj h
  refine ⟨⟨⟨service, operation, htitle, rfl, rfl⟩, ?_, hparams⟩, rfl⟩
  cases e <;> rfl

theorem listAll_attempts {r : Remote} (hr : r.FailsPlainly) (api : Api) (operation key : String)
    {params : Fields} (hparams : Listing.anySaid [Listing.ownName] params = false) :
    (listAll api (.str api.service) operation key params).Attempts r := by
  obtain ⟨-, hanswer, hevents⟩ := Work.listAll_asks api (.str api.service) operation key hparams
  unfold Work.Attempts Work.alone
  rw [hanswer, hevents]
  -- Where every listing is sent, so is this one.
  have hpage : firstPage r.begun api operation params = [.page api operation params] := by
    rw [firstPage, if_pos (r.starts_begun api operation)]
  refine ⟨by simp only [r.listed_begun], ?_, ?_⟩
  · show firstPage r api operation params = (firstPage r.begun api operation params).filter r.sends
    rw [hpage, firstPage, List.filter_cons, List.filter_nil]
    rfl
  · simp only [hpage, r.listed_begun]
    cases ho : r.outage api operation with
    | none =>
      have hquiet : r.Quiet (.page api operation params) := fun _ => by simp [Remote.raises, ho]
      refine .smooth (by simpa using hquiet) ?_
      have hlisted : r.listed api operation key = Listing.collect key (r.pages api operation) := by
        simp [Remote.listed, ho, Listing.outcome]
      rw [hlisted]
      refine Ends.mapError (Listing.collect_onlyFaults key _) fun e he => ?_
      obtain ⟨f, rfl⟩ := he
      exact fun _ _ h => by cases h
    | some o =>
      obtain ⟨e, hlisted, he⟩ := Remote.listed_of_outage key ho
      rw [hlisted, mapError_error]
      refine .stopped [] _ o.failure (by simp) (fun _ => by rw [Remote.raises, ho]; rfl) ?_
      intro request cause hnamed
      rcases he with ⟨f, rfl⟩ | rfl
      · cases hnamed
      · refine FailedRequest.names_of_named (hr.outages api operation o ho) ?_ ?_ hnamed
        · cases api <;> rfl
        · rintro _ _ _ ⟨⟩
          rfl

/-! ## The host -/

theorem FailedRequest.names_http {method url : String} {headers : List (String × String)}
    {timeout : Float} {e : Failure} {request : FailedRequest} {cause : Option Failure}
    (he : e.isHttp = true) (h : MetadataService.named e = .transport request cause) :
    request.Names (.http method url headers timeout) e ∧ cause = some e := by
  rw [MetadataService.named, if_pos he] at h
  obtain ⟨rfl, rfl⟩ := Failure.transport.inj h
  refine ⟨⟨⟨_, _, rfl, rfl, rfl⟩, ?_, ?_⟩, rfl⟩
  · cases e with
    | http kind message => rfl
    | _ => cases he
  · rintro _ _ _ ⟨⟩

theorem Identity.ofJson_blameless (document : Json) : Blameless (ofJson document) := by
  have field (name : String) : Blameless (document.fieldOrEmpty name) :=
    (Json.fieldD_onlyFaults document name _).blameless
  refine (field _).bind fun instanceId => ?_
  split
  · exact .lookup _ _ _ _
  · exact (field _).bind fun _ => (field _).bind fun _ => (field _).bind fun _ => .ok _

theorem hostIdentity_attempts {r : Remote} (hr : r.FailsPlainly) (m : MetadataService) :
    (hostIdentity m).Attempts r := by
  obtain ⟨-, hanswer, hevents⟩ := hostIdentity_asks m
  unfold Work.Attempts Work.alone
  rw [hanswer, hevents]
  refine ⟨rfl, ?_, ?_⟩
  · show m.requests r = (m.requests r).filter r.sends
    unfold MetadataService.requests
    cases r.token.received <;> rfl
  · show r.Accounts (MetadataService.identityOf r) (m.requests r)
    unfold MetadataService.identityOf MetadataService.requests
    -- The document is asked for only if the token was granted.
    cases htoken : r.token.received with
    | error e =>
      refine .stopped [] _ e (by simp) ?_ fun request cause hnamed => ?_
      · intro before
        simp [Remote.raises, MetadataService.tokenRequest, Reply.raises_eq, htoken]
      · exact FailedRequest.names_http (Reply.isHttp_of_received hr.token htoken) hnamed
    | ok granted =>
      have hquiet : r.Quiet m.tokenRequest := fun _ => by
        simp [Remote.raises, MetadataService.tokenRequest, Reply.raises_eq, htoken]
      cases hidentity : r.identity.received with
      | error e =>
        refine .stopped [m.tokenRequest] _ e (by simpa using hquiet) ?_ fun request cause hnamed => ?_
        · intro before
          simp [Remote.raises, MetadataService.documentRequest, Reply.raises_eq, hidentity]
        · exact FailedRequest.names_http (Reply.isHttp_of_received hr.identity hidentity) hnamed
      | ok answered =>
        have hdocument : r.Quiet (m.documentRequest r.token.text) := fun _ => by
          simp [Remote.raises, MetadataService.documentRequest, Reply.raises_eq, hidentity]
        refine .smooth (by simpa using ⟨hquiet, hdocument⟩) ?_
        refine Blameless.bind (r := r.identity.document.mapError Reply.notJson) ?_ Identity.ofJson_blameless
        cases r.identity.document with
        | error reason => exact .lookup _ _ _ _
        | ok document => exact .ok _

end NetLookup
