import NetLookup.Proofs.OwnNetwork

/-! # The document of the host

Whatever the metadata service answers, the identity of the host names an instance, or a request failed, or
the answer does not hold what was looked for. One answer is not foreseen: a document without fields. -/

namespace NetLookup

def Failure.isUnmet : Failure → Bool
  | transport _ _ | lookup _ _ _ _ => true
  | _ => false

/-- Both requests are answered well, and the document is none that could have fields. -/
structure Remote.Fieldless (r : Remote) : Prop where
  token : r.token.Good
  identity : r.identity.Good
  document : ∃ v, r.identity.document = .ok v ∧ ∀ fields, v ≠ .obj fields

/-! ## Answers -/

theorem Reply.received_ends {reply : Reply} (h : ∀ e, reply.noAnswer = some e → e.isHttp = true) :
    Ends (fun _ => reply.Good) (·.isUnmet = true) (reply.received.mapError MetadataService.named) := by
  cases hreceived : reply.received with
  | ok u => exact received_eq_ok.1 hreceived
  | error e =>
    -- Without an answer or with a bad status, it is the request that failed.
    show (MetadataService.named e).isUnmet = true
    unfold MetadataService.named
    rw [if_pos (isHttp_of_received h hreceived)]
    rfl

namespace Identity

theorem ofJson_ends (fields : Fields) :
    Ends (·.instanceId.truthy = true) (·.isUnmet = true) (ofJson (.obj fields)) := by
  have hid : Ends (fun _ => True) (·.isUnmet = true) ((Json.obj fields).fieldOrEmpty "instanceId") :=
    trivial
  unfold ofJson
  refine hid.bind fun instanceId _ => ?_
  by_cases htruthy : instanceId.truthy = true
  · simp only [htruthy, Bool.not_true, Bool.false_eq_true, if_false]
    exact htruthy
  · simp only [htruthy, Bool.not_false, if_true]
    rfl

theorem ofJson_fieldless {v : Json} (h : ∀ fields, v ≠ .obj fields) :
    ofJson v = .error (.fault .noMember) := by
  cases v with
  | obj fields => exact absurd rfl (h fields)
  | _ => rfl

end Identity

/-! ## The identity of the host -/

namespace MetadataService

variable {r : Remote}

theorem identityOf_fieldless (h : r.Fieldless) : identityOf r = .error (.fault .noMember) := by
  obtain ⟨v, hdocument, hfieldless⟩ := h.document
  unfold identityOf
  rw [Reply.received_eq_ok.2 h.token, Reply.received_eq_ok.2 h.identity, hdocument]
  exact Identity.ofJson_fieldless hfieldless

theorem identityOf_ends (htoken : ∀ e, r.token.noAnswer = some e → e.isHttp = true)
    (hidentity : ∀ e, r.identity.noAnswer = some e → e.isHttp = true) (h : ¬ r.Fieldless) :
    Ends (·.instanceId.truthy = true) (·.isUnmet = true) (identityOf r) := by
  -- The two requests in turn, and then the document.
  refine (Reply.received_ends htoken).bind fun _ htokenGood => ?_
  refine (Reply.received_ends hidentity).bind fun _ hidentityGood => ?_
  cases hdocument : r.identity.document with
  | error reason => rfl
  | ok document =>
    cases document with
    | obj fields => exact Identity.ofJson_ends fields
    | _ => exact absurd ⟨htokenGood, hidentityGood, _, hdocument, by simp⟩ h

/-- Only a document without fields is neither an identity nor told as an unmet request. Replies leave out two
things: a reader that gives up on a document that is nested too deep, and a token that no header can hold. -/
theorem hostIdentity_ends_iff (m : MetadataService) (s : State)
    (htoken : ∀ e, s.remote.token.noAnswer = some e → e.isHttp = true)
    (hidentity : ∀ e, s.remote.identity.noAnswer = some e → e.isHttp = true) :
    (Ends (·.instanceId.truthy = true) (·.isUnmet = true) ((hostIdentity m).run.run s).1
        ↔ ¬ s.remote.Fieldless) ∧
      (s.remote.Fieldless → ((hostIdentity m).run.run s).1 = .error (.fault .noMember)) := by
  rw [hostIdentity_run]
  refine ⟨⟨fun hends hfieldless => ?_, identityOf_ends htoken hidentity⟩, identityOf_fieldless⟩
  have hunmet := hends.failure (identityOf_fieldless hfieldless)
  cases hunmet

def withDocument (document : Json) : Remote :=
  { noSubnets with identity := ⟨none, none, "", .ok document⟩ }

/-- An empty object names no instance, and is told as such; a list is not. -/
theorem hostIdentity_ends_iff_withDocument :
    (∃ e, ((hostIdentity ⟨defaultEndpoint, defaultTimeout⟩).run.run
        (.facing (withDocument (.obj [])))).1 = .error e ∧ e.isUnmet = true) ∧
      ((hostIdentity ⟨defaultEndpoint, defaultTimeout⟩).run.run (.facing (withDocument (.arr [])))).1
        = .error (.fault .noMember) := by
  have hhttp (document : Json) (e : Failure) (h : (none : Option Failure) = some e) : e.isHttp = true := by
    cases h
  have hends := hostIdentity_ends_iff ⟨defaultEndpoint, defaultTimeout⟩
  obtain ⟨hobject, -⟩ := hends (.facing (withDocument (.obj []))) (hhttp .null) (hhttp .null)
  obtain ⟨-, hlist⟩ := hends (.facing (withDocument (.arr []))) (hhttp .null) (hhttp .null)
  have hobject := hobject.2 fun h => by
    obtain ⟨v, hv, hfieldless⟩ := h.document
    exact hfieldless [] (Except.ok.inj hv).symm
  have hfails : ((hostIdentity ⟨defaultEndpoint, defaultTimeout⟩).run.run
      (.facing (withDocument (.obj [])))).1 = .error (Identity.noInstance []) := by rfl
  exact ⟨⟨_, hfails, hobject.failure hfails⟩, hlist ⟨⟨rfl, rfl⟩, ⟨rfl, rfl⟩, .arr [], rfl, by simp⟩⟩

/-- A list as the document makes neither an identity nor a failure that says what was not met. -/
theorem hostIdentity_list_unforeseen :
    ¬ Ends (·.instanceId.truthy = true) (·.isUnmet = true)
      ((hostIdentity ⟨defaultEndpoint, defaultTimeout⟩).run.run (.facing (withDocument (.arr [])))).1 := by
  have hfails : ((hostIdentity ⟨defaultEndpoint, defaultTimeout⟩).run.run
      (.facing (withDocument (.arr [])))).1 = .error (.fault .noMember) := by rfl
  intro hends
  cases hends.failure hfails

end MetadataService

end NetLookup
