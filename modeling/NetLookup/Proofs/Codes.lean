import NetLookup.Proofs.Json.Parts

/-! # Codes under the name of a request

A failure that takes the name of its request may lose the code it went by: an empty one, a null, or one that
was missing. It stays in its classes all the same, as no class knows what is read in place of a code. -/

namespace NetLookup

namespace Failure

variable {e : Failure} (service operation : Json) (params : Fields)

/-! ## The code -/

theorem code_ofRequest : (e.ofRequest service operation params).code
    = if e.codeAndMessage.1.truthy then e.codeAndMessage.1 else .str "TransportError" := rfl

theorem code_cases (h : e.isRemote = true) :
    e.code = e.codeAndMessage.1 ∨ e.code = .str "Unknown" ∧ e.codeAndMessage.1.truthy = false := by
  cases e with
  | service error =>
    cases hcode : error.code with
    | none => exact Or.inr (by simp [code, codeAndMessage, hcode, Json.truthy])
    | some code => exact Or.inl (by simp [Failure.code, codeAndMessage, hcode])
  | sdk f => exact Or.inl rfl
  | _ => cases h

theorem code_ofRequest_iff (h : e.isRemote = true) :
    (e.ofRequest service operation params).code = e.code ↔ e.codeAndMessage.1.truthy = true := by
  rw [code_ofRequest]
  constructor
  · intro hsame
    refine Decidable.byContradiction fun hfalsy => ?_
    rw [if_neg hfalsy] at hsame
    -- What counts as no code is not the word that a failed request has for it.
    rcases code_cases h with hcode | ⟨hcode, -⟩
    · rw [← hcode, ← hsame] at hfalsy
      exact hfalsy rfl
    · simp [hcode] at hsame
  · intro htruthy
    rw [if_pos htruthy]
    rcases code_cases h with hcode | ⟨-, hfalse⟩
    · exact hcode.symm
    · rw [hfalse] at htruthy
      cases htruthy

theorem codeReadable_ofRequest (h : e.isRemote = true) (hcode : e.codeReadable = true) :
    (e.ofRequest service operation params).codeReadable = true := by
  by_cases htruthy : e.codeAndMessage.1.truthy = true
  · unfold codeReadable
    rwa [(code_ofRequest_iff service operation params h).2 htruthy]
  · unfold codeReadable
    rw [code_ofRequest, if_neg htruthy]

theorem FromCloud.truthy_iff (h : e.FromCloud) : e.codeAndMessage.1.truthy = true ↔
    (∃ f, e = .sdk f) ∨ ∃ error s, e = .service error ∧ error.code = some (.str s) ∧ s ≠ "" := by
  cases h with
  | unanswered f => simp [codeAndMessage, kind, Json.truthy, f.named]
  | @answered error hcode =>
    cases hsome : error.code with
    | none => simp [codeAndMessage, hsome, Json.truthy]
    | some code => rcases hcode code hsome with rfl | ⟨s, rfl⟩ <;> simp [codeAndMessage, hsome, Json.truthy]

/-! ## Classes -/

def Telling (codes : List String) : Prop := "TransportError" ∉ codes ∧ "" ∉ codes ∧ "Unknown" ∉ codes

instance (codes : List String) : Decidable (Telling codes) :=
  inferInstanceAs (Decidable ("TransportError" ∉ codes ∧ "" ∉ codes ∧ "Unknown" ∉ codes))

variable {codes : List String}

theorem Telling.any_of_falsy (h : Telling codes) {v : Json} (hfalse : v.truthy = false) :
    v.text?.any codes.contains = false := by
  cases v with
  | str s =>
    have hs : s = "" := by simpa [Json.truthy] using hfalse
    simp [Json.text?, hs, h.2.1]
  | _ => rfl

theorem any_ofRequest (h : e.isRemote = true) (hcodes : Telling codes) :
    (e.ofRequest service operation params).code.text?.any codes.contains
      = e.code.text?.any codes.contains := by
  by_cases htruthy : e.codeAndMessage.1.truthy = true
  · rw [(code_ofRequest_iff service operation params h).2 htruthy]
  · have hname : (e.ofRequest service operation params).code.text?.any codes.contains = false := by
      rw [code_ofRequest, if_neg htruthy]
      simp [Json.text?, hcodes.1]
    rw [hname]
    rcases code_cases h with hcode | ⟨hcode, -⟩
    · rw [hcode, hcodes.any_of_falsy (by simpa using htruthy)]
    · simp [hcode, Json.text?, hcodes.2.2]

theorem codeAmong_ofRequest (h : e.isRemote = true) (hcode : e.codeReadable = true)
    (hcodes : Telling codes) : ∃ among, e.codeAmong codes = .ok among ∧
      (e.ofRequest service operation params).codeAmong codes = .ok among := by
  refine ⟨_, codeAmong_of_readable codes hcode, ?_⟩
  rw [codeAmong_of_readable codes (codeReadable_ofRequest service operation params h hcode),
    any_ofRequest service operation params h hcodes]

theorem isDependencyViolation_eq (e : Failure) :
    e.isDependencyViolation = e.code.text?.any [dependencyViolation].contains := by
  unfold isDependencyViolation
  rw [Json.same_str_eq]
  cases e.code.text? with
  | none => rfl
  | some s => exact (Bool.or_false _).symm

theorem telling_dependencyViolation : Telling [dependencyViolation] := by decide

theorem telling_throttlingCodes : Telling throttlingCodes := by decide

theorem telling_notFoundCodes : Telling notFoundCodes := by decide

theorem telling_retryable : Telling (throttlingCodes ++ transientCodes) := by decide

theorem codeAmong_of_loss (h : e.isConnectionLoss = true) :
    e.codeAmong (throttlingCodes ++ transientCodes) = .ok false := by
  cases e with
  | sdk f =>
    have hkind : f.kind ∈ SdkFault.lossKinds := List.contains_iff_mem.1 h
    have hloss : ∀ kind ∈ SdkFault.lossKinds, (throttlingCodes ++ transientCodes).contains kind = false := by
      decide
    exact congrArg Except.ok (hloss f.kind hkind)
  | _ => cases h

/-- The name of its request leaves a failure in its classes, and leaves it the code that it told. Only one of a
lost connection is no longer worth a retry. -/
theorem ofRequest_classes (h : e.FromCloud) (service operation : Json) (params : Fields) :
    let w := e.ofRequest service operation params
    w.isDependencyViolation = e.isDependencyViolation ∧
      (∃ among, e.isThrottling = .ok among ∧ w.isThrottling = .ok among) ∧
      (∃ among, e.isNotFound = .ok among ∧ w.isNotFound = .ok among) ∧
      (w.code = e.code ↔ (∃ f, e = .sdk f) ∨
        ∃ error s, e = .service error ∧ error.code = some (.str s) ∧ s ≠ "") ∧
      (∀ error, e = .service error → ∃ retry, e.isRetryable = .ok retry ∧ w.isRetryable = .ok retry) ∧
      (w.isRetryable = e.isRetryable ↔ e.isConnectionLoss = false) := by
  intro w
  have hamong {codes : List String} (hcodes : Telling codes) :=
    codeAmong_ofRequest service operation params h.isRemote h.codeReadable hcodes
  refine ⟨?_, ?_, ?_, ?_, ?_, ?_⟩
  · rw [isDependencyViolation_eq, isDependencyViolation_eq]
    exact any_ofRequest service operation params h.isRemote telling_dependencyViolation
  · exact hamong telling_throttlingCodes
  · exact hamong telling_notFoundCodes
  · exact (code_ofRequest_iff service operation params h.isRemote).trans h.truthy_iff
  · rintro error rfl
    exact hamong telling_retryable
  · obtain ⟨among, hamong, hw⟩ := hamong telling_retryable
    have hw : w.isRetryable = .ok among := hw
    rw [hw]
    unfold isRetryable
    cases hloss : e.isConnectionLoss with
    | true =>
      rw [codeAmong_of_loss hloss] at hamong
      cases hamong
      simp
    | false => simp [hamong]

/-- A throttled request stays throttled and worth a retry, what is held or unknown stays so, an empty code is
lost, and a lost connection is no longer worth a retry. -/
theorem ofRequest_classes_throttled :
    let answered (code : String) := Failure.service ⟨some (.str code), none, "DescribeVpcs", none⟩
    let unreachable := Failure.sdk (.unreachable "ec2")
    let w := Failure.ofRequest (.str "ec2") (.str "describe_vpcs") []
    (w (answered "Throttling")).isThrottling = .ok true ∧
      (w (answered "Throttling")).isRetryable = .ok true ∧
      (w (answered "Throttling")).code = (answered "Throttling").code ∧
      (w (answered "DependencyViolation")).isDependencyViolation = true ∧
      (w (answered "InvalidGroup.NotFound")).isNotFound = .ok true ∧
      (w (answered "")).code ≠ (answered "").code ∧
      (w (answered "")).isNotFound = .ok false ∧
      (w unreachable).isRetryable ≠ unreachable.isRetryable := by
  intro answered unreachable w
  have hcloud (code : String) : (answered code).FromCloud :=
    .answered fun c hc => Or.inr ⟨code, (Option.some.inj hc).symm⟩
  have hclasses (code : String) := ofRequest_classes (hcloud code) (.str "ec2") (.str "describe_vpcs") []
  have hlost := ofRequest_classes (.unanswered (.unreachable "ec2")) (.str "ec2") (.str "describe_vpcs") []
  obtain ⟨-, ⟨throttled, hthrottled, hthrottledW⟩, -, hcode, hretry, -⟩ := hclasses "Throttling"
  obtain ⟨retry, hretryable, hretryableW⟩ := hretry _ rfl
  obtain ⟨hheld, -⟩ := hclasses "DependencyViolation"
  obtain ⟨-, -, ⟨absent, habsent, habsentW⟩, -⟩ := hclasses "InvalidGroup.NotFound"
  obtain ⟨-, -, ⟨unknown, hunknown, hunknownW⟩, hempty, -, -⟩ := hclasses ""
  cases hthrottled
  cases hretryable
  cases habsent
  cases hunknown
  refine ⟨hthrottledW, hretryableW, hcode.2 (Or.inr ⟨_, _, rfl, rfl, by simp⟩), hheld.trans ?_, habsentW,
    fun hsame => ?_, hunknownW, fun hsame => ?_⟩
  · decide
  · rcases hempty.1 hsame with ⟨f, hf⟩ | ⟨error, s, herror, hs, hne⟩
    · cases hf
    · cases herror
      cases hs
      exact hne rfl
  · cases hlost.2.2.2.2.2.1 hsame

end Failure

end NetLookup
