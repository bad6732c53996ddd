import NetLookup.Proofs.Retry.Nested
import Mathlib.Data.List.Basic
import Mathlib.Tactic.Common

/-! # Waiting for another resource costs the inner rule nothing

Two runs are compared: one under a rule that waits for another resource to let go, and one under the
inner rule alone, to which the failures of that kind do not happen. They come to the same result. -/

namespace NetLookup

variable {α : Type}

/-! ## What the inner rule decides -/

namespace Policy

theorem shouldRetry_of_readable (b : Backoff) {e : Failure} (he : e.codeReadable) (count : Int) :
    ∃ again, (standard b).shouldRetry e count = .ok again ∧
      (again = true → count < b.maxRetries + 1) := by
  unfold shouldRetry
  split
  · rename_i h
    unfold Failure.isRetryable
    split
    · exact ⟨true, rfl, fun _ => h⟩
    · exact ⟨_, Failure.codeAmong_of_readable _ he, fun _ => h⟩
  · exact ⟨false, rfl, fun h => by simp at h⟩

theorem wait?_eq (p : Policy) {e : Failure} {count : Int} {draw wait : Float} {again : Bool}
    (hretry : p.shouldRetry e count = .ok again) (hdelay : p.delay count draw = .ok wait) :
    p.wait? e count draw = .ok (if again then some wait else none) := by
  unfold wait?
  rw [hretry, hdelay]
  cases again <;> rfl

end Policy

theorem Backoff.delay_of_no_jitter {b : Backoff} (h : b.jitter = false) (n : Int) (d d' : Float) :
    b.delay n d = b.delay n d' := by
  simp [delay, h]

/-! ## What is heard of the calls -/

namespace Repeated

/-- The outcomes of the calls from the `i`-th on, in the rest of a run that begins with it. -/
def heard (r : Repeated α) (i : Nat) (rest : Run α) : List (Except Failure α) :=
  (List.range' i (rest.waits.length + 1)).map r.outcome

theorem heard_ended (r : Repeated α) (i : Nat) (result : Except Failure α) (calls : Nat) :
    r.heard i (.ended result calls) = [r.outcome i] := rfl

theorem heard_after (r : Repeated α) (i : Nat) (rest : Run α) (wait : Float) :
    r.heard i (rest.after wait) = r.outcome i :: r.heard (i + 1) rest := by
  simp [heard, Run.after, List.range'_succ]

def failed : Except Failure α → Bool
  | .ok _ => false
  | .error _ => true

def unrelated : Except Failure α → Bool
  | .ok _ => true
  | .error e => !e.isDependencyViolation

/-- The waits that follow an unrelated failure. The `i`-th wait follows the `i`-th outcome. -/
def unrelatedWaits (waits : List Float) (outcomes : List (Except Failure α)) : List Float :=
  ((waits.zip outcomes).filter fun x => unrelated x.2).map (·.1)

def Readable (r : Repeated α) : Prop :=
  ∀ i e, r.outcome i = .error e → e.isRemote = true ∧ e.codeReadable = true

def BeginsWith (outcome : Nat → Except Failure α) : Nat → List (Except Failure α) → Prop
  | _, [] => True
  | i, o :: os => outcome i = o ∧ BeginsWith outcome (i + 1) os

/-! ## One step of either run -/

section Steps

variable (r : Repeated α) (p : Policy) (draw : Nat → Float) (spare i : Nat) (seen : List String)

theorem continueRun_value {v : α} (hv : r.outcome i = .ok v) :
    r.continueRun p draw spare i seen = .ended (.ok v) (i + 1) := by
  cases spare with
  | zero => rw [continueRun, hv]; rfl
  | succ spare => rw [continueRun, hv]

theorem continueRun_last {e : Failure} (he : r.outcome i = .error e) :
    r.continueRun p draw 0 i seen = .ended (.error (r.named e)) (i + 1) := by
  rw [continueRun, he]
  rfl

theorem continueRun_given_up {e : Failure} (he : r.outcome i = .error e) (hremote : e.isRemote = true)
    (hwait : p.wait? e (seen.count (p.attemptKey e) + 1) (draw i) = .ok none) :
    r.continueRun p draw spare i seen = .ended (.error (r.named e)) (i + 1) := by
  cases spare with
  | zero => exact continueRun_last r p draw i seen he
  | succ spare =>
    rw [continueRun, he]
    simp only [hremote, if_true, hwait]

theorem continueRun_repeated {e : Failure} {wait : Float} (he : r.outcome i = .error e)
    (hremote : e.isRemote = true)
    (hwait : p.wait? e (seen.count (p.attemptKey e) + 1) (draw i) = .ok (some wait)) :
    r.continueRun p draw (spare + 1) i seen
      = (r.continueRun p draw spare (i + 1) (p.attemptKey e :: seen)).after wait := by
  rw [continueRun, he]
  simp only [hremote, if_true, hwait]

end Steps

/-! ## One step of both runs -/

theorem continueRun_related (r : Repeated α) (b : Backoff) (m : Int) (draw : Nat → Float)
    (spare i : Nat) (seen : List String) (hlength : seen.length = i) (hi : i + 1 < m) {e : Failure}
    (ho : r.outcome i = .error e) (hremote : e.isRemote = true)
    (hdep : e.isDependencyViolation = true)
    (hdelay : ∀ n : Nat, 1 ≤ n → n ≤ i + 1 → ∀ d, ∃ wait, (Policy.standard b).delay n d = .ok wait) :
    ∃ wait, r.continueRun (.dependency (.standard b) m) draw (spare + 1) i seen
      = (r.continueRun (.dependency (.standard b) m) draw spare (i + 1)
          (Failure.dependencyViolation :: seen)).after wait := by
  have hkey := Policy.attemptKey_dependency (.standard b) m hdep
  have hle := hlength ▸ seen.count_le_length (a := Failure.dependencyViolation)
  have hretry : (Policy.dependency (.standard b) m).shouldRetry e
      (seen.count Failure.dependencyViolation + 1) = .ok true := by
    rw [Policy.shouldRetry_dependency _ _ _ hdep, decide_eq_true (by omega)]
  obtain ⟨wait, hwait⟩ := hdelay (seen.count Failure.dependencyViolation + 1) (by omega) (by omega)
    (draw i)
  have hsome := Policy.wait?_eq (.dependency (.standard b) m) hretry hwait
  refine ⟨wait, ?_⟩
  rw [continueRun_repeated r _ draw spare i seen ho hremote (by rw [hkey]; exact hsome), hkey]

/-- After an unrelated failure both runs give up, or both go on. -/
theorem continueRun_unrelated (r r' : Repeated α) (b : Backoff) (m : Int) (draw draw' : Nat → Float)
    (spare i j : Nat) (seen : List String) (hcount : seen.count "default" = j) {e : Failure}
    (ho : r.outcome i = .error e) (ho' : r'.outcome j = .error e) (hremote : e.isRemote = true)
    (hcode : e.codeReadable = true) (hdep : e.isDependencyViolation = false)
    (hdelay : ∀ d, ∃ wait, (Policy.standard b).delay (j + 1) d = .ok wait) :
    (r.continueRun (.dependency (.standard b) m) draw (spare + 1) i seen
        = .ended (.error (r.named e)) (i + 1) ∧
      r'.continueRun (.standard b) draw' (b.maxRetries - j).toNat j (List.replicate j "default")
        = .ended (.error (r'.named e)) (j + 1)) ∨
    ∃ wait wait', (b.jitter = false → wait' = wait) ∧
      r.continueRun (.dependency (.standard b) m) draw (spare + 1) i seen
        = (r.continueRun (.dependency (.standard b) m) draw spare (i + 1)
            ("default" :: seen)).after wait ∧
      r'.continueRun (.standard b) draw' (b.maxRetries - j).toNat j (List.replicate j "default")
        = (r'.continueRun (.standard b) draw' (b.maxRetries - (j + 1 : Nat)).toNat (j + 1)
            (List.replicate (j + 1) "default")).after wait' := by
  have hkey := Policy.attemptKey_standard (.dependency (.standard b) m) hdep
  have hsame : (List.replicate j "default").count "default" = j := by simp
  -- Both policies come down to the same rule, asked about the same count.
  obtain ⟨again, hagain, hbound⟩ := Policy.shouldRetry_of_readable b hcode (j + 1)
  have hretry : (Policy.dependency (.standard b) m).shouldRetry e (j + 1) = .ok again :=
    (Policy.shouldRetry_standard _ hdep _).trans hagain
  obtain ⟨wait, hwait⟩ := hdelay (draw i)
  obtain ⟨wait', hwait'⟩ := hdelay (draw' j)
  have hfull := Policy.wait?_eq (.dependency (.standard b) m) hretry hwait
  have hbare := Policy.wait?_eq (.standard b) hagain hwait'
  rw [← hcount, ← hkey] at hfull
  cases again with
  | false =>
    left
    exact ⟨continueRun_given_up r _ draw _ i seen ho hremote hfull,
      continueRun_given_up r' _ draw' _ j _ ho' hremote (by
        rw [Policy.attemptKey, hsame]; exact hbare)⟩
  | true =>
    right
    have hmore := hbound rfl
    refine ⟨wait, wait', fun hb => ?_, ?_, ?_⟩
    · rw [Policy.delay, b.delay_of_no_jitter hb _ _ (draw i)] at hwait'
      exact Except.ok.inj (hwait'.symm.trans hwait)
    · rw [continueRun_repeated r _ draw spare i seen ho hremote hfull, hkey]
    · rw [show (b.maxRetries - j).toNat = (b.maxRetries - (j + 1 : Nat)).toNat + 1 by omega]
      exact continueRun_repeated r' _ draw' _ j _ ho' hremote (by
        rw [Policy.attemptKey, hsame]; exact hbare)

/-! ## Both runs -/

/-- What the rest of a run with the given outcomes has in common with the rest of a run to which only
the unrelated ones happen, after `j` of them. Both come to the last unrelated outcome. -/
structure Bare (r : Repeated α) (b : Backoff) (j : Nat) (outcomes : List (Except Failure α))
    (full bare : Run α) : Prop where
  result : bare.result = full.result
  last : ∃ o, (outcomes.filter unrelated).getLast? = some o ∧ full.result = o.mapError r.named
  calls : bare.calls = j + (outcomes.filter unrelated).length
  waits : b.jitter = false → bare.waits = unrelatedWaits full.waits outcomes

namespace Bare

variable {r : Repeated α} {b : Backoff} {j : Nat} {o : Except Failure α}
  {outcomes : List (Except Failure α)} {full bare : Run α}

theorem ended (ho : unrelated o = true) (calls : Nat) :
    Bare r b j [o] (.ended (o.mapError r.named) calls) (.ended (o.mapError r.named) (j + 1)) := by
  have hleft : [o].filter unrelated = [o] := List.filter_cons_of_pos ho
  exact ⟨rfl, ⟨o, by rw [hleft]; rfl, rfl⟩, by rw [hleft]; rfl, fun _ => rfl⟩

theorem skip (h : Bare r b j outcomes full bare) (ho : unrelated o = false) (wait : Float) :
    Bare r b j (o :: outcomes) (full.after wait) bare := by
  have hleft : (o :: outcomes).filter unrelated = outcomes.filter unrelated :=
    List.filter_cons_of_neg (by simp [ho])
  refine ⟨h.result, ?_, ?_, fun hb => ?_⟩
  · rw [hleft]
    exact h.last
  · rw [hleft]
    exact h.calls
  · simp [h.waits hb, unrelatedWaits, Run.after, ho]

theorem both (h : Bare r b (j + 1) outcomes full bare) (ho : unrelated o = true) {wait wait' : Float}
    (hwait : b.jitter = false → wait' = wait) :
    Bare r b j (o :: outcomes) (full.after wait) (bare.after wait') := by
  have hleft : (o :: outcomes).filter unrelated = o :: outcomes.filter unrelated :=
    List.filter_cons_of_pos ho
  obtain ⟨l, hl, hresult⟩ := h.last
  refine ⟨h.result, ⟨l, ?_, hresult⟩, ?_, fun hb => ?_⟩
  · rw [hleft, List.getLast?_cons, hl]
    rfl
  · rw [hleft, List.length_cons]
    have := h.calls
    simp only [Run.after]
    omega
  · simp [h.waits hb, hwait hb, unrelatedWaits, Run.after, ho]

end Bare

theorem failed_head (r : Repeated α) (i : Nat) (rest : Run α) {e : Failure}
    (he : r.outcome i = .error e) : 1 ≤ (r.heard i rest).countP failed := by
  simp [heard, List.range'_succ, he, failed]

theorem continueRun_bare_value (r : Repeated α) (kept : Nat → Except Failure α) (b : Backoff)
    (p p' : Policy) (draw draw' : Nat → Float) (spare spare' i j : Nat) (seen seen' : List String)
    {v : α} (ho : r.outcome i = .ok v) {full : Run α}
    (hfull : full = r.continueRun p draw spare i seen)
    (hkept : BeginsWith kept j ((r.heard i full).filter unrelated)) :
    Bare r b j (r.heard i full) full
      ({ r with outcome := kept }.continueRun p' draw' spare' j seen') := by
  rw [hfull, continueRun_value _ _ _ _ _ _ ho] at hkept ⊢
  rw [heard_ended, ho] at hkept ⊢
  rw [continueRun_value _ _ _ _ _ _ hkept.1]
  exact Bare.ended rfl _

/-- The rest of a run under the rule that waits, after `i` failures of which `j` are unrelated, and the
rest of the bare run after those `j`. -/
theorem continueRun_bare (r : Repeated α) (hr : r.Readable) (kept : Nat → Except Failure α)
    (b : Backoff) (m : Int) (draw draw' : Nat → Float) (spare i j : Nat) (seen : List String)
    (hspare : spare = (m - 1 - i).toNat) (hlength : seen.length = i)
    (hcount : seen.count "default" = j) {full : Run α}
    (hfull : full = r.continueRun (.dependency (.standard b) m) draw spare i seen)
    (hfew : i + (r.heard i full).countP failed < m)
    (hdelay : ∀ n : Nat, 1 ≤ n → n ≤ i + (r.heard i full).countP failed →
      ∀ d, ∃ wait, (Policy.standard b).delay n d = .ok wait)
    (hkept : BeginsWith kept j ((r.heard i full).filter unrelated)) :
    Bare r b j (r.heard i full) full
      ({ r with outcome := kept }.continueRun (.standard b) draw' (b.maxRetries - j).toNat j
        (List.replicate j "default")) := by
  induction spare generalizing i j seen full with
  | zero =>
    cases ho : r.outcome i with
    | ok v => exact continueRun_bare_value r kept b _ _ _ _ _ _ _ _ _ _ ho hfull hkept
    | error e =>
      -- This was the last call, so there are as many failures as calls.
      have := failed_head r i full ho
      omega
  | succ spare ih =>
    cases ho : r.outcome i with
    | ok v => exact continueRun_bare_value r kept b _ _ _ _ _ _ _ _ _ _ ho hfull hkept
    | error e =>
      obtain ⟨hremote, hcode⟩ := hr i e ho
      have hone := failed_head r i full ho
      have hj := hlength ▸ hcount ▸ seen.count_le_length (a := "default")
      cases hdep : e.isDependencyViolation with
      | true =>
        have hrelated : unrelated (.error e : Except Failure α) = false := by simp [unrelated, hdep]
        obtain ⟨wait, hstep⟩ := continueRun_related r b m draw spare i seen hlength (by omega) ho
          hremote hdep fun n h1 hn => hdelay n h1 (by omega)
        rw [hfull, hstep, heard_after, ho] at hfew hdelay hkept ⊢
        rw [List.countP_cons_of_pos rfl] at hfew hdelay
        rw [List.filter_cons_of_neg (by simp [hrelated])] at hkept
        refine Bare.skip (ih (i + 1) j _ (by omega) (by simp [hlength]) ?_ rfl (by push_cast; omega)
          (fun n h1 hn => hdelay n h1 (by omega)) hkept) hrelated wait
        rw [List.count_cons_of_ne (by decide), hcount]
      | false =>
        have hunrelated : unrelated (.error e : Except Failure α) = true := by simp [unrelated, hdep]
        have ho' : kept j = .error e := by
          rw [heard, List.range'_succ, List.map_cons, ho, List.filter_cons_of_pos hunrelated] at hkept
          exact hkept.1
        have hstep := continueRun_unrelated r { r with outcome := kept } b m draw draw' spare i j seen
          hcount ho ho' hremote hcode hdep fun d => hdelay (j + 1) (by omega) (by omega) d
        rcases hstep with ⟨hstep, hstep'⟩ | ⟨wait, wait', hwait, hstep, hstep'⟩
        · rw [hfull, hstep, hstep', heard_ended, ho]
          exact Bare.ended hunrelated _
        · rw [hfull, hstep, heard_after, ho] at hfew hdelay hkept ⊢
          rw [List.countP_cons_of_pos rfl] at hfew hdelay
          rw [List.filter_cons_of_pos hunrelated] at hkept
          rw [hstep']
          exact (ih (i + 1) (j + 1) _ (by omega) (by simp [hlength])
            (by rw [List.count_cons_self, hcount]) rfl (by push_cast; omega)
            (fun n h1 hn => hdelay n h1 (by omega)) hkept.2).both hunrelated hwait

def outcomes (r : Repeated α) (p : Policy) (draw : Nat → Float) : List (Except Failure α) :=
  (List.range (r.run p draw).calls).map r.outcome

theorem outcomes_eq (r : Repeated α) (p : Policy) (draw : Nat → Float) :
    r.outcomes p draw = r.heard 0 (r.run p draw) := by
  rw [outcomes, heard, calls_run, List.range_eq_range']

/-- Under a rule that waits for another resource, nested to any depth, a run that comes to fewer
failures than the outermost rule allows attempts ends as if the failures of that kind had not happened
and the innermost rule had decided alone. Both end with the last unrelated outcome, the bare run has a
call for each unrelated outcome, and without jitter it waits after each as the full run does. What the
rules in between allow makes no difference. -/
theorem run_deleting_dependency_failures (r : Repeated α) (inner : Policy) (m : Int)
    (draw draw' : Nat → Float) (kept : Nat → Except Failure α) (hr : r.Readable)
    (hfew : (r.outcomes (.dependency inner m) draw).countP failed < m)
    (hdelay : ∀ n : Nat, 1 ≤ n → n ≤ (r.outcomes (.dependency inner m) draw).countP failed →
      ∀ d, ∃ wait, (Policy.dependency inner m).delay n d = .ok wait)
    (hkept : BeginsWith kept 0 ((r.outcomes (.dependency inner m) draw).filter unrelated)) :
    let full := r.run (.dependency inner m) draw
    let heard := r.outcomes (.dependency inner m) draw
    let bare := { r with outcome := kept }.run (.standard inner.backoff) draw'
    bare.result = full.result ∧
      (∃ o, (heard.filter unrelated).getLast? = some o ∧ full.result = o.mapError r.named) ∧
      bare.calls = (heard.filter unrelated).length ∧
      (inner.backoff.jitter = false → bare.waits = unrelatedWaits full.waits heard) ∧
      ∀ other : Policy, other.backoff = inner.backoff → r.run (.dependency other m) draw = full := by
  intro full heard bare
  have hflat : full = r.run (.dependency (.standard inner.backoff) m) draw := run_flat r inner m draw
  have hheard : heard = r.heard 0 full := outcomes_eq r _ draw
  have hbare : bare = { r with outcome := kept }.continueRun (.standard inner.backoff) draw'
      (inner.backoff.maxRetries - (0 : Nat)).toNat 0 [] := by
    show Repeated.run _ _ _ = _
    rw [run, spareCalls]
    simp [Policy.maxAttempts]
  have h : Bare r inner.backoff 0 heard full bare := by
    rw [hheard, hbare]
    refine continueRun_bare r hr kept inner.backoff m draw draw' _ 0 0 []
      (by simp [spareCalls, Policy.maxAttempts]) rfl rfl hflat ?_ ?_ (hheard ▸ hkept)
    · simpa [← hheard] using hfew
    · intro n h1 hn d
      have hfailed : n ≤ heard.countP failed := by
        rw [hheard]
        omega
      obtain ⟨wait, hwait⟩ := hdelay n h1 hfailed d
      exact ⟨wait, (Policy.delay_standard _ n d).symm.trans hwait⟩
  refine ⟨h.result, h.last, by simpa using h.calls, h.waits, fun other hother => ?_⟩
  rw [run_flat, hflat, Policy.flat, hother]

/-! ### A deletion that has to wait twice -/

def serviceFailure (code : String) : Failure :=
  .service ⟨some (.str code), none, "DeleteSecurityGroup", none⟩

/-- Another resource holds on at the first and the third call, and the second one comes too soon. -/
def slowlyReleased : Repeated Nat where
  service := "ec2"
  operation := "delete_security_group"
  outcome
    | 0 | 2 => .error (serviceFailure "DependencyViolation")
    | 1 => .error (serviceFailure "Throttling")
    | _ => .ok 7

/-- The outcomes of `slowlyReleased` without those in which another resource holds on. -/
def promptlyReleased : Nat → Except Failure Nat
  | 0 => .error (serviceFailure "Throttling")
  | _ => .ok 7

def twoLevels : Policy := .dependency (.standard { jitter := false }) 1

theorem readable_slowlyReleased : slowlyReleased.Readable := by
  rintro (_ | _ | _ | i) e he <;> cases he <;> exact ⟨rfl, rfl⟩

theorem outcomes_slowlyReleased :
    slowlyReleased.outcomes (.dependency twoLevels 4) (fun _ => 0)
      = (List.range 4).map slowlyReleased.outcome := by
  have hcalls : (slowlyReleased.run (.dependency twoLevels 4) fun _ => 0).calls = 4 := by
    decide +kernel
  rw [outcomes, hcalls]

theorem slowlyReleased_waits_once :
    let bare := { slowlyReleased with outcome := promptlyReleased }.run
      (.standard { jitter := false }) fun _ => 1
    bare.result = (slowlyReleased.run (.dependency twoLevels 4) fun _ => 0).result ∧
      bare.calls = 2 ∧ bare.waits = [1.0] := by
  have hdelay (n : Nat) (h1 : 1 ≤ n) (hn : n ≤ 3) (d : Float) :
      ∃ wait, (Policy.dependency twoLevels 4).delay n d = .ok wait := by
    have hall : ∀ k : Nat, k < 3 → (({ jitter := false } : Backoff).delay k 0).isOk = true := by
      decide +kernel
    have hok := hall (n - 1) (by omega)
    rw [Policy.delay_eq_backoff, Backoff.delay_of_no_jitter rfl _ d 0,
      show (n : Int) - 1 = (n - 1 : Nat) by omega]
    cases hk : ({ jitter := false } : Backoff).delay (n - 1 : Nat) 0 with
    | ok wait => exact ⟨wait, hk⟩
    | error e =>
      rw [hk] at hok
      cases hok
  obtain ⟨hresult, -, hcalls, hwaits, -⟩ := run_deleting_dependency_failures slowlyReleased twoLevels 4
    (fun _ => 0) (fun _ => 1) promptlyReleased readable_slowlyReleased
    (by rw [outcomes_slowlyReleased]; decide) (by rw [outcomes_slowlyReleased]; exact hdelay)
    (by rw [outcomes_slowlyReleased]; exact ⟨rfl, rfl, trivial⟩)
  refine ⟨hresult, hcalls.trans ?_, (hwaits rfl).trans ?_⟩
  · rw [outcomes_slowlyReleased]
    rfl
  · decide +kernel

end Repeated

end NetLookup
