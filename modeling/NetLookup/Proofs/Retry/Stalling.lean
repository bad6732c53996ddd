import NetLookup.Proofs.Retry.Stopping
import Mathlib.Data.Nat.Find

/-! # When the rule itself fails

After a failure the rule may fail in its turn: it cannot tell whether to try again, or for how long to wait. The
run then ends with what went wrong there. So the first call that no other one follows settles how a run ends:
it stops the run, or the rule fails after it. -/

namespace NetLookup

variable {α : Type}

theorem Policy.wait?_eq_none {p : Policy} {e : Failure} {count : Int} {draw : Float} :
    p.wait? e count draw = .ok none ↔ p.shouldRetry e count = .ok false := by
  constructor
  · intro h
    obtain ⟨again, hagain, h⟩ := ok_of_bind h
    cases again with
    | false => exact hagain
    | true =>
      obtain ⟨wait, -, h⟩ := ok_of_bind h
      cases h
  · intro h
    unfold wait?
    rw [h]
    rfl

namespace Repeated

/-! ## What follows a call -/

/-- What the rule says after a failure at call `i`: a wait before another call, none, or what went wrong. -/
def verdict (r : Repeated α) (p : Policy) (draw : Nat → Float) (i : Nat) (e : Failure) :
    Except Failure (Option Float) :=
  p.wait? e (r.failures p (i + 1) (p.attemptKey e) : Nat) (draw i)

def Repeats (r : Repeated α) (p : Policy) (draw : Nat → Float) (i : Nat) : Prop :=
  ∃ e wait, r.outcome i = .error e ∧ e.isRemote = true ∧ (i : Int) + 1 < p.maxAttempts ∧
    r.verdict p draw i e = .ok (some wait)

def Stalls (r : Repeated α) (p : Policy) (draw : Nat → Float) (i : Nat) (f : Failure) : Prop :=
  ∃ e, r.outcome i = .error e ∧ e.isRemote = true ∧ (i : Int) + 1 < p.maxAttempts ∧
    r.verdict p draw i e = .error f

section Steps

variable (r : Repeated α) (p : Policy) (draw : Nat → Float)

theorem stops_or_repeats_or_stalls (i : Nat) :
    (∃ result, r.Stops p i result) ∨ r.Repeats p draw i ∨ ∃ f, r.Stalls p draw i f := by
  cases ho : r.outcome i with
  | ok v => exact Or.inl ⟨_, .value ho⟩
  | error e =>
    cases hremote : e.isRemote with
    | false => exact Or.inl ⟨_, .foreign ho hremote⟩
    | true =>
      by_cases hleft : (i : Int) + 1 < p.maxAttempts
      · cases hverdict : r.verdict p draw i e with
        | error f => exact Or.inr (Or.inr ⟨f, e, ho, hremote, hleft, hverdict⟩)
        | ok next =>
          cases next with
          | none =>
            exact Or.inl ⟨_, .of_named ho hremote (Or.inr (Policy.wait?_eq_none.1 hverdict))⟩
          | some wait => exact Or.inr (Or.inl ⟨e, wait, ho, hremote, hleft, hverdict⟩)
      · exact Or.inl ⟨_, .of_named ho hremote (Or.inl (by omega))⟩

end Steps

/-! ## Runs -/

section Runs

variable {r : Repeated α} {p : Policy} {draw : Nat → Float} {k : Nat}

/-- What a run asks the rule after call `k`, when it has seen the keys of all failures before. -/
theorem wait?_of_seen (draw : Nat → Float) {seen : List String}
    (hseen : ∀ key, seen.count key = r.failures p k key) {e : Failure} (ho : r.outcome k = .error e)
    (hremote : e.isRemote = true) :
    p.wait? e (seen.count (p.attemptKey e) + 1) (draw k) = r.verdict p draw k e := by
  have hcount : seen.count (p.attemptKey e) + 1 = r.failures p (k + 1) (p.attemptKey e) := by
    rw [r.failures_succ p ho hremote, if_pos rfl, hseen]
  rw [verdict, ← hcount]
  rfl

theorem spare_succ (hleft : (k : Int) + 1 < p.maxAttempts) :
    (p.maxAttempts - 1 - k).toNat = (p.maxAttempts - 1 - (k + 1 : Nat)).toNat + 1 := by
  omega

theorem run_reaches (h : ∀ j < k, r.Repeats p draw j) :
    ∃ seen, (∀ key, seen.count key = r.failures p k key) ∧
      (r.run p draw).result
        = (r.continueRun p draw (p.maxAttempts - 1 - k).toNat k seen).result := by
  -- One more call uses up one of the spare ones, and its key joins those seen.
  induction k with
  | zero => exact ⟨[], fun key => by simp [failures], by simp [run, spareCalls]⟩
  | succ k ih =>
    obtain ⟨seen, hseen, hresult⟩ := ih fun j hj => h j (by omega)
    obtain ⟨e, wait, ho, hremote, hleft, hverdict⟩ := h k (Nat.lt_succ_self k)
    have hwait := (wait?_of_seen draw hseen ho hremote).trans hverdict
    refine ⟨p.attemptKey e :: seen, fun key => ?_, ?_⟩
    · rw [r.failures_succ p ho hremote, List.count_cons, hseen]
      simp
    · rw [hresult, spare_succ hleft, continueRun_repeated r p draw _ k seen ho hremote hwait]
      rfl

theorem run_of_stop (h : ∀ j < k, r.Repeats p draw j) {result : Except Failure α}
    (hstop : r.Stops p k result) : (r.run p draw).result = result := by
  obtain ⟨seen, hseen, hrun⟩ := run_reaches h
  rw [hrun]
  cases hstop with
  | value ho => rw [continueRun_value r p draw _ k seen ho]; rfl
  | foreign ho hforeign => rw [continueRun_foreign ho hforeign]; rfl
  | fatal ho hremote hfatal =>
    rcases hfatal with hlast | hrefused
    · rw [show (p.maxAttempts - 1 - k).toNat = 0 by omega, continueRun_last r p draw k seen ho]
      exact congrArg Except.error (Failure.named_remote hremote _ _ _)
    · have hwait := (wait?_of_seen draw hseen ho hremote).trans
        (Policy.wait?_eq_none.2 hrefused)
      rw [continueRun_given_up r p draw _ k seen ho hremote hwait]
      exact congrArg Except.error (Failure.named_remote hremote _ _ _)

theorem run_of_stall (h : ∀ j < k, r.Repeats p draw j) {f : Failure}
    (hstall : r.Stalls p draw k f) : (r.run p draw).result = .error f := by
  obtain ⟨seen, hseen, hrun⟩ := run_reaches h
  obtain ⟨e, ho, hremote, hleft, hverdict⟩ := hstall
  have hwait := (wait?_of_seen draw hseen ho hremote).trans hverdict
  rw [hrun, spare_succ hleft, continueRun, ho]
  simp only [hremote, if_true, hwait]
  rfl

/-- Some call is the first that no other one follows. It stops the run, or the rule fails after it. -/
theorem run_ends_first (r : Repeated α) (p : Policy) (draw : Nat → Float) :
    ∃ k, (∀ j < k, r.Repeats p draw j) ∧
      (r.Stops p k (r.run p draw).result ∨
        ∃ f, r.Stalls p draw k f ∧ (r.run p draw).result = .error f) := by
  classical
  have hlast : ∃ k, ¬ r.Repeats p draw k := by
    refine ⟨p.maxAttempts.toNat, ?_⟩
    rintro ⟨e, wait, -, -, hleft, -⟩
    omega
  have hfirst (j : Nat) (hj : j < Nat.find hlast) : r.Repeats p draw j :=
    not_not.1 (Nat.find_min hlast hj)
  refine ⟨Nat.find hlast, hfirst, ?_⟩
  rcases r.stops_or_repeats_or_stalls p draw (Nat.find hlast) with ⟨result, hstop⟩ | hrepeats | ⟨f, hstall⟩
  · rw [run_of_stop hfirst hstop]
    exact Or.inl hstop
  · exact absurd hrepeats (Nat.find_spec hlast)
  · exact Or.inr ⟨f, hstall, run_of_stall hfirst hstall⟩

end Runs

end Repeated

end NetLookup
