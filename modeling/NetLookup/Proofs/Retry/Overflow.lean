import NetLookup.Proofs.Decimal.Doubling
import NetLookup.Proofs.Retry.LastCall
import NetLookup.Proofs.Retry.Stalling

/-! # Deletions that wait too often

The wait of the standard rule doubles with each failure of a kind, and the cap is put on only afterwards. At the
1025th such failure the doubled wait is out of range, and there is no wait to put a cap on. Only a deletion can
fail as often: as long as another resource holds on, it is attempted as often as the settings say. -/

namespace NetLookup

variable {α : Type}

def Failure.isTransport : Failure → Bool
  | transport _ _ => true
  | _ => false

/-! ## Waits -/

/-- The wait before jitter, after `n` earlier failures of the kind: it doubles, and thirty seconds are the cap. -/
def Backoff.doubled : Nat → Float
  | 0 => 1.0
  | 1 => 2.0
  | 2 => 4.0
  | 3 => 8.0
  | 4 => 16.0
  | _ => 30.0

theorem Backoff.ceiling_standard (n : Nat) :
    standard.ceiling n = if n < 1024 then .ok (doubled n) else .error (.fault .overflow) := by
  have hfactor : standard.factor = 2.0 := rfl
  unfold ceiling
  rw [hfactor, Decimal.power_two]
  by_cases hrange : n < 1024
  · rw [if_pos hrange, if_pos hrange]
    refine congrArg Except.ok ?_
    by_cases hlow : 5 ≤ n
    · have hcapped : doubled n = 30.0 := by
        obtain ⟨m, rfl⟩ := Nat.exists_eq_add_of_le' hlow
        rfl
      rw [hcapped]
      exact if_pos (Decimal.thirty_lt_twoPower hlow hrange)
    · have hfew : ∀ m < 5, (if (30.0 : Float) < 1.0 * Decimal.twoPower m then 30.0
          else 1.0 * Decimal.twoPower m) = doubled m := by decide +kernel
      exact hfew n (by omega)
  · rw [if_neg hrange, if_neg hrange]
    rfl

theorem Lookup.deletePolicy_delay (s : Settings) {n : Nat} (hpos : 1 ≤ n) (draw : Float) :
    (deletePolicy s).delay n draw
      = if n ≤ 1024 then .ok (Backoff.part (Backoff.doubled (n - 1)) draw)
        else .error (.fault .overflow) := by
  have hbefore : (n : Int) - 1 = (n - 1 : Nat) := by omega
  rw [Policy.delay_eq_backoff]
  show Backoff.standard.delay (n - 1) draw = _
  rw [hbefore, Backoff.delay, Backoff.ceiling_standard]
  by_cases hrange : n ≤ 1024
  · rw [if_pos (by omega), if_pos hrange]
    rfl
  · rw [if_neg (by omega), if_neg hrange]
    rfl

/-! ## What follows a call -/

theorem Policy.wait?_of_allowed {p : Policy} {e : Failure} {count : Int}
    (h : p.shouldRetry e count = .ok true) (draw : Float) :
    p.wait? e count draw = (p.delay count draw).map some := by
  unfold wait?
  rw [h]
  cases p.delay count draw <;> rfl

namespace Lookup

variable {s : Settings} {e : Failure}

theorem deletePolicy_key (s : Settings) (e : Failure) : (deletePolicy s).attemptKey e
    = if e.isDependencyViolation then Failure.dependencyViolation else "default" := by
  cases hheld : e.isDependencyViolation with
  | true => exact Policy.attemptKey_dependency _ _ hheld
  | false => exact Policy.attemptKey_standard _ hheld

theorem shouldRetry_held (hheld : e.isDependencyViolation = true) {count : Int}
    (hcount : count < s.deleteMaxAttempts) : (deletePolicy s).shouldRetry e count = .ok true := by
  rw [deletePolicy, Policy.shouldRetry_dependency _ _ _ hheld, decide_eq_true hcount]

theorem shouldRetry_other (hother : e.isDependencyViolation = false) (hcode : e.codeReadable = true)
    (count : Nat) : ∃ again, (deletePolicy s).shouldRetry e count = .ok again ∧
      (again = true ↔ count ≤ 3 ∧ e.isRetryable = .ok true) := by
  rw [Policy.shouldRetry_standard _ hother]
  show ∃ again, (if (count : Int) < 3 + 1 then e.isRetryable else .ok false) = .ok again ∧ _
  by_cases hfew : count ≤ 3
  · obtain ⟨again, hagain⟩ : ∃ again, e.isRetryable = .ok again := by
      unfold Failure.isRetryable
      split
      · exact ⟨_, rfl⟩
      · exact ⟨_, Failure.codeAmong_of_readable _ hcode⟩
    refine ⟨again, by rw [if_pos (by omega), hagain], ?_⟩
    rw [hagain]
    simp [hfew]
  · exact ⟨false, if_neg (by omega), by simp [hfew]⟩

end Lookup

namespace Repeated

open Lookup

variable {r : Repeated α} {s : Settings} {draw : Nat → Float} {i k : Nat} {e : Failure}

/-- How many of the first `n` calls of a deletion failed because another resource holds on. -/
def held (r : Repeated α) (s : Settings) (n : Nat) : Nat :=
  r.failures (deletePolicy s) n Failure.dependencyViolation

def others (r : Repeated α) (s : Settings) (n : Nat) : Nat := r.failures (deletePolicy s) n "default"

theorem failures_mono (r : Repeated α) (p : Policy) {m n : Nat} (h : m ≤ n) (key : String) :
    r.failures p m key ≤ r.failures p n key :=
  (List.range_sublist.2 h).countP_le

theorem held_succ (ho : r.outcome i = .error e) (hremote : e.isRemote = true) :
    r.held s (i + 1) = r.held s i + if e.isDependencyViolation then 1 else 0 := by
  unfold held
  rw [r.failures_succ _ ho hremote, deletePolicy_key]
  cases e.isDependencyViolation <;> rfl

theorem others_succ (ho : r.outcome i = .error e) (hremote : e.isRemote = true) :
    r.others s (i + 1) = r.others s i + if e.isDependencyViolation then 0 else 1 := by
  unfold others
  rw [r.failures_succ _ ho hremote, deletePolicy_key]
  cases e.isDependencyViolation <;> rfl

theorem verdict_held (ho : r.outcome i = .error e) (hremote : e.isRemote = true)
    (hheld : e.isDependencyViolation = true) (hleft : (i : Int) + 1 < s.deleteMaxAttempts) :
    r.verdict (deletePolicy s) draw i e = if r.held s (i + 1) ≤ 1024
      then .ok (some (Backoff.part (Backoff.doubled (r.held s (i + 1) - 1)) (draw i)))
      else .error (.fault .overflow) := by
  have hkey := deletePolicy_key s e
  have hsucc := held_succ (s := s) ho hremote
  rw [hheld, if_pos rfl] at hkey hsucc
  have hle : r.held s (i + 1) ≤ i + 1 := r.failures_le _ _ _
  have hallowed : (deletePolicy s).shouldRetry e (r.held s (i + 1)) = .ok true :=
    shouldRetry_held hheld (by omega)
  unfold verdict
  rw [hkey]
  refine (Policy.wait?_of_allowed hallowed (draw i)).trans ?_
  rw [deletePolicy_delay s (by omega)]
  split <;> rfl

/-- After any other failure the rule never fails: the wait can be told after each of the three that are allowed. -/
theorem verdict_other (s : Settings) (draw : Nat → Float) (ho : r.outcome i = .error e)
    (hremote : e.isRemote = true) (hcode : e.codeReadable = true) (hother : e.isDependencyViolation = false) :
    ∃ next, r.verdict (deletePolicy s) draw i e = .ok next ∧
      (next.isSome = true ↔ r.others s (i + 1) ≤ 3 ∧ e.isRetryable = .ok true) := by
  have hkey := deletePolicy_key s e
  have hsucc := others_succ (s := s) ho hremote
  rw [hother, if_neg Bool.false_ne_true] at hkey hsucc
  obtain ⟨again, hagain, hiff⟩ := shouldRetry_other (s := s) hother hcode (r.others s (i + 1))
  unfold verdict
  rw [hkey]
  cases again with
  | false => exact ⟨none, Policy.wait?_eq_none.2 hagain, by simpa using hiff⟩
  | true =>
    obtain ⟨hfew, hretryable⟩ := hiff.1 rfl
    have hdelay := deletePolicy_delay s (n := r.others s (i + 1)) (by omega) (draw i)
    rw [if_pos (by omega)] at hdelay
    refine ⟨_, (Policy.wait?_of_allowed hagain (draw i)).trans (congrArg (Except.map some) hdelay), ?_⟩
    simpa using hiff

/-- Another call follows a failure because another resource holds on, unless there were more than 1024 of them,
and one that passes by itself, unless there were more than three of those. -/
theorem repeats_iff (hr : r.Readable) : r.Repeats (deletePolicy s) draw i ↔
    (i : Int) + 1 < s.deleteMaxAttempts ∧ ∃ e, r.outcome i = .error e ∧
      (e.isDependencyViolation = true ∧ r.held s (i + 1) ≤ 1024 ∨
        e.isDependencyViolation = false ∧ r.others s (i + 1) ≤ 3 ∧ e.isRetryable = .ok true) := by
  constructor
  · rintro ⟨e, wait, ho, hremote, hleft, hverdict⟩
    refine ⟨hleft, e, ho, ?_⟩
    cases hheld : e.isDependencyViolation with
    | true =>
      rw [verdict_held ho hremote hheld hleft] at hverdict
      split at hverdict
      · rename_i hfew
        exact Or.inl ⟨rfl, hfew⟩
      · cases hverdict
    | false =>
      obtain ⟨next, hnext, hiff⟩ := verdict_other s draw ho hremote (hr i e ho).2 hheld
      rw [hverdict] at hnext
      cases hnext
      exact Or.inr ⟨rfl, hiff.1 rfl⟩
  · rintro ⟨hleft, e, ho, hcase⟩
    obtain ⟨hremote, hcode⟩ := hr i e ho
    rcases hcase with ⟨hheld, hfew⟩ | ⟨hother, hpassing⟩
    · exact ⟨e, _, ho, hremote, hleft, (verdict_held ho hremote hheld hleft).trans (if_pos hfew)⟩
    · obtain ⟨next, hnext, hiff⟩ := verdict_other s draw ho hremote hcode hother
      obtain ⟨wait, rfl⟩ := Option.isSome_iff_exists.1 (hiff.2 hpassing)
      exact ⟨e, wait, ho, hremote, hleft, hnext⟩

theorem stalls_iff (hr : r.Readable) {f : Failure} : r.Stalls (deletePolicy s) draw i f ↔
    f = .fault .overflow ∧ (i : Int) + 1 < s.deleteMaxAttempts ∧ ∃ e, r.outcome i = .error e ∧
      e.isDependencyViolation = true ∧ 1024 < r.held s (i + 1) := by
  constructor
  · rintro ⟨e, ho, hremote, hleft, hverdict⟩
    cases hheld : e.isDependencyViolation with
    | true =>
      rw [verdict_held ho hremote hheld hleft] at hverdict
      split at hverdict
      · cases hverdict
      · rename_i hmany
        cases hverdict
        exact ⟨rfl, hleft, e, ho, hheld, Nat.lt_of_not_le hmany⟩
    | false =>
      obtain ⟨next, hnext, -⟩ := verdict_other s draw ho hremote (hr i e ho).2 hheld
      rw [hverdict] at hnext
      cases hnext
  · rintro ⟨rfl, hleft, e, ho, hheld, hmany⟩
    obtain ⟨hremote, -⟩ := hr i e ho
    exact ⟨e, ho, hremote, hleft,
      (verdict_held ho hremote hheld hleft).trans (if_neg (Nat.not_le.2 hmany))⟩

/-! ## Runs -/

/-- At call `k` another resource holds on for the 1025th time, attempts are left, and at most three other calls
have failed, for a reason that passes by itself. -/
structure Overtaxed (r : Repeated α) (s : Settings) (k : Nat) : Prop where
  left : (k : Int) + 1 < s.deleteMaxAttempts
  last : ∃ e, r.outcome k = .error e ∧ e.isDependencyViolation = true
  held : r.held s (k + 1) = 1025
  others : r.others s k ≤ 3
  passing : ∀ j < k, ∃ e, r.outcome j = .error e ∧
    (e.isDependencyViolation = true ∨ e.isRetryable = .ok true)

theorem few_of_repeats (hr : r.Readable) (h : ∀ j < k, r.Repeats (deletePolicy s) draw j) :
    r.held s k ≤ 1024 ∧ r.others s k ≤ 3 := by
  induction k with
  | zero => exact ⟨Nat.zero_le _, Nat.zero_le _⟩
  | succ k ih =>
    obtain ⟨hheld, hothers⟩ := ih fun j hj => h j (by omega)
    obtain ⟨-, e, ho, hcase⟩ := (repeats_iff hr).1 (h k (by omega))
    obtain ⟨hremote, -⟩ := hr k e ho
    rcases hcase with ⟨hkind, hfew⟩ | ⟨hkind, hfew, -⟩
    · rw [others_succ ho hremote, hkind]
      exact ⟨hfew, hothers⟩
    · rw [held_succ ho hremote, hkind]
      exact ⟨hheld, hfew⟩

theorem overtaxed_iff (hr : r.Readable) (draw : Nat → Float) : r.Overtaxed s k ↔
    (∀ j < k, r.Repeats (deletePolicy s) draw j) ∧
      r.Stalls (deletePolicy s) draw k (.fault .overflow) := by
  constructor
  · intro h
    obtain ⟨last, hlast, hkind⟩ := h.last
    have hbefore := h.held
    rw [held_succ hlast (hr k last hlast).1, hkind, if_pos rfl] at hbefore
    refine ⟨fun j hj => ?_, (stalls_iff hr).2 ⟨rfl, h.left, last, hlast, hkind, by rw [h.held]; omega⟩⟩
    obtain ⟨e, ho, hpassing⟩ := h.passing j hj
    have hleft := h.left
    refine (repeats_iff hr).2 ⟨by omega, e, ho, ?_⟩
    cases hheld : e.isDependencyViolation with
    | true =>
      have hmono : r.held s (j + 1) ≤ r.held s k := r.failures_mono _ hj _
      exact Or.inl ⟨rfl, by omega⟩
    | false =>
      have hmono : r.others s (j + 1) ≤ r.others s k := r.failures_mono _ hj _
      exact Or.inr ⟨rfl, hmono.trans h.others, hpassing.resolve_left (by simp [hheld])⟩
  · rintro ⟨hrepeats, hstalls⟩
    obtain ⟨hheld, hothers⟩ := few_of_repeats hr hrepeats
    obtain ⟨-, hleft, e, ho, hkind, hmany⟩ := (stalls_iff hr).1 hstalls
    have hsucc := held_succ (s := s) ho (hr k e ho).1
    rw [hkind, if_pos rfl] at hsucc
    refine ⟨hleft, ⟨e, ho, hkind⟩, by omega, hothers, fun j hj => ?_⟩
    obtain ⟨-, e, ho, hcase⟩ := (repeats_iff hr).1 (hrepeats j hj)
    exact ⟨e, ho, hcase.imp And.left fun h => h.2.2⟩

theorem run_of_overtaxed (hr : r.Readable) (draw : Nat → Float) (h : r.Overtaxed s k) :
    (r.run (deletePolicy s) draw).result = .error (.fault .overflow) := by
  obtain ⟨hrepeats, hstalls⟩ := (overtaxed_iff hr draw).1 h
  exact run_of_stall hrepeats hstalls

theorem Stops.ends (hr : r.Readable) {p : Policy} {result : Except Failure α} (h : r.Stops p k result) :
    Ends (fun _ => True) (·.isTransport = true) result := by
  cases h with
  | value ho => trivial
  | foreign ho hforeign =>
    rw [(hr k _ ho).1] at hforeign
    cases hforeign
  | fatal ho hremote hfatal => rfl

theorem run_ends_iff (hr : r.Readable) (draw : Nat → Float) :
    Ends (fun _ => True) (·.isTransport = true) (r.run (deletePolicy s) draw).result
      ↔ ∀ k, ¬ r.Overtaxed s k := by
  constructor
  · intro hends k hovertaxed
    cases hends.failure (run_of_overtaxed hr draw hovertaxed)
  · intro hnever
    obtain ⟨k, hfirst, hstops | ⟨f, hstalls, -⟩⟩ := r.run_ends_first (deletePolicy s) draw
    · exact hstops.ends hr
    · obtain ⟨rfl, -⟩ := (stalls_iff hr).1 hstalls
      exact absurd ((overtaxed_iff hr draw).2 ⟨hfirst, hstalls⟩) (hnever k)

/-! ## Limits -/

theorem Overtaxed.late (h : r.Overtaxed s k) : 1024 ≤ k := by
  have hheld := h.held
  have hle : r.held s (k + 1) ≤ k + 1 := r.failures_le _ _ _
  omega

theorem not_overtaxed_of_limit (hlimit : s.deleteMaxAttempts ≤ 1025) : ¬ r.Overtaxed s k := by
  intro h
  have hlate := h.late
  have hleft := h.left
  omega

theorem held_of_all {n : Nat} (h : ∀ j < n, ∃ e, r.outcome j = .error e ∧ e.isRemote = true ∧
    e.isDependencyViolation = true) : r.held s n = n ∧ r.others s n = 0 := by
  induction n with
  | zero => exact ⟨rfl, rfl⟩
  | succ n ih =>
    obtain ⟨hheld, hothers⟩ := ih fun j hj => h j (by omega)
    obtain ⟨e, ho, hremote, hkind⟩ := h n (by omega)
    rw [held_succ ho hremote, others_succ ho hremote, hkind, hheld, hothers]
    exact ⟨rfl, rfl⟩

theorem overtaxed_of_all (hlimit : 1025 < s.deleteMaxAttempts) (h : ∀ j < 1025, ∃ e, r.outcome j = .error e ∧
    e.isRemote = true ∧ e.isDependencyViolation = true) : r.Overtaxed s 1024 := by
  obtain ⟨last, hlast, -, hkind⟩ := h 1024 (by omega)
  refine ⟨by omega, ⟨last, hlast, hkind⟩, (held_of_all h).1, ?_, fun j hj => ?_⟩
  · rw [(held_of_all fun j hj => h j (by omega)).2]
    omega
  · obtain ⟨e, ho, -, hheld⟩ := h j (by omega)
    exact ⟨e, ho, Or.inl hheld⟩

end Repeated

/-! ## Deletions -/

namespace Lookup

def Settles (s : Settings) (id : String) (st : State) : Prop :=
  Ends (fun _ => True) (·.isTransport = true) ((deleteSecurityGroup s id).run.run st).1

def releasedAfter (n : Nat) : Remote :=
  { heldGroup with
    deletion := fun i =>
      if i < n then some (Repeated.serviceFailure "DependencyViolation") else none }

theorem deletions_releasedAfter {n i : Nat} (h : i < n) : (deletions (releasedAfter n).deletion).outcome i
    = .error (Repeated.serviceFailure "DependencyViolation") := by
  have hheld : (releasedAfter n).deletion i = some (Repeated.serviceFailure "DependencyViolation") :=
    if_pos h
  unfold deletions
  simp only [hheld]

theorem deletions_released {n i : Nat} (h : n ≤ i) :
    (deletions (releasedAfter n).deletion).outcome i = .ok () := by
  have hreleased : (releasedAfter n).deletion i = none := if_neg (Nat.not_lt.2 h)
  unfold deletions
  simp only [hreleased]

theorem readable_releasedAfter (n : Nat) : (deletions (releasedAfter n).deletion).Readable := by
  intro i e he
  rcases Nat.lt_or_ge i n with hi | hi
  · rw [deletions_releasedAfter hi] at he
    cases he
    exact ⟨rfl, rfl⟩
  · rw [deletions_released hi] at he
    cases he

theorem overtaxed_releasedAfter {s : Settings} (hlimit : 1025 < s.deleteMaxAttempts) :
    (deletions (releasedAfter 1025).deletion).Overtaxed s 1024 :=
  Repeated.overtaxed_of_all hlimit fun _ hj => ⟨_, deletions_releasedAfter hj, rfl, rfl⟩

theorem settles_iff (s : Settings) (id : String) {st : State}
    (hr : (deletions st.remote.deletion).Readable) :
    Settles s id st ↔ ∀ k, ¬ (deletions st.remote.deletion).Overtaxed s k := by
  unfold Settles
  rw [(deleteSecurityGroup_run s id st).1]
  exact Repeated.run_ends_iff hr st.draw

theorem not_settles_of_overtaxed {s : Settings} {id : String} {st : State} {k : Nat}
    (hr : (deletions st.remote.deletion).Readable) (h : (deletions st.remote.deletion).Overtaxed s k) :
    ¬ Settles s id st := by
  intro hsettles
  exact (settles_iff s id hr).1 hsettles k h

/-- A deletion settles unless another resource holds on for the 1025th time while attempts are left, and then a
wait out of range is what it comes to. So all deletions settle just in case no more than 1025 attempts are
allowed. -/
theorem deleteSecurityGroup_settles_iff (s : Settings) (id : String) :
    (∀ st : State, (deletions st.remote.deletion).Readable →
      (Settles s id st ↔ ∀ k, ¬ (deletions st.remote.deletion).Overtaxed s k) ∧
        ∀ k, (deletions st.remote.deletion).Overtaxed s k →
          ((deleteSecurityGroup s id).run.run st).1 = .error (.fault .overflow)) ∧
      ((∀ st : State, (deletions st.remote.deletion).Readable → Settles s id st)
        ↔ s.deleteMaxAttempts ≤ 1025) ∧
      ∀ (n : Nat) (draw : Float), 1 ≤ n → (deletePolicy s).delay n draw
        = if n ≤ 1024 then .ok (0 + (Backoff.doubled (n - 1) - 0) * draw)
          else .error (.fault .overflow) := by
  refine ⟨fun st hr => ⟨settles_iff s id hr, fun k h => ?_⟩, ⟨fun hall => ?_, fun hlimit st hr => ?_⟩,
    fun n draw hpos => deletePolicy_delay s hpos draw⟩
  · rw [(deleteSecurityGroup_run s id st).1]
    exact Repeated.run_of_overtaxed hr st.draw h
  · -- With one attempt more, a resource that holds on 1025 times is a counterexample.
    by_contra hlimit
    have hr := readable_releasedAfter 1025
    exact not_settles_of_overtaxed hr (overtaxed_releasedAfter (Int.not_le.1 hlimit))
      (hall (.facing (releasedAfter 1025)) hr)
  · exact (settles_iff s id hr).2 fun k => Repeated.not_overtaxed_of_limit hlimit

/-- Of 1026 attempts that are allowed, 1024 may fail because another resource holds on, and 1025 may not. -/
theorem deleteSecurityGroup_settles_iff_releasedAfter :
    Settles { deleteMaxAttempts := 1026 } "sg-1" (.facing (releasedAfter 1024)) ∧
      ((deleteSecurityGroup { deleteMaxAttempts := 1026 } "sg-1").run.run
        (.facing (releasedAfter 1025))).1 = .error (.fault .overflow) := by
  obtain ⟨hsettles, -, -⟩ := deleteSecurityGroup_settles_iff { deleteMaxAttempts := 1026 } "sg-1"
  obtain ⟨hiff, -⟩ := hsettles (.facing (releasedAfter 1024)) (readable_releasedAfter 1024)
  obtain ⟨-, hfault⟩ := hsettles (.facing (releasedAfter 1025)) (readable_releasedAfter 1025)
  refine ⟨?_, hfault 1024 (overtaxed_releasedAfter (by decide))⟩
  -- The failure that is one too many would have to come after the first 1024 calls.
  rw [hiff]
  intro k h
  obtain ⟨e, he, -⟩ := h.last
  cases (deletions_released h.late).symm.trans he

/-- The group is let go of in time for the last attempt, and still its deletion does not settle. -/
theorem deleteSecurityGroup_unsettled :
    ¬ Settles { deleteMaxAttempts := 1026 } "sg-1" (.facing (releasedAfter 1025)) :=
  not_settles_of_overtaxed (readable_releasedAfter 1025) (overtaxed_releasedAfter (by decide))

end Lookup

end NetLookup
