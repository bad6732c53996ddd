import NetLookup.Listing

/-! # Work that only asks the remote side

Such work neither reads nor changes the cache, the clock or the draws. What it comes to and what it does
depend on nothing but the remote side. -/

namespace NetLookup

variable {α β : Type}

/-- A state in which only the remote side tells anything. -/
def State.facing (r : Remote) : State := ⟨.empty, 0, fun _ => 0, r, []⟩

def State.adding (s : State) (events : List Event) : State := { s with trace := s.trace ++ events }

/-! ## Results -/

theorem ok_of_bind {r : Except Failure α} {f : α → Except Failure β} {b : β}
    (h : r.bind f = .ok b) : ∃ a, r = .ok a ∧ f a = .ok b := by
  cases r with
  | error e => cases h
  | ok a => exact ⟨a, rfl, h⟩

theorem ok_of_map {r : Except Failure α} {f : α → β} {b : β} (h : r.map f = .ok b) :
    ∃ a, r = .ok a ∧ f a = b := by
  cases r with
  | error e => cases h
  | ok a => exact ⟨a, rfl, Except.ok.inj h⟩

theorem error_of_map {r : Except Failure α} {f : α → β} {e : Failure} (h : r.map f = .error e) :
    r = .error e := by
  cases r with
  | error e' => exact congrArg Except.error (Except.error.inj h)
  | ok a => cases h

theorem ok_of_mapError {r : Except Failure α} {f : Failure → Failure} {a : α}
    (h : r.mapError f = .ok a) : r = .ok a := by
  cases r with
  | error e => cases h
  | ok b => exact h

theorem ok_of_toOption {r : Except Failure α} {a : α} (h : r.toOption = some a) : r = .ok a := by
  cases r with
  | error e => cases h
  | ok b => exact congrArg Except.ok (Option.some.inj h)

theorem exists_of_mem_mapM {f : α → Except Failure β} {as : List α} {bs : List β}
    (h : as.mapM f = .ok bs) {b : β} (hb : b ∈ bs) : ∃ a ∈ as, f a = .ok b := by
  induction as generalizing bs with
  | nil =>
    cases h
    cases hb
  | cons a as ih =>
    rw [List.mapM_cons] at h
    -- The first item and the rest have both come to something.
    obtain ⟨first, hfirst, h⟩ := ok_of_bind h
    obtain ⟨rest, hrest, heq⟩ := ok_of_bind h
    cases heq
    rcases List.mem_cons.1 hb with rfl | hb
    · exact ⟨a, List.mem_cons_self, hfirst⟩
    · obtain ⟨other, hother, hb⟩ := ih hrest hb
      exact ⟨other, List.mem_cons_of_mem a hother, hb⟩

theorem mapError_ok (a : α) (f : Failure → Failure) :
    (Except.ok a : Except Failure α).mapError f = .ok a := rfl

theorem mapError_error (e : Failure) (f : Failure → Failure) :
    (Except.error e : Except Failure α).mapError f = .error (f e) := rfl

namespace Work

/-! ## Runs -/

theorem bind_run (w : Work α) (f : α → Work β) (s : State) :
    (w >>= f).run.run s = match w.run.run s with
      | (.ok a, t) => (f a).run.run t
      | (.error e, t) => (.error e, t) := by
  rw [ExceptT.run_bind, StateT.run_bind]
  generalize w.run.run s = r
  rcases r with ⟨e | a, t⟩
  · rfl
  · rfl

theorem bind_run_ok {w : Work α} {s t : State} {a : α} (h : w.run.run s = (.ok a, t))
    (f : α → Work β) : (w >>= f).run.run s = (f a).run.run t := by
  rw [bind_run, h]

theorem bind_run_error {w : Work α} {s t : State} {e : Failure} (h : w.run.run s = (.error e, t))
    (f : α → Work β) : (w >>= f).run.run s = (.error e, t) := by
  rw [bind_run, h]

theorem get_run (s : State) : (get : Work State).run.run s = (.ok s, s) := rfl

theorem check_bind_run (r : Except Failure α) (f : α → Work β) (s : State) :
    (check r >>= f).run.run s = match r with
      | .ok a => (f a).run.run s
      | .error e => (.error e, s) := by
  rw [bind_run, check_run]
  cases r <;> rfl

theorem check_map (r : Except Failure α) (f : α → β) :
    check (r.map f) = check r >>= fun a => pure (f a) := by
  cases r <;> rfl

theorem tryCatch_run (w : Work α) (handle : Failure → Work α) (s : State) :
    (tryCatch w handle).run.run s = match w.run.run s with
      | (.ok a, t) => (.ok a, t)
      | (.error e, t) => (handle e).run.run t := by
  rw [ExceptT.run_tryCatch, StateT.run_bind]
  generalize w.run.run s = r
  rcases r with ⟨e | a, t⟩
  · rfl
  · rfl

/-! ## What work comes to on its own -/

def answer (w : Work α) (r : Remote) : Except Failure α := (w.run.run (.facing r)).1

def events (w : Work α) (r : Remote) : List Event := (w.run.run (.facing r)).2.trace

/-- From any state, work comes to what it comes to on its own, and adds what it does. -/
def Uncached (w : Work α) : Prop :=
  ∀ s, w.run.run s = (w.answer s.remote, s.adding (w.events s.remote))

theorem Uncached.of_run {w : Work α} {answer : Remote → Except Failure α}
    {events : Remote → List Event}
    (h : ∀ s, w.run.run s = (answer s.remote, s.adding (events s.remote))) :
    w.Uncached ∧ w.answer = answer ∧ w.events = events := by
  have hanswer : w.answer = answer := by
    funext r
    rw [Work.answer, h]
    rfl
  have hevents : w.events = events := by
    funext r
    rw [Work.events, h]
    rfl
  refine ⟨fun s => ?_, hanswer, hevents⟩
  rw [h, hanswer, hevents]

theorem pure_uncached (a : α) : (pure a : Work α).Uncached := by
  intro s
  show (Except.ok a, s) = (Except.ok a, s.adding [])
  simp [State.adding]

theorem throw_uncached (e : Failure) : (throw e : Work α).Uncached := by
  intro s
  show (Except.error e, s) = (Except.error e, s.adding [])
  simp [State.adding]

theorem check_uncached (r : Except Failure α) : (check r).Uncached := by
  intro s
  show (r, s) = (r, s.adding [])
  simp [State.adding]

@[simp] theorem events_check (a : Except Failure α) (r : Remote) : (check a).events r = [] := rfl

/-! ## One after another -/

theorem answer_bind {w : Work α} {f : α → Work β} (hw : w.Uncached) (hf : ∀ a, (f a).Uncached)
    (r : Remote) : (w >>= f).answer r = (w.answer r).bind fun a => (f a).answer r := by
  rw [answer, bind_run, hw]
  show _ = (w.answer (State.facing r).remote).bind _
  cases w.answer (State.facing r).remote with
  | error e => rfl
  | ok a =>
    show ((f a).run.run _).1 = _
    rw [hf a]
    rfl

theorem events_bind {w : Work α} {f : α → Work β} (hw : w.Uncached) (hf : ∀ a, (f a).Uncached)
    (r : Remote) :
    (w >>= f).events r = w.events r ++ match w.answer r with
      | .ok a => (f a).events r
      | .error _ => [] := by
  rw [events, bind_run, hw]
  show _ = w.events (State.facing r).remote ++ match w.answer (State.facing r).remote with
    | .ok a => (f a).events r
    | .error _ => []
  cases w.answer (State.facing r).remote with
  | error e => simp [State.adding, State.facing]
  | ok a =>
    show ((f a).run.run _).2.trace = _
    rw [hf a]
    rfl

theorem Uncached.bind {w : Work α} {f : α → Work β} (hw : w.Uncached) (hf : ∀ a, (f a).Uncached) :
    (w >>= f).Uncached := by
  intro s
  rw [answer_bind hw hf, events_bind hw hf, bind_run, hw]
  cases w.answer s.remote with
  | error e => simp [Except.bind]
  | ok a =>
    show (f a).run.run _ = _
    rw [hf a]
    simp [Except.bind, State.adding]

/-! ## Work without the cache -/

def KeepsCache (w : Work α) : Prop := ∀ st, (w.run.run st).2.cache = st.cache

variable {w : Work α} {f : α → Work β}

theorem Uncached.keepsCache (h : w.Uncached) : w.KeepsCache := by
  intro st
  rw [h st]
  rfl

theorem bind_cache (hf : ∀ a, (f a).KeepsCache) (st : State) :
    ((w >>= f).run.run st).2.cache = (w.run.run st).2.cache := by
  rw [bind_run]
  rcases w.run.run st with ⟨e | a, t⟩
  · rfl
  · exact hf a t

theorem KeepsCache.bind (hw : w.KeepsCache) (hf : ∀ a, (f a).KeepsCache) : (w >>= f).KeepsCache :=
  fun st => (bind_cache hf st).trans (hw st)

theorem KeepsCache.tryCatch {handle : Failure → Work α} (hw : w.KeepsCache)
    (hhandle : ∀ e, (handle e).KeepsCache) : (tryCatch w handle).KeepsCache := by
  intro st
  have hfirst := hw st
  rw [tryCatch_run]
  rcases hrun : w.run.run st with ⟨e | a, t⟩
  · rw [hrun] at hfirst
    exact (hhandle e t).trans hfirst
  · simpa [hrun] using hfirst

end Work

end NetLookup
