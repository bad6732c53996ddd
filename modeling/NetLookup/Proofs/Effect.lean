import NetLookup.Lookup.Remembered
import NetLookup.Proofs.Cache.Used
import NetLookup.Proofs.Work

/-! # The effect of work

Work sees the live values of the cache, the remote side and the clock. Its effect is what it answers, what
it does to the remote side, and what it stores. -/

namespace NetLookup

variable {α β : Type}

/-! ## Effects -/

structure Effect (α : Type) where
  answer : Except Failure α
  events : List Event
  stores : List (Cache.Store Stored)

namespace Effect

def of (answer : Except Failure α) : Effect α := ⟨answer, [], []⟩

def andThen (E : Effect α) (F : α → Effect β) : Effect β :=
  match E.answer with
  | .ok a => ⟨(F a).answer, E.events ++ (F a).events, E.stores ++ (F a).stores⟩
  | .error e => ⟨.error e, E.events, E.stores⟩

def map (f : α → β) (E : Effect α) : Effect β := ⟨E.answer.map f, E.events, E.stores⟩

theorem answer_andThen (E : Effect α) (F : α → Effect β) :
    (E.andThen F).answer = E.answer.bind fun a => (F a).answer := by
  unfold andThen
  cases E.answer <;> rfl

theorem of_andThen (r : Except Failure α) (F : α → Effect β) :
    (of r).andThen F = match r with
      | .ok a => F a
      | .error e => of (.error e) := by
  cases r with
  | error e => rfl
  | ok a => simp [of, andThen]

theorem map_of_ok (a : α) (f : α → β) : (of (.ok a)).map f = of (.ok (f a)) := rfl

theorem andThen_of (E : Effect α) (f : α → β) : (E.andThen fun a => of (.ok (f a))) = E.map f := by
  obtain ⟨answer, events, stores⟩ := E
  cases answer <;> simp [andThen, of, map, Except.map]

theorem mem_stores_andThen {E : Effect α} {F : α → Effect β} {x : Cache.Store Stored}
    (h : x ∈ (E.andThen F).stores) :
    x ∈ E.stores ∨ ∃ a, E.answer = .ok a ∧ x ∈ (F a).stores := by
  unfold andThen at h
  cases ha : E.answer with
  | error e =>
    rw [ha] at h
    exact Or.inl h
  | ok a =>
    rw [ha] at h
    rcases List.mem_append.1 h with h | h
    · exact Or.inl h
    · exact Or.inr ⟨a, rfl, h⟩

end Effect

/-! ## What work sees -/

/-- What of a state work can look at. -/
structure Sight where
  /-- The value that a read of a slot uses. -/
  live : Slot → Option Stored
  remote : Remote
  clock : Float

/-- A live value counts unless it is null. -/
def State.live (st : State) (slot : Slot) : Option Stored :=
  (st.cache.get slot st.clock).1.filter (!·.isNull)

theorem isNull_plain {v : Json} (h : v ≠ .null) : (Stored.plain v).isNull = false := by
  cases v <;> first | rfl | exact absurd rfl h

def State.sight (st : State) : Sight := ⟨st.live, st.remote, st.clock⟩

theorem Cache.Used.get_eq {γ : Type} {now : Float} {c d : Cache γ} {stores : List (Cache.Store γ)}
    (h : Cache.Used now stores c d) (hs : stores = []) (slot : Slot) :
    (d.get slot now).1 = (c.get slot now).1 := by
  induction h with
  | refl => rfl
  | get _ s ih =>
    rw [← ih hs, get_answer, get_answer, find?_get]
    split
    · rename_i hslot
      rw [hslot, Option.filter_filter]
      simp
    · rfl
  | set => simp at hs

theorem State.sight_of_used {st : State} {cache : Cache Stored}
    (h : Cache.Used st.clock [] st.cache cache) (trace : List Event) :
    State.sight { st with cache := cache, trace := trace } = st.sight := by
  have hlive : State.live { st with cache := cache, trace := trace } = st.live := by
    funext slot
    simp only [State.live, h.get_eq rfl slot]
  simp only [State.sight, hlive]

/-! ## The effect that work has -/

def Work.Yields (w : Work α) (st : State) (E : Effect α) : Prop :=
  ∃ cache, w.run.run st = (E.answer, { st with cache := cache, trace := st.trace ++ E.events }) ∧
    Cache.Used st.clock E.stores st.cache cache

/-- From every state, work has the effect that belongs to what it sees. -/
def Work.Does (w : Work α) (E : Sight → Effect α) : Prop := ∀ st, w.Yields st (E st.sight)

namespace Work

variable {w : Work α} {E : Sight → Effect α} {f : α → Work β} {F : α → Sight → Effect β}

theorem Uncached.does (h : w.Uncached) :
    w.Does fun seen => ⟨w.answer seen.remote, w.events seen.remote, []⟩ :=
  fun st => ⟨st.cache, h st, .refl st.cache⟩

theorem check_does (r : Except Failure α) : (check r).Does fun _ => .of r :=
  (check_uncached r).does

theorem pure_does (a : α) : (pure a : Work α).Does fun _ => .of (.ok a) :=
  (pure_uncached a).does

theorem throw_does (e : Failure) : (throw e : Work α).Does fun _ => .of (.error e) :=
  (throw_uncached e).does

theorem read_does (v : View) (key : String) :
    (v.read key).Does fun seen => .of (.ok (seen.live (v.slot (.text key)))) := by
  intro st
  refine ⟨(v.get st.cache (.text key) st.clock).2, ?_, (Cache.Used.refl _).get _⟩
  rw [View.read_run]
  simp [Effect.of, State.sight, State.live, View.get]

theorem write_does (v : View) (key : Key) (value : Stored) (label : Json) :
    (v.write key value label).Does fun seen =>
      ⟨.ok (), [], [(v.slot key, value, v.ttl.deadline seen.clock)]⟩ := by
  intro st
  refine ⟨v.set st.cache key value st.clock v.ttl label, ?_, (Cache.Used.refl _).set _ _ _ _⟩
  rw [View.write_run]
  simp

theorem Yields.bind {st : State} {A : Effect α} {B : α → Effect β} (hw : w.Yields st A)
    (hf : ∀ a cache trace, Cache.Used st.clock A.stores st.cache cache →
      (f a).Yields { st with cache := cache, trace := trace } (B a)) :
    (w >>= f).Yields st (A.andThen B) := by
  obtain ⟨cache, hrun, hused⟩ := hw
  cases ha : A.answer with
  | error e =>
    rw [ha] at hrun
    refine ⟨cache, ?_, ?_⟩
    · rw [bind_run_error hrun]
      simp [Effect.andThen, ha]
    · simpa [Effect.andThen, ha] using hused
  | ok a =>
    rw [ha] at hrun
    obtain ⟨later, hlater, hmore⟩ := hf a cache (st.trace ++ A.events) hused
    refine ⟨later, ?_, ?_⟩
    · rw [bind_run_ok hrun, hlater]
      simp [Effect.andThen, ha]
    · simpa [Effect.andThen, ha] using hused.trans hmore

theorem Does.bind (hw : w.Does E) (hE : ∀ seen, (E seen).stores = []) (hf : ∀ a, (f a).Does (F a)) :
    (w >>= f).Does fun seen => (E seen).andThen fun a => F a seen := by
  intro st
  refine (hw st).bind fun a cache trace hused => ?_
  rw [hE] at hused
  rw [← State.sight_of_used hused trace]
  exact hf a _

/-- Work that does not look at the cache may follow any other work. -/
theorem Does.bind_blind (hw : w.Does E) (hf : ∀ a, (f a).Does (F a))
    (hF : ∀ a seen live, F a { seen with live := live } = F a seen) :
    (w >>= f).Does fun seen => (E seen).andThen fun a => F a seen := by
  intro st
  refine (hw st).bind fun a cache trace _ => ?_
  have hsight := hF a st.sight (State.live { st with cache := cache, trace := trace })
  rw [← hsight]
  exact hf a { st with cache := cache, trace := trace }

theorem Does.map (hw : w.Does E) (g : α → β) :
    (w >>= fun a => pure (g a)).Does fun seen => (E seen).map g := by
  have h := hw.bind_blind (fun a => pure_does (g a)) fun _ _ _ => rfl
  simp only [Effect.andThen_of] at h
  exact h

end Work

end NetLookup
