import NetLookup.Proofs.Supplies

/-! # Every value comes from the last answer that supplied it

The remote side may answer differently each time. A lookup then uses what the last answer to a lookup of
its kind supplied for its key, until that reaches its deadline, and passes on every other key. -/

namespace NetLookup

/-! ## The past -/

def Step.supplies (s : Settings) (cache : Cache Stored) : Step → List (Cache.Store Stored)
  | .call op m => op.supplies s m (op.outcome s m cache).2
  | .purge _ => []

/-- The cache after a session, and all that was supplied in it, the earliest first. -/
def past (s : Settings) (steps : List Step) : Cache Stored × List (Cache.Store Stored) :=
  steps.foldl (fun p step => (step.cacheAfter s p.1, p.2 ++ step.supplies s p.1)) (.empty, [])

structure Sound (p : Cache Stored × List (Cache.Store Stored)) (now : Float) : Prop where
  distinct : p.1.Distinct
  recalls : ∀ slot : Slot, slot.keyed → p.1.Recalls slot (Cache.storedTo slot p.2).getLast? now
  present : ∀ x ∈ p.2, x.2.1.isNull = false

namespace Sound

variable {s : Settings} {p : Cache Stored × List (Cache.Store Stored)} {now : Float}

theorem start (now : Float) : Sound (.empty, []) now where
  distinct := Cache.distinct_empty
  recalls slot _ := .of_empty slot now
  present x hx := by cases hx

theorem later (h : Sound p now) {later : Float} (hl : StaysReached now later) : Sound p later where
  distinct := h.distinct
  recalls slot hslot := (h.recalls slot hslot).later hl
  present := h.present

theorem call (op : Operation) {m : Moment} (h : Sound p m.clock) (hids : m.remote.IdsPresent) :
    Sound (op.cacheAfter s m p.1, p.2 ++ op.supplies s m (op.outcome s m p.1).2) m.clock := by
  have hpresent : ∀ x ∈ p.2 ++ op.supplies s m (op.outcome s m p.1).2, x.2.1.isNull = false := by
    intro x hx
    rcases List.mem_append.1 hx with hx | hx
    · exact h.present x hx
    · exact op.supplies_present hids _ x hx
  cases heffect : op.effect? s with
  | none =>
    -- An operation that leaves the cache alone supplies nothing.
    rw [op.cacheAfter_kept m p.1 heffect]
    refine ⟨h.distinct, fun slot hslot => ?_, hpresent⟩
    rw [Operation.supplies_of_no_effect heffect, List.append_nil]
    exact h.recalls slot hslot
  | some E =>
    have hused := op.cacheAfter_used m p.1 heffect
    refine ⟨hused.distinct h.distinct, fun slot hslot => ?_, hpresent⟩
    have hrecalls := hused.recalls (h.recalls slot hslot)
    have hstores := Operation.storedTo_stores heffect m (m.state p.1).live hslot
    rw [show (m.state p.1).sight = m.sight (m.state p.1).live from rfl, hstores] at hrecalls
    rw [op.outcome_eq m p.1 heffect, Cache.storedTo_append, List.getLast?_append]
    exact hrecalls

theorem step {step : Step} (h : Sound p step.clock)
    (hids : ∀ op m, step = .call op m → m.remote.IdsPresent) :
    Sound (step.cacheAfter s p.1, p.2 ++ step.supplies s p.1) step.clock := by
  cases step with
  | call op m => exact Sound.call op h (hids op m rfl)
  | purge now =>
    show Sound ((p.1.purge now).2, p.2 ++ []) now
    rw [List.append_nil]
    exact ⟨h.distinct.purge now, fun slot hslot => (h.recalls slot hslot).purge h.distinct, h.present⟩

end Sound

section Congruence

variable {m : Moment} {live other : Slot → Option Stored}

end Congruence

def Effect.shown {α : Type} (E : Effect α) (answer : α → Answer) : Except Failure Answer × List Event :=
  (E.answer.map answer, E.events)

def namedSubnet (name id : String) : Json :=
  .obj [("SubnetId", .str id), ("Tags", .arr [.obj [("Key", .str "Name"), ("Value", .str name)]])]

def inOneNetwork : Settings := { vpcId := some "network" }

end NetLookup
