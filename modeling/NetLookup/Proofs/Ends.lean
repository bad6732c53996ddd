import NetLookup.Failure.Code
import NetLookup.Proofs.Work
import NetLookup.Snapshot

/-! # How computations end

A computation ends with a result of which one thing holds, or with a failure of which another does. Those
that only take values apart fail in one way: a value is not of the kind that its use asks for. -/

namespace NetLookup

variable {α β : Type}

/-! ## Ends -/

/-- What holds of the result, or else of the failure. -/
def Ends (P : α → Prop) (R : Failure → Prop) : Except Failure α → Prop
  | .ok a => P a
  | .error e => R e

namespace Ends

variable {P P' : α → Prop} {Q : β → Prop} {R S : Failure → Prop} {r : Except Failure α}

theorem failure (h : Ends P R r) {e : Failure} (he : r = .error e) : R e := by
  rw [he] at h
  exact h

theorem result (h : Ends P R r) {a : α} (ha : r = .ok a) : P a := by
  rw [ha] at h
  exact h

theorem bind {f : α → Except Failure β} (h : Ends P R r) (hf : ∀ a, P a → Ends Q R (f a)) :
    Ends Q R (r.bind f) := by
  cases r with
  | ok a => exact hf a h
  | error e => exact h

theorem map {f : α → β} (h : Ends P R r) (hf : ∀ a, P a → Q (f a)) : Ends Q R (r.map f) := by
  cases r with
  | ok a => exact hf a h
  | error e => exact h

theorem mapError {f : Failure → Failure} (h : Ends P R r) (hf : ∀ e, R e → S (f e)) :
    Ends P S (r.mapError f) := by
  cases r with
  | ok a => exact h
  | error e => exact hf e h

theorem mono (h : Ends P R r) (hP : ∀ a, P a → P' a) (hR : ∀ e, R e → S e) : Ends P' S r := by
  cases r with
  | ok a => exact hP a h
  | error e => exact hR e h

theorem mapM {f : α → Except Failure β} {as : List α} (h : ∀ a ∈ as, Ends Q R (f a)) :
    Ends (∀ b ∈ ·, Q b) R (as.mapM f) := by
  induction as with
  | nil => exact fun b hb => by cases hb
  | cons a as ih =>
    rw [List.mapM_cons]
    refine (h a List.mem_cons_self).bind fun first hfirst => ?_
    refine (ih fun a ha => h a (List.mem_cons_of_mem _ ha)).bind fun rest hrest => ?_
    exact List.forall_mem_cons.2 ⟨hfirst, hrest⟩

end Ends

/-! ## Faults -/

namespace Failure

def IsFault (e : Failure) : Prop := ∃ f, e = .fault f

theorem IsFault.foreign {e : Failure} (h : e.IsFault) : e.isOwn = false := by
  obtain ⟨f, rfl⟩ := h
  rfl

end Failure

def OnlyFaults (r : Except Failure α) : Prop := Ends (fun _ => True) Failure.IsFault r

namespace OnlyFaults

theorem ok (a : α) : OnlyFaults (.ok a) := trivial

theorem fault (f : Fault) : OnlyFaults (.error (.fault f) : Except Failure α) := ⟨f, rfl⟩

theorem bind {r : Except Failure α} {f : α → Except Failure β} (h : OnlyFaults r)
    (hf : ∀ a, OnlyFaults (f a)) : OnlyFaults (r.bind f) :=
  Ends.bind h fun a _ => hf a

theorem map {r : Except Failure α} {f : α → β} (h : OnlyFaults r) : OnlyFaults (r.map f) :=
  Ends.map h fun _ _ => trivial

theorem mapM {f : α → Except Failure β} {as : List α} (h : ∀ a, OnlyFaults (f a)) :
    OnlyFaults (as.mapM f) :=
  (Ends.mapM fun a _ => h a).mono (fun _ _ => trivial) fun _ he => he

end OnlyFaults

/-! ## Taking values apart -/

theorem Json.fieldD_onlyFaults (v : Json) (name : String) (default : Json) :
    OnlyFaults (v.fieldD name default) := by
  cases v with
  | obj fields => exact .ok _
  | _ => exact .fault .noMember

theorem Json.elements_onlyFaults (v : Json) : OnlyFaults v.elements := by
  cases v with
  | arr | str | obj => exact .ok _
  | _ => exact .fault .wrongType

theorem Json.size_onlyFaults (v : Json) : OnlyFaults v.size :=
  (Json.elements_onlyFaults v).bind fun _ => .ok _

theorem Json.first_onlyFaults (v : Json) : OnlyFaults v.first := by
  unfold Json.first
  split
  · exact .ok _
  · exact .ok _
  · exact .fault _
  · exact .fault _
  · exact .fault _

theorem Key.ofJson_onlyFaults (v : Json) : OnlyFaults (Key.ofJson v) := by
  cases v with
  | null | bool | num | frac | str => exact .ok _
  | _ => exact .fault .wrongType

theorem Json.sorted_onlyFaults (vs : List Json) : OnlyFaults (Json.sorted vs) := by
  unfold Json.sorted
  split
  · exact .ok _
  · exact .fault .wrongType

theorem Tags.pairOf_onlyFaults (tag : Json) : OnlyFaults (Tags.pairOf tag) :=
  (Json.fieldD_onlyFaults tag _ _).bind fun _ => (Json.fieldD_onlyFaults tag _ _).bind fun _ => .ok _

theorem Tags.ofJson_onlyFaults (raw : Json) : OnlyFaults (Tags.ofJson raw) := by
  unfold Tags.ofJson
  split
  · exact (Json.elements_onlyFaults raw).bind fun _ => .mapM Tags.pairOf_onlyFaults
  · exact .ok []

theorem Subnet.ofJson_onlyFaults (record : Json) : OnlyFaults (Subnet.ofJson record) := by
  have field (name : String) (default : Json) := Json.fieldD_onlyFaults record name default
  exact (field _ _).bind fun _ => (field _ _).bind fun _ => (field _ _).bind fun _ =>
    (field _ _).bind fun _ => (field _ _).bind fun tags => (Tags.ofJson_onlyFaults tags).bind fun _ =>
      .ok _

theorem SecurityGroup.ofJson_onlyFaults (record : Json) :
    OnlyFaults (SecurityGroup.ofJson record) := by
  have field (name : String) (default : Json) := Json.fieldD_onlyFaults record name default
  exact (field _ _).bind fun _ => (field _ _).bind fun _ => (field _ _).bind fun _ =>
    (field _ _).bind fun _ => (field _ _).bind fun tags => (Tags.ofJson_onlyFaults tags).bind fun _ =>
      .ok _

theorem Vpc.ofJson_onlyFaults (record : Json) : OnlyFaults (Vpc.ofJson record) := by
  have field (name : String) (default : Json) := Json.fieldD_onlyFaults record name default
  exact (field _ _).bind fun _ => (field _ _).bind fun _ => (field _ _).bind fun _ =>
    (field _ _).bind fun _ => (field _ _).bind fun tags => (Tags.ofJson_onlyFaults tags).bind fun _ =>
      .ok _

theorem Instance.ofJson_onlyFaults (record : Json) : OnlyFaults (Instance.ofJson record) := by
  have field (v : Json) (name : String) (default : Json) := Json.fieldD_onlyFaults v name default
  exact (field _ _ _).bind fun _ => (field _ _ _).bind fun _ => (field _ _ _).bind fun _ =>
    (field _ _ _).bind fun _ => (field _ _ _).bind fun _ => (field _ _ _).bind fun _ =>
      (field _ _ _).bind fun _ => (field _ _ _).bind fun _ => (field _ _ _).bind fun tags =>
        (Tags.ofJson_onlyFaults tags).bind fun _ => .ok _

theorem InstanceStatus.ofJson_onlyFaults (record : Json) :
    OnlyFaults (InstanceStatus.ofJson record) := by
  have field (v : Json) (name : String) (default : Json) := Json.fieldD_onlyFaults v name default
  exact (field _ _ _).bind fun _ => (field _ _ _).bind fun _ => (field _ _ _).bind fun _ =>
    (field _ _ _).bind fun _ => .ok _

theorem running_onlyFaults (stateCode : Json) : OnlyFaults (running stateCode) := by
  unfold running
  split
  · exact .ok _
  · exact .fault _

theorem Stored.asSubnet_onlyFaults (stored : Stored) : OnlyFaults stored.asSubnet := by
  cases stored with
  | subnet s => exact .ok s
  | _ => exact .fault .noMember

theorem Failure.codeAmong_onlyFaults (codes : List String) (e : Failure) : OnlyFaults (e.codeAmong codes) := by
  unfold codeAmong
  split
  · exact .ok _
  · exact .fault _
  · exact .fault _
  · exact .ok _

end NetLookup
