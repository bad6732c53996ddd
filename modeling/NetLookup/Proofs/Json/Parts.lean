import NetLookup.Proofs.Documented

/-! # The parts of values

Where a value is of the kind that its use asks for, taking it apart does not fail, and gives the parts that
are named here. -/

namespace NetLookup

/-! ## Parts -/

namespace Json

def fieldOr (v : Json) (name : String) (default : Json) : Json :=
  match v with
  | obj fields => (fields.lookup name).getD default
  | _ => default

def items : Json → List Json
  | arr items => items
  | _ => []

theorem same_str_eq (v : Json) (s : String) : v.same (.str s) = (v.text? == some s) := by
  cases v <;> simp [same, text?]

end Json

/-! ## Reading -/

namespace Kind

variable {k : Kind} {v : Json} {fields : List (String × Kind)} {name : String}

theorem record.fieldD_eq (h : (record fields) v) (name : String) (default : Json) :
    v.fieldD name default = .ok (v.fieldOr name default) := by
  obtain ⟨present, rfl, -⟩ := h
  rfl

theorem record.fieldOr (h : (record fields) v) (hfield : (name, k) ∈ fields) {default : Json}
    (hdefault : k default) : k (v.fieldOr name default) :=
  Ends.result (record.fieldD (R := fun _ => True) h hfield hdefault) (record.fieldD_eq h name default)

theorem list.elements_eq (h : (list k) v) : v.elements = .ok v.items := by
  obtain ⟨items, rfl, -⟩ := h
  rfl

theorem list.of_mem_items (h : (list k) v) {x : Json} (hx : x ∈ v.items) : k x := by
  obtain ⟨items, rfl, hitems⟩ := h
  exact hitems x hx

end Kind

theorem mapM_eq_map {α β : Type} {f : α → Except Failure β} {g : α → β} {as : List α}
    (h : ∀ a ∈ as, f a = .ok (g a)) : as.mapM f = .ok (as.map g) := by
  induction as with
  | nil => rfl
  | cons a as ih =>
    rw [List.mapM_cons, h a List.mem_cons_self, ih fun b hb => h b (List.mem_cons_of_mem a hb)]
    rfl

/-! ## Tags -/

namespace Tags

def pairIn (tag : Json) : Json × Json := (tag.fieldOr "Key" .empty, tag.fieldOr "Value" .empty)

variable {fields : List (String × Kind)}

theorem pairOf_eq {tag : Json} (h : (Kind.record fields) tag) : pairOf tag = .ok (pairIn tag) := by
  unfold pairOf Json.fieldOrEmpty
  rw [Kind.record.fieldD_eq h, Kind.record.fieldD_eq h]
  rfl

theorem mapM_pairOf {tags : List Json} (h : ∀ tag ∈ tags, (Kind.record fields) tag) :
    tags.mapM pairOf = .ok (tags.map pairIn) :=
  mapM_eq_map fun tag htag => pairOf_eq (h tag htag)

theorem ofJson_eq {raw : Json} (h : (Kind.orNull (Kind.list (Kind.record fields))) raw) :
    ofJson raw = .ok (raw.items.map pairIn) := by
  rcases h with rfl | ⟨tags, rfl, htags⟩
  · rfl
  · unfold ofJson
    cases tags with
    | nil => rfl
    | cons tag tags => exact mapM_pairOf htags

end Tags

end NetLookup
