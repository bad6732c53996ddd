import NetLookup.Proofs.Clock
import NetLookup.Proofs.Remembered
import NetLookup.Proofs.Json.Parts

/-! # Many names at once

Names may repeat, some of them may be cached, and the answer may tell of names that nobody asked for. The
cached ids come first, and then those of the records; what is remembered of each name is its last record. -/

namespace NetLookup

/-! ## The names of records -/

def Kind.tagged : Kind := record [("Tags", orNull (list (record [("Value", orNull text)])))]

/-- The text of the first tag named `Name`. Without such a tag there is no name, nor with a null one. -/
def nameOf (record : Json) : Option String :=
  ((record.fieldOr "Tags" .null).items.find? fun tag =>
    (tag.fieldOr "Key" .empty).text? == some "Name").bind fun tag => (tag.fieldOr "Value" .empty).text?

theorem Tags.name?_pairIn {tags : List Json}
    (h : ∀ tag ∈ tags, (Kind.record [("Value", .orNull .text)]) tag) :
    Tags.name? (tags.map pairIn)
      = ((tags.find? fun tag => (tag.fieldOr "Key" .empty).text? == some "Name").bind
          fun tag => (tag.fieldOr "Value" .empty).text?).map .str := by
  have hfind : (tags.map pairIn).find? (fun t => t.1.same nameKey)
      = (tags.find? fun tag => (tag.fieldOr "Key" .empty).text? == some "Name").map pairIn := by
    rw [List.find?_map]
    simp only [Function.comp_def, pairIn, nameKey, Json.same_str_eq]
  unfold name? value?
  rw [hfind]
  cases hfirst : tags.find? fun tag => (tag.fieldOr "Key" .empty).text? == some "Name" with
  | none => rfl
  | some tag =>
    have hvalue : (Kind.orNull .text) (tag.fieldOr "Value" .empty) :=
      Kind.record.fieldOr (h tag (List.mem_of_find?_eq_some hfirst)) (by simp) (Or.inr ⟨"", rfl⟩)
    simp only [Option.map_some, pairIn, Option.bind_some]
    rcases hvalue with hnull | ⟨text, htext⟩
    · rw [hnull]
      rfl
    · rw [htext]
      rfl

namespace NameLookup

variable {n : NameLookup} {record : Json} {records : List Json}

def idField : NameLookup → String
  | subnets => "SubnetId"
  | groups => "GroupId"

def idOf (n : NameLookup) (record : Json) : Json := record.fieldOr n.idField .empty

/-- Whether the id of a record is answered: that of a subnet only if it has a name. -/
def counts : NameLookup → Json → Bool
  | subnets, record => (nameOf record).isSome
  | groups, _ => true

theorem read_eq (n : NameLookup) (h : Kind.tagged record) :
    n.read record = .ok ((nameOf record).map .str, n.idOf record) := by
  have hfield (name : String) : record.fieldOrEmpty name = .ok (record.fieldOr name .empty) :=
    Kind.record.fieldD_eq h name .empty
  have htags : (Kind.orNull (Kind.list (Kind.record [("Value", .orNull .text)])))
      (record.fieldOr "Tags" .null) := Kind.record.fieldOr h (by simp) (Or.inl rfl)
  have hname : Tags.name? ((record.fieldOr "Tags" .null).items.map Tags.pairIn)
      = (nameOf record).map .str := by
    refine Tags.name?_pairIn fun tag htag => ?_
    rcases htags with hnull | hlist
    · rw [hnull] at htag
      cases htag
    · exact Kind.list.of_mem_items hlist htag
  have hraw := Kind.record.fieldD_eq h "Tags" .null
  cases n with
  | subnets =>
    unfold read Subnet.nameAndId Subnet.ofJson
    simp only [hfield, hraw, bind, Except.bind, Tags.ofJson_eq htags, pure, Except.pure, Except.map,
      Subnet.name?, hname]
    rfl
  | groups =>
    unfold read SecurityGroup.nameAndId SecurityGroup.ofJson
    simp only [hfield, hraw, bind, Except.bind, Tags.ofJson_eq htags, pure, Except.pure, Except.map,
      SecurityGroup.name?, hname]
    rfl

end NameLookup

/-! ## The cache of a lookup by name -/

namespace View

end View

namespace NameLookup

variable {n : NameLookup} {s : Settings} {record : Json} {records : List Json}

section Listed

variable {names : List String} {m : Moment} {cache : Cache Stored} {network : Json}

end Listed

end NameLookup

end NetLookup
