import NetLookup.Proofs.Json.Parts
import NetLookup.Proofs.Lookup.Candidates

/-! # The index of a cluster

A resource that is listed more than once has one place, and that under one kind. The place comes from its
first mention, and the tags come from its last one. -/

namespace NetLookup

/-! ## Mentions -/

/-- A mapping whose name, where it has one, is a text, and whose tags are a list of objects. -/
def Kind.mapping : Kind := record [("ResourceARN", text), ("Tags", list (record []))]

namespace Mapping

def arnIn (record : Json) : String := ((record.fieldOr "ResourceARN" .empty).text?).getD ""

def tagsIn (record : Json) : Tags := (record.fieldOr "Tags" (.arr [])).items.map Tags.pairIn

theorem ofJson_eq {record : Json} (h : Kind.mapping record) :
    ofJson record = .ok ⟨arnIn record, tagsIn record⟩ := by
  have harn : Kind.text (record.fieldOr "ResourceARN" .empty) := Kind.record.fieldOr h (by simp) ⟨"", rfl⟩
  have htags : (Kind.list (Kind.record [])) (record.fieldOr "Tags" (.arr [])) :=
    Kind.record.fieldOr h (by simp) ⟨[], rfl, by simp⟩
  obtain ⟨arn, harn⟩ := harn
  unfold ofJson Json.fieldOrEmpty arnIn tagsIn
  simp only [Kind.record.fieldD_eq h, Kind.list.elements_eq htags, bind, Except.bind, harn,
    Tags.mapM_pairOf fun tag htag => Kind.list.of_mem_items htags htag]
  rfl

end Mapping

/-! ## Places -/

theorem pairwise_idxOf_eraseDups {β : Type} [DecidableEq β] (p : β → Bool) (as : List β) :
    (as.filter p).eraseDups.Pairwise fun a b => as.idxOf a < as.idxOf b := by
  induction as using List.reverseRecOn with
  | nil => exact List.Pairwise.nil
  | append_singleton as a ih =>
    have hmem {b : β} (hb : b ∈ (as.filter p).eraseDups) : b ∈ as :=
      List.mem_of_mem_filter (List.mem_eraseDups.1 hb)
    -- A further value at the end moves no place.
    have hearlier : (as.filter p).eraseDups.Pairwise fun b c => (as ++ [a]).idxOf b < (as ++ [a]).idxOf c := by
      refine ih.imp_of_mem fun hb hc hlt => ?_
      rwa [List.idxOf_append_of_mem (hmem hb), List.idxOf_append_of_mem (hmem hc)]
    rw [List.filter_append]
    cases hp : p a with
    | false => simpa [hp] using hearlier
    | true =>
      rw [List.filter_cons_of_pos hp, List.filter_nil, eraseDups_snoc]
      split
      · exact hearlier
      · rename_i hnew
        -- A new value comes last, behind the places of all others.
        have hnew : a ∉ as := fun ha => hnew (List.mem_filter.2 ⟨ha, hp⟩)
        refine List.pairwise_append.2 ⟨hearlier, List.pairwise_singleton _ _, fun b hb c hc => ?_⟩
        obtain rfl := List.mem_singleton.1 hc
        rw [List.idxOf_append_of_mem (hmem hb), List.idxOf_append_of_notMem hnew]
        have hlt := List.idxOf_lt_length_of_mem (hmem hb)
        omega

/-! ## Kinds -/

namespace ResourceKind

/-- The type that the names of the resources of a kind have; all other types are of one kind. -/
def Holds (kind : ResourceKind) (arn : String) : Prop :=
  match kind with
  | subnet => Arn.resourceType arn = "subnet"
  | securityGroup => Arn.resourceType arn = "security-group"
  | loadBalancer => Arn.resourceType arn = "loadbalancer"
  | targetGroup => Arn.resourceType arn = "targetgroup"
  | other => Arn.resourceType arn ∉ ["subnet", "security-group", "loadbalancer", "targetgroup"]

theorem ofArn_eq_iff {kind : ResourceKind} {arn : String} : ofArn arn = kind ↔ kind.Holds arn := by
  unfold ofArn ofType Holds
  split <;> cases kind <;> simp_all

end ResourceKind

/-! ## The index -/

section Index

variable {records : List Json} {kind : ResourceKind} {arn : String} {tags : Tags}

def Mapping.allIn (records : List Json) : List Mapping :=
  records.map fun record => ⟨Mapping.arnIn record, Mapping.tagsIn record⟩

theorem ClusterIndex.names_eq (records : List Json) (kind : ResourceKind) :
    (ofMappings (Mapping.allIn records) kind).map (·.1)
      = ((records.map Mapping.arnIn).filter fun arn => ResourceKind.ofArn arn = kind).eraseDups := by
  rw [ofMappings_eq, List.map_map]
  unfold Mapping.arnsOf Mapping.allIn
  rw [List.map_map]
  exact List.map_id _

theorem ClusterIndex.mem_names : arn ∈ (ofMappings (Mapping.allIn records) kind).map (·.1)
    ↔ arn ∈ records.map Mapping.arnIn ∧ kind.Holds arn := by
  rw [names_eq, List.mem_eraseDups, List.mem_filter, decide_eq_true_iff, ResourceKind.ofArn_eq_iff]

theorem ClusterIndex.last_of_mem (h : (arn, tags) ∈ ofMappings (Mapping.allIn records) kind) :
    ∃ before record after, records = before ++ record :: after ∧ Mapping.arnIn record = arn ∧
      (∀ other ∈ after, Mapping.arnIn other ≠ arn) ∧ tags = Mapping.tagsIn record := by
  have hmem : arn ∈ records.map Mapping.arnIn :=
    (mem_names.1 (List.mem_map.2 ⟨(arn, tags), h, rfl⟩)).1
  rw [ofMappings_eq] at h
  obtain ⟨name, -, heq⟩ := List.mem_map.1 h
  obtain ⟨rfl, rfl⟩ := Prod.mk.inj heq
  obtain ⟨mention, hmention, hname⟩ := List.mem_map.1 hmem
  have hfound : (records.reverse.find? (Mapping.arnIn · == name)).isSome = true :=
    List.find?_isSome.2 ⟨mention, List.mem_reverse.2 hmention, by simp [hname]⟩
  obtain ⟨record, hrecord⟩ := Option.isSome_iff_exists.1 hfound
  obtain ⟨hsame, after, before, hsplit, hafter⟩ := List.find?_eq_some_iff_append.1 hrecord
  refine ⟨before.reverse, record, after.reverse, ?_, by simpa using hsame, fun other hother => ?_, ?_⟩
  · rw [← List.reverse_reverse records, hsplit]
    simp
  · simpa using hafter other (List.mem_reverse.1 hother)
  · unfold Mapping.lastTags Mapping.allIn
    rw [← List.map_reverse, List.find?_map]
    simp only [Function.comp_def, hrecord]
    rfl

end Index

/-- The index of a cluster has every resource that is listed, under its own kind and no other, and nothing
else. The resources of a kind are in the order of their first mentions, each with the tags of its last one. -/
theorem clusterIndex_groups (cluster : String) (st : State) (records : List Json)
    (hlisted : st.remote.listed .tagging "get_resources" "ResourceTagMappingList" = .ok records)
    (hrecords : ∀ record ∈ records, Kind.mapping record) :
    ∃ index, (clusterIndex cluster).run.run st
        = (.ok index, st.adding [Lookup.tagRequest cluster]) ∧
      (∀ kind arn, arn ∈ (index kind).map (·.1) ↔ arn ∈ records.map Mapping.arnIn ∧ kind.Holds arn) ∧
      (∀ arn ∈ records.map Mapping.arnIn, ∃! kind, arn ∈ (index kind).map (·.1)) ∧
      (∀ kind, ((index kind).map (·.1)).Pairwise fun a b =>
        (records.map Mapping.arnIn).idxOf a < (records.map Mapping.arnIn).idxOf b) ∧
      ∀ kind arn tags, (arn, tags) ∈ index kind →
        ∃ before record after, records = before ++ record :: after ∧ Mapping.arnIn record = arn ∧
          (∀ other ∈ after, Mapping.arnIn other ≠ arn) ∧ tags = Mapping.tagsIn record := by
  have hread : records.mapM Mapping.ofJson = .ok (Mapping.allIn records) :=
    mapM_eq_map fun record hrecord => Mapping.ofJson_eq (hrecords record hrecord)
  have hmapped : Lookup.mappedIn st.remote = some (Mapping.allIn records) := by
    unfold Lookup.mappedIn
    rw [hlisted]
    simp only [Except.toOption, Option.bind_some, hread]
  obtain ⟨hanswer, hevents⟩ := Lookup.clusterIndex_of_mapped hmapped cluster
  refine ⟨.ofMappings (Mapping.allIn records), ?_, fun kind arn => ClusterIndex.mem_names,
    fun arn harn => ⟨.ofArn arn, ?_, fun kind hkind => ?_⟩, fun kind => ?_,
    fun kind arn tags => ClusterIndex.last_of_mem⟩
  · rw [Lookup.clusterIndex_uncached, hanswer, hevents]
  · exact ClusterIndex.mem_names.2 ⟨harn, ResourceKind.ofArn_eq_iff.1 rfl⟩
  · exact (ResourceKind.ofArn_eq_iff.2 (ClusterIndex.mem_names.1 hkind).2).symm
  · rw [ClusterIndex.names_eq]
    exact pairwise_idxOf_eraseDups _ _

def mention (arn key value : String) : Json :=
  .obj [("ResourceARN", .str arn), ("Tags", .arr [.obj [("Key", .str key), ("Value", .str value)]])]

theorem mapping_mention (arn key value : String) : Kind.mapping (mention arn key value) := by
  refine ⟨_, rfl, fun field hfield x hx => ?_⟩
  rcases List.mem_pair.1 hfield with rfl | rfl
  · exact ⟨arn, (Option.some.inj hx).symm⟩
  · obtain rfl := Option.some.inj hx
    refine ⟨_, rfl, fun tag htag => ?_⟩
    obtain rfl := List.mem_singleton.1 htag
    exact ⟨_, rfl, by simp⟩

/-- A remote side that mentions a subnet on two pages, and a group between them. -/
def mentionedTwice : Remote where
  pages _ _ := [.obj [("ResourceTagMappingList", .arr [mention "arn:aws:ec2:r:1:subnet/s1" "Name" "old",
      mention "arn:aws:ec2:r:1:security-group/g1" "Name" "group"])],
    .obj [("ResourceTagMappingList", .arr [mention "arn:aws:ec2:r:1:subnet/s1" "Name" "new"])]]
  outage _ _ := none
  deletion _ := none
  tagsFailure := none
  token := ⟨none, none, "", .ok .null⟩
  identity := ⟨none, none, "", .ok .null⟩

/-- The subnet has one place, and under one kind. -/
theorem clusterIndex_groups_mentionedTwice :
    ∃ index, (clusterIndex "c").run.run (.facing mentionedTwice)
        = (.ok index, .adding (.facing mentionedTwice) [Lookup.tagRequest "c"]) ∧
      "arn:aws:ec2:r:1:subnet/s1" ∈ (index .subnet).map (·.1) ∧
      (∃! kind, "arn:aws:ec2:r:1:subnet/s1" ∈ (index kind).map (·.1)) ∧
      ((index .subnet).map (·.1)).Nodup := by
  have hrecords : ∀ record ∈ [mention "arn:aws:ec2:r:1:subnet/s1" "Name" "old",
      mention "arn:aws:ec2:r:1:security-group/g1" "Name" "group",
      mention "arn:aws:ec2:r:1:subnet/s1" "Name" "new"], Kind.mapping record := by
    simp only [List.forall_mem_cons, List.not_mem_nil, false_implies, implies_true, and_true]
    exact ⟨mapping_mention _ _ _, mapping_mention _ _ _, mapping_mention _ _ _⟩
  obtain ⟨index, hrun, hnames, hone, horder, -⟩ :=
    clusterIndex_groups "c" (.facing mentionedTwice) _ (by rfl) hrecords
  have hmentioned : "arn:aws:ec2:r:1:subnet/s1" ∈ List.map Mapping.arnIn
      [mention "arn:aws:ec2:r:1:subnet/s1" "Name" "old",
        mention "arn:aws:ec2:r:1:security-group/g1" "Name" "group",
        mention "arn:aws:ec2:r:1:subnet/s1" "Name" "new"] := List.mem_cons_self
  have hkind : ResourceKind.subnet.Holds "arn:aws:ec2:r:1:subnet/s1" := by
    show Arn.resourceType _ = "subnet"
    decide +kernel
  refine ⟨index, hrun, (hnames _ _).2 ⟨hmentioned, hkind⟩, hone _ hmentioned, ?_⟩
  exact (horder .subnet).imp fun hlt heq => by simp [heq] at hlt

end NetLookup
