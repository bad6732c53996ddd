import NetLookup.Tagging.Arn
import Mathlib.Data.List.TakeWhile

/-! # Types and ids of resource names

A name that is put together from its parts has the type and the id that it was put together from. Any other text is
read as well: its id is what follows its last slash, and its type is looked for behind its colons, however few
there are. -/

namespace NetLookup

/-! ## Segments at the ends -/

section Segments

variable {α : Type} {c : α} {cs ds xs ys : List α}

structure LongestPrefix (c : α) (cs xs : List α) : Prop where
  begins : xs <+: cs
  lacks : c ∉ xs
  longest : ∀ ys, ys <+: cs → c ∉ ys → ys.length ≤ xs.length

structure LongestSuffix (c : α) (cs xs : List α) : Prop where
  ends : xs <:+ cs
  lacks : c ∉ xs
  longest : ∀ ys, ys <:+ cs → c ∉ ys → ys.length ≤ xs.length

theorem LongestPrefix.eq (hx : LongestPrefix c cs xs) (hy : LongestPrefix c cs ys) : xs = ys := by
  have hle : xs.length ≤ ys.length := hy.longest xs hx.begins hx.lacks
  have hge : ys.length ≤ xs.length := hx.longest ys hy.begins hy.lacks
  exact (List.prefix_of_prefix_length_le hx.begins hy.begins hle).eq_of_length (Nat.le_antisymm hle hge)

theorem longestPrefix_append (h : c ∉ xs) (rest : List α) : LongestPrefix c (xs ++ c :: rest) xs where
  begins := List.prefix_append xs _
  lacks := h
  longest ys hys hlacks := by
    refine Nat.le_of_not_lt fun hlong => hlacks ?_
    have hbegins : xs ++ [c] <+: xs ++ c :: rest := ⟨rest, by simp⟩
    have hmore : xs ++ [c] <+: ys :=
      List.prefix_of_prefix_length_le hbegins hys (by rw [List.length_append]; exact hlong)
    exact hmore.subset (by simp)

theorem longestSuffix_iff : LongestSuffix c cs xs ↔ LongestPrefix c cs.reverse xs.reverse := by
  constructor
  · intro h
    refine ⟨List.reverse_prefix.2 h.ends, by simpa using h.lacks, fun ys hys hlacks => ?_⟩
    have hends : ys.reverse <:+ cs := List.reverse_prefix.1 (by rwa [List.reverse_reverse])
    simpa using h.longest ys.reverse hends (by simpa using hlacks)
  · intro h
    refine ⟨List.reverse_prefix.1 h.begins, by simpa using h.lacks, fun ys hys hlacks => ?_⟩
    simpa using h.longest ys.reverse (List.reverse_prefix.2 hys) (by simpa using hlacks)

theorem LongestSuffix.eq (hx : LongestSuffix c cs xs) (hy : LongestSuffix c cs ys) : xs = ys :=
  List.reverse_inj.1 ((longestSuffix_iff.1 hx).eq (longestSuffix_iff.1 hy))

theorem longestSuffix_append (before : List α) (h : c ∉ xs) : LongestSuffix c (before ++ c :: xs) xs := by
  have hbackwards : c ∉ xs.reverse := by simpa using h
  rw [longestSuffix_iff]
  simpa using longestPrefix_append hbackwards before.reverse

theorem LongestSuffix.of_suffix (h : LongestSuffix c cs xs) (hcs : cs <:+ ds) (hc : c ∈ cs) :
    LongestSuffix c ds xs where
  ends := h.ends.trans hcs
  lacks := h.lacks
  longest ys hys hlacks := by
    rcases Nat.le_total ys.length cs.length with hshort | hlong
    · exact h.longest ys (List.suffix_of_suffix_length_le hys hcs hshort) hlacks
    · have hends : cs <:+ ys := List.suffix_of_suffix_length_le hcs hys hlong
      exact absurd (hends.subset hc) hlacks

end Segments

namespace Arn

theorem longestPrefix_firstSegment (cs : List Char) : LongestPrefix '/' cs (firstSegment cs) where
  begins := List.takeWhile_prefix _
  lacks := slash_notMem_firstSegment cs
  longest ys hys hlacks := by
    obtain ⟨rest, rfl⟩ := hys
    have hall : ∀ x ∈ ys, (x != '/') = true := fun x hx => by
      simpa using ne_of_mem_of_not_mem hx hlacks
    rw [firstSegment, List.takeWhile_append_of_pos hall, List.length_append]
    exact Nat.le_add_right _ _

theorem longestSuffix_lastSegment (cs : List Char) : LongestSuffix '/' cs (lastSegment cs) := by
  rw [longestSuffix_iff, lastSegment, List.reverse_reverse]
  exact longestPrefix_firstSegment cs.reverse

/-! ## Behind the colons -/

/-- What follows the `n`-th colon, or the last one if there are fewer, or all if there is none. -/
inductive FollowsColon (n : Nat) : List Char → List Char → Prop where
  | counted {before rest : List Char} :
    before.count ':' + 1 = n → FollowsColon n (before ++ ':' :: rest) rest
  | last {before rest : List Char} :
    before.count ':' + 1 < n → ':' ∉ rest → FollowsColon n (before ++ ':' :: rest) rest
  | whole {cs : List Char} : ':' ∉ cs → FollowsColon n cs cs

section Colons

variable {n : Nat} {cs before part : List Char}

theorem afterColons_none (h : ':' ∉ cs) (n : Nat) : afterColons n cs = cs := by
  cases n with
  | zero => rfl
  | succ n =>
    have hdrop : cs.dropWhile (· != ':') = [] := by
      rw [List.dropWhile_eq_nil_iff]
      intro x hx
      simpa using ne_of_mem_of_not_mem hx h
    simp only [afterColons, hdrop]

theorem afterColons_first (h : ':' ∉ before) (n : Nat) (rest : List Char) :
    afterColons (n + 1) (before ++ ':' :: rest) = afterColons n rest := by
  have hdrop : (before ++ ':' :: rest).dropWhile (· != ':') = ':' :: rest := by
    rw [List.dropWhile_append_of_pos fun x hx => by simpa using ne_of_mem_of_not_mem hx h]
    simp
  simp only [afterColons, hdrop]

theorem afterColons_count (before : List Char) (n : Nat) (rest : List Char) :
    afterColons (before.count ':' + 1 + n) (before ++ ':' :: rest) = afterColons n rest := by
  -- The first colon is counted off, and one fewer stands before the place.
  induction hcount : before.count ':' generalizing before with
  | zero =>
    have hnone : ':' ∉ before := List.count_eq_zero.1 hcount
    rw [show 0 + 1 + n = n + 1 by omega, afterColons_first hnone]
  | succ k ih =>
    have hsome : ':' ∈ before := List.count_pos_iff.1 (by omega)
    obtain ⟨first, others, rfl, hfirst⟩ := List.eq_append_cons_of_mem hsome
    have hothers : others.count ':' = k := by
      rw [List.count_append, List.count_eq_zero.2 hfirst, List.count_cons_self] at hcount
      omega
    rw [List.append_assoc, List.cons_append, show k + 1 + 1 + n = k + 1 + n + 1 by omega,
      afterColons_first hfirst, ih others hothers]

theorem FollowsColon.after_first (h : FollowsColon (n + 1) cs part) (hbefore : ':' ∉ before) :
    FollowsColon (n + 2) (before ++ ':' :: cs) part := by
  have hfirst : before.count ':' = 0 := List.count_eq_zero.2 hbefore
  have hmore (others : List Char) : (before ++ ':' :: others).count ':' = others.count ':' + 1 := by
    rw [List.count_append, hfirst, List.count_cons_self, Nat.zero_add]
  cases h with
  | @counted others rest hcount =>
    have hall : (before ++ ':' :: others).count ':' + 1 = n + 2 := by
      rw [hmore, hcount]
    have hfollows : FollowsColon (n + 2) (before ++ ':' :: others ++ ':' :: part) part := .counted hall
    simpa using hfollows
  | @last others rest hfew hnone =>
    have hall : (before ++ ':' :: others).count ':' + 1 < n + 2 := by
      rw [hmore]
      omega
    simpa using FollowsColon.last hall hnone
  | whole hnone => exact .last (by omega) hnone

theorem FollowsColon.colon_or_whole (h : FollowsColon n cs part) :
    ':' :: part <:+ cs ∨ part = cs ∧ ':' ∉ cs := by
  cases h with
  | @counted before _ _ => exact Or.inl (List.suffix_append before _)
  | @last before _ _ _ => exact Or.inl (List.suffix_append before _)
  | whole hnone => exact Or.inr ⟨rfl, hnone⟩

theorem FollowsColon.suffix (h : FollowsColon n cs part) : part <:+ cs := by
  rcases h.colon_or_whole with hcolon | ⟨rfl, -⟩
  · exact (List.suffix_cons ':' part).trans hcolon
  · exact List.suffix_refl part

theorem followsColon_afterColons (n : Nat) (cs : List Char) :
    FollowsColon (n + 1) cs (afterColons (n + 1) cs) := by
  by_cases hsome : ':' ∈ cs
  · obtain ⟨before, rest, rfl, hbefore⟩ := List.eq_append_cons_of_mem hsome
    rw [afterColons_first hbefore]
    cases n with
    | zero => exact .counted (by rw [List.count_eq_zero.2 hbefore])
    | succ n => exact (followsColon_afterColons n rest).after_first hbefore
  · rw [afterColons_none hsome]
    exact .whole hsome

theorem followsColon_iff : FollowsColon (n + 1) cs part ↔ part = afterColons (n + 1) cs := by
  constructor
  · intro h
    cases h with
    | @counted before rest hcount => rw [← hcount, afterColons_count before 0, afterColons]
    | @last before rest hfew hnone =>
      obtain ⟨k, hk⟩ := Nat.exists_eq_add_of_le (Nat.le_of_lt hfew)
      rw [hk, afterColons_count, afterColons_none hnone]
    | whole hnone => rw [afterColons_none hnone]
  · rintro rfl
    exact followsColon_afterColons n cs

end Colons

/-! ## Names from parts -/

abbrev Lacking (c : Char) := { text : String // c ∉ text.toList }

/-- What a name is put together from. The type may hold colons, and what is between it and the id anything. -/
structure Parts where
  partition : Lacking ':'
  service : Lacking ':'
  region : Lacking ':'
  account : Lacking ':'
  kind : Lacking '/'
  between : List String
  id : Lacking '/'

namespace Parts

variable (parts : Parts)

def path : String := "/".intercalate (parts.kind.val :: parts.between ++ [parts.id.val])

def text : String :=
  ":".intercalate ["arn", parts.partition.val, parts.service.val, parts.region.val, parts.account.val,
    parts.path]

theorem path_kind : ∃ rest, parts.path.toList = parts.kind.val.toList ++ '/' :: rest := by
  refine ⟨("/".intercalate (parts.between ++ [parts.id.val])).toList, ?_⟩
  rw [path, List.cons_append, String.intercalate_cons_of_ne_nil (by simp)]
  simp

theorem path_id : ∃ before, parts.path.toList = before ++ '/' :: parts.id.val.toList := by
  refine ⟨("/".intercalate (parts.kind.val :: parts.between)).toList, ?_⟩
  rw [path, String.intercalate_append_of_ne_nil (by simp) (by simp), String.intercalate_singleton]
  simp

theorem text_toList : parts.text.toList = "arn".toList ++ ':' :: (parts.partition.val.toList ++ ':' ::
    (parts.service.val.toList ++ ':' :: (parts.region.val.toList ++ ':' ::
      (parts.account.val.toList ++ ':' :: parts.path.toList)))) := by
  simp [text]

theorem resourcePart_text : resourcePart parts.text = parts.path.toList := by
  rw [resourcePart, text_toList, afterColons_first (by decide), afterColons_first parts.partition.property,
    afterColons_first parts.service.property, afterColons_first parts.region.property,
    afterColons_first parts.account.property]
  rfl

theorem firstSegment_path : firstSegment parts.path.toList = parts.kind.val.toList := by
  obtain ⟨rest, hpath⟩ := parts.path_kind
  have hkind := longestPrefix_append parts.kind.property rest
  rw [← hpath] at hkind
  exact (longestPrefix_firstSegment _).eq hkind

theorem lastSegment_text : lastSegment parts.text.toList = parts.id.val.toList := by
  obtain ⟨before, hpath⟩ := parts.path_id
  have hid : LongestSuffix '/' parts.path.toList parts.id.val.toList := by
    rw [hpath]
    exact longestSuffix_append before parts.id.property
  have hslash : '/' ∈ parts.path.toList := by simp [hpath]
  have hpart : FollowsColon 5 parts.text.toList parts.path.toList :=
    followsColon_iff.2 parts.resourcePart_text.symm
  exact (longestSuffix_lastSegment _).eq (hid.of_suffix hpart.suffix hslash)

end Parts

theorem longestSuffix_resourceId (arn : String) : LongestSuffix '/' arn.toList (resourceId arn).toList := by
  rw [resourceId, String.toList_ofList]
  exact longestSuffix_lastSegment arn.toList

/-- The type and the id of a name are those it was put together from. Of any text at all, the id is the longest end
without a slash, and the type the longest beginning without one of what follows the fifth colon. -/
theorem type_and_id_read :
    (∀ parts : Parts, resourceType parts.text = parts.kind.val ∧ resourceId parts.text = parts.id.val) ∧
      ∀ arn : String, LongestSuffix '/' arn.toList (resourceId arn).toList ∧
        ∃ part, (∀ other, FollowsColon 5 arn.toList other ↔ other = part) ∧
          LongestPrefix '/' part (resourceType arn).toList := by
  refine ⟨fun parts => ⟨?_, ?_⟩, fun arn => ⟨?_, resourcePart arn, fun other => followsColon_iff, ?_⟩⟩
  · rw [resourceType, parts.resourcePart_text, parts.firstSegment_path, String.ofList_toList]
  · rw [resourceId, parts.lastSegment_text, String.ofList_toList]
  · exact longestSuffix_resourceId arn
  · rw [resourceType, String.toList_ofList]
    exact longestPrefix_firstSegment (resourcePart arn)

/-- A colon in the type, and segments of any kind before the id. -/
theorem type_and_id_read_application :
    resourceType "arn:aws:elb:eu-west-1:1:load:balancer/app//web/50dc" = "load:balancer" ∧
      resourceId "arn:aws:elb:eu-west-1:1:load:balancer/app//web/50dc" = "50dc" := by
  have hread := type_and_id_read.1 ⟨⟨"aws", by decide⟩, ⟨"elb", by decide⟩, ⟨"eu-west-1", by decide⟩,
    ⟨"1", by decide⟩, ⟨"load:balancer", by decide⟩, ["app", "", "web"], ⟨"50dc", by decide⟩⟩
  exact hread

end Arn

end NetLookup
