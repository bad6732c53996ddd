/-! # Markup in printed texts

A tag is a name in brackets that starts with a small letter or one of `#`, `/` and `@`. Tags are not shown.
Backslashes before a tag halve, and an odd one makes the tag a plain text. -/

namespace NetLookup.CommandLine.Markup

/-! ## Tags -/

def opensTag (c : Char) : Bool := c.isLower || c == '#' || c == '/' || c == '@'

/-- The text of a tag at the start, and what follows the tag. -/
def tag? : List Char → Option (List Char × List Char)
  | '[' :: c :: cs =>
    match cs.dropWhile fun d => d != ']' && d != '[' with
    | ']' :: rest =>
      if opensTag c then some (c :: cs.takeWhile (fun d => d != ']' && d != '['), rest) else none
    | _ => none
  | _ => none

theorem length_of_tag? {cs text rest : List Char} (h : tag? cs = some (text, rest)) :
    rest.length < cs.length := by
  unfold tag? at h
  split at h
  · rename_i c cs
    split at h
    · rename_i rest' hd
      split at h
      · obtain ⟨-, rfl⟩ := Prod.mk.inj (Option.some.inj h)
        have := (List.dropWhile_sublist (l := cs) fun d => d != ']' && d != '[').length_le
        rw [hd] at this
        simp at this ⊢
        omega
      · cases h
    · cases h
  · cases h

def isBackslash (c : Char) : Bool := c == '\\'

theorem length_of_tag?_dropWhile {cs text rest : List Char} {p : Char → Bool}
    (h : tag? (cs.dropWhile p) = some (text, rest)) : rest.length < cs.length :=
  Nat.lt_of_lt_of_le (length_of_tag? h) (List.dropWhile_sublist p).length_le

/-- The tag after the backslashes at the start: their number, its text, and the rest. -/
def tagAhead? (cs : List Char) :
    Option (Nat × List Char × { rest : List Char // rest.length < cs.length }) :=
  match h : tag? (cs.dropWhile isBackslash) with
  | some (text, rest) =>
    some ((cs.takeWhile isBackslash).length, text, ⟨rest, length_of_tag?_dropWhile h⟩)
  | none => none

def backslashes (n : Nat) : List Char := List.replicate n '\\'

def bracketed (text : List Char) : List Char := '[' :: text ++ [']']

/-! ## Escaping -/

/-- Puts backslashes before all tags. -/
def escapeTags (cs : List Char) : List Char :=
  match tagAhead? cs with
  | some (n, text, rest) => backslashes (2 * n + 1) ++ bracketed text ++ escapeTags rest.1
  | none =>
    match cs with
    | [] => []
    | c :: cs => c :: escapeTags cs
termination_by cs.length
decreasing_by
  · exact rest.2
  · simp only [List.length_cons]
    omega

/-- A single backslash at the end is doubled, so that it does not reach what comes after. -/
def escape (cs : List Char) : List Char :=
  let escaped := escapeTags cs
  match escaped.reverse with
  | '\\' :: '\\' :: _ => escaped
  | '\\' :: _ => escaped ++ ['\\']
  | _ => escaped

/-! ## Pieces -/

inductive Piece where
  | text (cs : List Char)
  | tag (text : List Char)

/-- The text up to the first tag, and the pieces from there on. A backslash before a bracket that opens
no tag is dropped. -/
def split (cs : List Char) : List Char × List Piece :=
  match tagAhead? cs with
  | some (n, text, rest) =>
    let (next, pieces) := split rest.1
    ([], .text (backslashes (n / 2)) :: (if n % 2 = 0 then .tag text else .text (bracketed text))
      :: .text next :: pieces)
  | none =>
    match cs with
    | [] => ([], [])
    | '\\' :: '[' :: cs =>
      let (text, pieces) := split cs
      ('[' :: text, pieces)
    | c :: cs =>
      let (text, pieces) := split cs
      (c :: text, pieces)
termination_by cs.length
decreasing_by
  · exact rest.2
  · simp only [List.length_cons]
    omega
  · simp only [List.length_cons]
    omega

/-- The texts and the tags of a text in their order. -/
def pieces (cs : List Char) : List Piece :=
  let (text, pieces) := split cs
  .text text :: pieces

/-! ## Texts without brackets -/

theorem tagAhead?_of_no_bracket {cs : List Char} (h : '[' ∉ cs) : tagAhead? cs = none := by
  have ht : tag? (cs.dropWhile isBackslash) = none := by
    unfold tag?
    split
    · rename_i c rest hd
      exact absurd ((List.dropWhile_sublist isBackslash).subset (hd ▸ List.mem_cons_self)) h
    · rfl
  unfold tagAhead?
  split
  · rename_i hs
    rw [ht] at hs
    cases hs
  · rfl

theorem split_of_no_bracket {cs : List Char} (h : '[' ∉ cs) : split cs = (cs, []) := by
  induction cs with
  | nil => rw [split]; simp [tagAhead?_of_no_bracket]
  | cons c cs ih =>
    have hcs : '[' ∉ cs := fun m => h (List.mem_cons_of_mem c m)
    rw [split, tagAhead?_of_no_bracket h]
    · simp [ih hcs]
    · rintro cs - rfl
      exact hcs List.mem_cons_self

theorem pieces_of_no_bracket {cs : List Char} (h : '[' ∉ cs) : pieces cs = [.text cs] := by
  simp [pieces, split_of_no_bracket h]

end NetLookup.CommandLine.Markup
