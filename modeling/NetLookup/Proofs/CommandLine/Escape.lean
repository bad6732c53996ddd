import NetLookup.CommandLine.Run
import Mathlib.Data.List.DropRight

/-! # Escaped texts

Escaping doubles the backslashes before a tag and adds one, so that the tag shows as it is. Whatever a text
holds, an escaped text before a closing tag has no other tag than that one. -/

namespace NetLookup.CommandLine.Markup

/-! ## Tags -/

def isBracket (c : Char) : Bool := c == ']' || c == '['

structure IsTag (text : List Char) : Prop where
  opens : ∃ c name, text = c :: name ∧ opensTag c = true
  plain : ∀ d ∈ text, isBracket d = false

theorem isBracket_of_opens {c : Char} (h : opensTag c = true) : isBracket c = false := by
  unfold isBracket
  by_contra hc
  simp only [Bool.not_eq_false, Bool.or_eq_true, beq_iff_eq] at hc
  rcases hc with rfl | rfl <;> revert h <;> decide

def firstBracket (cs : List Char) : Option Char := cs.find? isBracket

theorem not_isBracket : (fun d : Char => d != ']' && d != '[') = fun d => !isBracket d := by
  funext d
  simp [isBracket, bne]

theorem tag?_cons_cons (c : Char) (cs : List Char) :
    tag? ('[' :: c :: cs) =
      if opensTag c = true ∧ firstBracket cs = some ']' then
        some (c :: cs.takeWhile fun d => !isBracket d, (cs.dropWhile fun d => !isBracket d).tail)
      else none := by
  rw [firstBracket, List.find?_eq_head?_dropWhile_not]
  simp only [tag?, not_isBracket]
  split
  · rename_i rest hrest
    simp [hrest]
  · rename_i hnone
    rw [if_neg]
    rintro ⟨-, hhead⟩
    obtain ⟨rest, hrest⟩ := List.head?_eq_some_iff.mp hhead
    exact hnone rest hrest

theorem tag?_eq_none_of_ne {d : Char} (h : d ≠ '[') (cs : List Char) : tag? (d :: cs) = none := by
  unfold tag?
  split
  · rename_i heq
    exact absurd (List.cons.inj heq).1 h
  · rfl

theorem tag?_cons_eq_none (c : Char) (cs : List Char) :
    tag? ('[' :: c :: cs) = none ↔ opensTag c = false ∨ firstBracket cs ≠ some ']' := by
  rw [tag?_cons_cons, ite_eq_right_iff]
  simp only [reduceCtorEq, imp_false, not_and_or, Bool.not_eq_true, ne_eq]

theorem isTag_of_tag? {cs text rest : List Char} (h : tag? cs = some (text, rest)) :
    IsTag text ∧ cs = bracketed text ++ rest := by
  match cs with
  | [] | [_] => simp [tag?] at h
  | d :: c :: cs =>
    obtain rfl : d = '[' := by
      by_contra hd
      rw [tag?_eq_none_of_ne hd] at h
      cases h
    rw [tag?_cons_cons, Option.ite_none_right_eq_some] at h
    obtain ⟨⟨hopens, hfirst⟩, heq⟩ := h
    obtain ⟨rfl, rfl⟩ := Prod.mk.inj (Option.some.inj heq)
    rw [firstBracket, List.find?_eq_head?_dropWhile_not] at hfirst
    obtain ⟨rest, hrest⟩ := List.head?_eq_some_iff.mp hfirst
    have hcs := List.takeWhile_append_dropWhile (p := fun d => !isBracket d) (l := cs)
    refine ⟨⟨⟨c, _, rfl, hopens⟩, fun d hd => ?_⟩, ?_⟩
    · rcases List.mem_cons.mp hd with rfl | hd
      · exact isBracket_of_opens hopens
      · simpa using List.mem_takeWhile_imp hd
    · rw [hrest] at hcs ⊢
      simp [bracketed, hcs]

theorem tag?_bracketed {text : List Char} (h : IsTag text) (rest : List Char) :
    tag? (bracketed text ++ rest) = some (text, rest) := by
  obtain ⟨⟨c, name, rfl, hopens⟩, hplain⟩ := h
  have hname : ∀ d ∈ name, (!isBracket d) = true := by
    intro d hd
    simp [hplain d (List.mem_cons_of_mem c hd)]
  have htext : bracketed (c :: name) ++ rest = '[' :: c :: (name ++ ']' :: rest) := by simp [bracketed]
  rw [htext, tag?_cons_cons, firstBracket, List.find?_eq_head?_dropWhile_not,
    List.dropWhile_append_of_pos hname, List.takeWhile_append_of_pos hname]
  simp [isBracket, hopens]

/-! ## Backslashes -/

theorem backslashes_append (cs : List Char) :
    cs = backslashes (cs.takeWhile isBackslash).length ++ cs.dropWhile isBackslash := by
  have hall : ∀ d ∈ cs.takeWhile isBackslash, d = '\\' := by
    intro d hd
    simpa [isBackslash] using List.mem_takeWhile_imp hd
  rw [backslashes, ← List.eq_replicate_of_mem hall, List.takeWhile_append_dropWhile]

theorem length_backslashes (n : Nat) : (backslashes n).length = n := List.length_replicate

theorem backslashes_add (m n : Nat) : backslashes m ++ backslashes n = backslashes (m + n) :=
  List.replicate_append_replicate

theorem dropWhile_backslashes (n : Nat) (cs : List Char) :
    (backslashes n ++ cs).dropWhile isBackslash = cs.dropWhile isBackslash := by
  refine List.dropWhile_append_of_pos fun d hd => ?_
  rw [List.eq_of_mem_replicate hd]
  rfl

theorem takeWhile_backslashes (n : Nat) (cs : List Char) :
    (backslashes n ++ cs).takeWhile isBackslash = backslashes n ++ cs.takeWhile isBackslash := by
  refine List.takeWhile_append_of_pos fun d hd => ?_
  rw [List.eq_of_mem_replicate hd]
  rfl

theorem tagAhead?_eq_none {cs : List Char} (h : tag? (cs.dropWhile isBackslash) = none) :
    tagAhead? cs = none := by
  unfold tagAhead?
  split
  · rename_i heq
    rw [h] at heq
    cases heq
  · rfl

theorem tagAhead?_bracketed (n : Nat) {text : List Char} (h : IsTag text) (rest : List Char) :
    ∃ hlt, tagAhead? (backslashes n ++ bracketed text ++ rest) = some (n, text, ⟨rest, hlt⟩) := by
  have hdrop : (backslashes n ++ bracketed text ++ rest).dropWhile isBackslash = bracketed text ++ rest := by
    rw [List.append_assoc, dropWhile_backslashes]
    rfl
  have htake : (backslashes n ++ bracketed text ++ rest).takeWhile isBackslash = backslashes n := by
    rw [List.append_assoc, takeWhile_backslashes]
    exact List.append_nil _
  unfold tagAhead?
  split
  · rename_i text' rest' heq
    rw [hdrop, tag?_bracketed h] at heq
    obtain ⟨rfl, rfl⟩ := Prod.mk.inj (Option.some.inj heq)
    refine ⟨length_of_tag?_dropWhile (p := isBackslash) (by rw [hdrop, tag?_bracketed h]), ?_⟩
    rw [htake, length_backslashes]
  · rename_i heq
    rw [hdrop, tag?_bracketed h] at heq
    cases heq

/-! ## The tags of a text -/

def Piece.tag? : Piece → Option (List Char)
  | .text _ => none
  | .tag name => some name

def tagsIn (cs : List Char) : List (List Char) := (split cs).2.filterMap Piece.tag?

theorem tagsIn_nil : tagsIn [] = [] := by
  unfold tagsIn
  rw [split_of_no_bracket List.not_mem_nil]
  rfl

theorem tagsIn_tag (n : Nat) {text : List Char} (h : IsTag text) (rest : List Char) :
    tagsIn (backslashes n ++ bracketed text ++ rest)
      = (if n % 2 = 0 then [text] else []) ++ tagsIn rest := by
  obtain ⟨hlt, hahead⟩ := tagAhead?_bracketed n h rest
  unfold tagsIn
  rw [split.eq_def, hahead]
  simp only
  split <;> rfl

theorem tagsIn_cons {c : Char} {cs : List Char} (h : tag? ((c :: cs).dropWhile isBackslash) = none) :
    tagsIn (c :: cs) = tagsIn cs := by
  unfold tagsIn
  rw [split.eq_def (c :: cs), tagAhead?_eq_none h]
  simp only
  split
  · rename_i heq
    cases heq
  · rename_i cs heq
    obtain ⟨rfl, rfl⟩ := List.cons.inj heq
    have hbracket : tagAhead? ('[' :: cs) = none := tagAhead?_eq_none h
    rw [split.eq_def ('[' :: cs), hbracket]
    simp
  · rename_i heq
    obtain ⟨rfl, rfl⟩ := List.cons.inj heq
    rfl

theorem tagsIn_backslashes (n : Nat) {cs : List Char} (h : tag? (cs.dropWhile isBackslash) = none) :
    tagsIn (backslashes n ++ cs) = tagsIn cs := by
  induction n with
  | zero => rfl
  | succ n ih =>
    rw [← ih]
    exact tagsIn_cons (by rw [← dropWhile_backslashes n] at h; exact h)

/-! ## What escaping does -/

inductive Escaped : List Char → List Char → Prop
  | ending (n : Nat) : Escaped (backslashes n) (backslashes n)
  | tag (n : Nat) {text rest out : List Char} : IsTag text → Escaped rest out →
    Escaped (backslashes n ++ bracketed text ++ rest) (backslashes (2 * n + 1) ++ bracketed text ++ out)
  | char (n : Nat) {d : Char} {rest out : List Char} : d ≠ '\\' → tag? (d :: rest) = none →
    Escaped rest out → Escaped (backslashes n ++ d :: rest) (backslashes n ++ d :: out)

theorem escapeTags_backslashes (n : Nat) {cs : List Char} (h : tag? (cs.dropWhile isBackslash) = none) :
    escapeTags (backslashes n ++ cs) = backslashes n ++ escapeTags cs := by
  induction n with
  | zero => rfl
  | succ n ih =>
    have hnone : tagAhead? ('\\' :: (backslashes n ++ cs)) = none := by
      refine tagAhead?_eq_none ?_
      rw [← dropWhile_backslashes n] at h
      exact h
    change escapeTags ('\\' :: (backslashes n ++ cs)) = '\\' :: (backslashes n ++ escapeTags cs)
    rw [escapeTags.eq_def, hnone, ← ih]

theorem dropWhile_of_ne {d : Char} (h : d ≠ '\\') (cs : List Char) :
    (d :: cs).dropWhile isBackslash = d :: cs :=
  List.dropWhile_cons_of_neg (by simpa [isBackslash] using h)

theorem escapeTags_cons {d : Char} {cs : List Char} (hd : d ≠ '\\') (h : tag? (d :: cs) = none) :
    escapeTags (d :: cs) = d :: escapeTags cs := by
  have hnone : tagAhead? (d :: cs) = none := tagAhead?_eq_none (by rw [dropWhile_of_ne hd, h])
  rw [escapeTags.eq_def, hnone]

theorem escapeTags_tag (n : Nat) {text : List Char} (h : IsTag text) (rest : List Char) :
    escapeTags (backslashes n ++ bracketed text ++ rest)
      = backslashes (2 * n + 1) ++ bracketed text ++ escapeTags rest := by
  obtain ⟨hlt, hahead⟩ := tagAhead?_bracketed n h rest
  rw [escapeTags.eq_def, hahead]

theorem escapeTags_nil : escapeTags [] = [] := by
  rw [escapeTags, tagAhead?_of_no_bracket List.not_mem_nil]

theorem escaped (cs : List Char) : Escaped cs (escapeTags cs) := by
  induction hlen : cs.length using Nat.strong_induction_on generalizing cs with
  | _ len ih =>
    -- the parts of the text are backslashes and what they stand before
    obtain ⟨n, rest, rfl, hrest⟩ : ∃ n rest, cs = backslashes n ++ rest ∧ rest.dropWhile isBackslash = rest :=
      ⟨_, _, backslashes_append cs, List.dropWhile_idempotent _ _⟩
    cases htag : tag? rest with
    | some tag =>
      obtain ⟨text, after⟩ := tag
      obtain ⟨hname, rfl⟩ := isTag_of_tag? htag
      rw [← List.append_assoc, escapeTags_tag n hname]
      refine .tag n hname (ih after.length ?_ after rfl)
      simp [← hlen, bracketed]
      omega
    | none =>
      rw [escapeTags_backslashes n (by rw [hrest, htag])]
      cases rest with
      | nil =>
        rw [escapeTags_nil, List.append_nil]
        exact .ending n
      | cons d rest =>
        have hd : d ≠ '\\' := by
          rintro rfl
          have := congrArg List.length hrest
          have := (List.dropWhile_sublist (l := rest) isBackslash).length_le
          simp [isBackslash] at *
          omega
        rw [escapeTags_cons hd htag]
        refine .char n hd htag (ih rest.length ?_ rest rfl)
        simp [← hlen]
        omega

/-! ## Escaped texts before a closing tag -/

theorem firstBracket_append (cs ds : List Char) :
    firstBracket (cs ++ ds) = (firstBracket cs).or (firstBracket ds) :=
  List.find?_append

theorem firstBracket_backslashes (n : Nat) : firstBracket (backslashes n) = none := by
  refine List.find?_eq_none.mpr fun d hd => ?_
  rw [List.eq_of_mem_replicate hd]
  decide

theorem firstBracket_bracketed (text cs : List Char) : firstBracket (bracketed text ++ cs) = some '[' := rfl

theorem firstBracket_cons (d : Char) (cs : List Char) :
    firstBracket (d :: cs) = if isBracket d then some d else firstBracket cs := by
  rw [firstBracket, List.find?_cons]
  split <;> simp [*, firstBracket]

theorem Escaped.firstBracket_eq {cs out : List Char} (h : Escaped cs out) :
    firstBracket out = firstBracket cs := by
  induction h with
  | ending n => rfl
  | tag n _ _ _ =>
    rw [List.append_assoc, List.append_assoc, firstBracket_append, firstBracket_append (backslashes n),
      firstBracket_backslashes, firstBracket_backslashes, firstBracket_bracketed, firstBracket_bracketed]
  | char n _ _ _ ih =>
    rw [firstBracket_append, firstBracket_append, firstBracket_cons, firstBracket_cons, ih]

theorem tag?_bracket_backslashes (n : Nat) (cs : List Char) :
    tag? ('[' :: (backslashes n ++ '[' :: cs)) = none := by
  cases n with
  | zero => exact (tag?_cons_eq_none _ _).mpr (.inl (by decide))
  | succ n => exact (tag?_cons_eq_none _ _).mpr (.inl (by decide))

theorem Escaped.tag?_eq_none {rest out : List Char} (h : Escaped rest out) {d : Char}
    (hd : tag? (d :: rest) = none) (j : Nat) (close : List Char) :
    tag? (d :: (out ++ (backslashes j ++ bracketed close))) = none := by
  by_cases hbracket : d = '['
  · subst hbracket
    cases h with
    | ending n =>
      rw [← List.append_assoc, backslashes_add]
      exact tag?_bracket_backslashes (n + j) _
    | tag n hname hout =>
      rw [List.append_assoc, List.append_assoc]
      exact tag?_bracket_backslashes _ _
    | @char n c rest out hc hnone hout =>
      cases n with
      | succ n => exact (tag?_cons_eq_none _ _).mpr (.inl (by decide))
      | zero =>
        -- the name, if there is one, is broken off where it was, or by the closing tag
        refine (tag?_cons_eq_none c (out ++ (backslashes j ++ bracketed close))).mpr
          (((tag?_cons_eq_none c rest).mp hd).imp_right fun hfirst => ?_)
        rw [firstBracket_append, hout.firstBracket_eq, firstBracket_append, firstBracket_backslashes]
        cases hrest : firstBracket rest with
        | none => exact fun heq => absurd heq (by decide : some '[' ≠ some ']')
        | some c => rwa [hrest] at hfirst
  · exact tag?_eq_none_of_ne hbracket _

theorem tagsIn_closing (n : Nat) {close : List Char} (hclose : IsTag close) :
    tagsIn (backslashes n ++ bracketed close) = [] ∨ tagsIn (backslashes n ++ bracketed close) = [close] := by
  have h := tagsIn_tag n hclose []
  rw [List.append_nil, tagsIn_nil, List.append_nil] at h
  rw [h]
  split
  · exact .inr rfl
  · exact .inl rfl

theorem Escaped.tagsIn_closed {cs out : List Char} (h : Escaped cs out) (j : Nat) {close : List Char}
    (hclose : IsTag close) :
    tagsIn (out ++ (backslashes j ++ bracketed close)) = []
      ∨ tagsIn (out ++ (backslashes j ++ bracketed close)) = [close] := by
  -- The induction follows the escaped parts; only what stands behind them can be a tag.
  induction h with
  | ending n =>
    rw [← List.append_assoc, backslashes_add]
    exact tagsIn_closing (n + j) hclose
  | tag n hname _ ih =>
    rw [List.append_assoc, tagsIn_tag (2 * n + 1) hname, if_neg (by omega)]
    exact ih
  | char n hd hnone hout ih =>
    have hopens := hout.tag?_eq_none hnone j close
    rw [← dropWhile_of_ne hd] at hopens
    rw [List.append_assoc, List.cons_append, tagsIn_backslashes n hopens, tagsIn_cons hopens]
    exact ih

theorem escape_eq (cs : List Char) : ∃ j, escape cs = escapeTags cs ++ backslashes j := by
  unfold escape
  simp only
  split
  · exact ⟨0, (List.append_nil _).symm⟩
  · exact ⟨1, rfl⟩
  · exact ⟨0, (List.append_nil _).symm⟩

/-- Of an escaped text and a closing tag, nothing is a tag but the latter. -/
theorem tagsIn_escape (cs : List Char) {close : List Char} (hclose : IsTag close) :
    tagsIn (escape cs ++ bracketed close) = [] ∨ tagsIn (escape cs ++ bracketed close) = [close] := by
  obtain ⟨j, hescape⟩ := escape_eq cs
  rw [hescape, List.append_assoc]
  exact (escaped cs).tagsIn_closed j hclose

/-! ## Texts without brackets -/

theorem tagsIn_append {pre : List Char} (h : ∀ c ∈ pre, c ≠ '[' ∧ c ≠ '\\') (cs : List Char) :
    tagsIn (pre ++ cs) = tagsIn cs := by
  induction pre with
  | nil => rfl
  | cons c pre ih =>
    obtain ⟨hbracket, hbackslash⟩ := h c List.mem_cons_self
    have hnone : tag? ((c :: (pre ++ cs)).dropWhile isBackslash) = none := by
      rw [dropWhile_of_ne hbackslash, tag?_eq_none_of_ne hbracket]
    rw [List.cons_append, tagsIn_cons hnone, ih fun d hd => h d (List.mem_cons_of_mem c hd)]

theorem pieces_tag (name rest : List Char) (h : IsTag name) :
    pieces (bracketed name ++ rest) = .text [] :: .text [] :: .tag name :: pieces rest := by
  obtain ⟨hlt, hahead⟩ := tagAhead?_bracketed 0 h rest
  change tagAhead? (bracketed name ++ rest) = _ at hahead
  rw [pieces, pieces, split.eq_def, hahead]
  rfl

/-- A bracket after a text without brackets opens a tag for this text only if backslashes lead to it. -/
theorem tag?_beyond {body : List Char} (h : '[' ∉ body) (hne : body ≠ [])
    (hlast : body.getLast? ≠ some '\\') (rest : List Char) :
    tag? ((body ++ rest).dropWhile isBackslash) = none := by
  have hdrop : body.dropWhile isBackslash ≠ [] := by
    intro heq
    have hall := List.dropWhile_eq_nil_iff.mp heq
    have := hall _ (List.getLast_mem hne)
    rw [List.getLast?_eq_some_getLast hne] at hlast
    exact hlast (congrArg some (beq_iff_eq.mp this))
  obtain ⟨e, es, heq⟩ := List.exists_cons_of_ne_nil hdrop
  have hmem : e ∈ body := (List.dropWhile_sublist isBackslash).subset (heq ▸ List.mem_cons_self)
  rw [List.dropWhile_append, heq]
  exact tag?_eq_none_of_ne (fun h' => h (h' ▸ hmem)) _

theorem split_append {body : List Char} (h : '[' ∉ body) (hlast : body.getLast? ≠ some '\\')
    (rest : List Char) :
    split (body ++ '[' :: rest) = (body ++ (split ('[' :: rest)).1, (split ('[' :: rest)).2) := by
  induction body with
  | nil => rfl
  | cons c body ih =>
    have hbody : '[' ∉ body := fun hmem => h (List.mem_cons_of_mem c hmem)
    have hrest : body.getLast? ≠ some '\\' := by
      intro heq
      rw [List.getLast?_cons, heq] at hlast
      exact hlast rfl
    -- No tag can begin before the bracket, so what comes before it is passed over.
    have hnone := tag?_beyond h (List.cons_ne_nil c body) hlast ('[' :: rest)
    rw [split.eq_def, tagAhead?_eq_none hnone]
    simp only [List.cons_append]
    split
    · rename_i heq
      cases heq
    · rename_i cs heq
      obtain ⟨rfl, hbracket⟩ := List.cons.inj heq
      cases body with
      | nil => exact absurd rfl hlast
      | cons e body => exact absurd ((List.cons.inj hbracket).1 ▸ List.mem_cons_self) hbody
    · rename_i heq
      obtain ⟨rfl, rfl⟩ := List.cons.inj heq
      rw [ih hbody hrest]

theorem pieces_closed {body : List Char} (h : '[' ∉ body) (hlast : body.getLast? ≠ some '\\')
    {close : List Char} (hclose : IsTag close) :
    pieces (body ++ bracketed close) = [.text body, .text [], .tag close, .text []] := by
  have hclosing : pieces (bracketed close) = [.text [], .text [], .tag close, .text []] := by
    rw [← List.append_nil (bracketed close), pieces_tag close [] hclose, pieces_of_no_bracket List.not_mem_nil]
  obtain ⟨htext, hpieces⟩ := List.cons.inj hclosing
  have hsplit : split (body ++ bracketed close) = (body ++ (split (bracketed close)).1, (split (bracketed close)).2) :=
    split_append h hlast (close ++ [']'])
  rw [pieces, hsplit]
  simp only
  rw [Piece.text.inj htext, hpieces, List.append_nil]

end NetLookup.CommandLine.Markup
