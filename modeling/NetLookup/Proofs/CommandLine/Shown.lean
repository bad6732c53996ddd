import NetLookup.Proofs.CommandLine.Escape
import NetLookup.Proofs.CommandLine.Name

/-! # Texts that can be shown

Where all tags of a text are one plain name and the same name with a slash, and each of the latter closes
one of the former, nothing keeps the text from being shown. -/

namespace NetLookup.CommandLine

namespace Markup

/-! ## Tags of one name -/

/-- The tags behind a number of open ones, each closing tag with an open one that it closes. -/
inductive Nested (name : List Char) : Nat → List (List Char) → Prop
  | none (depth : Nat) : Nested name depth []
  | opening {depth : Nat} {tags : List (List Char)} : Nested name (depth + 1) tags →
    Nested name depth (name :: tags)
  | closing {depth : Nat} {tags : List (List Char)} : Nested name depth tags →
    Nested name (depth + 1) (('/' :: name) :: tags)

structure Progress.Plain (name : List Char) (depth : Nat) (p : Progress) : Prop where
  depth : p.opened.length = depth
  opened : ∀ o ∈ p.opened, o.name = name ∧ o.parameters = none
  spans : ∀ s ∈ p.spans, s.style = name

variable {name : List Char}

theorem Progress.Plain.style {depth : Nat} {p : Progress} (hp : p.Plain name depth) {o : Opened}
    (ho : o ∈ p.opened) : o.style = name := by
  obtain ⟨hname, hparameters⟩ := hp.opened o ho
  rw [Opened.style, hname, hparameters]
  exact List.append_nil name

theorem parted_of_no_equals {tag : List Char} (h : '=' ∉ tag) : parted tag = (tag, none) := by
  have hall : ∀ c ∈ tag, (c != '=') = true := by
    intro c hc
    exact bne_iff_ne.mpr fun heq => h (heq ▸ hc)
  rw [parted, List.takeWhile_eq_self_iff.mpr hall, List.dropWhile_eq_nil_iff.mpr hall]

theorem notMem_small {c : Char} (h : Text.IsSmall name) (hc : c.isLower = false) : c ∉ name :=
  fun hmem => Text.ne_of_isLower (h.small c hmem) hc rfl

theorem normalName_name (h : Style.IsName name) : normalName name = .ok name := by
  rw [normalName, Style.normal_name h]

theorem Progress.Plain.follow_opening {depth : Nat} {p : Progress} (hp : p.Plain name depth)
    (h : Style.IsName name) :
    ∃ q, p.follow name = .ok q ∧ q.shown = p.shown ∧ q.Plain name (depth + 1) := by
  refine ⟨{ p with opened := ⟨name, none, p.shown.length⟩ :: p.opened }, ?_, rfl, ?_, ?_, hp.spans⟩
  · rw [follow, parted_of_no_equals (notMem_small h.toIsSmall rfl)]
    split
    · rename_i rest _ heq
      obtain ⟨rfl, -⟩ := Prod.mk.inj heq
      exact absurd List.mem_cons_self (notMem_small (c := '/') h.toIsSmall rfl)
    · rename_i heq
      obtain ⟨rfl, rfl⟩ := Prod.mk.inj heq
      rw [normalName_name h]
      rfl
  · exact congrArg (· + 1) hp.depth
  · intro o ho
    rcases List.mem_cons.mp ho with rfl | ho
    · exact ⟨rfl, rfl⟩
    · exact hp.opened o ho

theorem Progress.Plain.follow_closing {depth : Nat} {p : Progress} (hp : p.Plain name (depth + 1))
    (h : Style.IsName name) :
    ∃ q, p.follow ('/' :: name) = .ok q ∧ q.shown = p.shown ∧ q.Plain name depth := by
  obtain ⟨o, os, hopened⟩ := List.exists_cons_of_length_eq_add_one hp.depth
  have ho : o ∈ p.opened := by
    rw [hopened]
    exact List.mem_cons_self
  obtain ⟨hname, hparameters⟩ := hp.opened o ho
  -- The tag closes the innermost opened one, as all of them have the same name.
  have htag : '=' ∉ '/' :: name := List.not_mem_cons_of_ne_of_not_mem (by decide) (notMem_small h.toIsSmall rfl)
  have hfits : (o.name == name) = true := beq_iff_eq.mpr hname
  have hreadable : o.isReadable = true := by
    rw [Opened.isReadable, hname, hparameters]
    exact Bool.or_true _
  refine ⟨{ p with opened := os, spans := p.span o :: p.spans }, ?_, rfl, ?_, ?_, ?_⟩
  · rw [follow, parted_of_no_equals htag]
    simp only
    rw [Text.trim_small h.toIsSmall, if_neg (by simp [h.nonempty]), normalName_name h]
    change p.close (·.name == name) = _
    have hfind : (o :: os).find? (·.name == name) = some o := List.find?_cons_of_pos hfits
    have herase : (o :: os).eraseP (·.name == name) = os := List.eraseP_cons_of_pos hfits
    rw [close, hopened, hfind, herase]
    exact if_pos hreadable
  · have := hp.depth
    rw [hopened] at this
    exact Nat.succ.inj this
  · intro o ho
    exact hp.opened o (by rw [hopened]; exact List.mem_cons_of_mem _ ho)
  · intro s hs
    rcases List.mem_cons.mp hs with rfl | hs
    · exact hp.style ho
    · exact hp.spans s hs

def Piece.shown : Piece → List Char
  | .text cs => printed cs
  | .tag _ => []

theorem Progress.Plain.follow_all {depth : Nat} {p : Progress} (hp : p.Plain name depth)
    (h : Style.IsName name) {pieces : List Piece} (hpieces : Nested name depth (pieces.filterMap Piece.tag?)) :
    ∃ q depth', pieces.foldlM step p = .ok q ∧ q.shown = p.shown ++ pieces.flatMap Piece.shown
      ∧ q.Plain name depth' := by
  induction pieces generalizing depth p with
  | nil => exact ⟨p, depth, rfl, (List.append_nil p.shown).symm, hp⟩
  | cons piece pieces ih =>
    -- Texts leave the depth alone, and tags move it as their nesting says.
    have hstep : ∃ q depth', step p piece = .ok q ∧ q.shown = p.shown ++ piece.shown
        ∧ q.Plain name depth' ∧ Nested name depth' (pieces.filterMap Piece.tag?) := by
      cases piece with
      | text cs => exact ⟨_, depth, rfl, rfl, ⟨hp.depth, hp.opened, hp.spans⟩, hpieces⟩
      | tag tag =>
        change Nested name depth (tag :: pieces.filterMap Piece.tag?) at hpieces
        cases hpieces with
        | opening hrest =>
          obtain ⟨q, hfollow, hshown, hq⟩ := hp.follow_opening h
          exact ⟨q, _, hfollow, hshown.trans (List.append_nil p.shown).symm, hq, hrest⟩
        | closing hrest =>
          obtain ⟨q, hfollow, hshown, hq⟩ := hp.follow_closing h
          exact ⟨q, _, hfollow, hshown.trans (List.append_nil p.shown).symm, hq, hrest⟩
    obtain ⟨q, depth', hfollow, hshown, hq, hrest⟩ := hstep
    obtain ⟨last, depth'', hfold, hlast, hplain⟩ := ih hq hrest
    refine ⟨last, depth'', ?_, ?_, hplain⟩
    · rw [List.foldlM_cons, hfollow]
      exact hfold
    · rw [hlast, hshown, List.flatMap_cons, List.append_assoc]

theorem Span.isBadNumber_name (h : Style.IsName name) {s : Span} (hs : s.style = name) :
    s.isBadNumber = false := by
  rw [isBadNumber, hs]
  obtain ⟨style, hread, -⟩ | hread := Style.read_name h
  · rw [hread]
  · rw [hread]

theorem Progress.Plain.finish_ok {depth : Nat} {p : Progress} (hp : p.Plain name depth)
    (h : Style.IsName name) : p.finish = .ok (Text.expandTabs p.shown) := by
  have hspans : ∀ s ∈ p.opened.map p.span ++ p.spans, s.style = name := by
    intro s hs
    rcases List.mem_append.mp hs with hs | hs
    · obtain ⟨o, ho, rfl⟩ := List.mem_map.mp hs
      exact hp.style ho
    · exact hp.spans s hs
  rw [finish, if_neg]
  rw [Bool.not_eq_true, List.any_eq_false]
  intro s hs
  rw [Span.isBadNumber_name h (hspans s hs)]
  exact Bool.false_ne_true

theorem show?_nested (h : Style.IsName name) {cs : List Char} (hcs : Nested name 0 (tagsIn cs)) :
    show? cs = .ok (Text.expandTabs ((pieces cs).flatMap Piece.shown)) := by
  have hplain : Progress.Plain name 0 {} := ⟨rfl, nofun, nofun⟩
  have hpieces : Nested name 0 ((pieces cs).filterMap Piece.tag?) := hcs
  obtain ⟨p, depth, hfold, hshown, hp⟩ := hplain.follow_all h hpieces
  rw [show?, hfold]
  rw [List.nil_append] at hshown
  rw [← hshown]
  exact hp.finish_ok h

/-! ## Marked texts -/

theorem isTag_name (h : Style.IsName name) : IsTag name ∧ IsTag ('/' :: name) := by
  have hplain : ∀ d ∈ name, isBracket d = false := by
    intro d hd
    have := Text.ne_of_isLower (h.small d hd) (d := ']') rfl
    have := Text.ne_of_isLower (h.small d hd) (d := '[') rfl
    simp [isBracket, *]
  obtain ⟨c, cs, rfl⟩ := List.exists_cons_of_ne_nil h.nonempty
  refine ⟨⟨⟨c, cs, rfl, ?_⟩, hplain⟩, ⟨⟨'/', c :: cs, rfl, rfl⟩, ?_⟩⟩
  · simp [opensTag, h.small c List.mem_cons_self]
  · intro d hd
    rcases List.mem_cons.mp hd with rfl | hd
    · rfl
    · exact hplain d hd

theorem show?_between (h : Style.IsName name) {body : List Char}
    (hbody : tagsIn (body ++ bracketed ('/' :: name)) = []
      ∨ tagsIn (body ++ bracketed ('/' :: name)) = ['/' :: name]) :
    show? (bracketed name ++ (body ++ bracketed ('/' :: name)))
      = .ok (Text.expandTabs ((pieces (body ++ bracketed ('/' :: name))).flatMap Piece.shown)) := by
  have hname := (isTag_name h).1
  have htags : tagsIn (bracketed name ++ (body ++ bracketed ('/' :: name)))
      = name :: tagsIn (body ++ bracketed ('/' :: name)) := tagsIn_tag 0 hname _
  have hnested : Nested name 0 (tagsIn (bracketed name ++ (body ++ bracketed ('/' :: name)))) := by
    rw [htags]
    obtain hnone | hone := hbody
    · rw [hnone]
      exact .opening (.none 1)
    · rw [hone]
      exact .opening (.closing (.none 0))
  rw [show?_nested h hnested, pieces_tag name _ hname]
  rfl

theorem printed_nil : printed [] = [] := by
  rw [printed, Text.expandEmoji_of_no_colon List.not_mem_nil]
  rfl

theorem show?_between_plain (h : Style.IsName name) {body : List Char} (hbody : '[' ∉ body)
    (hlast : body.getLast? ≠ some '\\') :
    show? (bracketed name ++ (body ++ bracketed ('/' :: name))) = .ok (Text.expandTabs (printed body)) := by
  have hpieces := pieces_closed hbody hlast (isTag_name h).2
  have htags : tagsIn (body ++ bracketed ('/' :: name)) = ['/' :: name] :=
    congrArg (List.filterMap Piece.tag?) hpieces
  rw [show?_between h (.inr htags), hpieces]
  simp [Piece.shown, printed_nil]

end Markup

theorem toList_marked (color mark text : String) :
    ("[" ++ color ++ "]" ++ mark ++ " " ++ String.ofList (Markup.escape text.toList)
      ++ "[/" ++ color ++ "]").toList
      = Markup.bracketed color.toList ++ ((mark ++ " ").toList ++ Markup.escape text.toList
        ++ Markup.bracketed ('/' :: color.toList)) := by
  simp [Markup.bracketed]

/-- Whatever a text holds, it can be shown after a mark in a colour. -/
theorem marked_ok {color mark : String} (hcolor : Style.IsName color.toList)
    (hmark : ∀ c ∈ (mark ++ " ").toList, c ≠ '[' ∧ c ≠ '\\') (text : String) :
    ∃ line, marked color mark text = .ok line := by
  have htags := Markup.tagsIn_escape text.toList (Markup.isTag_name hcolor).2
  rw [← Markup.tagsIn_append hmark, ← List.append_assoc] at htags
  have hshow := Markup.show?_between hcolor htags
  rw [marked, shown, toList_marked, hshow]
  exact ⟨_, rfl⟩

theorem shown_none : shown "[dim](none)[/dim]" = .ok "(none)" := by
  have htext : "[dim](none)[/dim]".toList = Markup.bracketed "dim".toList ++ ("(none)".toList
      ++ Markup.bracketed ('/' :: "dim".toList)) := by decide
  have hprinted : Markup.printed "(none)".toList = "(none)".toList := by
    rw [Markup.printed, Text.expandEmoji_of_no_colon (by decide)]
    decide
  rw [shown, htext, Markup.show?_between_plain isName_dim (by decide) (by decide), hprinted,
    Text.expandTabs_of_no_tab (by decide)]
  rfl

end NetLookup.CommandLine
