import NetLookup.CommandLine.Run
import Mathlib.Data.List.Basic
import Mathlib.Tactic.Common

/-! # Names that mean themselves

A style that is one word of small letters is its own normal form, unless it is the short name of something.
Whether it names a colour makes no difference. -/

namespace NetLookup

namespace Text

/-! ## Words of small letters -/

structure IsSmall (word : List Char) : Prop where
  nonempty : word ≠ []
  small : ∀ c ∈ word, c.isLower = true

theorem between_of_isLower {c : Char} (h : c.isLower = true) : 97 ≤ c.toNat ∧ c.toNat ≤ 122 := by
  obtain ⟨hlow, hhigh⟩ := Bool.and_eq_true_iff.mp h
  exact ⟨of_decide_eq_true hlow, of_decide_eq_true hhigh⟩

theorem ne_of_isLower {c d : Char} (h : c.isLower = true) (hd : d.isLower = false) : c ≠ d := by
  rintro rfl
  rw [hd] at h
  cases h

theorem isBlank_of_isLower {c : Char} (h : c.isLower = true) : isBlank c = false := by
  obtain ⟨hlow, hhigh⟩ := between_of_isLower h
  simp only [isBlank, blanks, Ranges.holds, List.any_cons, List.any_nil, Bool.or_eq_false_iff,
    Bool.and_eq_false_iff, decide_eq_false_iff_not, and_true]
  omega

theorem lowered_apart : lowered.all (fun r => r.2.1 < 97 || 122 < r.1) = true := by decide +kernel

theorem lowerChar_of_isLower {c : Char} (h : c.isLower = true) : lowerChar c = c := by
  have hnone : lowered.find? (fun r => Run.holds r c.toNat) = none := by
    rw [List.find?_eq_none]
    intro r hr
    have hapart := List.all_eq_true.mp lowered_apart r hr
    obtain ⟨hlow, hhigh⟩ := between_of_isLower h
    simp only [Bool.or_eq_true, decide_eq_true_eq] at hapart
    simp only [Run.holds, Bool.and_eq_true, decide_eq_true_eq]
    omega
  rw [lowerChar, hnone]

theorem lowerBetween_of_isLower {c : Char} (h : c.isLower = true) (before after : List Char) :
    lowerBetween before c after = [c] := by
  rw [lowerBetween, if_neg (ne_of_isLower h rfl), if_neg (ne_of_isLower h rfl), lowerChar_of_isLower h]

theorem lowerAfter_small {word : List Char} (h : ∀ c ∈ word, c.isLower = true) (before : List Char) :
    lowerAfter before word = word := by
  induction word generalizing before with
  | nil => rfl
  | cons c cs ih =>
    rw [lowerAfter, lowerBetween_of_isLower (h c List.mem_cons_self),
      ih (fun d hd => h d (List.mem_cons_of_mem c hd))]
    rfl

theorem lower_small {word : List Char} (h : IsSmall word) : lower word = word := lowerAfter_small h.small []

theorem dropWhile_isBlank_small {word : List Char} (h : ∀ c ∈ word, c.isLower = true) :
    word.dropWhile isBlank = word := by
  cases word with
  | nil => rfl
  | cons c cs =>
    rw [List.dropWhile_cons_of_neg]
    simp [isBlank_of_isLower (h c List.mem_cons_self)]

theorem trim_small {word : List Char} (h : IsSmall word) : trim word = word := by
  rw [trim, dropWhile_isBlank_small h.small,
    dropWhile_isBlank_small fun c hc => h.small c (List.mem_reverse.mp hc), List.reverse_reverse]

theorem words_small {word : List Char} (h : IsSmall word) : words word = [word] := by
  have hfold : ∀ cs : List Char, (∀ c ∈ cs, c.isLower = true) →
      cs.foldr beforeWords ([], []) = (cs, []) := by
    intro cs hcs
    induction cs with
    | nil => rfl
    | cons c cs ih =>
      rw [List.foldr_cons, ih fun d hd => hcs d (List.mem_cons_of_mem c hd), beforeWords,
        isBlank_of_isLower (hcs c List.mem_cons_self)]
      rfl
  rw [words, hfold word h.small]
  simp [h.nonempty]

end Text

namespace CommandLine

/-! ## Colours -/

namespace Color

theorem argument?_small {word : List Char} (h : Text.IsSmall word) (name : String) :
    argument? name word = none := by
  rw [argument?, if_neg]
  simp only [Bool.and_eq_true, beq_iff_eq, decide_eq_true_eq, not_and]
  rintro ⟨-, hlast⟩
  exact absurd (h.small ')' (List.mem_of_getLast? hlast)) (by decide)

theorem ofBool_ne_badNumber (known : Bool) : ofBool known ≠ .badNumber := by
  cases known <;> exact nofun

theorem read_small {word : List Char} (h : Text.IsSmall word) : read word ≠ .badNumber := by
  -- the function is opened before it is applied: its table of names is too long to be looked at
  have hopened : ∀ f, f = read → f word ≠ .badNumber := by
    intro f hf
    delta read at hf
    rw [hf]
    dsimp only
    rw [argument?_small h, argument?_small h]
    generalize names.contains word = known
    cases known with
    | true => exact nofun
    | false =>
      rw [if_neg (by decide)]
      split
      · exact ofBool_ne_badNumber _
      · exact nofun
  exact hopened read rfl

end Color

/-! ## Styles -/

namespace Style

structure IsName (name : List Char) extends Text.IsSmall name where
  settled : ∀ a, Attribute.ofWord? name = some a → a.name.toList = name

theorem text_switch (a : Attribute) : (switch {} a true).text = a.name.toList := by
  cases a <;> rfl

theorem text_color (name : List Char) : ({ color := some name } : Style).text = name :=
  List.append_nil name

theorem readColor_small {word : List Char} (h : Text.IsSmall word) :
    readColor word = .ok word ∨ readColor word = .error .unknownWord := by
  -- opened before it is applied, for the same reason
  have hopened : ∀ f, f = readColor → f word = .ok word ∨ f word = .error .unknownWord := by
    intro f hf
    delta readColor at hf
    rw [hf]
    dsimp only
    rw [Text.lower_small h]
    have hread := Color.read_small h
    revert hread
    generalize Color.read word = reading
    intro hread
    cases reading with
    | color => exact .inl rfl
    | noColor => exact .inr rfl
    | badNumber => exact absurd rfl hread
  exact hopened readColor rfl

theorem readWords_nil (s : Style) : readWords s [] = .ok s := by
  rw [readWords.eq_def]

theorem read_name {name : List Char} (h : IsName name) :
    (∃ s, read name = .ok s ∧ s.text = name) ∨ read name = .error .unknownWord := by
  rw [read, Text.trim_small h.toIsSmall, Text.words_small h.toIsSmall]
  by_cases hnone : name = noStyle
  · rw [if_pos hnone]
    exact .inl ⟨{}, rfl, hnone.symm⟩
  · rw [if_neg hnone, readWords.eq_def]
    simp only [Text.lower_small h.toIsSmall]
    -- of the colour nothing counts but how the name is read
    have hcolor := readColor_small h.toIsSmall
    revert hcolor
    generalize readColor = readColor'
    intro hcolor
    split
    · rename_i _ heq
      cases heq
    · rename_i _ heq
      cases heq
    · rename_i _ heq
      cases heq
    · exact .inr rfl
    · exact .inr rfl
    · exact .inr rfl
    · cases hword : Attribute.ofWord? name with
      | some a =>
        refine .inl ⟨switch {} a true, ?_, (text_switch a).trans (h.settled a hword)⟩
        exact readWords_nil _
      | none =>
        obtain hcolor | hcolor := hcolor
        · refine .inl ⟨{ color := some name }, ?_, text_color name⟩
          rw [hcolor]
          exact readWords_nil _
        · rw [hcolor]
          exact .inr rfl

theorem normal_name {name : List Char} (h : IsName name) : normal name = .ok name := by
  rw [normal]
  obtain ⟨s, hread, htext⟩ | hread := read_name h
  · rw [hread]
    exact congrArg _ htext
  · rw [hread, Text.trim_small h.toIsSmall, Text.lower_small h.toIsSmall]

end Style

theorem isName_green : Style.IsName "green".toList where
  nonempty := by decide
  small := by simp
  settled := by decide

theorem isName_red : Style.IsName "red".toList where
  nonempty := by decide
  small := by simp
  settled := by decide

theorem isName_dim : Style.IsName "dim".toList where
  nonempty := by decide
  small := by simp
  settled := by decide

end CommandLine

end NetLookup
