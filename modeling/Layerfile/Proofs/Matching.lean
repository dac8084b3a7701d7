import Layerfile.Proofs.Agreement

/-! How the two modes of splitting are related. Both cut a token at the leftmost match of its
delimiter, so they agree on whether there are spans and on the key. Both values run to the end of
the token, and the one that is searched for starts between the key and the other one. -/

namespace Layerfile

open Text

/-! ### Matches of a delimiter -/

namespace Delimiter

/-- The texts that a delimiter is written as. -/
def Matches : Delimiter → List Char → Prop
  | equals, marks => marks = ['=']
  | whitespace, marks => marks ≠ [] ∧ ∀ c ∈ marks, isWhiteSpace c
  | comparison, marks => marks ∈ comparisons

def Occurs (delimiter : Delimiter) (text : List Char) : Prop :=
  ∃ marks, marks <:+: text ∧ delimiter.Matches marks

section

variable {delimiter : Delimiter} {text marks : List Char}

theorem Matches.ne_nil (h : delimiter.Matches marks) : marks ≠ [] := by
  cases delimiter with
  | equals => simp [show marks = ['='] from h]
  | whitespace => exact h.1
  | comparison =>
      rintro rfl
      simp [Matches, comparisons] at h

theorem matches_take_width (h : 0 < delimiter.width text) :
    delimiter.Matches (text.take (delimiter.width text)) := by
  cases delimiter with
  | equals =>
      cases text with
      | nil => simp [width] at h
      | cons c rest =>
          by_cases hc : c = '='
          · simp [hc, width, Matches]
          · simp [width_equals_of_ne hc] at h
  | whitespace =>
      have htake : text.take (whitespace.width text) = text.takeWhile isWhiteSpace :=
        (List.prefix_iff_eq_take.mp (List.takeWhile_prefix isWhiteSpace)).symm
      rw [htake]
      exact ⟨List.length_pos_iff.mp h, fun c => List.mem_takeWhile_imp⟩
  | comparison => exact take_width_mem_comparisons h

theorem Matches.length_le_width (h : delimiter.Matches marks) (after : List Char) :
    marks.length ≤ delimiter.width (marks ++ after) := by
  cases delimiter with
  | equals => simp [show marks = ['='] from h, width]
  | whitespace =>
      rw [width, List.takeWhile_append_of_pos h.2]
      simp
  | comparison =>
      simp only [Matches, comparisons, List.mem_cons, List.not_mem_nil, or_false] at h
      rcases h with rfl | rfl | rfl | rfl
      · simp [width]
      · cases after with
        | nil => simp [width]
        | cons c after => by_cases hc : c = '~' <;> simp [width, hc]
      · simp [width]
      · cases after with
        | nil => simp [width]
        | cons c after => by_cases hc : c = '~' <;> simp [width, hc]

end

end Delimiter

/-! ### The leftmost match -/

/-- A text cut at the leftmost match of a delimiter, the longest one that starts there. -/
structure Cut.IsLeftmost (delimiter : Delimiter) (text : List Char) (cut : Cut) : Prop where
  text_eq : text = cut.before ++ (cut.delimiter ++ cut.after)
  matches_delimiter : delimiter.Matches cut.delimiter
  leftmost : ∀ before marks after, text = before ++ (marks ++ after) → delimiter.Matches marks →
    cut.before.length ≤ before.length
  longest : ∀ marks after, cut.delimiter ++ cut.after = marks ++ after →
    delimiter.Matches marks → marks.length ≤ cut.delimiter.length

theorem Cut.IsLeftmost.unique {delimiter : Delimiter} {text : List Char} {cut other : Cut}
    (h : cut.IsLeftmost delimiter text) (hother : other.IsLeftmost delimiter text) :
    cut = other := by
  have hbefore : cut.before.length = other.before.length := Nat.le_antisymm
    (h.leftmost _ _ _ hother.text_eq hother.matches_delimiter)
    (hother.leftmost _ _ _ h.text_eq h.matches_delimiter)
  obtain ⟨hbefore, hbehind⟩ := List.append_inj (h.text_eq.symm.trans hother.text_eq) hbefore
  have hdelimiter : cut.delimiter.length = other.delimiter.length := Nat.le_antisymm
    (hother.longest _ _ hbehind.symm h.matches_delimiter)
    (h.longest _ _ hbehind hother.matches_delimiter)
  obtain ⟨hdelimiter, hafter⟩ := List.append_inj hbehind hdelimiter
  obtain ⟨before, marks, after⟩ := cut
  obtain ⟨otherBefore, otherMarks, otherAfter⟩ := other
  obtain rfl : before = otherBefore := hbefore
  obtain rfl : marks = otherMarks := hdelimiter
  obtain rfl : after = otherAfter := hafter
  rfl

namespace Delimiter

section

variable {delimiter : Delimiter} {text : List Char} {cut : Cut}

theorem isLeftmost_of_cut? (h : delimiter.cut? text = some cut) :
    cut.IsLeftmost delimiter text := by
  induction text generalizing cut with
  | nil => simp [cut?] at h
  | cons c rest ih =>
      rw [cut?] at h
      split at h
      · next hwidth =>
          -- Nothing is measured here, so every match stands behind the first character.
          obtain ⟨inner, hinner, rfl⟩ := Option.map_eq_some_iff.mp h
          obtain ⟨htext, hmatches, hleftmost, hlongest⟩ := ih hinner
          refine ⟨by rw [htext]; rfl, hmatches, ?_, hlongest⟩
          intro before marks after hsplit hmarks
          cases before with
          | nil =>
              have hle := hmarks.length_le_width after
              have hpos := List.length_pos_iff.mpr hmarks.ne_nil
              rw [List.nil_append] at hsplit
              rw [← hsplit, hwidth] at hle
              omega
          | cons d before =>
              rw [List.cons_append, List.cons.injEq] at hsplit
              exact Nat.succ_le_succ (hleftmost before marks after hsplit.2 hmarks)
      · next width hwidth =>
          obtain rfl := Option.some.inj h
          have hpos : 0 < delimiter.width (c :: rest) := by omega
          have hmatches := matches_take_width hpos
          rw [hwidth] at hmatches
          refine ⟨by simp, hmatches, fun _ _ _ _ _ => Nat.zero_le _, ?_⟩
          intro marks after hsplit hmarks
          have hle := hmarks.length_le_width after
          have hlength := delimiter.width_le_length (c :: rest)
          rw [List.take_append_drop] at hsplit
          rw [← hsplit, hwidth] at hle
          rw [hwidth] at hlength
          rw [List.length_take, Nat.min_eq_left hlength]
          exact hle

theorem cut?_eq_none_iff : delimiter.cut? text = none ↔ ¬ delimiter.Occurs text := by
  constructor
  · rintro hnone ⟨marks, ⟨before, after, rfl⟩, hmarks⟩
    induction before with
    | nil =>
        obtain ⟨c, marks, rfl⟩ := List.exists_cons_of_ne_nil hmarks.ne_nil
        have hle := hmarks.length_le_width after
        obtain ⟨width, hwidth⟩ : ∃ width, delimiter.width (c :: marks ++ after) = width + 1 :=
          Nat.exists_eq_succ_of_ne_zero (by simp only [List.length_cons] at hle; omega)
        rw [List.cons_append] at hwidth
        simp [cut?, hwidth] at hnone
    | cons c before ih =>
        rw [List.cons_append, List.cons_append, cut?] at hnone
        split at hnone
        · exact ih (Option.map_eq_none_iff.mp hnone)
        · cases hnone
  · intro hno
    cases hcut : delimiter.cut? text with
    | none => rfl
    | some cut =>
        have hleft := isLeftmost_of_cut? hcut
        refine absurd ⟨cut.delimiter, ⟨cut.before, cut.after, ?_⟩, hleft.matches_delimiter⟩ hno
        rw [List.append_assoc]
        exact hleft.text_eq.symm

end

end Delimiter

/-! ### Splitting in both modes -/

namespace Token

section

variable {token : Token} {compound : Compound} {mode : ValueSpan} {cut : Cut}

/-- Without a match there is nothing to split, and with one there always is. -/
theorem split_eq_none_iff (hfits : token.split compound mode ≠ .error .overflow) :
    token.split compound mode = .ok none ↔ ¬ compound.delimiter.Occurs token.text.toList := by
  rw [← Delimiter.cut?_eq_none_iff]
  cases hcut : compound.delimiter.cut? token.text.toList with
  | none => simp [split, hcut]
  | some cut =>
      obtain ⟨offset, hoffset⟩ := exists_valueOffset compound.delimiter mode cut
      obtain ⟨key, value, hsplit, -⟩ := exists_value_of_split hcut hoffset hfits
      simp [hsplit]

theorem split_of_valueOffset (hcut : compound.delimiter.cut? token.text.toList = some cut)
    {offset : Nat} (hoffset : valueOffset compound.delimiter mode cut = some offset)
    (hfits : token.split compound mode ≠ .error .overflow) :
    token.split compound mode = .ok (some (token.spanOver [] cut.before compound.key,
      token.spanOver (token.text.toList.take offset) (token.text.toList.drop offset)
        compound.value)) := by
  have hrest : token.units - Text.units (token.text.toList.take offset) =
      Text.units (token.text.toList.drop offset) := by
    have happend := congrArg Text.units (List.take_append_drop offset token.text.toList)
    rw [units_append] at happend
    rw [Token.units, ← happend, Nat.add_sub_cancel_left]
  simp only [split, hcut, hoffset] at hfits ⊢
  split at hfits
  · next hlimit =>
      rw [if_pos hlimit, hrest]
      rfl
  · exact absurd rfl hfits

theorem end_spanOver_drop (token : Token) (offset : Nat) (category : Category) :
    (token.spanOver (token.text.toList.take offset) (token.text.toList.drop offset)
      category).start + (token.spanOver (token.text.toList.take offset)
        (token.text.toList.drop offset) category).length = token.column + token.units := by
  rw [spanOver, Nat.add_assoc, ← units_append, List.take_append_drop, Token.units]

end

end Token

theorem units_take_le {first second : Nat} (h : first ≤ second) (text : List Char) :
    units (text.take first) ≤ units (text.take second) := by
  rw [← List.take_append_drop first (text.take second), List.take_take, Nat.min_eq_left h,
    units_append]
  exact Nat.le_add_right _ _

/-- Both modes give nothing exactly if the delimiter occurs nowhere in the text. Otherwise both give
the same key in front of the leftmost match and a value up to the end of the token. One value starts
right behind that match; the other starts there or earlier, but not inside the key, and it starts
earlier wherever the second segment is empty. -/
theorem split_modes_share_key_and_end (token : Token) (compound : Compound)
    (hfits : ∀ mode, token.split compound mode ≠ .error .overflow) :
    (∀ mode, token.split compound mode = .ok none ↔
      ¬ compound.delimiter.Occurs token.text.toList) ∧
    (compound.delimiter.Occurs token.text.toList → ∃ cut key absorbed structural,
      Cut.IsLeftmost compound.delimiter token.text.toList cut ∧
      token.split compound .absorbToEnd = .ok (some (key, absorbed)) ∧
      token.split compound .structural = .ok (some (key, structural)) ∧
      key = ⟨token.row, token.column, units cut.before, compound.key, []⟩ ∧
      absorbed.start + absorbed.length = token.column + token.units ∧
      structural.start + structural.length = token.column + token.units ∧
      key.start + key.length ≤ absorbed.start ∧ absorbed.start ≤ structural.start ∧
      structural.start = token.column + units (cut.before ++ cut.delimiter) ∧
      (compound.delimiter.segment cut = [] → absorbed.start ≠ structural.start)) := by
  refine ⟨fun mode => Token.split_eq_none_iff (hfits mode), ?_⟩
  intro hoccurs
  obtain ⟨cut, hcut⟩ : ∃ cut, compound.delimiter.cut? token.text.toList = some cut := by
    rw [← Option.ne_none_iff_exists']
    intro hnone
    exact Delimiter.cut?_eq_none_iff.mp hnone hoccurs
  have hleft := Delimiter.isLeftmost_of_cut? hcut
  obtain ⟨offset, hle, hsearch, habsorb⟩ :=
    Token.exists_valueOffset_absorbToEnd compound.delimiter cut
  have hstructural : Token.valueOffset compound.delimiter .structural cut =
      some (cut.before.length + cut.delimiter.length) := rfl
  have hbefore : token.text.toList.take cut.before.length = cut.before := by
    rw [hleft.text_eq, List.take_left]
  have hbehind : token.text.toList.take (cut.before.length + cut.delimiter.length) =
      cut.before ++ cut.delimiter := by
    rw [hleft.text_eq, ← List.append_assoc, ← List.length_append, List.take_left]
  refine ⟨cut, _, _, _, hleft, Token.split_of_valueOffset hcut habsorb (hfits _),
    Token.split_of_valueOffset hcut hstructural (hfits _), rfl,
    token.end_spanOver_drop _ _, token.end_spanOver_drop _ _, ?_, ?_, ?_, ?_⟩
  · have hkey := units_take_le (Nat.le_add_right cut.before.length offset) token.text.toList
    rw [hbefore] at hkey
    simp only [Token.spanOver, units_nil]
    omega
  · exact Nat.add_le_add_left (units_take_le (Nat.add_le_add_left hle _) _) _
  · rw [Token.spanOver, hbehind]
  · intro hsegment
    -- The empty segment is found at once, in front of the whole delimiter.
    obtain rfl : offset = 0 := by
      rw [hsegment] at hsearch
      obtain ⟨first, hfirst, hfound⟩ : ∃ first, first ≤ ([] : List Char).length ∧
          offsetOf? [] ([] ++ (cut.delimiter ++ cut.after)) = some first :=
        exists_offsetOf?_append List.nil_prefix []
      rw [List.nil_append, hsearch, Option.some.injEq] at hfound
      simpa [hfound] using hfirst
    have hpos := List.length_pos_iff.mpr hleft.matches_delimiter.ne_nil
    have hlength : cut.before.length + cut.delimiter.length ≤ token.text.toList.length := by
      rw [hleft.text_eq]
      simp
    have hlt := units_take_lt (by omega : cut.before.length + 0 < _) hlength
    simp only [Token.spanOver]
    omega

/-- The key takes two units, and the empty segment lets the values start at different marks. -/
theorem split_modes_share_key_of_two_units :
    Delimiter.equals.Occurs "🚀==b".toList ∧
    ∃ absorbed structural,
      Token.split ⟨.argument .assignment, 1, 4, "🚀==b"⟩ ⟨.variableName, .string, .equals⟩
          .absorbToEnd =
        .ok (some (⟨0, 4, 2, .variableName, []⟩, absorbed)) ∧
      Token.split ⟨.argument .assignment, 1, 4, "🚀==b"⟩ ⟨.variableName, .string, .equals⟩
          .structural =
        .ok (some (⟨0, 4, 2, .variableName, []⟩, structural)) ∧
      absorbed.start + absorbed.length = 9 ∧ structural.start + structural.length = 9 ∧
      6 ≤ absorbed.start ∧ absorbed.start < structural.start ∧ structural.start = 7 := by
  have hoccurs : Delimiter.equals.Occurs "🚀==b".toList :=
    ⟨['='], ⟨['🚀'], ['=', 'b'], rfl⟩, rfl⟩
  have hfits : ∀ mode, Token.split ⟨.argument .assignment, 1, 4, "🚀==b"⟩
      ⟨.variableName, .string, .equals⟩ mode ≠ .error .overflow := by
    intro mode
    cases mode <;> decide
  obtain ⟨cut, key, absorbed, structural, hleft, habsorb, hstructural, rfl, hend, hend', hkey,
    hle, hstart, hne⟩ := (split_modes_share_key_and_end _ _ hfits).2 hoccurs
  have hcut : Delimiter.equals.cut? "🚀==b".toList = some ⟨['🚀'], ['='], ['=', 'b']⟩ := by decide
  obtain rfl := hleft.unique (Delimiter.isLeftmost_of_cut? hcut)
  have hne := hne (by decide)
  exact ⟨hoccurs, absorbed, structural, habsorb, hstructural, hend, hend', hkey, by omega, hstart⟩

end Layerfile
