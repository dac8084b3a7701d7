import Layerfile.Proofs.Matching

/-! Where positions overflow. The only sum that collecting makes is that of a column and the text in
front of a value. That text is part of its token, so what is left of the token is exact, and a token
of a source that is not too long stays below the limit. -/

namespace Layerfile

open Text

/-! ### The text in front of a value -/

/-- `front` is the text in front of the value when a text is cut at its leftmost delimiter. -/
inductive ValueFront (delimiter : Delimiter) (text : List Char) : ValueSpan → List Char → Prop
  /-- The value starts right behind the delimiter. -/
  | structural {cut : Cut} (hcut : cut.IsLeftmost delimiter text) :
      ValueFront delimiter text .structural (cut.before ++ cut.delimiter)
  /-- The value starts at the first place behind the key where the second segment does. -/
  | absorbToEnd {cut : Cut} {skipped tail : List Char} (hcut : cut.IsLeftmost delimiter text)
      (hsplit : cut.delimiter ++ cut.after = skipped ++ tail)
      (hfound : delimiter.segment cut <+: tail)
      (hfirst : ∀ inner, inner <:+ skipped → inner ≠ [] →
        ¬ delimiter.segment cut <+: inner ++ tail) :
      ValueFront delimiter text .absorbToEnd (cut.before ++ skipped)

theorem Delimiter.cut?_eq_some_iff {delimiter : Delimiter} {text : List Char} {cut : Cut} :
    delimiter.cut? text = some cut ↔ cut.IsLeftmost delimiter text := by
  refine ⟨isLeftmost_of_cut?, ?_⟩
  intro hleft
  cases hcut : delimiter.cut? text with
  | none =>
      have hoccurs : delimiter.Occurs text := by
        refine ⟨cut.delimiter, ⟨cut.before, cut.after, ?_⟩, hleft.matches_delimiter⟩
        rw [List.append_assoc, ← hleft.text_eq]
      exact absurd hoccurs (cut?_eq_none_iff.mp hcut)
  | some other => rw [hleft.unique (isLeftmost_of_cut? hcut)]

theorem exists_append_of_offsetOf? {needle text : List Char} {offset : Nat}
    (h : offsetOf? needle text = some offset) :
    ∃ skipped tail, text = skipped ++ tail ∧ skipped.length = offset ∧ needle <+: tail := by
  induction text generalizing offset with
  | nil =>
      simp only [offsetOf?, Option.ite_none_right_eq_some, List.isEmpty_iff,
        Option.some.injEq] at h
      exact ⟨[], [], rfl, h.2, by simp [h.1]⟩
  | cons c rest ih =>
      rw [offsetOf?] at h
      split at h
      · next hstarts =>
          refine ⟨[], c :: rest, rfl, Option.some.inj h, ?_⟩
          exact List.isPrefixOf_iff_prefix.mp hstarts
      · obtain ⟨inner, hinner, rfl⟩ := Option.map_eq_some_iff.mp h
        obtain ⟨skipped, tail, rfl, rfl, hfound⟩ := ih hinner
        exact ⟨c :: skipped, tail, rfl, rfl, hfound⟩

section

variable {delimiter : Delimiter} {mode : ValueSpan} {text front : List Char}

/-- The front is a part of the text, and its length is the offset of the value. -/
theorem valueFront_iff :
    ValueFront delimiter text mode front ↔ ∃ cut, delimiter.cut? text = some cut ∧
      Token.valueOffset delimiter mode cut = some front.length ∧ front <+: text := by
  constructor
  · intro h
    cases h with
    | @structural cut hcut =>
        refine ⟨cut, Delimiter.cut?_eq_some_iff.mpr hcut, ?_, cut.after, ?_⟩
        · rw [Token.valueOffset, List.length_append]
        · rw [hcut.text_eq, List.append_assoc]
    | @absorbToEnd cut skipped tail hcut hsplit hfound hfirst =>
        refine ⟨cut, Delimiter.cut?_eq_some_iff.mpr hcut, ?_, tail, ?_⟩
        · have hoffset := (offsetOf?_append_iff hfound skipped).mpr hfirst
          rw [Token.valueOffset, hsplit, hoffset, List.length_append]
          rfl
        · rw [hcut.text_eq, hsplit, List.append_assoc]
  · rintro ⟨cut, hcut, hoffset, rest, hrest⟩
    have hleft := Delimiter.isLeftmost_of_cut? hcut
    have htext := hrest.trans hleft.text_eq
    cases mode with
    | structural =>
        have hlength : front.length = (cut.before ++ cut.delimiter).length := by
          rw [List.length_append]
          exact (Option.some.inj hoffset).symm
        rw [← List.append_assoc] at htext
        rw [(List.append_inj htext hlength).1]
        exact .structural hleft
    | absorbToEnd =>
        obtain ⟨offset, hsearch, hfront⟩ := Option.map_eq_some_iff.mp hoffset
        obtain ⟨skipped, tail, hsplit, rfl, hfound⟩ := exists_append_of_offsetOf? hsearch
        rw [hsplit] at hsearch
        have hlength : front.length = (cut.before ++ skipped).length := by
          rw [List.length_append]
          exact hfront.symm
        rw [hsplit, ← List.append_assoc] at htext
        rw [(List.append_inj htext hlength).1]
        exact .absorbToEnd hleft hsplit hfound ((offsetOf?_append_iff hfound skipped).mp hsearch)

theorem existsUnique_valueFront (mode : ValueSpan) (h : delimiter.Occurs text) :
    ∃! front, ValueFront delimiter text mode front := by
  obtain ⟨cut, hcut⟩ : ∃ cut, delimiter.cut? text = some cut := by
    rw [← Option.ne_none_iff_exists']
    intro hnone
    exact Delimiter.cut?_eq_none_iff.mp hnone h
  obtain ⟨offset, hoffset⟩ := Token.exists_valueOffset delimiter mode cut
  obtain ⟨middle, tail, hmiddle, rfl⟩ := Token.valueOffset_spec hoffset
  have hprefix : cut.before ++ middle <+: text := by
    refine ⟨tail, ?_⟩
    rw [← Delimiter.append_of_cut? hcut, List.append_assoc, List.append_assoc, hmiddle]
  refine ⟨cut.before ++ middle, valueFront_iff.mpr ⟨cut, hcut, hoffset, hprefix⟩, ?_⟩
  intro other hother
  obtain ⟨same, hsame, hoffset', hprefix'⟩ := valueFront_iff.mp hother
  obtain rfl := Option.some.inj (hcut.symm.trans hsame)
  have hlength : other.length = (cut.before ++ middle).length :=
    Option.some.inj (hoffset'.symm.trans hoffset)
  rw [List.prefix_iff_eq_take.mp hprefix, List.prefix_iff_eq_take.mp hprefix', hlength]

theorem ValueFront.occurs (h : ValueFront delimiter text mode front) :
    delimiter.Occurs text := by
  obtain ⟨cut, hcut, -⟩ := valueFront_iff.mp h
  by_contra hno
  rw [Delimiter.cut?_eq_none_iff.mpr hno] at hcut
  cases hcut

end

/-! ### The numbers of a split -/

namespace Token

section

variable {token : Token} {compound : Compound} {mode : ValueSpan} {front : List Char}

theorem units_le_of_valueFront (h : ValueFront compound.delimiter token.text.toList mode front) :
    Text.units front ≤ token.units := by
  obtain ⟨-, -, -, rest, hrest⟩ := valueFront_iff.mp h
  rw [Token.units, ← hrest, units_append]
  exact Nat.le_add_right _ _

/-- The start of the value is a sum that has to fit, and its length is what the front leaves. -/
theorem split_of_valueFront (h : ValueFront compound.delimiter token.text.toList mode front) :
    ∃ key value, value.start = token.column + Text.units front ∧
      value.length = token.units - Text.units front ∧
      token.split compound mode =
        if token.column + Text.units front < positionLimit then .ok (some (key, value))
        else .error .overflow := by
  obtain ⟨cut, hcut, hoffset, hprefix⟩ := valueFront_iff.mp h
  simp only [split, hcut, hoffset, ← List.prefix_iff_eq_take.mp hprefix]
  exact ⟨_, _, rfl, rfl, rfl⟩

theorem split_eq_error_iff :
    token.split compound mode = .error .overflow ↔
      ∃ front, ValueFront compound.delimiter token.text.toList mode front ∧
        positionLimit ≤ token.column + Text.units front := by
  constructor
  · intro herror
    have hoccurs : compound.delimiter.Occurs token.text.toList := by
      by_contra hno
      simp [split, Delimiter.cut?_eq_none_iff.mpr hno] at herror
    obtain ⟨front, hfront, -⟩ := existsUnique_valueFront mode hoccurs
    obtain ⟨key, value, -, -, hsplit⟩ := split_of_valueFront hfront
    refine ⟨front, hfront, ?_⟩
    by_contra hfits
    rw [if_pos (Nat.lt_of_not_le hfits), herror] at hsplit
    cases hsplit
  · rintro ⟨front, hfront, hlimit⟩
    obtain ⟨key, value, -, -, hsplit⟩ := split_of_valueFront hfront
    rwa [if_neg (Nat.not_lt.mpr hlimit)] at hsplit

theorem spans_eq_error_iff :
    token.spans mode = .error .overflow ↔ ∃ compound, token.kind.highlight = .compound compound ∧
      token.split compound mode = .error .overflow := by
  unfold spans
  cases token.kind.highlight with
  | skip => simp
  | simple category => simp
  | compound compound =>
      simp only [Highlight.compound.injEq, exists_eq_left']
      cases token.split compound mode with
      | error e => simp
      | ok found =>
          cases found with
          | none => simp
          | some pair => simp

end

end Token

theorem collectSpans_eq_error_iff {mode : ValueSpan} {tokens : List Token} :
    collectSpans mode tokens = .error .overflow ↔
      ∃ token ∈ tokens, token.spans mode = .error .overflow := by
  induction tokens with
  | nil => simp [collectSpans]
  | cons token tokens ih =>
      rw [List.exists_mem_cons_iff, ← ih, collectSpans]
      cases hown : token.spans mode with
      | error e =>
          cases e
          exact ⟨fun _ => .inl rfl, fun _ => rfl⟩
      | ok own =>
          cases hlater : collectSpans mode tokens with
          | error e =>
              cases e
              exact ⟨fun _ => .inr rfl, fun _ => rfl⟩
          | ok later =>
              simp [bind, Except.bind, pure, Except.pure]

/-- The value of a token with a delimiter starts at one place inside the token, so what is left of
the token never falls below zero. Collecting fails exactly if the column of such a place is above
all positions, and never on the tokens of a source whose columns are all below them. -/
theorem collectSpans_overflow_iff (mode : ValueSpan) :
    (∀ (token : Token) (compound : Compound), compound.delimiter.Occurs token.text.toList →
      (∃! front, ValueFront compound.delimiter token.text.toList mode front) ∧
      ∀ front, ValueFront compound.delimiter token.text.toList mode front →
        units front ≤ token.units ∧
        ∀ key value, token.split compound mode = .ok (some (key, value)) →
          value.start = token.column + units front ∧
          units front + value.length = token.units) ∧
    (∀ tokens, collectSpans mode tokens = .error .overflow ↔
      ∃ token ∈ tokens, ∃ compound front, token.kind.highlight = .compound compound ∧
        compound.delimiter.Occurs token.text.toList ∧
        ValueFront compound.delimiter token.text.toList mode front ∧
        positionLimit - 1 < token.column + units front) ∧
    ∀ source, units source.toList < positionLimit →
      ∃ spans, collectSpans mode (tokenize source) = .ok spans := by
  refine ⟨?_, ?_, fun source => exists_highlight mode⟩
  · intro token compound hoccurs
    refine ⟨existsUnique_valueFront mode hoccurs, ?_⟩
    intro front hfront
    have hle := Token.units_le_of_valueFront hfront
    refine ⟨hle, ?_⟩
    intro key value hsplit
    obtain ⟨_, _, hstart, hlength, hboth⟩ := Token.split_of_valueFront hfront
    rw [hsplit] at hboth
    split at hboth
    · obtain ⟨rfl, rfl⟩ := Prod.mk.inj (Option.some.inj (Except.ok.inj hboth))
      exact ⟨hstart, by omega⟩
    · cases hboth
  · intro tokens
    have hpos : 0 < positionLimit := by decide
    have hlimit : ∀ sum, positionLimit - 1 < sum ↔ positionLimit ≤ sum := fun sum => by omega
    simp only [hlimit, collectSpans_eq_error_iff]
    refine exists_congr fun token => and_congr_right fun _ => ?_
    rw [Token.spans_eq_error_iff]
    constructor
    · rintro ⟨compound, hkind, herror⟩
      obtain ⟨front, hfront, hsum⟩ := Token.split_eq_error_iff.mp herror
      exact ⟨compound, front, hkind, hfront.occurs, hfront, hsum⟩
    · rintro ⟨compound, front, hkind, -, hfront, hsum⟩
      exact ⟨compound, hkind, Token.split_eq_error_iff.mpr ⟨front, hfront, hsum⟩⟩

/-- The search finds the empty segment of `A==` one unit earlier, so only the other mode fails. -/
example :
    collectSpans .structural [⟨.argument .assignment, 0, 0xFFFFFFFE, "A=="⟩] =
      .error .overflow ∧
    collectSpans .absorbToEnd [⟨.argument .assignment, 0, 0xFFFFFFFE, "A=="⟩] =
      .ok [⟨0, 0xFFFFFFFE, 1, .variableName, []⟩, ⟨0, 0xFFFFFFFF, 2, .string, []⟩] := by
  decide +kernel

end Layerfile
