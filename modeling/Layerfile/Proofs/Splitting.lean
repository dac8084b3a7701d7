import Layerfile.Highlight.Span
import Mathlib.Data.List.Basic

/-! What the spans of one token are: none, one over all of its text, or a key at its front and
a value at its end. Later proofs use this list and never open the splitting again. -/

namespace Layerfile

open Text

/-- The span over `run` when `before` is the text of the token in front of it. -/
def Token.spanOver (token : Token) (before run : List Char) (category : Category) : Span where
  line := token.row
  start := token.column + Text.units before
  length := Text.units run
  category := category

/-! ### Where the value starts -/

theorem offsetOf?_le {needle text : List Char} {offset : Nat}
    (h : offsetOf? needle text = some offset) : offset ≤ text.length := by
  induction text generalizing offset with
  | nil =>
      simp only [offsetOf?, Option.ite_none_right_eq_some, Option.some.injEq] at h
      omega
  | cons c rest ih =>
      rw [offsetOf?] at h
      split at h
      · obtain rfl := Option.some.inj h
        omega
      · obtain ⟨inner, hinner, rfl⟩ := Option.map_eq_some_iff.mp h
        have := ih hinner
        simp only [List.length_cons]
        omega

theorem Token.valueOffset_spec {delimiter : Delimiter} {mode : ValueSpan} {cut : Cut}
    {offset : Nat} (h : valueOffset delimiter mode cut = some offset) :
    ∃ middle tail, cut.delimiter ++ cut.after = middle ++ tail ∧
      offset = (cut.before ++ middle).length := by
  cases mode with
  | absorbToEnd =>
      obtain ⟨inner, hinner, rfl⟩ := Option.map_eq_some_iff.mp h
      refine ⟨(cut.delimiter ++ cut.after).take inner, (cut.delimiter ++ cut.after).drop inner,
        (List.take_append_drop _ _).symm, ?_⟩
      rw [List.length_append, List.length_take, Nat.min_eq_left (offsetOf?_le hinner)]
  | structural =>
      obtain rfl := Option.some.inj h
      exact ⟨cut.delimiter, cut.after, rfl, by rw [List.length_append]⟩

/-- A token that is cut and has a place for its value is a key, what stands between, and a value
that runs to its end. The start of the value is the only number that can be too large. -/
theorem Token.split_of_cut? (token : Token) (compound : Compound) {mode : ValueSpan} {cut : Cut}
    {offset : Nat} (hcut : compound.delimiter.cut? token.text.toList = some cut)
    (hoffset : valueOffset compound.delimiter mode cut = some offset) :
    ∃ middle tail, token.text.toList = cut.before ++ middle ++ tail ∧
      token.split compound mode =
        if token.column + Text.units (cut.before ++ middle) < positionLimit then
          .ok (some (token.spanOver [] cut.before compound.key,
            token.spanOver (cut.before ++ middle) tail compound.value))
        else .error .overflow := by
  obtain ⟨middle, tail, hmiddle, rfl⟩ := valueOffset_spec hoffset
  have htext : token.text.toList = cut.before ++ middle ++ tail := by
    rw [← Delimiter.append_of_cut? hcut, List.append_assoc, hmiddle, List.append_assoc]
  have htake : token.text.toList.take (cut.before ++ middle).length = cut.before ++ middle := by
    rw [htext, List.take_left]
  have htail : token.units - Text.units (cut.before ++ middle) = Text.units tail := by
    rw [Token.units, htext, units_append _ tail, Nat.add_sub_cancel_left]
  refine ⟨middle, tail, htext, ?_⟩
  simp only [split, hcut, hoffset, htake, htail]
  rfl

theorem Token.split_cases (token : Token) (compound : Compound) (mode : ValueSpan) :
    token.split compound mode = .ok none ∨
    ∃ front middle tail, token.text.toList = front ++ middle ++ tail ∧
      token.split compound mode =
        if token.column + Text.units (front ++ middle) < positionLimit then
          .ok (some (token.spanOver [] front compound.key,
            token.spanOver (front ++ middle) tail compound.value))
        else .error .overflow := by
  cases hcut : compound.delimiter.cut? token.text.toList with
  | none =>
      left
      simp [split, hcut]
  | some cut =>
      cases hoffset : valueOffset compound.delimiter mode cut with
      | none =>
          left
          simp [split, hcut, hoffset]
      | some offset => exact .inr ⟨cut.before, token.split_of_cut? compound hcut hoffset⟩

/-! ### The spans of a token -/

theorem Token.spans_of_split {token : Token} {compound : Compound} {mode : ValueSpan}
    {key value : Span} {fits : Prop} [Decidable fits]
    (hkind : token.kind.highlight = .compound compound)
    (hsplit : token.split compound mode =
      if fits then .ok (some (key, value)) else .error .overflow) :
    token.spans mode = if fits then .ok [key, value] else .error .overflow := by
  simp only [Token.spans, hkind, hsplit]
  by_cases hfits : fits
  · simp only [hfits, if_true]
  · simp only [hfits, if_false]

/-- Everything that the spans of a token can be. -/
theorem Token.spans_cases (token : Token) (mode : ValueSpan) :
    token.spans mode = .ok [] ∨
    (∃ category, token.spans mode = .ok [token.spanOver [] token.text.toList category]) ∨
    ∃ front middle tail key value, token.text.toList = front ++ middle ++ tail ∧
      token.spans mode =
        if token.column + Text.units (front ++ middle) < positionLimit then
          .ok [token.spanOver [] front key, token.spanOver (front ++ middle) tail value]
        else .error .overflow := by
  cases hkind : token.kind.highlight with
  | skip => exact .inl (by simp only [Token.spans, hkind])
  | simple category =>
      exact .inr (.inl ⟨category, by simp only [Token.spans, hkind]; rfl⟩)
  | compound compound =>
      rcases token.split_cases compound mode with hnone | ⟨front, middle, tail, htext, hsplit⟩
      · exact .inl (by simp only [Token.spans, hkind, hnone])
      · exact .inr (.inr ⟨front, middle, tail, compound.key, compound.value, htext,
          spans_of_split hkind hsplit⟩)

theorem Token.spans_of_newline {token : Token} (mode : ValueSpan) (h : token.kind = .newline) :
    token.spans mode = .ok [] := by
  simp [Token.spans, h, TokenKind.highlight]

theorem Token.exists_spans {token : Token} (mode : ValueSpan)
    (h : token.column + token.units < positionLimit) : ∃ spans, token.spans mode = .ok spans := by
  rcases token.spans_cases mode with hspans | ⟨category, hspans⟩ |
    ⟨front, middle, tail, key, value, htext, hspans⟩
  · exact ⟨_, hspans⟩
  · exact ⟨_, hspans⟩
  · have hlimit : token.column + Text.units (front ++ middle) < positionLimit := by
      rw [Token.units, htext, units_append _ tail] at h
      omega
    rw [if_pos hlimit] at hspans
    exact ⟨_, hspans⟩

theorem Token.cases_of_spans {token : Token} {mode : ValueSpan} {spans : List Span}
    (h : token.spans mode = .ok spans) :
    spans = [] ∨
    (∃ category, spans = [token.spanOver [] token.text.toList category]) ∨
    ∃ front middle tail key value, token.text.toList = front ++ middle ++ tail ∧
      spans = [token.spanOver [] front key, token.spanOver (front ++ middle) tail value] := by
  rcases token.spans_cases mode with hspans | ⟨category, hspans⟩ |
    ⟨front, middle, tail, key, value, htext, hspans⟩
  · exact .inl (Except.ok.inj (h.symm.trans hspans))
  · exact .inr (.inl ⟨category, Except.ok.inj (h.symm.trans hspans)⟩)
  · rw [h] at hspans
    split at hspans
    · exact .inr (.inr ⟨front, middle, tail, key, value, htext, Except.ok.inj hspans⟩)
    · simp at hspans

def Token.Covers (token : Token) (span : Span) : Prop :=
  ∃ before run after category, token.text.toList = before ++ run ++ after ∧
    span = token.spanOver before run category

theorem Token.covers_of_mem_spans {token : Token} {mode : ValueSpan} {spans : List Span}
    (h : token.spans mode = .ok spans) {span : Span} (hspan : span ∈ spans) :
    token.Covers span := by
  rcases cases_of_spans h with rfl | ⟨category, rfl⟩ |
    ⟨front, middle, tail, key, value, htext, rfl⟩
  · simp at hspan
  · obtain rfl := List.mem_singleton.mp hspan
    exact ⟨[], token.text.toList, [], category, by simp, rfl⟩
  · rcases List.mem_pair.mp hspan with rfl | rfl
    · exact ⟨[], front, middle ++ tail, key, by simp [htext], rfl⟩
    · exact ⟨front ++ middle, tail, [], value, by simp [htext], rfl⟩

/-- A span that ends on an earlier line, or on the same line no later than the other starts. -/
def Span.EndsBefore (first second : Span) : Prop :=
  first.line < second.line ∨
    first.line = second.line ∧ first.start + first.length ≤ second.start

/-- The value starts no earlier than the key ends. -/
theorem Token.spans_pairwise {token : Token} {mode : ValueSpan} {spans : List Span}
    (h : token.spans mode = .ok spans) : spans.Pairwise Span.EndsBefore := by
  rcases cases_of_spans h with rfl | ⟨category, rfl⟩ |
    ⟨front, middle, tail, key, value, htext, rfl⟩
  · exact List.Pairwise.nil
  · exact List.pairwise_singleton _ _
  · apply List.pairwise_pair.mpr
    right
    simp only [spanOver, units_nil, units_append]
    exact ⟨trivial, by omega⟩

end Layerfile
