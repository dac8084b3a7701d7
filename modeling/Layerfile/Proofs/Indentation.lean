import Layerfile.Proofs.Endings

/-! Blanks in front of a line. They join the indentation that the line already has, and what stands
behind it is read and drawn as before, only further to the right. -/

namespace Layerfile

open Text

/-! ### Tokens further to the right -/

/-- The token `count` columns further to the right. -/
def Token.right (count : Nat) (token : Token) : Token :=
  { token with column := token.column + count }

def Span.right (count : Nat) (span : Span) : Span :=
  { span with start := span.start + count }

theorem place_right (number column count : Nat) (pieces : List Piece) :
    Piece.place number (column + count) pieces =
      (Piece.place number column pieces).map (Token.right count) := by
  induction pieces generalizing column with
  | nil => rfl
  | cons piece pieces ih =>
      rw [Piece.place, Piece.place, List.map_cons, Nat.add_right_comm, ih]
      rfl

theorem units_of_isBlank {blanks : List Char} (h : ∀ b ∈ blanks, isBlank b) :
    units blanks = blanks.length := by
  induction blanks with
  | nil => rfl
  | cons b blanks ih =>
      rw [List.forall_mem_cons] at h
      have hb : unitWidth b = 1 := by
        have hblank := h.1
        simp only [isBlank, Bool.or_eq_true, beq_iff_eq] at hblank
        rcases hblank with rfl | rfl <;> rfl
      rw [units_cons, hb, ih h.2, List.length_cons, Nat.add_comm]

/-! ### Tokens behind an indentation -/

theorem tokenize_line {content : String} (h : '\n' ∉ content.toList) :
    tokenize content = Piece.place 1 0 (contentPieces content.toList) := by
  have hlined : Lined [⟨content.toList, .unterminated⟩] := ⟨⟨h, by simp⟩, by simp, trivial⟩
  have htokens := tokenize_sourceOf hlined
  simpa [sourceOf, Line.text, Ending.text, placeLines, Line.pieces, Piece.ofText] using htokens

theorem filter_whitespace_place (number column : Nat) (text : List Char) (pieces : List Piece) :
    (Piece.place number column (Piece.ofText .whitespace text ++ pieces)).filter
        (·.kind != .whitespace) =
      (Piece.place number (column + units text) pieces).filter (·.kind != .whitespace) := by
  have hown : (Piece.place number column (Piece.ofText .whitespace text)).filter
      (·.kind != .whitespace) = [] := by
    unfold Piece.ofText
    split <;> rfl
  rw [place_append, List.filter_append, hown, List.nil_append,
    (Piece.Partition.ofText .whitespace text).flatMap_text]

theorem filter_whitespace_contentPieces {blanks : List Char} (h : ∀ b ∈ blanks, isBlank b)
    (number : Nat) (content : List Char) :
    (Piece.place number 0 (contentPieces (blanks ++ content))).filter (·.kind != .whitespace) =
      ((Piece.place number 0 (contentPieces content)).filter (·.kind != .whitespace)).map
        (Token.right blanks.length) := by
  -- The blanks join those at the front of the content, so the same statement stands behind them.
  have hindent : contentPieces (blanks ++ content) =
      Piece.ofText .whitespace (blanks ++ content.takeWhile isBlank) ++
        statement (content.dropWhile isBlank) := by
    rw [contentPieces, List.takeWhile_append_of_pos h, List.dropWhile_append_of_pos h]
  have hcolumn : 0 + units (blanks ++ content.takeWhile isBlank) =
      0 + units (content.takeWhile isBlank) + blanks.length := by
    rw [units_append, units_of_isBlank h]
    omega
  rw [hindent, filter_whitespace_place, hcolumn, place_right, contentPieces,
    filter_whitespace_place, List.filter_map]
  rfl

/-! ### Spans further to the right -/

section

variable (token : Token) (count : Nat) (mode : ValueSpan)

/-- Moving a token to the right moves its spans, as long as the value has a position there. -/
theorem Token.split_right (compound : Compound) :
    (token.right count).split compound mode = .error .overflow ∨
    ∃ found, token.split compound mode = .ok found ∧
      (token.right count).split compound mode =
        .ok (found.map fun (key, value) => (key.right count, value.right count)) := by
  have htext : (token.right count).text = token.text := rfl
  simp only [split, htext]
  cases compound.delimiter.cut? token.text.toList with
  | none => exact .inr ⟨none, rfl, rfl⟩
  | some cut =>
      cases hoffset : valueOffset compound.delimiter mode cut with
      | none =>
          simp only [hoffset]
          exact .inr ⟨none, rfl, rfl⟩
      | some offset =>
          simp only [hoffset]
          have hstart : (token.right count).column + Text.units (token.text.toList.take offset) =
              token.column + Text.units (token.text.toList.take offset) + count :=
            Nat.add_right_comm _ _ _
          by_cases hlimit : (token.right count).column +
              Text.units (token.text.toList.take offset) < positionLimit
          · have hown : token.column + Text.units (token.text.toList.take offset) <
                positionLimit := by omega
            refine .inr ⟨_, if_pos hown, ?_⟩
            rw [if_pos hlimit, hstart]
            rfl
          · exact .inl (if_neg hlimit)

theorem Token.spans_right :
    (token.right count).spans mode = .error .overflow ∨
    ∃ own, token.spans mode = .ok own ∧
      (token.right count).spans mode = .ok (own.map (Span.right count)) := by
  have hkind : (token.right count).kind = token.kind := rfl
  simp only [spans, hkind]
  cases token.kind.highlight with
  | skip => exact .inr ⟨[], rfl, rfl⟩
  | simple category => exact .inr ⟨[token.cover category], rfl, rfl⟩
  | compound compound =>
      simp only
      rcases token.split_right count mode compound with herror | ⟨found, hfound, hright⟩
      · rw [herror]
        exact .inl rfl
      · rw [hfound, hright]
        cases found with
        | none => exact .inr ⟨[], rfl, rfl⟩
        | some pair => exact .inr ⟨[pair.1, pair.2], rfl, rfl⟩

end

theorem collectSpans_right (mode : ValueSpan) (count : Nat) (tokens : List Token) :
    collectSpans mode (tokens.map (Token.right count)) = .error .overflow ∨
    ∃ spans, collectSpans mode tokens = .ok spans ∧
      collectSpans mode (tokens.map (Token.right count)) =
        .ok (spans.map (Span.right count)) := by
  induction tokens with
  | nil => exact .inr ⟨[], rfl, rfl⟩
  | cons token tokens ih =>
      simp only [List.map_cons, collectSpans]
      rcases token.spans_right count mode with herror | ⟨own, hown, hright⟩
      · rw [herror]
        exact .inl rfl
      · rw [hown, hright]
        rcases ih with herror | ⟨later, hlater, hmoved⟩
        · rw [herror]
          exact .inl rfl
        · rw [hlater, hmoved]
          refine .inr ⟨own ++ later, rfl, ?_⟩
          rw [List.map_append]
          rfl

theorem collectSpans_filter_whitespace (mode : ValueSpan) (tokens : List Token) :
    collectSpans mode (tokens.filter (·.kind != .whitespace)) = collectSpans mode tokens := by
  apply collectSpans_filter
  intro token hkind
  have hwhitespace : token.kind = .whitespace := by simpa using hkind
  rw [hwhitespace]
  rfl

/-- Blanks in front of a line move its tokens, whitespace apart, and its spans to the right by
their number. Only a line that is longer than positions reach can be left without spans. -/
theorem highlight_behind_indentation (blanks content : String)
    (hblanks : ∀ b ∈ blanks.toList, isBlank b) (hfeed : '\n' ∉ content.toList) :
    (tokenize (blanks ++ content)).filter (·.kind != .whitespace) =
      ((tokenize content).filter (·.kind != .whitespace)).map (Token.right blanks.length) ∧
    ∀ mode,
      (∃ spans, highlight mode content = .ok spans ∧
        highlight mode (blanks ++ content) = .ok (spans.map (Span.right blanks.length))) ∨
      positionLimit ≤ units (blanks ++ content).toList ∧
        highlight mode (blanks ++ content) = .error .overflow := by
  have hline : '\n' ∉ (blanks ++ content).toList := by
    rw [String.toList_append, List.mem_append, not_or]
    refine ⟨fun hmem => ?_, hfeed⟩
    exact absurd (hblanks _ hmem) (by decide)
  have htokens : (tokenize (blanks ++ content)).filter (·.kind != .whitespace) =
      ((tokenize content).filter (·.kind != .whitespace)).map (Token.right blanks.length) := by
    rw [tokenize_line hline, tokenize_line hfeed, String.toList_append,
      filter_whitespace_contentPieces hblanks, String.length_toList]
  refine ⟨htokens, ?_⟩
  intro mode
  have hcollect : highlight mode (blanks ++ content) = collectSpans mode
      (((tokenize content).filter (·.kind != .whitespace)).map (Token.right blanks.length)) := by
    rw [highlight, ← collectSpans_filter_whitespace, htokens]
  rcases collectSpans_right mode blanks.length ((tokenize content).filter (·.kind != .whitespace))
    with herror | ⟨spans, hspans, hright⟩
  · right
    have hoverflow := hcollect.trans herror
    refine ⟨?_, hoverflow⟩
    by_contra hfits
    obtain ⟨spans, hspans⟩ := exists_highlight mode (Nat.lt_of_not_le hfits)
    simp [hoverflow] at hspans
  · left
    rw [collectSpans_filter_whitespace] at hspans
    exact ⟨spans, hspans, hcollect.trans hright⟩

/-- The line has a blank of its own in front and a surrogate pair in its key. -/
theorem highlight_behind_blank_and_tab :
    (∀ b ∈ " \t".toList, isBlank b) ∧ '\n' ∉ " ENV 🚀=v #c\r".toList ∧
    (tokenize (" \t" ++ " ENV 🚀=v #c\r")).filter (·.kind != .whitespace) =
      [⟨.instruction .env, 1, 3, "ENV"⟩, ⟨.argument .assignment, 1, 7, "🚀=v"⟩,
        ⟨.comment .env, 1, 12, "#c\r"⟩] ∧
    ∃ spans, highlight .structural " ENV 🚀=v #c\r" = .ok spans ∧
      highlight .structural (" \t" ++ " ENV 🚀=v #c\r") = .ok (spans.map (Span.right 2)) := by
  have hblanks : ∀ b ∈ " \t".toList, isBlank b := by simp [isBlank]
  have hfeed : '\n' ∉ " ENV 🚀=v #c\r".toList := by decide
  obtain ⟨htokens, hspans⟩ := highlight_behind_indentation _ _ hblanks hfeed
  refine ⟨hblanks, hfeed, htokens.trans (by decide +kernel), ?_⟩
  rcases hspans .structural with hmoved | ⟨hlimit, -⟩
  · exact hmoved
  · exact absurd hlimit (by decide)

end Layerfile
