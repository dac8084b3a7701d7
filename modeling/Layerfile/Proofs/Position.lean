import Layerfile.Highlight.Span
import Layerfile.Proofs.Lines
import Layerfile.Proofs.Partition

/-!
Positions of tokens. The column that is carried along a line is a count of units behind the
last line feed of the source, so the lemmas below keep an arbitrary text in front and say that
each token stands where that text ends.
-/

namespace Layerfile

open Text

namespace Token

/-- The line and the column of a token are those of the end of `before`. -/
def StandsAfter (before : List Char) (token : Token) : Prop :=
  token.line = 1 + before.count '\n' ∧ token.column = Text.units (lastLine before)

/-- Each token stands after `before` and the tokens in front of it. -/
def Placed (before : List Char) : List Token → Prop
  | [] => True
  | token :: later => token.StandsAfter before ∧ Placed (before ++ token.text.toList) later

/-- A token that ends on an earlier line, or on the same line no later than the other starts. -/
def EndsBefore (first second : Token) : Prop :=
  first.line < second.line ∨
    first.line = second.line ∧ first.column + first.units ≤ second.column

theorem placed_append (before : List Char) (tokens later : List Token) :
    Placed before (tokens ++ later) ↔
      Placed before tokens ∧ Placed (before ++ textOf tokens) later := by
  induction tokens generalizing before with
  | nil => simp [Placed]
  | cons token tokens ih => simp [Placed, ih, and_assoc]

theorem Placed.exists_of_mem {before : List Char} {tokens : List Token} {token : Token}
    (h : Placed before tokens) (hmem : token ∈ tokens) :
    ∃ between, token.StandsAfter (before ++ between) := by
  obtain ⟨earlier, later, rfl⟩ := List.append_of_mem hmem
  exact ⟨textOf earlier, ((placed_append before earlier _).mp h).2.1⟩

/-- A line feed on the way moves a token to a later line; without one it stays on the line,
behind all of the text that came before it. -/
theorem StandsAfter.endsBefore {before between : List Char} {first second : Token}
    (hfirst : first.StandsAfter before)
    (hsecond : second.StandsAfter (before ++ first.text.toList ++ between)) :
    first.EndsBefore second := by
  obtain ⟨hline, hcolumn⟩ := hfirst
  obtain ⟨hline', hcolumn'⟩ := hsecond
  rw [List.append_assoc] at hline' hcolumn'
  by_cases hfeed : '\n' ∈ first.text.toList ++ between
  · left
    have hcount := List.count_pos_iff.mpr hfeed
    rw [hline, hline', List.count_append]
    omega
  · right
    constructor
    · rw [hline, hline', List.count_append, List.count_eq_zero.mpr hfeed, Nat.add_zero]
    · rw [hcolumn, hcolumn', lastLine_append_of_not_mem before hfeed, units_append, units_append,
        Token.units]
      omega

theorem Placed.pairwise {before : List Char} {tokens : List Token} (h : Placed before tokens) :
    tokens.Pairwise EndsBefore := by
  induction tokens generalizing before with
  | nil => exact List.Pairwise.nil
  | cons token later ih =>
      refine List.pairwise_cons.mpr ⟨?_, ih h.2⟩
      intro second hsecond
      obtain ⟨between, hbetween⟩ := h.2.exists_of_mem hsecond
      exact h.1.endsBefore hbetween

end Token

/-! ### Lines are placed one after the other -/

theorem place_append (number column : Nat) (pieces later : List Piece) :
    Piece.place number column (pieces ++ later) =
      Piece.place number column pieces ++
        Piece.place number (column + units (pieces.flatMap Piece.text)) later := by
  induction pieces generalizing column with
  | nil => simp [Piece.place]
  | cons piece pieces ih => simp [Piece.place, ih, Nat.add_assoc]

theorem placed_place {before : List Char} {number : Nat} (pieces : List Piece)
    (hnumber : number = 1 + before.count '\n') (hfeed : '\n' ∉ pieces.flatMap Piece.text) :
    Token.Placed before (Piece.place number (units (lastLine before)) pieces) := by
  induction pieces generalizing before with
  | nil => trivial
  | cons piece pieces ih =>
      rw [List.flatMap_cons, List.mem_append, not_or] at hfeed
      refine ⟨⟨hnumber, rfl⟩, ?_⟩
      have hcount : number = 1 + (before ++ piece.text).count '\n' := by
        rw [List.count_append, List.count_eq_zero.mpr hfeed.1, hnumber, Nat.add_zero]
      have hlater := ih hcount hfeed.2
      rw [lastLine_append_of_not_mem before hfeed.1, units_append] at hlater
      simpa using hlater

/-- The ending of a line is one token, so its line feed moves no token of the line. -/
theorem placed_line {before : List Char} {number : Nat} {line : Line}
    (hnumber : number = 1 + before.count '\n') (hstart : lastLine before = [])
    (hline : line.WellFormed) : Token.Placed before (Piece.place number 0 line.pieces) := by
  have hcontent := (contentPieces_partition line.content).flatMap_text
  rw [Line.pieces, place_append, Token.placed_append, Token.textOf_place, hcontent]
  constructor
  · have hfeed : '\n' ∉ (contentPieces line.content).flatMap Piece.text := by
      rw [hcontent]
      exact hline.not_mem
    have hplaced := placed_place (contentPieces line.content) hnumber hfeed
    rwa [hstart] at hplaced
  · unfold Piece.ofText
    split
    · trivial
    · refine ⟨⟨?_, ?_⟩, trivial⟩
      · rw [List.count_append, List.count_eq_zero.mpr hline.not_mem, Nat.add_zero]
        exact hnumber
      · simp [lastLine_append_of_not_mem before hline.not_mem, hstart]

theorem placed_placeLines {before : List Char} {number : Nat} {lines : List Line}
    (hlines : Lined lines) (hnumber : number = 1 + before.count '\n')
    (hstart : lastLine before = []) : Token.Placed before (placeLines number lines) := by
  induction lines generalizing before number with
  | nil => trivial
  | cons line later ih =>
      obtain ⟨hline, hlast, hlater⟩ := hlines
      rw [placeLines, Token.placed_append, Token.textOf_place, line.pieces_partition.flatMap_text]
      refine ⟨placed_line hnumber hstart hline, ?_⟩
      cases later with
      | nil => trivial
      | cons second later =>
          have hterminated : line.ending ≠ .unterminated := hlast (by simp)
          apply ih hlater _ (lastLine_append_text before hterminated)
          rw [List.count_append, hline.count_text hterminated, hnumber]
          omega

theorem tokenize_placed (source : String) : Token.Placed [] (tokenize source) :=
  placed_placeLines (lines_lined source.toList) rfl lastLine_nil

theorem tokenize_pairwise_endsBefore (source : String) :
    (tokenize source).Pairwise Token.EndsBefore :=
  (tokenize_placed source).pairwise

/-! ### Positions are those of the source -/

theorem textOf_append_of_tokenize {source : String} {earlier later : List Token} {token : Token}
    (h : tokenize source = earlier ++ token :: later) :
    Token.textOf earlier ++ token.text.toList ++ Token.textOf later = source.toList := by
  rw [← textOf_tokenize source, h]
  simp

theorem standsAfter_of_tokenize {source : String} {earlier later : List Token} {token : Token}
    (h : tokenize source = earlier ++ token :: later) :
    token.StandsAfter (Token.textOf earlier) := by
  have hplaced := tokenize_placed source
  rw [h, Token.placed_append] at hplaced
  exact hplaced.2.1

theorem units_pos_of_mem_tokenize {source : String} {token : Token}
    (h : token ∈ tokenize source) : 0 < token.units := by
  apply Nat.pos_of_ne_zero
  intro hzero
  exact text_ne_nil_of_mem_tokenize h ((units_eq_zero_iff _).mp hzero)

/-- The units of a line up to the end of a token are units of the source. -/
theorem column_add_units_le_of_mem_tokenize {source : String} {token : Token}
    (h : token ∈ tokenize source) : token.column + token.units ≤ units source.toList := by
  obtain ⟨earlier, later, hsplit⟩ := List.append_of_mem h
  have hcolumn := (standsAfter_of_tokenize hsplit).2
  have hle := units_lastLine_le (Token.textOf earlier)
  rw [← textOf_append_of_tokenize hsplit, units_append, units_append, hcolumn, Token.units]
  omega

/-- Every line feed in front of a token takes a unit of the source, and so does the token. -/
theorem line_le_of_mem_tokenize {source : String} {token : Token}
    (h : token ∈ tokenize source) : token.line ≤ units source.toList := by
  obtain ⟨earlier, later, hsplit⟩ := List.append_of_mem h
  have hline := (standsAfter_of_tokenize hsplit).1
  have hpos : 0 < units token.text.toList := units_pos_of_mem_tokenize h
  have hcount : (Token.textOf earlier).count '\n' ≤ units (Token.textOf earlier) :=
    List.count_le_length.trans (length_le_units _)
  rw [← textOf_append_of_tokenize hsplit, units_append, units_append, hline]
  omega

/-- Every token stands where the texts of the earlier tokens end, within the words that hold
positions, and positions grow strictly along the tokens. -/
theorem tokenize_positions (source : String) (h : units source.toList < positionLimit) :
    (∀ earlier token later, tokenize source = earlier ++ token :: later →
      token.line = 1 + (Token.textOf earlier).count '\n' ∧
      token.column = units (lastLine (Token.textOf earlier)) ∧
      token.line < positionLimit ∧ token.column < positionLimit) ∧
    (tokenize source).Pairwise fun first second =>
      first.line < second.line ∨ first.line = second.line ∧ first.column < second.column := by
  constructor
  · intro earlier token later hsplit
    have hmem : token ∈ tokenize source := by simp [hsplit]
    obtain ⟨hline, hcolumn⟩ := standsAfter_of_tokenize hsplit
    have hlineLe := line_le_of_mem_tokenize hmem
    have hcolumnLe := column_add_units_le_of_mem_tokenize hmem
    exact ⟨hline, hcolumn, by omega, by omega⟩
  · apply (tokenize_pairwise_endsBefore source).imp_of_mem
    intro first second hfirst _ hends
    have hpos := units_pos_of_mem_tokenize hfirst
    rcases hends with hline | ⟨hline, hcolumn⟩
    · exact .inl hline
    · exact .inr ⟨hline, by omega⟩

/-- A surrogate pair takes two columns, a carriage return and line feed make one new line. -/
theorem tokenize_positions_behind_surrogate_pair :
    units "BUTTON 🚀\r\n\tRUN x".toList < positionLimit ∧
    ∃ earlier later, tokenize "BUTTON 🚀\r\n\tRUN x" =
        earlier ++ ⟨.instruction .run, 2, 1, "RUN"⟩ :: later ∧
      2 = 1 + (Token.textOf earlier).count '\n' ∧
      1 = units (lastLine (Token.textOf earlier)) := by
  have htokens : tokenize "BUTTON 🚀\r\n\tRUN x" =
      [⟨.instruction .button, 1, 0, "BUTTON"⟩, ⟨.whitespace, 1, 6, " "⟩,
        ⟨.argument .buttonData, 1, 7, "🚀"⟩, ⟨.newline, 1, 9, "\r\n"⟩,
        ⟨.whitespace, 2, 0, "\t"⟩] ++
      ⟨.instruction .run, 2, 1, "RUN"⟩ ::
        [⟨.whitespace, 2, 4, " "⟩, ⟨.argument .command, 2, 5, "x"⟩] := by
    decide +kernel
  have hlimit : units "BUTTON 🚀\r\n\tRUN x".toList < positionLimit := by decide
  obtain ⟨hline, hcolumn, -⟩ := (tokenize_positions _ hlimit).1 _ _ _ htokens
  exact ⟨hlimit, _, _, htokens, hline, hcolumn⟩

end Layerfile
