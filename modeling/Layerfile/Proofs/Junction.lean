import Layerfile.Proofs.Encoding
import Layerfile.Proofs.Independence

/-! Rows behind complete lines. Rows are relative, so those of a text stay what they are when lines
come in front of it. Only the first one changes: it counts its lines from the last row in front. -/

namespace Layerfile

open Text

/-! ### Where rows continue -/

/-- The place that a row behind `spans` counts from. -/
def Span.lastPlace (previous : Place) (spans : List Span) : Place :=
  ((drawn spans).getLast?.map place).getD previous

/-- The line of the last span that has a row, zero if there is none. -/
def Span.lastDrawnLine (spans : List Span) : Nat :=
  ((drawn spans).getLast?.map line).getD 0

theorem Span.lastPlace_cons_of_empty {span : Span} {spans : List Span} (previous : Place)
    (h : span.length = 0) : lastPlace previous (span :: spans) = lastPlace previous spans := by
  rw [lastPlace, drawn_cons_of_empty h, lastPlace]

theorem Span.lastPlace_cons_of_length {span : Span} {spans : List Span} (previous : Place)
    (h : span.length ≠ 0) : lastPlace previous (span :: spans) = lastPlace span.place spans := by
  rw [lastPlace, drawn_cons_of_length h, lastPlace, List.getLast?_cons]
  cases (drawn spans).getLast? with
  | none => rfl
  | some last => rfl

theorem Span.line_lastPlace (spans : List Span) :
    (lastPlace ⟨0, 0⟩ spans).line = lastDrawnLine spans := by
  unfold lastPlace lastDrawnLine
  cases (drawn spans).getLast? with
  | none => rfl
  | some last => rfl

theorem Row.encodeFrom_append (legend : Legend) (previous : Place) (first later : List Span) :
    encodeFrom legend previous (first ++ later) =
      encodeFrom legend previous first ++
        encodeFrom legend (Span.lastPlace previous first) later := by
  induction first generalizing previous with
  | nil => rfl
  | cons span first ih =>
      rw [List.cons_append]
      by_cases hlength : span.length = 0
      · rw [encodeFrom_cons_of_empty hlength, encodeFrom_cons_of_empty hlength,
          Span.lastPlace_cons_of_empty previous hlength, ih]
      · rw [encodeFrom_cons_of_length hlength, encodeFrom_cons_of_length hlength,
          Span.lastPlace_cons_of_length previous hlength, ih, List.cons_append]

/-! ### Rows further down -/

/-- The rows with the first one `count` lines further down. -/
def Row.below (count : Nat) (rows : List Row) : List Row :=
  rows.modifyHead fun row => { row with deltaLine := row.deltaLine + count }

/-- Moving the spans and the place in front of them together changes no row. -/
theorem Row.encodeFrom_below (legend : Legend) (previous : Place) (count : Nat)
    (spans : List Span) :
    encodeFrom legend ⟨previous.line + count, previous.start⟩ (spans.map (Span.below count)) =
      encodeFrom legend previous spans := by
  induction spans generalizing previous with
  | nil => rfl
  | cons span spans ih =>
      have hbelow : (span.below count).length = span.length := rfl
      rw [List.map_cons]
      by_cases hlength : span.length = 0
      · rw [encodeFrom_cons_of_empty hlength, encodeFrom_cons_of_empty (hbelow.trans hlength), ih]
      · have hrow : ofSpan legend ⟨previous.line + count, previous.start⟩ (span.below count) =
            ofSpan legend previous span := by
          simp only [ofSpan, Span.below, Nat.add_sub_add_right]
        rw [encodeFrom_cons_of_length hlength,
          encodeFrom_cons_of_length (hbelow.trans_ne hlength), hrow]
        exact congrArg _ (ih span.place)

/-- A row whose place in front lies before the line `count` counts its lines from there. It starts
a line, so its start is its own. -/
theorem Row.ofSpan_below (legend : Legend) {previous : Place} {count : Nat}
    (h : previous.Precedes ⟨count, 0⟩) (span : Span) :
    ofSpan legend previous (span.below count) =
      { ofSpan legend ⟨0, 0⟩ span with
        deltaLine := (ofSpan legend ⟨0, 0⟩ span).deltaLine + (count - previous.line) } := by
  have hline : previous.line ≤ count := h.1
  have hstart : previous.line = count → previous.start = 0 := fun heq => Nat.le_zero.mp (h.2 heq)
  have hdelta : span.line + count - previous.line = span.line + (count - previous.line) :=
    Nat.add_sub_assoc hline span.line
  simp only [ofSpan, Span.below, hdelta, Nat.sub_zero, ite_self]
  by_cases hzero : span.line + (count - previous.line) = 0
  · rw [if_pos hzero, hstart (by omega), Nat.sub_zero]
  · rw [if_neg hzero]

theorem Row.encodeFrom_of_precedes (legend : Legend) {previous : Place} {count : Nat}
    (h : previous.Precedes ⟨count, 0⟩) (spans : List Span) :
    encodeFrom legend previous (spans.map (Span.below count)) =
      below (count - previous.line) (encode legend spans) := by
  unfold encode
  induction spans with
  | nil => rfl
  | cons span spans ih =>
      have hbelow : (span.below count).length = span.length := rfl
      rw [List.map_cons]
      by_cases hlength : span.length = 0
      · rw [encodeFrom_cons_of_empty hlength, encodeFrom_cons_of_empty (hbelow.trans hlength), ih]
      · rw [encodeFrom_cons_of_length hlength,
          encodeFrom_cons_of_length (hbelow.trans_ne hlength), ofSpan_below legend h]
        exact congrArg _ (encodeFrom_below legend span.place count spans)

/-! ### Lines in front of a text -/

theorem line_lt_of_mem_highlight {mode : ValueSpan} {source : String} {spans : List Span}
    (hsource : Complete source.toList) (h : highlight mode source = .ok spans) {span : Span}
    (hspan : span ∈ spans) : span.line < source.toList.count '\n' := by
  obtain ⟨token, htoken, own, hown, hmem⟩ := exists_token_of_mem_collectSpans h hspan
  obtain ⟨before, run, after, category, -, rfl⟩ := Token.covers_of_mem_spans hown hmem
  obtain ⟨index, line, hline, hnumber, -⟩ := exists_line_of_mem_placeLines htoken
  have hindex : index < (lines source.toList).length := (List.getElem?_eq_some_iff.mp hline).1
  rw [length_lines hsource] at hindex
  simp only [Token.spanOver, Token.row, hnumber]
  omega

/-- Behind complete lines a row starts a new line, or there is no line in front at all. -/
theorem lastPlace_precedes {mode : ValueSpan} {source : String} {spans : List Span}
    (hsource : Complete source.toList) (h : highlight mode source = .ok spans) :
    (Span.lastPlace ⟨0, 0⟩ spans).Precedes ⟨source.toList.count '\n', 0⟩ := by
  unfold Span.lastPlace
  cases hlast : (Span.drawn spans).getLast? with
  | none => exact ⟨Nat.zero_le _, fun _ => Nat.le_refl 0⟩
  | some last =>
      have hmem : last ∈ spans := List.mem_of_mem_filter (List.mem_of_getLast? hlast)
      have hlt := line_lt_of_mem_highlight hsource h hmem
      refine ⟨hlt.le, fun heq => ?_⟩
      exact absurd heq hlt.ne

/-- Behind complete lines, a text has the rows that it has alone, but for the lines of the first
one: those from the last row in front to the end of the lines in front are added to it. -/
theorem highlightRows_behind_complete_lines (mode : ValueSpan) (front text : String)
    (hfront : front = "" ∨ front.toList.getLast? = some '\n')
    (hlimit : units (front ++ text).toList < positionLimit) :
    ∃ spans rows later, highlight mode front = .ok spans ∧
      highlightRows mode front = .ok rows ∧ highlightRows mode text = .ok later ∧
      Span.lastDrawnLine spans ≤ front.toList.count '\n' ∧
      highlightRows mode (front ++ text) =
        .ok (rows ++ Row.below (front.toList.count '\n' - Span.lastDrawnLine spans) later) := by
  have hcomplete := complete_of_getLast? hfront
  rw [String.toList_append, units_append] at hlimit
  obtain ⟨first, hfirst⟩ : ∃ spans, highlight mode front = .ok spans :=
    exists_highlight mode (by omega)
  obtain ⟨later, hlater⟩ : ∃ spans, highlight mode text = .ok spans :=
    exists_highlight mode (by omega)
  have hprecedes := lastPlace_precedes hcomplete hfirst
  have hrows := Row.encodeFrom_of_precedes .standard hprecedes later
  rw [Span.line_lastPlace] at hrows
  refine ⟨first, Row.encode .standard first, Row.encode .standard later, hfirst, ?_, ?_, ?_, ?_⟩
  · rw [highlightRows, hfirst]
    rfl
  · rw [highlightRows, hlater]
    rfl
  · rw [← Span.line_lastPlace]
    exact hprecedes.1
  · rw [highlightRows, highlight_append hcomplete hfirst hlater, ← hrows]
    exact congrArg _ (Row.encodeFrom_append _ _ _ _)

/-- The empty value, the unknown text and the blank line in front have no row, so the first row
behind them counts their lines too. -/
theorem highlightRows_behind_lines_without_rows :
    "ENV A=\nFOO\n\n".toList.getLast? = some '\n' ∧
    units ("ENV A=\nFOO\n\n" ++ "\nUSER a").toList < positionLimit ∧
    highlightRows .structural "ENV A=\nFOO\n\n" = .ok [⟨0, 0, 3, 2, 0⟩, ⟨0, 4, 1, 17, 0⟩] ∧
    highlightRows .structural "\nUSER a" = .ok [⟨1, 0, 4, 2, 0⟩, ⟨0, 5, 1, 17, 0⟩] ∧
    highlightRows .structural ("ENV A=\nFOO\n\n" ++ "\nUSER a") =
      .ok [⟨0, 0, 3, 2, 0⟩, ⟨0, 4, 1, 17, 0⟩, ⟨4, 0, 4, 2, 0⟩, ⟨0, 5, 1, 17, 0⟩] := by
  have hlast : "ENV A=\nFOO\n\n".toList.getLast? = some '\n' := by decide
  have hlimit : units ("ENV A=\nFOO\n\n" ++ "\nUSER a").toList < positionLimit := by decide
  have hfirst : highlight .structural "ENV A=\nFOO\n\n" =
      .ok [⟨0, 0, 3, .keyword, []⟩, ⟨0, 4, 1, .variableName, []⟩, ⟨0, 6, 0, .string, []⟩] := by
    decide +kernel
  have hrows : highlightRows .structural "ENV A=\nFOO\n\n" =
      .ok [⟨0, 0, 3, 2, 0⟩, ⟨0, 4, 1, 17, 0⟩] := by
    decide +kernel
  have hlater : highlightRows .structural "\nUSER a" =
      .ok [⟨1, 0, 4, 2, 0⟩, ⟨0, 5, 1, 17, 0⟩] := by
    decide +kernel
  obtain ⟨spans, rows, later, hspans, hrows', hlater', -, hall⟩ :=
    highlightRows_behind_complete_lines .structural _ _ (.inr hlast) hlimit
  obtain rfl := Except.ok.inj (hfirst.symm.trans hspans)
  obtain rfl := Except.ok.inj (hrows.symm.trans hrows')
  obtain rfl := Except.ok.inj (hlater.symm.trans hlater')
  exact ⟨hlast, hlimit, hrows, hlater, hall⟩

end Layerfile
