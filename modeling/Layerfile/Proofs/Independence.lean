import Layerfile.Proofs.Spans

/-! Lines are read independently. Text that follows complete lines is cut, placed and drawn as it
would be on its own, only further down. -/

namespace Layerfile

open Text

/-! ### Complete lines -/

/-- Nothing stands behind the last line feed of `text`. -/
def Text.Complete (text : List Char) : Prop :=
  ∀ c ∈ text.getLast?, c = '\n'

theorem Text.complete_of_getLast? {text : String}
    (h : text = "" ∨ text.toList.getLast? = some '\n') : Complete text.toList := by
  intro c hc
  rcases h with rfl | hlast
  · simp at hc
  · rw [hlast] at hc
    exact (Option.some.inj hc).symm

theorem Text.Complete.tail {c : Char} {text : List Char} (h : Complete (c :: text)) :
    Complete text := by
  intro d hd
  cases text with
  | nil => simp at hd
  | cons e text => exact h d (by rwa [List.getLast?_cons_cons])

theorem Text.Complete.ne_nil_of_ne {c : Char} {text : List Char} (h : Complete (c :: text))
    (hc : c ≠ '\n') : text ≠ [] := by
  rintro rfl
  exact hc (h c rfl)

theorem lines_ne_nil {text : List Char} (h : text ≠ []) : lines text ≠ [] := by
  intro hnil
  apply h
  rw [← flatMap_text_lines text, hnil, List.flatMap_nil]

theorem lines_append {front : List Char} (hfront : Complete front) (text : List Char) :
    lines (front ++ text) = lines front ++ lines text := by
  fun_induction lines front with
  | case1 => rfl
  | case2 rest ih => simpa [lines] using ih hfront.tail
  | case3 rest ih => simpa [lines] using ih hfront.tail.tail
  | case4 c rest hfeed hreturn hrest ih =>
      exact absurd hrest (lines_ne_nil (hfront.ne_nil_of_ne hfeed))
  | case5 c rest hfeed hreturn line later hrest ih =>
      have hne := hfront.ne_nil_of_ne hfeed
      have hreturn' : ∀ after, c = '\r' → rest ++ text = '\n' :: after → False := by
        intro after hc hafter
        obtain ⟨d, rest, rfl⟩ := List.exists_cons_of_ne_nil hne
        exact hreturn rest hc (by rw [(List.cons.inj hafter).1])
      rw [List.cons_append, lines.eq_4 c _ hfeed hreturn', ih hfront.tail, hrest]
      rfl

theorem length_lines {text : List Char} (h : Complete text) :
    (lines text).length = text.count '\n' := by
  fun_induction lines text with
  | case1 => rfl
  | case2 rest ih => simp [ih h.tail]
  | case3 rest ih => simp [ih h.tail.tail]
  | case4 c rest hfeed hreturn hrest ih =>
      exact absurd hrest (lines_ne_nil (h.ne_nil_of_ne hfeed))
  | case5 c rest hfeed hreturn line later hrest ih =>
      have hlength := ih h.tail
      rw [hrest] at hlength
      rw [List.count_cons_of_ne hfeed, ← hlength]
      rfl

/-! ### Tokens further down -/

/-- The token `count` lines further down. -/
def Token.below (count : Nat) (token : Token) : Token :=
  { token with line := token.line + count }

def Span.below (count : Nat) (span : Span) : Span :=
  { span with line := span.line + count }

theorem place_below (number column count : Nat) (pieces : List Piece) :
    Piece.place (number + count) column pieces =
      (Piece.place number column pieces).map (Token.below count) := by
  induction pieces generalizing column with
  | nil => rfl
  | cons piece pieces ih => simp [Piece.place, ih, Token.below]

theorem placeLines_below (number count : Nat) (lines : List Line) :
    placeLines (number + count) lines = (placeLines number lines).map (Token.below count) := by
  induction lines generalizing number with
  | nil => rfl
  | cons line later ih =>
      rw [placeLines, placeLines, place_below, Nat.add_right_comm, ih, List.map_append]

theorem placeLines_append (number : Nat) (first later : List Line) :
    placeLines number (first ++ later) =
      placeLines number first ++ placeLines (number + first.length) later := by
  induction first generalizing number with
  | nil => rfl
  | cons line first ih =>
      rw [List.cons_append, placeLines, placeLines, ih, List.append_assoc, List.length_cons,
        Nat.add_assoc, Nat.add_comm 1]

theorem tokenize_append {front : String} (hfront : Complete front.toList) (text : String) :
    tokenize (front ++ text) =
      tokenize front ++ (tokenize text).map (Token.below (front.toList.count '\n')) := by
  simp only [tokenize, String.toList_append, lines_append hfront, placeLines_append,
    placeLines_below, length_lines hfront]

/-! ### Spans further down -/

theorem Token.row_below {token : Token} (hline : 0 < token.line) (count : Nat) :
    (token.below count).row = token.row + count := by
  simp only [row, below]
  omega

theorem Token.split_below {token : Token} (hline : 0 < token.line) (count : Nat)
    (compound : Compound) (mode : ValueSpan) :
    (token.below count).split compound mode =
      (token.split compound mode).map (Option.map fun (key, value) =>
        (key.below count, value.below count)) := by
  unfold split
  rw [token.row_below hline]
  simp only [below, units]
  cases compound.delimiter.cut? token.text.toList with
  | none => rfl
  | some cut =>
      cases hoffset : valueOffset compound.delimiter mode cut with
      | none => simp only [hoffset]; rfl
      | some offset =>
          simp only [hoffset]
          by_cases hlimit :
              token.column + Text.units (token.text.toList.take offset) < positionLimit
          · simp only [hlimit, if_true]; rfl
          · simp only [hlimit, if_false]; rfl

/-- The spans of a token do not depend on its line, but for their own lines. -/
theorem Token.spans_below {token : Token} (hline : 0 < token.line) (count : Nat)
    (mode : ValueSpan) :
    (token.below count).spans mode = (token.spans mode).map (List.map (Span.below count)) := by
  unfold spans
  rw [show (token.below count).kind = token.kind from rfl]
  cases token.kind.highlight with
  | skip => rfl
  | simple category =>
      simp only [cover, token.row_below hline]
      rfl
  | compound compound =>
      simp only [token.split_below hline]
      cases token.split compound mode with
      | error e => rfl
      | ok found =>
          cases found with
          | none => rfl
          | some pair => rfl

theorem collectSpans_append {mode : ValueSpan} {first later : List Token}
    {spans laterSpans : List Span} (h : collectSpans mode first = .ok spans)
    (hlater : collectSpans mode later = .ok laterSpans) :
    collectSpans mode (first ++ later) = .ok (spans ++ laterSpans) := by
  induction first generalizing spans with
  | nil =>
      obtain rfl := Except.ok.inj h
      exact hlater
  | cons token first ih =>
      obtain ⟨own, rest, hown, hrest, rfl⟩ := collectSpans_cons h
      simp only [List.cons_append, collectSpans, hown, ih hrest, List.append_assoc]
      rfl

theorem collectSpans_below {mode : ValueSpan} {tokens : List Token} {spans : List Span}
    (hlines : ∀ token ∈ tokens, 0 < token.line) (count : Nat)
    (h : collectSpans mode tokens = .ok spans) :
    collectSpans mode (tokens.map (Token.below count)) = .ok (spans.map (Span.below count)) := by
  induction tokens generalizing spans with
  | nil =>
      obtain rfl := Except.ok.inj h
      rfl
  | cons token tokens ih =>
      obtain ⟨own, later, hown, hlater, rfl⟩ := collectSpans_cons h
      have hrest := ih (fun other hother => hlines other (List.mem_cons_of_mem _ hother)) hlater
      simp only [List.map_cons, collectSpans, Token.spans_below (hlines token (by simp)), hown,
        hrest, List.map_append]
      rfl

theorem highlight_append {mode : ValueSpan} {front text : String} {first later : List Span}
    (hfront : Complete front.toList) (h : highlight mode front = .ok first)
    (hlater : highlight mode text = .ok later) :
    highlight mode (front ++ text) =
      .ok (first ++ later.map (Span.below (front.toList.count '\n'))) := by
  rw [highlight, tokenize_append hfront]
  apply collectSpans_append h
  apply collectSpans_below _ _ hlater
  intro token htoken
  exact (exists_lineAt_of_mem_tokenize htoken).1

/-- Behind complete lines, a text has the tokens and the spans that it has alone, with the line
feeds in front of it added to every line. -/
theorem highlight_behind_complete_lines (mode : ValueSpan) (front text : String)
    (hfront : front = "" ∨ front.toList.getLast? = some '\n')
    (hlimit : units (front ++ text).toList < positionLimit) :
    tokenize (front ++ text) =
      tokenize front ++ (tokenize text).map (Token.below (front.toList.count '\n')) ∧
    ∃ first later, highlight mode front = .ok first ∧ highlight mode text = .ok later ∧
      highlight mode (front ++ text) =
        .ok (first ++ later.map (Span.below (front.toList.count '\n'))) := by
  have hcomplete := complete_of_getLast? hfront
  rw [String.toList_append, units_append] at hlimit
  obtain ⟨first, hfirst⟩ : ∃ spans, highlight mode front = .ok spans :=
    exists_highlight mode (by omega)
  obtain ⟨later, hlater⟩ : ∃ spans, highlight mode text = .ok spans :=
    exists_highlight mode (by omega)
  exact ⟨tokenize_append hcomplete text, first, later, hfirst, hlater,
    highlight_append hcomplete hfirst hlater⟩

/-- A quote left open and unknown text at the end of a line do not reach the next line. -/
theorem highlight_behind_open_quote :
    "ENV A=\"x\r\nFOO\n".toList.getLast? = some '\n' ∧
    units ("ENV A=\"x\r\nFOO\n" ++ "BAR\nENV y\" b").toList < positionLimit ∧
    tokenize ("ENV A=\"x\r\nFOO\n" ++ "BAR\nENV y\" b") =
      tokenize "ENV A=\"x\r\nFOO\n" ++ (tokenize "BAR\nENV y\" b").map (Token.below 2) ∧
    ∃ first later, highlight .structural "ENV A=\"x\r\nFOO\n" = .ok first ∧
      highlight .structural "BAR\nENV y\" b" = .ok later ∧
      highlight .structural ("ENV A=\"x\r\nFOO\n" ++ "BAR\nENV y\" b") =
        .ok (first ++ later.map (Span.below 2)) := by
  have hlast : "ENV A=\"x\r\nFOO\n".toList.getLast? = some '\n' := by decide
  have hlimit : units ("ENV A=\"x\r\nFOO\n" ++ "BAR\nENV y\" b").toList < positionLimit := by
    decide
  exact ⟨hlast, hlimit, highlight_behind_complete_lines .structural _ _ (.inr hlast) hlimit⟩

end Layerfile
