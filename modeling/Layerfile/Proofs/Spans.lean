import Layerfile.Proofs.Position
import Layerfile.Proofs.Splitting

/-! The spans of a source follow its text. They come token by token, so their order is that of
the tokens, and each one lies on whole characters of one line. -/

namespace Layerfile

open Text

/-! ### Spans of a list of tokens -/

theorem collectSpans_cons {mode : ValueSpan} {token : Token} {tokens : List Token}
    {spans : List Span} (h : collectSpans mode (token :: tokens) = .ok spans) :
    ∃ own later, token.spans mode = .ok own ∧ collectSpans mode tokens = .ok later ∧
      spans = own ++ later := by
  rw [collectSpans] at h
  cases hown : token.spans mode with
  | error e => simp [hown, bind, Except.bind] at h
  | ok own =>
      cases hlater : collectSpans mode tokens with
      | error e => simp [hown, hlater, bind, Except.bind] at h
      | ok later =>
          simp only [hown, hlater, bind, Except.bind, pure, Except.pure, Except.ok.injEq] at h
          exact ⟨own, later, rfl, rfl, h.symm⟩

theorem exists_collectSpans (mode : ValueSpan) {tokens : List Token}
    (h : ∀ token ∈ tokens, token.column + token.units < positionLimit) :
    ∃ spans, collectSpans mode tokens = .ok spans := by
  induction tokens with
  | nil => exact ⟨[], rfl⟩
  | cons token tokens ih =>
      obtain ⟨own, hown⟩ := token.exists_spans mode (h token (by simp))
      obtain ⟨later, hlater⟩ := ih fun token htoken => h token (List.mem_cons_of_mem _ htoken)
      refine ⟨own ++ later, ?_⟩
      simp only [collectSpans, hown, hlater]
      rfl

theorem exists_token_of_mem_collectSpans {mode : ValueSpan} {tokens : List Token}
    {spans : List Span} (h : collectSpans mode tokens = .ok spans) {span : Span}
    (hspan : span ∈ spans) : ∃ token ∈ tokens, ∃ own, token.spans mode = .ok own ∧ span ∈ own := by
  induction tokens generalizing spans with
  | nil =>
      obtain rfl := Except.ok.inj h
      simp at hspan
  | cons token tokens ih =>
      obtain ⟨own, later, hown, hlater, rfl⟩ := collectSpans_cons h
      rcases List.mem_append.mp hspan with hspan | hspan
      · exact ⟨token, by simp, own, hown, hspan⟩
      · obtain ⟨other, hmem, hother⟩ := ih hlater hspan
        exact ⟨other, List.mem_cons_of_mem _ hmem, hother⟩

/-- Spans keep the order of their tokens. Lines of tokens count from one, so the first of two
lines is not lost when they are counted from zero. -/
theorem Token.EndsBefore.covers {first second : Token} (h : first.EndsBefore second)
    (hfirst : 0 < first.line) {span later : Span} (hspan : first.Covers span)
    (hlater : second.Covers later) : span.EndsBefore later := by
  obtain ⟨before, run, after, category, htext, rfl⟩ := hspan
  obtain ⟨before', run', after', category', -, rfl⟩ := hlater
  simp only [Span.EndsBefore, Token.spanOver, Token.row]
  rcases h with hline | ⟨hline, hcolumn⟩
  · left
    omega
  · right
    rw [Token.units, htext, units_append, units_append] at hcolumn
    exact ⟨by rw [hline], by omega⟩

theorem collectSpans_pairwise {mode : ValueSpan} {tokens : List Token} {spans : List Span}
    (h : collectSpans mode tokens = .ok spans) (hlines : ∀ token ∈ tokens, 0 < token.line)
    (htokens : tokens.Pairwise Token.EndsBefore) : spans.Pairwise Span.EndsBefore := by
  induction tokens generalizing spans with
  | nil =>
      obtain rfl := Except.ok.inj h
      exact List.Pairwise.nil
  | cons token tokens ih =>
      obtain ⟨own, later, hown, hlater, rfl⟩ := collectSpans_cons h
      obtain ⟨hfirst, htokens⟩ := List.pairwise_cons.mp htokens
      have hlater_lines : ∀ other ∈ tokens, 0 < other.line := by
        intro other hother
        exact hlines other (List.mem_cons_of_mem _ hother)
      refine List.pairwise_append.mpr
        ⟨Token.spans_pairwise hown, ih hlater hlater_lines htokens, ?_⟩
      intro span hspan next hnext
      obtain ⟨other, hmem, otherSpans, hother, hnext⟩ :=
        exists_token_of_mem_collectSpans hlater hnext
      exact (hfirst other hmem).covers (hlines token (by simp))
        (Token.covers_of_mem_spans hown hspan) (Token.covers_of_mem_spans hother hnext)

/-! ### Tokens on the lines of the source -/

theorem Piece.kind_of_mem_ofText {kind : TokenKind} {text : List Char} {piece : Piece}
    (h : piece ∈ Piece.ofText kind text) : piece.kind = kind := by
  unfold Piece.ofText at h
  split at h
  · simp at h
  · rw [List.mem_singleton.mp h]

theorem content_of_contentPieces {content : List Char} {earlier later : List Piece} {piece : Piece}
    (h : contentPieces content = earlier ++ piece :: later) :
    content = earlier.flatMap Piece.text ++ piece.text ++ later.flatMap Piece.text := by
  rw [← (contentPieces_partition content).flatMap_text, h]
  simp

theorem exists_line_of_mem_placeLines {number : Nat} {lines : List Line} {token : Token}
    (h : token ∈ placeLines number lines) :
    ∃ index line, lines[index]? = some line ∧ token.line = number + index ∧
      (token.kind = .newline ∨ ∃ earlier later,
        contentPieces line.content = earlier ++ ⟨token.kind, token.text.toList⟩ :: later ∧
        token.column = units (earlier.flatMap Piece.text)) := by
  induction lines generalizing number with
  | nil => simp [placeLines] at h
  | cons line later ih =>
      rcases List.mem_append.mp h with h | h
      · refine ⟨0, line, rfl, ?_⟩
        rw [Line.pieces, place_append, List.mem_append] at h
        rcases h with h | h
        · obtain ⟨earlier, piece, rest, hpieces, rfl⟩ := exists_piece_of_mem_place h
          exact ⟨rfl, .inr ⟨earlier, rest, by simpa using hpieces, by simp⟩⟩
        · obtain ⟨earlier, piece, rest, hpieces, rfl⟩ := exists_piece_of_mem_place h
          have hpiece : piece ∈ Piece.ofText .newline line.ending.text := by simp [hpieces]
          exact ⟨rfl, .inl (Piece.kind_of_mem_ofText hpiece)⟩
      · obtain ⟨index, other, hother, hline, hplace⟩ := ih h
        refine ⟨index + 1, other, by simpa using hother, ?_, hplace⟩
        omega

theorem exists_contentPieces_of_mem_tokenize {source : String} {token : Token}
    (h : token ∈ tokenize source) :
    0 < token.line ∧ ∃ line, LineAt source.toList token.row line ∧
      (token.kind = .newline ∨ ∃ earlier later,
        contentPieces line.content = earlier ++ ⟨token.kind, token.text.toList⟩ :: later ∧
        token.column = units (earlier.flatMap Piece.text)) := by
  obtain ⟨index, line, hline, hnumber, hplace⟩ := exists_line_of_mem_placeLines h
  have hrow : token.row = index := by
    rw [Token.row, hnumber]
    omega
  refine ⟨by omega, line, ?_, hplace⟩
  rw [hrow]
  exact lineAt_of_getElem?_lines hline

theorem exists_lineAt_of_mem_tokenize {source : String} {token : Token}
    (h : token ∈ tokenize source) :
    0 < token.line ∧ ∃ line, LineAt source.toList token.row line ∧
      (token.kind = .newline ∨ ∃ before after,
        line.content = before ++ token.text.toList ++ after ∧ token.column = units before) := by
  obtain ⟨hpos, line, hline, hplace⟩ := exists_contentPieces_of_mem_tokenize h
  refine ⟨hpos, line, hline, ?_⟩
  rcases hplace with hnewline | ⟨earlier, later, hpieces, hcolumn⟩
  · exact .inl hnewline
  · exact .inr ⟨_, _, content_of_contentPieces hpieces, hcolumn⟩

/-! ### Spans on the lines of the source -/

/-- An offset in units that falls in front of, between or behind the characters of a text. -/
def Text.IsBoundary (text : List Char) (offset : Nat) : Prop :=
  ∃ before after, text = before ++ after ∧ units before = offset

theorem exists_highlight (mode : ValueSpan) {source : String}
    (h : units source.toList < positionLimit) : ∃ spans, highlight mode source = .ok spans := by
  apply exists_collectSpans
  intro token htoken
  have hle := column_add_units_le_of_mem_tokenize htoken
  omega

theorem highlight_pairwise {mode : ValueSpan} {source : String} {spans : List Span}
    (h : highlight mode source = .ok spans) : spans.Pairwise Span.EndsBefore := by
  apply collectSpans_pairwise h _ (tokenize_pairwise_endsBefore source)
  intro token htoken
  exact (exists_lineAt_of_mem_tokenize htoken).1

theorem exists_run_of_mem_highlight {mode : ValueSpan} {source : String} {spans : List Span}
    (h : highlight mode source = .ok spans) {span : Span} (hspan : span ∈ spans) :
    ∃ line before run after, LineAt source.toList span.line line ∧
      line.content = before ++ run ++ after ∧ span.start = units before ∧
      span.length = units run := by
  obtain ⟨token, htoken, own, hown, hmem⟩ := exists_token_of_mem_collectSpans h hspan
  obtain ⟨-, line, hline, hnewline | ⟨front, rest, hcontent, hcolumn⟩⟩ :=
    exists_lineAt_of_mem_tokenize htoken
  · obtain rfl := Except.ok.inj (hown.symm.trans (token.spans_of_newline mode hnewline))
    simp at hmem
  · obtain ⟨before, run, after, category, htext, rfl⟩ := Token.covers_of_mem_spans hown hmem
    refine ⟨line, front ++ before, run, after ++ rest, hline, ?_, ?_, rfl⟩
    · rw [hcontent, htext]
      simp
    · rw [units_append, ← hcolumn]
      rfl

/-- Spans never overlap and never leave the content of their line or cut a character. -/
theorem highlight_within_lines (mode : ValueSpan) (source : String)
    (h : units source.toList < positionLimit) :
    ∃ spans, highlight mode source = .ok spans ∧ spans.Pairwise Span.EndsBefore ∧
      ∀ span ∈ spans, ∃ line, LineAt source.toList span.line line ∧
        span.start + span.length ≤ units line.content ∧
        IsBoundary line.content span.start ∧
        IsBoundary line.content (span.start + span.length) := by
  obtain ⟨spans, hspans⟩ := exists_highlight mode h
  refine ⟨spans, hspans, highlight_pairwise hspans, ?_⟩
  intro span hspan
  obtain ⟨line, before, run, after, hline, hcontent, hstart, hlength⟩ :=
    exists_run_of_mem_highlight hspans hspan
  refine ⟨line, hline, ?_, ⟨before, run ++ after, ?_, hstart.symm⟩,
    ⟨before ++ run, after, hcontent, ?_⟩⟩
  · rw [hcontent, hstart, hlength, units_append, units_append]
    omega
  · rw [hcontent, List.append_assoc]
  · rw [units_append, hstart, hlength]

/-- A repeated delimiter makes the two spans of its token meet, here behind a surrogate pair. -/
theorem highlight_within_lines_repeated_delimiter :
    units "USER a\r\nENV é🚀==v # x".toList < positionLimit ∧
    ∃ spans, highlight .absorbToEnd "USER a\r\nENV é🚀==v # x" = .ok spans ∧
      spans.map (fun span => (span.line, span.start, span.length)) =
        [(0, 0, 4), (0, 5, 1), (1, 0, 3), (1, 4, 3), (1, 7, 3), (1, 11, 3)] ∧
      spans.Pairwise Span.EndsBefore ∧
      ∀ span ∈ spans, ∃ line, LineAt "USER a\r\nENV é🚀==v # x".toList span.line line ∧
        span.start + span.length ≤ units line.content := by
  have hlimit : units "USER a\r\nENV é🚀==v # x".toList < positionLimit := by decide
  have hvalue : ((highlight .absorbToEnd "USER a\r\nENV é🚀==v # x").toOption.map
      (List.map fun span => (span.line, span.start, span.length))) =
        some [(0, 0, 4), (0, 5, 1), (1, 0, 3), (1, 4, 3), (1, 7, 3), (1, 11, 3)] := by
    decide +kernel
  obtain ⟨spans, hspans, hpairwise, hlines⟩ := highlight_within_lines .absorbToEnd _ hlimit
  rw [hspans] at hvalue
  refine ⟨hlimit, spans, hspans, Option.some.inj hvalue, hpairwise, ?_⟩
  intro span hspan
  obtain ⟨line, hline, hinside, -⟩ := hlines span hspan
  exact ⟨line, hline, hinside⟩

end Layerfile
