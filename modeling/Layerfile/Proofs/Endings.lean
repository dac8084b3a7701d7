import Layerfile.Proofs.Independence

/-! Sources written line by line. Well-formed lines are read back from their texts, so a source has
the tokens of its lines. How a line ends decides about the token of its ending and nothing else. -/

namespace Layerfile

open Text

/-! ### Lines read back -/

namespace Text

/-- The source that consists of the given lines. -/
def sourceOf (lines : List Line) : String :=
  String.ofList (lines.flatMap Line.text)

theorem Line.complete_text {line : Line} (h : line.ending ≠ .unterminated) :
    Complete line.text := by
  intro c hc
  cases hending : line.ending with
  | unterminated => exact absurd hending h
  | lf => simpa [Line.text, hending, Ending.text, eq_comm] using hc
  | crlf => simpa [Line.text, hending, Ending.text, eq_comm] using hc

theorem Line.WellFormed.tail {c : Char} {content : List Char} {ending : Ending}
    (h : Line.WellFormed ⟨c :: content, ending⟩) : Line.WellFormed ⟨content, ending⟩ := by
  refine ⟨fun hmem => h.not_mem (List.mem_cons_of_mem _ hmem), ?_⟩
  intro hending
  cases content with
  | nil => simp
  | cons d content =>
      have hlast := h.getLast? hending
      rwa [List.getLast?_cons_cons] at hlast

theorem Line.WellFormed.lines_text {line : Line} (h : line.WellFormed) (hne : line.text ≠ []) :
    lines line.text = [line] := by
  obtain ⟨content, ending⟩ := line
  induction content with
  | nil =>
      cases ending with
      | unterminated => exact absurd rfl hne
      | lf => simp [Line.text, Ending.text, lines]
      | crlf => simp [Line.text, Ending.text, lines]
  | cons c content ih =>
      have hfeed : c ≠ '\n' := by
        rintro rfl
        exact h.not_mem List.mem_cons_self
      -- A carriage return in front of a line feed would belong to the ending.
      have hreturn : ∀ after, c = '\r' → content ++ ending.text = '\n' :: after → False := by
        intro after hc hafter
        cases content with
        | nil =>
            cases ending with
            | unterminated => simp [Ending.text] at hafter
            | lf => exact h.getLast? rfl (by simp [hc])
            | crlf => simp [Ending.text] at hafter
        | cons d content =>
            obtain ⟨rfl, -⟩ := List.cons.inj hafter
            exact h.not_mem (by simp)
      have hcons : Line.text ⟨c :: content, ending⟩ = c :: (content ++ ending.text) := rfl
      rw [hcons, lines.eq_4 c _ hfeed hreturn]
      by_cases hrest : content ++ ending.text = []
      · obtain ⟨rfl, hending⟩ := List.append_eq_nil_iff.mp hrest
        cases ending with
        | unterminated => rfl
        | lf => simp [Ending.text] at hending
        | crlf => simp [Ending.text] at hending
      · have hlines : lines (content ++ ending.text) = [⟨content, ending⟩] := ih h.tail hrest
        rw [hlines]

/-- Contents that end in no carriage return can be ended in every way. -/
theorem lined_of_contents {list : List Line}
    (hcontents : ∀ content ∈ list.map Line.content,
      '\n' ∉ content ∧ content.getLast? ≠ some '\r')
    (hended : ∀ line ∈ list.dropLast, line.ending ≠ .unterminated) : Lined list := by
  induction list with
  | nil => trivial
  | cons line later ih =>
      rw [List.map_cons, List.forall_mem_cons] at hcontents
      have hline : line.WellFormed := ⟨hcontents.1.1, fun _ => hcontents.1.2⟩
      cases later with
      | nil => exact ⟨hline, by simp, trivial⟩
      | cons second later =>
          rw [List.dropLast_cons_of_ne_nil (by simp), List.forall_mem_cons] at hended
          exact ⟨hline, fun _ => hended.1, ih hcontents.2 hended.2⟩

end Text

/-! ### Tokens of lines -/

/-- An empty line at the end is not read back, but it has no tokens either. -/
theorem placeLines_lines_flatMap {list : List Line} (h : Lined list) (number : Nat) :
    placeLines number (lines (list.flatMap Line.text)) = placeLines number list := by
  induction list generalizing number with
  | nil => rfl
  | cons line later ih =>
      obtain ⟨hline, hended, hlater⟩ := h
      rw [List.flatMap_cons]
      by_cases hempty : line.text = []
      · obtain ⟨content, ending⟩ := line
        obtain ⟨rfl, hending⟩ := List.append_eq_nil_iff.mp hempty
        cases ending with
        | unterminated =>
            obtain rfl : later = [] := by
              by_contra hne
              exact hended hne rfl
            rfl
        | lf => simp [Ending.text] at hending
        | crlf => simp [Ending.text] at hending
      · have hlines := hline.lines_text hempty
        cases later with
        | nil => rw [List.flatMap_nil, List.append_nil, hlines]
        | cons second later =>
            rw [lines_append (Line.complete_text (hended (by simp))), hlines,
              List.singleton_append, placeLines, placeLines, ih hlater]

theorem tokenize_sourceOf {list : List Line} (h : Lined list) :
    tokenize (sourceOf list) = placeLines 1 list := by
  rw [tokenize, sourceOf, String.toList_ofList, placeLines_lines_flatMap h]

theorem filter_newline_place (number column : Nat) (line : Line) :
    (Piece.place number column line.pieces).filter (·.kind != .newline) =
      (Piece.place number column (contentPieces line.content)).filter (·.kind != .newline) := by
  rw [Line.pieces, place_append, List.filter_append]
  have hending : ∀ start, (Piece.place number start
      (Piece.ofText .newline line.ending.text)).filter (·.kind != .newline) = [] := by
    intro start
    unfold Piece.ofText
    split <;> rfl
  rw [hending, List.append_nil]

theorem filter_newline_placeLines {list others : List Line}
    (h : list.map Line.content = others.map Line.content) (number : Nat) :
    (placeLines number list).filter (·.kind != .newline) =
      (placeLines number others).filter (·.kind != .newline) := by
  induction list generalizing others number with
  | nil =>
      rw [List.map_eq_nil_iff.mp h.symm]
  | cons line later ih =>
      obtain ⟨other, rest, rfl, hcontent, hrest⟩ := List.map_eq_cons_iff.mp h.symm
      rw [placeLines, placeLines, List.filter_append, List.filter_append, filter_newline_place,
        filter_newline_place, hcontent, ih hrest.symm]

/-! ### Spans of some of the tokens -/

theorem Token.spans_of_skip {token : Token} (mode : ValueSpan)
    (h : token.kind.highlight = .skip) : token.spans mode = .ok [] := by
  rw [Token.spans, h]

/-- Tokens that are not highlighted can be left out. -/
theorem collectSpans_filter (mode : ValueSpan) {keeps : Token → Bool}
    (hskip : ∀ token : Token, ¬ keeps token → token.kind.highlight = .skip)
    (tokens : List Token) :
    collectSpans mode (tokens.filter keeps) = collectSpans mode tokens := by
  induction tokens with
  | nil => rfl
  | cons token tokens ih =>
      by_cases hkeeps : keeps token
      · rw [List.filter_cons_of_pos hkeeps, collectSpans, collectSpans, ih]
      · rw [List.filter_cons_of_neg hkeeps, ih, collectSpans,
          token.spans_of_skip mode (hskip token hkeeps)]
        cases collectSpans mode tokens with
        | error e => rfl
        | ok spans => rfl

theorem collectSpans_filter_newline (mode : ValueSpan) (tokens : List Token) :
    collectSpans mode (tokens.filter (·.kind != .newline)) = collectSpans mode tokens := by
  apply collectSpans_filter
  intro token hkind
  have hnewline : token.kind = .newline := by simpa using hkind
  rw [hnewline]
  rfl

/-- Two ways to end the lines of the same contents give the same tokens, apart from the line
endings, and the same spans. -/
theorem highlight_ignores_line_endings (contents : List (List Char))
    (hcontents : ∀ content ∈ contents, '\n' ∉ content ∧ content.getLast? ≠ some '\r')
    (list others : List Line) (hlist : list.map Line.content = contents)
    (hothers : others.map Line.content = contents)
    (hended : ∀ line ∈ list.dropLast, line.ending ≠ .unterminated)
    (hended' : ∀ line ∈ others.dropLast, line.ending ≠ .unterminated) :
    (tokenize (sourceOf list)).filter (·.kind != .newline) =
      (tokenize (sourceOf others)).filter (·.kind != .newline) ∧
    ∀ mode, highlight mode (sourceOf list) = highlight mode (sourceOf others) ∧
      (units (sourceOf list).toList < positionLimit →
        ∃ spans, highlight mode (sourceOf list) = .ok spans) := by
  have hlined : Lined list := lined_of_contents (by rwa [hlist]) hended
  have hlined' : Lined others := lined_of_contents (by rwa [hothers]) hended'
  have htokens : (tokenize (sourceOf list)).filter (·.kind != .newline) =
      (tokenize (sourceOf others)).filter (·.kind != .newline) := by
    rw [tokenize_sourceOf hlined, tokenize_sourceOf hlined',
      filter_newline_placeLines (hlist.trans hothers.symm)]
  refine ⟨htokens, ?_⟩
  intro mode
  refine ⟨?_, exists_highlight mode⟩
  rw [highlight, highlight, ← collectSpans_filter_newline, htokens, collectSpans_filter_newline]

/-- The carriage return inside the unknown text is content, and the last line may be left open. -/
theorem highlight_ignores_endings_around_carriage_return :
    (tokenize "ENV K v\r\nA\rB\nRUN \"x").filter (·.kind != .newline) =
      (tokenize "ENV K v\nA\rB\r\nRUN \"x\r\n").filter (·.kind != .newline) ∧
    ∀ mode, ∃ spans, highlight mode "ENV K v\r\nA\rB\nRUN \"x" = .ok spans ∧
      highlight mode "ENV K v\nA\rB\r\nRUN \"x\r\n" = .ok spans := by
  have hfirst : sourceOf [⟨"ENV K v".toList, .crlf⟩, ⟨"A\rB".toList, .lf⟩,
      ⟨"RUN \"x".toList, .unterminated⟩] = "ENV K v\r\nA\rB\nRUN \"x" := by decide
  have hsecond : sourceOf [⟨"ENV K v".toList, .lf⟩, ⟨"A\rB".toList, .crlf⟩,
      ⟨"RUN \"x".toList, .crlf⟩] = "ENV K v\nA\rB\r\nRUN \"x\r\n" := by decide
  obtain ⟨htokens, hspans⟩ := highlight_ignores_line_endings
    ["ENV K v".toList, "A\rB".toList, "RUN \"x".toList] (by decide)
    [⟨"ENV K v".toList, .crlf⟩, ⟨"A\rB".toList, .lf⟩, ⟨"RUN \"x".toList, .unterminated⟩]
    [⟨"ENV K v".toList, .lf⟩, ⟨"A\rB".toList, .crlf⟩, ⟨"RUN \"x".toList, .crlf⟩]
    rfl rfl (by decide) (by decide)
  rw [hfirst, hsecond] at htokens hspans
  refine ⟨htokens, ?_⟩
  intro mode
  obtain ⟨hsame, hexists⟩ := hspans mode
  obtain ⟨spans, hown⟩ := hexists (by decide)
  exact ⟨spans, hown, hsame ▸ hown⟩

end Layerfile
