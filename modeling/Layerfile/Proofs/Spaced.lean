import Layerfile.Proofs.Delimited

/-! Reading and splitting of the spaced form of an environment value. A bare word is read up to
the next space or tab and stretches over a value behind it; splitting looks for white space of any
kind. The two agree on every word that has no other white space. -/

namespace Layerfile

open Text

/-! ### What is read -/

theorem Lexicon.exists_next_of_argument {κ : Type} {lexicon : Lexicon κ} {kindOf : κ → TokenKind}
    {text : List Char} {earlier later : List Piece} {piece : Piece} {kind : ArgumentKind}
    (h : (lexicon.scan text).map (Lexeme.toPiece kindOf) = earlier ++ piece :: later)
    (hkind : piece.kind = .argument kind) :
    ∃ own c rest, kindOf own = .argument kind ∧
      text = earlier.flatMap Piece.text ++ c :: rest ∧
      (lexicon.next c rest).1 = ⟨some own, piece.text⟩ := by
  obtain ⟨front, behind, hscan, rfl, hbehind⟩ := List.map_eq_append_iff.mp h
  obtain ⟨⟨own, word⟩, after, rfl, rfl, rfl⟩ := List.map_eq_cons_iff.mp hbehind
  obtain ⟨c, rest, htext, hnext, -⟩ := exists_next_of_scan_eq_append hscan
  cases own with
  | none => cases hkind
  | some own =>
      refine ⟨own, c, rest, hkind, ?_, hnext.symm⟩
      rw [htext, List.flatMap_map]
      rfl

/-- A word of an environment line stretches over some of the text behind it. -/
theorem exists_word_of_next_env {c : Char} {rest text : List Char} {own : EnvLexeme}
    (hfeed : '\n' ∉ c :: rest) (hblank : own ≠ .blank) (hcomment : own ≠ .comment)
    (h : (envLexicon.next c rest).1 = ⟨some own, text⟩) :
    ∃ word tail, c :: rest = word ++ tail ∧ word ≠ [] ∧ (∀ d ∈ word, ¬ isBlank d) ∧
      atWordBoundary tail ∧ text = word ++ tail.take (own.stretch word tail) := by
  rw [List.mem_cons, not_or] at hfeed
  rcases isBlank_or_mark_or_opensWord (Ne.symm hfeed.1) with hc | rfl | hopens
  · rw [envLexicon_readsLayout.next_blank c rest hc] at h
    cases h
    exact absurd rfl hblank
  · rw [envLexicon_readsLayout.next_mark rest] at h
    cases h
    exact absurd rfl hcomment
  · obtain ⟨kind, -, -, hword⟩ := envLexicon_reads.next_item c rest hopens
    rw [Lexicon.next_of_unstretched hword, Lexeme.mk.injEq, Option.some.injEq] at h
    obtain ⟨rfl, rfl⟩ := h
    refine ⟨c :: rest.takeWhile isWordChar, rest.dropWhile isWordChar, ?_, by simp, ?_,
      atWordBoundary_dropWhile_isWordChar hfeed.2, rfl⟩
    · rw [List.cons_append, List.takeWhile_append_dropWhile]
    · rw [List.forall_mem_cons]
      exact ⟨not_isBlank_of_opensWord hopens,
        fun d hd => not_isBlank_of_isWordChar (List.mem_takeWhile_imp hd)⟩

/-- A token that takes `word` and `reach` of its line, where `rest` stands behind the word. -/
structure Token.TakesWord (source : String) (token : Token) (word rest reach : List Char) :
    Prop where
  exists_line : ∃ line before, LineAt source.toList token.row line ∧
    line.content = before ++ word ++ rest ∧ token.column = Text.units before
  word_ne_nil : word ≠ []
  not_isBlank : ∀ c ∈ word, ¬ isBlank c
  rest_boundary : atWordBoundary rest
  text_eq : token.text.toList = word ++ reach
  reach_isPrefix : reach <+: rest

theorem exists_takesWord {source : String} {token : Token} {kind : ArgumentKind}
    (h : token ∈ tokenize source) (hkind : token.kind = .argument kind)
    (henv : ∀ instruction : Instruction,
      .argument kind ∈ instruction.mode.kinds → instruction.mode = .env) :
    ∃ own word rest, EnvLexeme.tokenKind own = .argument kind ∧
      token.TakesWord source word rest (rest.take (own.stretch word rest)) := by
  obtain ⟨line, instruction, front, arguments, earlier, later, hline, hcontent, hboundary, hcut,
    hcolumn⟩ := exists_arguments_of_mem_tokenize h hkind
  have hfeed := hline.wellFormed.not_mem
  rw [hcontent, List.mem_append, not_or] at hfeed
  have hpiece : ⟨token.kind, token.text.toList⟩ ∈ instruction.mode.cut arguments := by simp [hcut]
  rw [henv instruction (ArgumentMode.mem_kinds_of_mem_cut hboundary hfeed.2 hpiece hkind)] at hcut
  obtain ⟨own, c, tail, hown, rfl, hnext⟩ := Lexicon.exists_next_of_argument hcut hkind
  have hblank : own ≠ .blank := by
    rintro rfl
    cases hown
  have hcomment : own ≠ .comment := by
    rintro rfl
    cases hown
  rw [List.mem_append, not_or] at hfeed
  obtain ⟨word, rest, htail, hne, hword, hrest, htext⟩ :=
    exists_word_of_next_env hfeed.2.2 hblank hcomment hnext
  refine ⟨own, word, rest, hown, ⟨line, _, hline, ?_, hcolumn⟩, hne, hword, hrest, htext,
    List.take_prefix _ _⟩
  rw [hcontent, htail]
  simp

/-! ### Blanks of the text that is read -/

section

variable {word rest : List Char}

/-- The word is what stands before the first blank, whether or not it stretches. -/
theorem takeWhile_not_isBlank_of_word (hword : ∀ c ∈ word, ¬ isBlank c)
    (hrest : atWordBoundary rest) (size : Nat) :
    (word ++ rest.take size).takeWhile (!isBlank ·) = word := by
  have hstop : (rest.take size).takeWhile (!isBlank ·) = [] := by
    cases rest with
    | nil => simp
    | cons b rest =>
        cases size with
        | zero => rfl
        | succ size =>
            have hb : isBlank b := hrest
            simp [hb]
  rw [List.takeWhile_append_of_pos (by simpa using hword), hstop, List.append_nil]

/-- The word stretches exactly if the text that is read has a blank. -/
theorem spacedStretch_pos_iff (hword : ∀ c ∈ word, ¬ isBlank c) (hrest : atWordBoundary rest) :
    0 < spacedStretch rest ↔ ∃ c ∈ word ++ rest.take (spacedStretch rest), isBlank c := by
  constructor
  · intro hpos
    cases rest with
    | nil => cases hpos
    | cons b rest =>
        refine ⟨b, ?_, hrest⟩
        obtain ⟨size, hsize⟩ := Nat.exists_eq_add_of_lt hpos
        simp [hsize]
  · rintro ⟨c, hc, hblank⟩
    rcases List.mem_append.mp hc with hc | hc
    · exact absurd hblank (hword c hc)
    · apply Nat.pos_of_ne_zero
      intro hzero
      simp [hzero] at hc

theorem Token.TakesWord.word_eq {source : String} {token : Token} {reach : List Char}
    (h : token.TakesWord source word rest reach) :
    word = token.text.toList.takeWhile (!isBlank ·) := by
  rw [h.text_eq, List.prefix_iff_eq_take.mp h.reach_isPrefix,
    takeWhile_not_isBlank_of_word h.not_isBlank h.rest_boundary]

end

/-! ### Spaced assignments of a source -/

/-- A token that was read as a bare word of its line. `rest` is the text of the line behind the
word, and the token takes of it what belongs to a spaced value. -/
structure Token.ReadsWord (source : String) (token : Token) (word rest : List Char) : Prop where
  exists_line : ∃ line before, LineAt source.toList token.row line ∧
    line.content = before ++ word ++ rest ∧ token.column = Text.units before
  word_ne_nil : word ≠ []
  word_eq : word = token.text.toList.takeWhile (!isBlank ·)
  rest_boundary : atWordBoundary rest
  text_eq : token.text.toList = word ++ rest.take (spacedStretch rest)
  stretch_pos_iff : 0 < spacedStretch rest ↔ ∃ c ∈ token.text.toList, isBlank c

theorem exists_readsWord {source : String} {token : Token} (h : token ∈ tokenize source)
    (hkind : token.kind = .argument .spacedAssignment) :
    ∃ word rest, token.ReadsWord source word rest := by
  -- Only environment lines have bare words, so their lexicon has read the arguments.
  obtain ⟨own, word, rest, hown, htakes⟩ := exists_takesWord h hkind fun instruction hmem => by
    rw [instruction.eq_env_of_mem_kinds hmem]
    rfl
  obtain rfl : own = .bare := by
    revert hown
    cases own <;> decide
  have htext : token.text.toList = word ++ rest.take (spacedStretch rest) := htakes.text_eq
  refine ⟨word, rest, htakes.exists_line, htakes.word_ne_nil, htakes.word_eq,
    htakes.rest_boundary, htext, ?_⟩
  rw [htext]
  exact spacedStretch_pos_iff htakes.not_isBlank htakes.rest_boundary

/-! ### Where white space is cut -/

namespace Delimiter

theorem width_whitespace_eq_zero {c : Char} (hc : ¬ isWhiteSpace c) (rest : List Char) :
    whitespace.width (c :: rest) = 0 := by
  simp [width, hc]

theorem width_whitespace_pos {c : Char} (hc : isWhiteSpace c) (rest : List Char) :
    0 < whitespace.width (c :: rest) := by
  simp [width, hc]

theorem cut?_eq_none {delimiter : Delimiter} {text : List Char}
    (h : ∀ c ∈ text, ∀ rest, delimiter.width (c :: rest) = 0) : delimiter.cut? text = none := by
  induction text with
  | nil => rfl
  | cons c text ih =>
      rw [List.forall_mem_cons] at h
      rw [cut?, h.1]
      simp [ih h.2]

end Delimiter

section

variable {token : Token} (mode : ValueSpan)

theorem Token.exists_splits_of_isWhiteSpace (hkind : token.kind = .argument .spacedAssignment)
    (h : ∃ c ∈ token.text.toList, isWhiteSpace c) :
    ∃ value, token.Splits mode (token.text.toList.takeWhile (!isWhiteSpace ·)) value := by
  have hhighlight : token.kind.highlight = .compound ⟨.variableName, .string, .whitespace⟩ := by
    rw [hkind]
    rfl
  have htext : token.text.toList = token.text.toList.takeWhile (!isWhiteSpace ·) ++
      token.text.toList.dropWhile (!isWhiteSpace ·) := List.takeWhile_append_dropWhile.symm
  apply Token.exists_splits mode hhighlight htext
  · intro c hc
    have hchar := List.mem_takeWhile_imp hc
    exact Delimiter.width_whitespace_eq_zero (by simpa using hchar)
  · cases hrest : token.text.toList.dropWhile (!isWhiteSpace ·) with
    | nil =>
        obtain ⟨c, hc, hspace⟩ := h
        have hchar := List.dropWhile_eq_nil_iff.mp hrest c hc
        simp [hspace] at hchar
    | cons c rest =>
        have hhead := List.head?_dropWhile_not (!isWhiteSpace ·) token.text.toList
        rw [hrest] at hhead
        exact Delimiter.width_whitespace_pos (by simpa using hhead) rest

theorem Token.spans_of_not_isWhiteSpace (hkind : token.kind = .argument .spacedAssignment)
    (h : ∀ c ∈ token.text.toList, ¬ isWhiteSpace c) : token.spans mode = .ok [] := by
  have hcut : Delimiter.whitespace.cut? token.text.toList = none := by
    apply Delimiter.cut?_eq_none
    intro c hc
    exact Delimiter.width_whitespace_eq_zero (h c hc)
  simp [Token.spans, hkind, TokenKind.highlight, ArgumentKind.highlight, Token.split, hcut]

end

/-! ### Where the two agree -/

/-- White space stands first where a blank does, unless the word in front has some of its own. -/
theorem takeWhile_not_isWhiteSpace_of_word {text : List Char}
    (h : ∀ c ∈ text.takeWhile (!isBlank ·), ¬ isWhiteSpace c) :
    text.takeWhile (!isWhiteSpace ·) = text.takeWhile (!isBlank ·) := by
  induction text with
  | nil => rfl
  | cons c text ih =>
      by_cases hblank : isBlank c
      · simp [hblank, isWhiteSpace_of_isBlank hblank]
      · rw [List.takeWhile_cons_of_pos (by simpa using hblank), List.forall_mem_cons] at h
        rw [List.takeWhile_cons_of_pos (by simpa using h.1),
          List.takeWhile_cons_of_pos (by simpa using hblank), ih h.2]

theorem exists_isWhiteSpace_iff_of_word {text : List Char}
    (h : ∀ c ∈ text.takeWhile (!isBlank ·), ¬ isWhiteSpace c) :
    (∃ c ∈ text, isWhiteSpace c) ↔ ∃ c ∈ text, isBlank c := by
  constructor
  · rintro ⟨c, hc, hspace⟩
    by_contra hnone
    have hall : text.takeWhile (!isBlank ·) = text := by
      rw [List.takeWhile_eq_self_iff]
      intro d hd
      simpa using fun hblank => hnone ⟨d, hd, hblank⟩
    rw [hall] at h
    exact h c hc hspace
  · rintro ⟨c, hc, hblank⟩
    exact ⟨c, hc, isWhiteSpace_of_isBlank hblank⟩

/-- A spaced assignment starts with a bare word, which stretches over a value exactly if the text
has a blank. It is split exactly if the text has white space, at the first of it. On a word that
has no white space both are the same, and its key is the word. -/
theorem highlight_splits_spaced_tokens (mode : ValueSpan) (source : String)
    {earlier later : List Token} {token : Token}
    (h : tokenize source = earlier ++ token :: later)
    (hkind : token.kind = .argument .spacedAssignment) :
    (∃ word rest, token.ReadsWord source word rest) ∧
    ((∃ c ∈ token.text.toList, isWhiteSpace c) → ∃ value,
      token.Splits mode (token.text.toList.takeWhile (!isWhiteSpace ·)) value ∧
      (units source.toList < positionLimit → ∃ before after,
        collectSpans mode earlier = .ok before ∧ collectSpans mode later = .ok after ∧
        highlight mode source = .ok (before ++
          [token.keySpan (token.text.toList.takeWhile (!isWhiteSpace ·)), value] ++ after))) ∧
    ((∀ c ∈ token.text.toList, ¬ isWhiteSpace c) → token.spans mode = .ok [] ∧
      (units source.toList < positionLimit → ∃ before after,
        collectSpans mode earlier = .ok before ∧ collectSpans mode later = .ok after ∧
        highlight mode source = .ok (before ++ after))) ∧
    ((∀ c ∈ token.text.toList.takeWhile (!isBlank ·), ¬ isWhiteSpace c) →
      ((∃ c ∈ token.text.toList, isWhiteSpace c) ↔ ∃ c ∈ token.text.toList, isBlank c) ∧
      token.text.toList.takeWhile (!isWhiteSpace ·) =
        token.text.toList.takeWhile (!isBlank ·)) := by
  have hmem : token ∈ tokenize source := by simp [h]
  refine ⟨exists_readsWord hmem hkind, ?_, ?_, ?_⟩
  · intro hspace
    obtain ⟨value, hsplits⟩ := Token.exists_splits_of_isWhiteSpace mode hkind hspace
    exact ⟨value, hsplits, hsplits.exists_highlight h⟩
  · intro hnone
    have hspans := Token.spans_of_not_isWhiteSpace mode hkind hnone
    refine ⟨hspans, ?_⟩
    intro hlimit
    simpa using highlight_around h hlimit hspans
  · intro hword
    exact ⟨exists_isWhiteSpace_iff_of_word hword, takeWhile_not_isWhiteSpace_of_word hword⟩

/-- The value stops in front of a comment, and a comment alone is no value. -/
theorem highlight_splits_spaced_value_before_comment :
    (∃ earlier later, tokenize "ENV KEY  a\tb # c" =
        earlier ++ ⟨.argument .spacedAssignment, 1, 4, "KEY  a\tb"⟩ :: later ∧
      ∃ value before after, highlight .absorbToEnd "ENV KEY  a\tb # c" =
        .ok (before ++ [⟨0, 4, 3, .variableName, []⟩, value] ++ after)) ∧
    ∃ earlier later, tokenize "ENV KEY # c" =
        earlier ++ ⟨.argument .spacedAssignment, 1, 4, "KEY"⟩ :: later ∧
      ∃ before after, collectSpans .structural earlier = .ok before ∧
        collectSpans .structural later = .ok after ∧
        highlight .structural "ENV KEY # c" = .ok (before ++ after) := by
  constructor
  · have htokens : tokenize "ENV KEY  a\tb # c" =
        [⟨.instruction .env, 1, 0, "ENV"⟩, ⟨.whitespace, 1, 3, " "⟩] ++
          ⟨.argument .spacedAssignment, 1, 4, "KEY  a\tb"⟩ ::
            [⟨.whitespace, 1, 12, " "⟩, ⟨.comment .env, 1, 13, "# c"⟩] := by
      decide +kernel
    obtain ⟨-, hsplit, -, hagree⟩ :=
      highlight_splits_spaced_tokens .absorbToEnd _ htokens rfl
    obtain ⟨hspace, hkey⟩ :=
      hagree (by simp [isBlank, isWhiteSpace, whiteSpaceRanges, CodeRanges.has])
    obtain ⟨value, -, hhighlight⟩ := hsplit (hspace.mpr ⟨' ', by decide, rfl⟩)
    obtain ⟨before, after, -, -, hspans⟩ := hhighlight (by decide)
    rw [hkey] at hspans
    exact ⟨_, _, htokens, value, before, after, hspans⟩
  · have htokens : tokenize "ENV KEY # c" =
        [⟨.instruction .env, 1, 0, "ENV"⟩, ⟨.whitespace, 1, 3, " "⟩] ++
          ⟨.argument .spacedAssignment, 1, 4, "KEY"⟩ ::
            [⟨.whitespace, 1, 7, " "⟩, ⟨.comment .env, 1, 8, "# c"⟩] := by
      decide +kernel
    obtain ⟨-, -, hwhole, -⟩ := highlight_splits_spaced_tokens .structural _ htokens rfl
    have hnone := hwhole (by simp [isWhiteSpace, whiteSpaceRanges, CodeRanges.has])
    exact ⟨_, _, htokens, hnone.2 (by decide)⟩

/-- A no-break space stands inside a word and is white space all the same. A word without a value
is split at it, and in front of a value the key is only a part of the word. -/
theorem spans_split_word_at_no_break_space :
    (∃ token ∈ tokenize "ENV A\u00a0B", token.kind = .argument .spacedAssignment ∧
      (∀ c ∈ token.text.toList, ¬ isBlank c) ∧
      ∀ mode, token.spans mode =
        .ok [⟨0, 4, 1, .variableName, []⟩, ⟨0, 6, 1, .string, []⟩]) ∧
    ∃ token ∈ tokenize "ENV A\u00a0B c", token.kind = .argument .spacedAssignment ∧
      token.text.toList.takeWhile (!isBlank ·) = "A\u00a0B".toList ∧
      ∀ mode, token.spans mode =
        .ok [token.keySpan ['A'], ⟨0, 6, 3, .string, []⟩] := by
  constructor
  · refine ⟨⟨.argument .spacedAssignment, 1, 4, "A\u00a0B"⟩, by decide +kernel, rfl,
      by simp [isBlank], ?_⟩
    intro mode
    cases mode <;> decide +kernel
  · refine ⟨⟨.argument .spacedAssignment, 1, 4, "A\u00a0B c"⟩, by decide +kernel, rfl,
      by decide +kernel, ?_⟩
    intro mode
    cases mode <;> decide +kernel

end Layerfile
