import Layerfile.Proofs.Keywords
import Layerfile.Proofs.Quotation

/-! What the text of a piece looks like by its kind. Whitespace consists of blanks, a comment starts
with its mark, and keywords and values neither start nor end with a blank. Only a command that
starts with a comment mark is not trimmed: it keeps the blanks at the end of its line. -/

namespace Layerfile

open Text

/-! ### Trimmed texts -/

/-- Neither the first nor the last character is a blank. -/
structure Text.Trimmed (text : List Char) : Prop where
  head : ∀ c ∈ text.head?, ¬ isBlank c
  last : ∀ c ∈ text.getLast?, ¬ isBlank c

theorem Text.trimmed_of_not_isBlank {text : List Char} (h : ∀ c ∈ text, ¬ isBlank c) :
    Trimmed text :=
  ⟨fun c hc => h c (List.mem_of_mem_head? hc), fun c hc => h c (List.mem_of_getLast? hc)⟩

theorem Text.Trimmed.append {word reach : List Char} (h : Trimmed word) (hne : word ≠ [])
    (hreach : ∀ c ∈ reach.getLast?, ¬ isBlank c) : Trimmed (word ++ reach) := by
  obtain ⟨c, word, rfl⟩ := List.exists_cons_of_ne_nil hne
  refine ⟨h.head, ?_⟩
  intro d hd
  rw [List.getLast?_append] at hd
  cases hlast : reach.getLast? with
  | none =>
      rw [hlast, Option.none_or] at hd
      exact h.last d hd
  | some b =>
      rw [hlast, Option.some_or] at hd
      exact hreach d (hlast.trans hd)

theorem not_isBlank_getLast?_trimRight (text : List Char) :
    ∀ c ∈ (trimRight text).getLast?, ¬ isBlank c := by
  rw [trimRight, List.getLast?_reverse]
  exact not_isBlank_head?_dropWhile text.reverse

theorem head?_trimRight {text : List Char} {c : Char} (hhead : text.head? = some c)
    (hc : ¬ isBlank c) : (trimRight text).head? = some c := by
  obtain ⟨d, rest, hright⟩ := List.exists_cons_of_ne_nil (trimRight_ne_nil hhead hc)
  rw [← trimRight_append_trailingBlanks text, hright] at hhead
  rw [hright]
  exact hhead

theorem trimmed_trimRight {text : List Char} {c : Char} (hhead : text.head? = some c)
    (hc : ¬ isBlank c) : Trimmed (trimRight text) := by
  refine ⟨?_, not_isBlank_getLast?_trimRight text⟩
  rw [head?_trimRight hhead hc]
  simpa using hc

/-! ### The shape of a piece -/

/-- What the text of a piece can be by its kind. -/
inductive Piece.Shaped : Piece → Prop
  | whitespace {text : List Char} (h : ∀ c ∈ text, isBlank c) : Shaped ⟨.whitespace, text⟩
  | newline {text : List Char} (h : ∀ c ∈ text.head?, ¬ isBlank c) : Shaped ⟨.newline, text⟩
  | unknown {text : List Char} (h : ∀ c ∈ text.head?, ¬ isBlank c) : Shaped ⟨.unknown, text⟩
  | comment {kind : CommentKind} {text : List Char} (h : text.head? = some '#') :
      Shaped ⟨.comment kind, text⟩
  | instruction {instruction : Instruction} {text : List Char} (h : Trimmed text) :
      Shaped ⟨.instruction instruction, text⟩
  | argument {kind : ArgumentKind} {text : List Char} (h : Trimmed text) :
      Shaped ⟨.argument kind, text⟩
  /-- A command that could be taken for a comment. -/
  | command {text : List Char} (h : text.head? = some '#') : Shaped ⟨.argument .command, text⟩

namespace Piece

/-- Only whitespace starts with a blank, and then it has no other characters. -/
theorem Shaped.whitespace_of_isBlank {piece : Piece} (h : piece.Shaped) {b : Char}
    (hhead : piece.text.head? = some b) (hb : isBlank b) :
    piece.kind = .whitespace ∧ ∀ c ∈ piece.text, isBlank c := by
  cases h with
  | whitespace h => exact ⟨rfl, h⟩
  | newline h => exact absurd hb (h b hhead)
  | unknown h => exact absurd hb (h b hhead)
  | comment h =>
      obtain rfl : b = '#' := Option.some.inj (hhead.symm.trans h)
      simp [isBlank] at hb
  | instruction h => exact absurd hb (h.head b hhead)
  | argument h => exact absurd hb (h.head b hhead)
  | command h =>
      obtain rfl : b = '#' := Option.some.inj (hhead.symm.trans h)
      simp [isBlank] at hb

theorem shaped_of_mem_ofText {text : List Char} (h : ∀ c ∈ text, isBlank c) :
    ∀ piece ∈ ofText .whitespace text, piece.Shaped := by
  intro piece hpiece
  unfold ofText at hpiece
  split at hpiece
  · cases hpiece
  · obtain rfl := List.mem_singleton.mp hpiece
    exact .whitespace h

theorem trim_of_value {piece : Piece} (hlayout : ¬ piece.kind.isLayout)
    (hmark : piece.text.head? ≠ some '#') :
    piece.trim = ⟨piece.kind, trimRight piece.text⟩ ::
      ofText .whitespace (trailingBlanks piece.text) := by
  unfold trim ofText
  by_cases hblanks : (trailingBlanks piece.text).isEmpty
  · have htext := trimRight_append_trailingBlanks piece.text
    rw [List.isEmpty_iff.mp hblanks, List.append_nil] at htext
    rw [if_pos (by simp [hblanks]), if_pos hblanks, htext]
  · rw [if_neg (by simp [hlayout, hmark, hblanks]), if_neg hblanks]

/-- The parts of an item that starts with no blank. Where it starts with a comment mark, it has to
be a command. -/
theorem shaped_of_mem_trim {piece : Piece} {c : Char} (hhead : piece.text.head? = some c)
    (hc : ¬ isBlank c)
    (hkind : piece.kind = .unknown ∨ ∃ kind, piece.kind = .argument kind)
    (hmark : c = '#' → piece.kind = .argument .command) :
    ∀ part ∈ piece.trim, part.Shaped := by
  obtain ⟨kind, text⟩ := piece
  intro part hpart
  by_cases hc' : c = '#'
  · subst hc'
    rw [trim_of_mark hhead, List.mem_singleton] at hpart
    obtain rfl : kind = .argument .command := hmark rfl
    rw [hpart]
    exact .command hhead
  · have hlayout : ¬ kind.isLayout := by
      rcases hkind with rfl | ⟨value, rfl⟩ <;> simp [TokenKind.isLayout]
    have htrimmed : Trimmed (trimRight text) := trimmed_trimRight hhead hc
    rw [trim_of_value hlayout (by simpa [hhead] using hc'), List.mem_cons] at hpart
    rcases hpart with rfl | hpart
    · rcases hkind with rfl | ⟨value, rfl⟩
      · exact .unknown htrimmed.head
      · exact .argument htrimmed
    · exact shaped_of_mem_ofText (fun c => isBlank_of_mem_trailingBlanks) part hpart

end Piece

/-! ### Arguments -/

namespace Lexicon

variable {κ : Type} {lexicon : Lexicon κ} {blank comment : κ} {kindOf : κ → TokenKind}

theorem exists_next_of_mem_scan_of_not_mem {text : List Char} (hfeed : '\n' ∉ text)
    {lexeme : Lexeme κ} (h : lexeme ∈ lexicon.scan text) :
    ∃ c rest, '\n' ∉ c :: rest ∧ lexeme = (lexicon.next c rest).1 := by
  obtain ⟨earlier, later, hscan⟩ := List.append_of_mem h
  obtain ⟨c, rest, rfl, hlexeme, -⟩ := exists_next_of_scan_eq_append hscan
  rw [List.mem_append, not_or] at hfeed
  exact ⟨c, rest, hfeed.2, hlexeme⟩

theorem toPiece_some (kindOf : κ → TokenKind) (kind : κ) (text : List Char) :
    Lexeme.toPiece kindOf ⟨some kind, text⟩ = ⟨kindOf kind, text⟩ := rfl

theorem ne_mark_of_opensWord {c : Char} (hc : opensWord c) : c ≠ '#' := by
  rintro rfl
  simp [opensWord] at hc

theorem isBlank_of_mem_blanks {c : Char} (hc : isBlank c) (rest : List Char) :
    ∀ d ∈ c :: rest.takeWhile isBlank, isBlank d := by
  rw [List.forall_mem_cons]
  exact ⟨hc, fun d => List.mem_takeWhile_imp⟩

theorem not_isBlank_of_mem_word {c : Char} (hc : opensWord c) (rest : List Char) :
    ∀ d ∈ c :: rest.takeWhile isWordChar, ¬ isBlank d := by
  rw [List.forall_mem_cons]
  exact ⟨not_isBlank_of_opensWord hc,
    fun d hd => not_isBlank_of_isWordChar (List.mem_takeWhile_imp hd)⟩

theorem Reads.shaped_of_mem_trim {accepts : Char → Bool}
    (hreads : lexicon.Reads blank comment accepts) {commentKind : CommentKind}
    (hblank : kindOf blank = .whitespace) (hcomment : kindOf comment = .comment commentKind)
    (hitem : ∀ kind, kind ≠ blank → kind ≠ comment →
      kindOf kind = .unknown ∨ ∃ value, kindOf kind = .argument value)
    {text : List Char} (hfeed : '\n' ∉ text) :
    ∀ piece ∈ (lexicon.scan text).flatMap fun lexeme => (lexeme.toPiece kindOf).trim,
      piece.Shaped := by
  intro piece hpiece
  obtain ⟨lexeme, hlexeme, hpiece⟩ := List.mem_flatMap.mp hpiece
  obtain ⟨c, rest, hnofeed, rfl⟩ := exists_next_of_mem_scan_of_not_mem hfeed hlexeme
  rw [List.mem_cons, not_or] at hnofeed
  rcases isBlank_or_mark_or_opensWord (Ne.symm hnofeed.1) with hc | rfl | hc
  · rw [hreads.next_blank c rest hc, Piece.trim_of_isLayout (by simp [Lexeme.toPiece, hblank,
      TokenKind.isLayout]), List.mem_singleton] at hpiece
    rw [hpiece, toPiece_some, hblank]
    exact .whitespace (isBlank_of_mem_blanks hc rest)
  · rw [hreads.next_mark rest, Piece.trim_of_mark rfl, List.mem_singleton] at hpiece
    rw [hpiece, toPiece_some, hcomment]
    exact .comment rfl
  · obtain ⟨kind, hkind, hkind', hnext⟩ := hreads.next_item c rest hc
    rw [hnext] at hpiece
    exact Piece.shaped_of_mem_trim rfl (not_isBlank_of_opensWord hc) (hitem kind hkind hkind')
      (fun hmark => absurd hmark (ne_mark_of_opensWord hc)) piece hpiece

end Lexicon

theorem shaped_of_mem_cut_command {text : List Char} (hfeed : '\n' ∉ text) :
    ∀ piece ∈ ArgumentMode.command.cut text, piece.Shaped := by
  intro piece hpiece
  obtain ⟨lexeme, hlexeme, hpiece⟩ := List.mem_flatMap.mp hpiece
  obtain ⟨c, rest, hnofeed, rfl⟩ := Lexicon.exists_next_of_mem_scan_of_not_mem hfeed hlexeme
  rw [List.mem_cons, not_or] at hnofeed
  by_cases hc : isBlank c
  · rw [commandLexicon_next_blank c rest hc, Piece.trim_of_isLayout rfl,
      List.mem_singleton] at hpiece
    rw [hpiece]
    exact .whitespace (Lexicon.isBlank_of_mem_blanks hc rest)
  · have hword : isWordChar c := by simp [isWordChar, hc, Ne.symm hnofeed.1]
    rw [commandLexicon_next_command c rest hword] at hpiece
    exact Piece.shaped_of_mem_trim rfl hc (.inr ⟨.command, rfl⟩) (fun _ => rfl) piece hpiece

/-! What a word of an environment line stretches over ends with no blank. -/

theorem not_isBlank_getLast?_quotedStretch (word rest : List Char) :
    ∀ c ∈ (rest.take (quotedStretch word rest)).getLast?, ¬ isBlank c := by
  rcases Nat.eq_zero_or_pos (quotedStretch word rest) with hzero | hpos
  · simp [hzero]
  · obtain ⟨key, quote, inner, rfl, hkey⟩ := exists_value_of_quotedStretch_pos hpos
    have hquote : isQuote quote := by
      by_contra hno
      have hplain : isQuote quote = false := by simpa using hno
      simp [quotedStretch, value_of_word hkey, hplain] at hpos
    have hcases := @quotedStretch_cases key inner quote hkey hquote rest
    rcases hcases with ⟨-, hzero⟩ | ⟨-, before, after, behind, -, -, hafter, -, htake⟩
    · omega
    · rw [htake]
      intro c hc
      have hmem : c ∈ quote :: after := by
        rw [List.getLast?_append_of_ne_nil _ (by simp)] at hc
        exact List.mem_of_getLast? hc
      rcases List.mem_cons.mp hmem with rfl | hmem
      · intro hblank
        simp only [isBlank, isQuote, Bool.or_eq_true, beq_iff_eq] at hblank hquote
        rcases hquote with rfl | rfl <;> simp at hblank
      · exact hafter c hmem

theorem not_isBlank_getLast?_spacedStretch (rest : List Char) :
    ∀ c ∈ (rest.take (spacedStretch rest)).getLast?, ¬ isBlank c := by
  obtain ⟨after, happend, -⟩ := exists_append_beforeComment rest
  have hprefix : trimRight (beforeComment rest) <+: rest := by
    refine ⟨trailingBlanks (beforeComment rest) ++ after, ?_⟩
    rw [← List.append_assoc, trimRight_append_trailingBlanks, ← happend]
  unfold spacedStretch
  split
  · split
    · simp
    · rw [← List.prefix_iff_eq_take.mp hprefix]
      exact not_isBlank_getLast?_trimRight _
  · simp

theorem EnvLexeme.not_isBlank_getLast?_stretch (own : EnvLexeme) (word rest : List Char) :
    ∀ c ∈ (rest.take (own.stretch word rest)).getLast?, ¬ isBlank c := by
  cases own with
  | assignment => exact not_isBlank_getLast?_quotedStretch word rest
  | bare => exact not_isBlank_getLast?_spacedStretch rest
  | blank => simp [stretch]
  | comment => simp [stretch]

theorem shaped_of_mem_cut_env {text : List Char} (hfeed : '\n' ∉ text) :
    ∀ piece ∈ ArgumentMode.env.cut text, piece.Shaped := by
  intro piece hpiece
  obtain ⟨lexeme, hlexeme, rfl⟩ := List.mem_map.mp hpiece
  obtain ⟨c, rest, hnofeed, rfl⟩ := Lexicon.exists_next_of_mem_scan_of_not_mem hfeed hlexeme
  rw [List.mem_cons, not_or] at hnofeed
  rcases isBlank_or_mark_or_opensWord (Ne.symm hnofeed.1) with hc | rfl | hc
  · rw [envLexicon_readsLayout.next_blank c rest hc]
    exact .whitespace (Lexicon.isBlank_of_mem_blanks hc rest)
  · rw [envLexicon_readsLayout.next_mark rest]
    exact .comment rfl
  · obtain ⟨own, hblank, hcomment, hword⟩ := envLexicon_reads.next_item c rest hc
    rw [Lexicon.next_of_unstretched hword]
    have hchars := Lexicon.not_isBlank_of_mem_word hc rest
    have htrimmed := (trimmed_of_not_isBlank hchars).append (by simp)
      (own.not_isBlank_getLast?_stretch (c :: rest.takeWhile isWordChar)
        (rest.dropWhile isWordChar))
    cases own with
    | blank => exact absurd rfl hblank
    | comment => exact absurd rfl hcomment
    | assignment => exact .argument htrimmed
    | bare => exact .argument htrimmed

theorem ArgumentMode.shaped_of_mem_cut (mode : ArgumentMode) {text : List Char}
    (hfeed : '\n' ∉ text) : ∀ piece ∈ mode.cut text, piece.Shaped := by
  cases mode with
  | words value comment =>
      apply wordLexicon_reads.shaped_of_mem_trim rfl rfl _ hfeed
      intro kind hblank hcomment
      cases kind with
      | blank => exact absurd rfl hblank
      | comment => exact absurd rfl hcomment
      | word => exact .inr ⟨value, rfl⟩
  | line value comment =>
      apply textLexicon_reads.shaped_of_mem_trim rfl rfl _ hfeed
      intro kind hblank hcomment
      cases kind with
      | blank => exact absurd rfl hblank
      | comment => exact absurd rfl hcomment
      | text => exact .inr ⟨value, rfl⟩
  | command => exact shaped_of_mem_cut_command hfeed
  | env => exact shaped_of_mem_cut_env hfeed
  | conditions =>
      apply conditionLexicon_reads.shaped_of_mem_trim rfl rfl _ hfeed
      intro kind hblank hcomment
      cases kind with
      | blank => exact absurd rfl hblank
      | comment => exact absurd rfl hcomment
      | conjunction => exact .inr ⟨.conjunction, rfl⟩
      | condition => exact .inr ⟨.condition, rfl⟩
      | word => exact .inl rfl

/-! ### Lines -/

theorem Spells.trimmed {words : List (List Char)} {text : List Char} (h : Spells words text)
    (hwords : ∀ word ∈ words, word ≠ [] ∧ ∀ c ∈ word, ¬ isBlank c) :
    text ≠ [] ∧ Trimmed text := by
  induction h with
  | word word =>
      obtain ⟨hne, hchars⟩ := hwords word (by simp)
      exact ⟨hne, trimmed_of_not_isBlank hchars⟩
  | join hblanks _ _ ih =>
      rw [List.forall_mem_cons] at hwords
      obtain ⟨⟨hne, hchars⟩, hlater⟩ := hwords
      obtain ⟨hnonempty, htrimmed⟩ := ih hlater
      refine ⟨by simp [hne], (trimmed_of_not_isBlank hchars).append hne ?_⟩
      rw [List.getLast?_append_of_ne_nil _ hnonempty]
      exact htrimmed.last

theorem Instruction.not_isBlank_of_mem_phrase (instruction : Instruction) :
    ∀ word ∈ instruction.phrase.map String.toList, word ≠ [] ∧ ∀ c ∈ word, ¬ isBlank c := by
  cases instruction <;> simp [phrase, isBlank]

theorem shaped_of_mem_statement {text : List Char} (hfeed : '\n' ∉ text)
    (hhead : ∀ c ∈ text.head?, ¬ isBlank c) : ∀ piece ∈ statement text, piece.Shaped := by
  intro piece hpiece
  generalize hpieces : statement text = pieces at hpiece
  cases readsStatement_iff.mpr hpieces.symm with
  | nil => cases hpiece
  | comment hmark =>
      obtain rfl := List.mem_singleton.mp hpiece
      exact .comment hmark
  | unknown =>
      obtain rfl := List.mem_singleton.mp hpiece
      exact .unknown hhead
  | @instruction instruction keyword arguments hopens =>
      rcases List.mem_cons.mp hpiece with rfl | hpiece
      · exact .instruction (hopens.spells.trimmed instruction.not_isBlank_of_mem_phrase).2
      · have harguments : '\n' ∉ arguments := by
          intro hmem
          exact hfeed (hopens.text_eq ▸ List.mem_append_right _ hmem)
        exact instruction.mode.shaped_of_mem_cut harguments piece hpiece

theorem Text.Line.shaped_of_mem_pieces {line : Line} (hfeed : '\n' ∉ line.content) :
    ∀ piece ∈ line.pieces, piece.Shaped := by
  intro piece hpiece
  rw [Line.pieces, contentPieces, List.mem_append, List.mem_append] at hpiece
  rcases hpiece with (hindent | hstatement) | hending
  · exact Piece.shaped_of_mem_ofText (fun c => List.mem_takeWhile_imp) piece hindent
  · refine shaped_of_mem_statement ?_ (not_isBlank_head?_dropWhile _) piece hstatement
    exact fun hmem => hfeed ((List.dropWhile_suffix isBlank).mem hmem)
  · obtain ⟨content, ending⟩ := line
    cases ending with
    | unterminated => cases hending
    | lf =>
        obtain rfl := List.mem_singleton.mp hending
        exact .newline (by simp [Ending.text, isBlank])
    | crlf =>
        obtain rfl := List.mem_singleton.mp hending
        exact .newline (by simp [Ending.text, isBlank])

theorem exists_mem_pieces_of_mem_placeLines {number : Nat} {lines : List Line} {token : Token}
    (h : token ∈ placeLines number lines) : ∃ line ∈ lines, token.piece ∈ line.pieces := by
  induction lines generalizing number with
  | nil => simp [placeLines] at h
  | cons line later ih =>
      rcases List.mem_append.mp h with h | h
      · refine ⟨line, by simp, ?_⟩
        rw [← map_piece_place number 0 line.pieces]
        exact List.mem_map_of_mem h
      · obtain ⟨other, hother, hpiece⟩ := ih h
        exact ⟨other, List.mem_cons_of_mem _ hother, hpiece⟩

theorem shaped_of_mem_tokenize {source : String} {token : Token} (h : token ∈ tokenize source) :
    token.piece.Shaped := by
  obtain ⟨line, hline, hpiece⟩ := exists_mem_pieces_of_mem_placeLines h
  exact Line.shaped_of_mem_pieces (not_mem_content_of_mem_lines hline) _ hpiece

/-! ### Commands that start with a comment mark -/

theorem ArgumentMode.cut_of_isBlank (mode : ArgumentMode) {b : Char} (hb : isBlank b)
    (rest : List Char) :
    mode.cut (b :: rest) =
      ⟨.whitespace, b :: rest.takeWhile isBlank⟩ :: mode.cut (rest.dropWhile isBlank) := by
  cases mode with
  | words value comment =>
      simp only [cut, Lexicon.scan_cons, wordLexicon_reads.next_blank b rest hb]
      rfl
  | line value comment =>
      simp only [cut, Lexicon.scan_cons, textLexicon_reads.next_blank b rest hb]
      rfl
  | command =>
      simp only [cut, Lexicon.scan_cons, commandLexicon_next_blank b rest hb]
      rfl
  | env =>
      simp only [cut, Lexicon.scan_cons, envLexicon_readsLayout.next_blank b rest hb]
      rfl
  | conditions =>
      simp only [cut, Lexicon.scan_cons, conditionLexicon_reads.next_blank b rest hb]
      rfl

theorem ArgumentMode.cut_nil (mode : ArgumentMode) : mode.cut [] = [] := by
  cases mode <;> simp [cut, Lexicon.scan]

theorem ArgumentMode.cut_command_of_not_isBlank {c : Char} {rest : List Char}
    (hc : ¬ isBlank c) (hfeed : '\n' ∉ c :: rest) :
    command.cut (c :: rest) = Piece.trim ⟨.argument .command, c :: rest⟩ := by
  rw [List.mem_cons, not_or] at hfeed
  have hword : isWordChar c := by simp [isWordChar, hc, Ne.symm hfeed.1]
  have hnil : command.cut [] = [] := cut_nil command
  simp only [cut] at hnil ⊢
  rw [Lexicon.scan_cons, commandLexicon_next_command c rest hword, takeWhile_ne_feed hfeed.2,
    dropWhile_ne_feed hfeed.2, List.flatMap_cons, hnil, List.append_nil]
  rfl

theorem eq_nil_of_cut_command {arguments text : List Char} {earlier later : List Piece}
    (hfeed : '\n' ∉ arguments) (hmark : text.head? = some '#')
    (h : ArgumentMode.command.cut arguments =
      earlier ++ ⟨.argument .command, text⟩ :: later) : later = [] := by
  have hbehind : ∀ (tail : List Char) (inner : List Piece), '\n' ∉ tail →
      (∀ c ∈ tail.head?, ¬ isBlank c) →
      ArgumentMode.command.cut tail = inner ++ ⟨.argument .command, text⟩ :: later →
      later = [] := by
    intro tail inner hnofeed hhead hcut
    cases tail with
    | nil => simp [ArgumentMode.cut_nil] at hcut
    | cons c rest =>
        rw [ArgumentMode.cut_command_of_not_isBlank (hhead c rfl) hnofeed] at hcut
        by_cases hc : c = '#'
        · rw [Piece.trim_of_mark (by simp [hc])] at hcut
          cases inner <;> simp_all
        · -- Another command keeps its first character, and only whitespace follows it.
          rw [Piece.trim_of_value (by simp [TokenKind.isLayout]) (by simpa using hc)] at hcut
          have hfirst : (trimRight (c :: rest)).head? = some c :=
            head?_trimRight rfl (hhead c rfl)
          cases inner with
          | nil =>
              simp only [List.nil_append, List.cons.injEq, Piece.mk.injEq, true_and] at hcut
              rw [hcut.1, hmark, Option.some.injEq] at hfirst
              exact absurd hfirst.symm hc
          | cons first inner =>
              rw [List.cons_append, List.cons.injEq] at hcut
              have hmem : ⟨.argument .command, text⟩ ∈
                  Piece.ofText .whitespace (trailingBlanks (c :: rest)) := by simp [hcut.2]
              simpa using Piece.kind_of_mem_ofText hmem
  cases arguments with
  | nil => simp [ArgumentMode.cut_nil] at h
  | cons b rest =>
      by_cases hb : isBlank b
      · rw [ArgumentMode.cut_of_isBlank _ hb, ← List.singleton_append] at h
        obtain ⟨inner, -, hinner⟩ := exists_append_of_append_eq h (by simp)
        refine hbehind _ inner ?_ (not_isBlank_head?_dropWhile rest) hinner
        intro hmem
        exact hfeed (List.mem_cons_of_mem _ ((List.dropWhile_suffix isBlank).mem hmem))
      · exact hbehind _ earlier hfeed (by simpa using hb) h

theorem Instruction.mode_of_command (instruction : Instruction)
    (h : .argument .command ∈ instruction.mode.kinds) : instruction.mode = .command := by
  revert h
  cases instruction <;> decide

theorem isSuffix_content_of_command {content text : List Char} {earlier later : List Piece}
    (hfeed : '\n' ∉ content) (hmark : text.head? = some '#')
    (h : contentPieces content = earlier ++ ⟨.argument .command, text⟩ :: later) :
    text <:+ content := by
  obtain ⟨instruction, front, arguments, inner, hcontent, hboundary, hcut, -⟩ :=
    exists_cut_of_contentPieces h rfl
  have hnofeed : '\n' ∉ arguments := by
    intro hmem
    exact hfeed (hcontent ▸ List.mem_append_right _ hmem)
  have hmode : .argument .command ∈ instruction.mode.kinds :=
    ArgumentMode.mem_kinds_of_mem_cut hboundary hnofeed
      (hcut ▸ List.mem_append_right _ List.mem_cons_self) rfl
  rw [instruction.mode_of_command hmode] at hcut
  obtain rfl := eq_nil_of_cut_command hnofeed hmark hcut
  have hparts := content_of_contentPieces h
  rw [List.flatMap_nil, List.append_nil] at hparts
  exact ⟨_, hparts.symm⟩

/-! ### Tokens -/

/-- Keywords and values start with no blank, and they end with no blank unless they are a command
that starts with a comment mark on a line with blanks at its end. Blanks behind them are whitespace
of their own. -/
theorem tokenize_trims_values_iff (source : String) {earlier later : List Token} {token : Token}
    (h : tokenize source = earlier ++ token :: later) (hlayout : ¬ token.kind.isLayout)
    (hcomment : ¬ token.kind.isComment) (hunknown : token.kind ≠ .unknown) :
    (∀ c ∈ token.text.toList.head?, ¬ isBlank c) ∧
    (∃ line, LineAt source.toList token.row line ∧
      ((∀ c ∈ token.text.toList.getLast?, ¬ isBlank c) ↔
        ¬ (token.kind = .argument .command ∧ token.text.toList.head? = some '#' ∧
          ∃ b ∈ line.content.getLast?, isBlank b))) ∧
    ∀ next ∈ later.head?, (∃ b ∈ next.text.toList.head?, isBlank b) →
      next.kind = .whitespace ∧ ∀ c ∈ next.text.toList, isBlank c := by
  have hmem : token ∈ tokenize source := by simp [h]
  have hshaped := shaped_of_mem_tokenize hmem
  obtain ⟨-, line, hline, hplace⟩ := exists_contentPieces_of_mem_tokenize hmem
  have hlast : token.kind = .argument .command → token.text.toList.head? = some '#' →
      line.content.getLast? = token.text.toList.getLast? := by
    intro hkind hmark
    rcases hplace with hnewline | ⟨front, behind, hpieces, -⟩
    · simp [hkind] at hnewline
    · rw [hkind] at hpieces
      obtain ⟨front, hcontent⟩ :=
        isSuffix_content_of_command hline.wellFormed.not_mem hmark hpieces
      rw [← hcontent, List.getLast?_append_of_ne_nil _ (text_ne_nil_of_mem_tokenize hmem)]
  have hends : token.kind = .argument .command ∧ token.text.toList.head? = some '#' ∨
      Trimmed token.text.toList := by
    obtain ⟨kind, number, column, text⟩ := token
    simp only [Token.piece] at hshaped ⊢
    cases hshaped with
    | whitespace => simp [TokenKind.isLayout] at hlayout
    | newline => simp [TokenKind.isLayout] at hlayout
    | unknown => exact absurd rfl hunknown
    | comment => simp [TokenKind.isComment] at hcomment
    | instruction htrimmed => exact .inr htrimmed
    | argument htrimmed => exact .inr htrimmed
    | command hmark => exact .inl ⟨rfl, hmark⟩
  refine ⟨?_, ⟨line, hline, ?_, ?_⟩, ?_⟩
  · rcases hends with ⟨-, hmark⟩ | htrimmed
    · simp [hmark, isBlank]
    · exact htrimmed.head
  · rintro hunblanked ⟨hkind, hmark, b, hb, hblank⟩
    rw [hlast hkind hmark] at hb
    exact hunblanked b hb hblank
  · intro hno
    rcases hends with ⟨hkind, hmark⟩ | htrimmed
    · rw [← hlast hkind hmark]
      exact fun c hc hblank => hno ⟨hkind, hmark, c, hc, hblank⟩
    · exact htrimmed.last
  · rintro next hnext ⟨b, hhead, hb⟩
    have hnextMem : next ∈ tokenize source := by
      rw [h]
      simp [List.mem_of_mem_head? hnext]
    exact (shaped_of_mem_tokenize hnextMem).whitespace_of_isBlank hhead hb

/-- A comment mark inside a command does not keep the blanks at its end. -/
theorem tokenize_trims_command_with_mark :
    tokenize "RUN a #x \t" =
      [⟨.instruction .run, 1, 0, "RUN"⟩, ⟨.whitespace, 1, 3, " "⟩] ++
        ⟨.argument .command, 1, 4, "a #x"⟩ :: [⟨.whitespace, 1, 8, " \t"⟩] ∧
    ∀ c ∈ "a #x".toList.getLast?, ¬ isBlank c := by
  have htokens : tokenize "RUN a #x \t" =
      [⟨.instruction .run, 1, 0, "RUN"⟩, ⟨.whitespace, 1, 3, " "⟩] ++
        ⟨.argument .command, 1, 4, "a #x"⟩ :: [⟨.whitespace, 1, 8, " \t"⟩] := by decide +kernel
  obtain ⟨-, ⟨line, -, hlast⟩, -⟩ :=
    tokenize_trims_values_iff _ htokens (by decide) (by decide) (by decide)
  refine ⟨htokens, hlast.mpr ?_⟩
  rintro ⟨-, hmark, -⟩
  exact absurd hmark (by decide)

/-- A command that starts with a comment mark keeps the blank at its end. -/
theorem tokenize_keeps_blank_of_marked_command :
    tokenize "RUN #x " =
      [⟨.instruction .run, 1, 0, "RUN"⟩, ⟨.whitespace, 1, 3, " "⟩,
        ⟨.argument .command, 1, 4, "#x "⟩] ∧
    (TokenKind.argument .command).isLayout = false ∧
    (TokenKind.argument .command).isComment = false ∧
    ∃ c ∈ "#x ".toList.getLast?, isBlank c := by
  exact ⟨by decide +kernel, rfl, rfl, ' ', rfl, rfl⟩

end Layerfile
