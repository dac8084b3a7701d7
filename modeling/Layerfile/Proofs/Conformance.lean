import Layerfile.Proofs.Grammar
import Layerfile.Proofs.Pieces
import Layerfile.Proofs.Statements
import Layerfile.Proofs.Stretch

/-! Every line of a source conforms to the grammar. Arguments are read lexeme by lexeme, so the
lemmas below say what the kinds of a text are in both states of a reader: at a word boundary, and
behind blanks. -/

namespace Layerfile

open Text Grammar

/-! ### Lexemes behind blanks -/

namespace Lexicon

variable {κ : Type} {lexicon : Lexicon κ} {blank comment : κ} {kindOf : κ → TokenKind}

def kinds (lexicon : Lexicon κ) (kindOf : κ → TokenKind) (text : List Char) : List TokenKind :=
  (lexicon.scan text).map fun lexeme => (lexeme.toPiece kindOf).kind

theorem kinds_of_next {c : Char} {rest tail text : List Char} {kind : κ}
    (h : lexicon.next c rest = (⟨some kind, text⟩, tail)) :
    lexicon.kinds kindOf (c :: rest) = kindOf kind :: lexicon.kinds kindOf tail := by
  simp [kinds, scan_cons, h, Lexeme.toPiece]

@[simp] theorem kinds_nil : lexicon.kinds kindOf [] = [] := by
  simp [kinds, scan]

theorem ReadsLayout.kinds_mark (hreads : lexicon.ReadsLayout blank comment) {rest : List Char}
    (hfeed : '\n' ∉ rest) : lexicon.kinds kindOf ('#' :: rest) = [kindOf comment] := by
  rw [kinds_of_next (hreads.next_mark rest), dropWhile_ne_feed hfeed, kinds_nil]

theorem ReadsLayout.kinds_of_closesArguments (hreads : lexicon.ReadsLayout blank comment)
    {commentKind : CommentKind} (hblank : kindOf blank = .whitespace)
    (hcomment : kindOf comment = .comment commentKind) {text : List Char}
    (hcloses : ClosesArguments text) (hfeed : '\n' ∉ text) :
    lexicon.kinds kindOf text ∈ (close commentKind).matches' := by
  obtain ⟨blanks, mark, rfl, hblanks, hmark⟩ := hcloses
  rw [mem_close]
  cases blanks with
  | nil =>
      have hnil : mark = [] := by simpa using hmark
      simp [hnil]
  | cons c blanks =>
      rw [List.forall_mem_cons] at hblanks
      rw [List.cons_append, kinds_of_next (hreads.next_blank c _ hblanks.1), hblank,
        List.dropWhile_append_of_pos hblanks.2]
      rcases hmark with rfl | ⟨-, text, rfl⟩
      · simp
      · have hfeed : '\n' ∉ text := by
          intro hmem
          exact hfeed (by simp [hmem])
        rw [List.dropWhile_cons_of_neg (by decide), hreads.kinds_mark hfeed, hcomment]
        simp

theorem not_mem_next {c : Char} {rest : List Char} (hfeed : '\n' ∉ c :: rest) :
    '\n' ∉ (lexicon.next c rest).2 := by
  intro hmem
  apply hfeed
  rw [← lexicon.next_text_append c rest]
  exact List.mem_append_right _ hmem

/-- Items with blanks in front of each. An item is followed by a word boundary, or it is the start
of what the grammar admits as the end of the arguments. -/
theorem ReadsLayout.kinds_mem_items (hreads : lexicon.ReadsLayout blank comment)
    {commentKind : CommentKind} {item last : RegularExpression TokenKind}
    (hblank : kindOf blank = .whitespace) (hcomment : kindOf comment = .comment commentKind)
    (hlast : ∀ word ∈ (close commentKind).matches', word ∈ last.matches')
    (hitem : ∀ c rest, opensWord c → '\n' ∉ rest → ∃ kind text tail,
      lexicon.next c rest = (⟨some kind, text⟩, tail) ∧
        ([kindOf kind] ∈ item.matches' ∧ atWordBoundary tail ∨
          .whitespace :: kindOf kind :: lexicon.kinds kindOf tail ∈ last.matches'))
    (text : List Char) (hfeed : '\n' ∉ text) :
    (atWordBoundary text → lexicon.kinds kindOf text ∈ (items item last).matches') ∧
    ((∀ c ∈ text.head?, ¬ isBlank c) →
      .whitespace :: lexicon.kinds kindOf text ∈ (items item last).matches') := by
  have hcloses : ∀ word ∈ (close commentKind).matches', word ∈ (items item last).matches' :=
    fun word hword => mem_items_of_last (hlast word hword)
  induction text using scan.induct lexicon with
  | case1 =>
      simp only [kinds_nil]
      exact ⟨fun _ => hcloses _ (mem_close.mpr (by simp)),
        fun _ => hcloses _ (mem_close.mpr (by simp))⟩
  | case2 c rest ih =>
      have htail := ih (not_mem_next hfeed)
      rw [List.mem_cons, not_or] at hfeed
      rcases isBlank_or_mark_or_opensWord (Ne.symm hfeed.1) with hc | rfl | hc
      · constructor
        · intro _
          have hnext := hreads.next_blank c rest hc
          rw [hnext] at htail
          rw [kinds_of_next hnext, hblank]
          exact htail.2 (not_isBlank_head?_dropWhile rest)
        · intro hhead
          exact absurd hc (hhead c rfl)
      · constructor
        · intro hboundary
          simp [isBlank] at hboundary
        · intro _
          rw [hreads.kinds_mark hfeed.2, hcomment]
          exact hcloses _ (mem_close.mpr (by simp))
      · constructor
        · intro hboundary
          exact absurd hboundary (not_isBlank_of_opensWord hc)
        · intro _
          obtain ⟨kind, text, tail, hnext, hkind⟩ := hitem c rest hc hfeed.2
          rw [hnext] at htail
          rw [kinds_of_next hnext]
          rcases hkind with ⟨hkind, hboundary⟩ | hend
          · exact cons_mem_items hkind (htail.1 hboundary)
          · exact mem_items_of_last hend

theorem Reads.kinds_mem_items (hreads : lexicon.Reads blank comment isWordChar)
    {commentKind : CommentKind} {item : RegularExpression TokenKind}
    (hblank : kindOf blank = .whitespace) (hcomment : kindOf comment = .comment commentKind)
    (hitem : ∀ kind, kind ≠ blank → kind ≠ comment → [kindOf kind] ∈ item.matches')
    {text : List Char} (hboundary : atWordBoundary text) (hfeed : '\n' ∉ text) :
    lexicon.kinds kindOf text ∈ (items item (close commentKind)).matches' := by
  refine (hreads.toReadsLayout.kinds_mem_items hblank hcomment (fun _ h => h) ?_ text hfeed).1
    hboundary
  intro c rest hc hfeed
  obtain ⟨kind, hkind, hkind', hnext⟩ := hreads.next_item c rest hc
  exact ⟨kind, _, _, hnext, .inl ⟨hitem kind hkind hkind',
    atWordBoundary_dropWhile_isWordChar hfeed⟩⟩

end Lexicon

/-! ### The arguments of every mode -/

theorem kinds_cut_words (value : ArgumentKind) (comment : CommentKind) {text : List Char}
    (hboundary : atWordBoundary text) (hfeed : '\n' ∉ text) :
    ((ArgumentMode.words value comment).cut text).map Piece.kind ∈
      (ArgumentMode.words value comment).grammar.matches' := by
  rw [ArgumentMode.cut_words value comment hfeed, List.map_map]
  apply wordLexicon_reads.kinds_mem_items rfl rfl _ hboundary hfeed
  intro kind hblank hcomment
  cases kind with
  | blank => exact absurd rfl hblank
  | comment => exact absurd rfl hcomment
  | word => exact mem_char.mpr rfl

theorem kinds_cut_conditions {text : List Char} (hboundary : atWordBoundary text)
    (hfeed : '\n' ∉ text) :
    (ArgumentMode.conditions.cut text).map Piece.kind ∈
      ArgumentMode.conditions.grammar.matches' := by
  rw [ArgumentMode.cut_conditions hfeed, List.map_map]
  apply conditionLexicon_reads.kinds_mem_items rfl rfl _ hboundary hfeed
  intro kind hblank hcomment
  cases kind with
  | blank => exact absurd rfl hblank
  | comment => exact absurd rfl hcomment
  | conjunction => exact .inl (.inl rfl)
  | condition => exact .inl (.inr rfl)
  | word => exact .inr rfl

theorem kinds_cut_env {text : List Char} (hboundary : atWordBoundary text) (hfeed : '\n' ∉ text) :
    (ArgumentMode.env.cut text).map Piece.kind ∈ ArgumentMode.env.grammar.matches' := by
  have hkinds : (ArgumentMode.env.cut text).map Piece.kind =
      envLexicon.kinds EnvLexeme.tokenKind text := List.map_map
  rw [hkinds]
  refine (envLexicon_readsLayout.kinds_mem_items rfl rfl ?_ ?_ text hfeed).1 hboundary
  · intro word hword
    exact mem_mul.mpr ⟨[], mem_add.mpr (.inl rfl), word, hword, rfl⟩
  · intro c rest hc hfeed
    obtain ⟨kind, hblank, hcomment, hword⟩ := envLexicon_reads.next_item c rest hc
    have hend := atWordBoundary_dropWhile_isWordChar hfeed
    refine ⟨kind, _, _, Lexicon.next_of_unstretched hword, ?_⟩
    cases kind with
    | blank => exact absurd rfl hblank
    | comment => exact absurd rfl hcomment
    | assignment => exact .inl ⟨mem_char.mpr rfl, atWordBoundary_drop_quotedStretch _ hend⟩
    | bare =>
        -- A bare key takes every later word, so the arguments end behind it.
        right
        have hcloses := closesArguments_drop_spacedStretch hend
        have hnofeed : '\n' ∉
            (rest.dropWhile isWordChar).drop (spacedStretch (rest.dropWhile isWordChar)) := by
          intro hmem
          exact hfeed ((List.dropWhile_suffix _).mem (List.mem_of_mem_drop hmem))
        have hspaced : [.whitespace, .argument .spacedAssignment] ∈
            (1 + blank * .char (.argument .spacedAssignment)).matches' :=
          mem_add.mpr (.inr (mem_mul.mpr ⟨_, mem_char.mpr rfl, _, mem_char.mpr rfl, rfl⟩))
        exact mem_mul.mpr ⟨_, hspaced, _,
          envLexicon_readsLayout.kinds_of_closesArguments rfl rfl hcloses hnofeed, rfl⟩

/-! ### Free text and commands -/

namespace Lexicon

variable {κ : Type} {lexicon : Lexicon κ} {kindOf : κ → TokenKind}

/-- The token kinds of the lexemes of a text when trailing blanks are cut off. -/
def trimmedKinds (lexicon : Lexicon κ) (kindOf : κ → TokenKind) (text : List Char) :
    List TokenKind :=
  ((lexicon.scan text).flatMap fun lexeme => (lexeme.toPiece kindOf).trim).map Piece.kind

@[simp] theorem trimmedKinds_nil : lexicon.trimmedKinds kindOf [] = [] := by
  simp [trimmedKinds, scan]

theorem trimmedKinds_of_next {c : Char} {rest text tail : List Char} {kind : κ}
    (h : lexicon.next c rest = (⟨some kind, text⟩, tail)) :
    lexicon.trimmedKinds kindOf (c :: rest) =
      (Piece.trim ⟨kindOf kind, text⟩).map Piece.kind ++ lexicon.trimmedKinds kindOf tail := by
  rw [trimmedKinds, scan_cons, List.flatMap_cons, List.map_append, h]
  rfl

/-- Arguments are empty, or they start with blanks and go on with something else. -/
theorem trimmedKinds_of_atWordBoundary (kindOf : κ → TokenKind) {blank : κ}
    (hnext : ∀ c rest, isBlank c → lexicon.next c rest =
      (⟨some blank, c :: rest.takeWhile isBlank⟩, rest.dropWhile isBlank))
    (hblank : kindOf blank = .whitespace) {text : List Char} (hboundary : atWordBoundary text)
    (hfeed : '\n' ∉ text) :
    lexicon.trimmedKinds kindOf text = [] ∨ lexicon.trimmedKinds kindOf text = [.whitespace] ∨
      ∃ c rest, ¬ isBlank c ∧ '\n' ∉ c :: rest ∧
        lexicon.trimmedKinds kindOf text =
          .whitespace :: lexicon.trimmedKinds kindOf (c :: rest) := by
  cases text with
  | nil => exact .inl trimmedKinds_nil
  | cons c rest =>
      right
      have hlayout : (Piece.mk (kindOf blank) (c :: rest.takeWhile isBlank)).kind.isLayout := by
        simp [hblank, TokenKind.isLayout]
      rw [trimmedKinds_of_next (hnext c rest hboundary), Piece.trim_of_isLayout hlayout,
        List.map_singleton, List.singleton_append, hblank]
      have hhead := not_isBlank_head?_dropWhile rest
      have hsuffix : rest.dropWhile isBlank <:+ c :: rest :=
        (List.dropWhile_suffix isBlank).trans (List.suffix_cons c rest)
      cases htail : rest.dropWhile isBlank with
      | nil => exact .inl (by rw [trimmedKinds_nil])
      | cons d later =>
          rw [htail] at hhead hsuffix
          exact .inr ⟨d, later, hhead d rfl, fun hmem => hfeed (hsuffix.mem hmem), rfl⟩

end Lexicon

section

variable (value : ArgumentKind) (comment : CommentKind)

theorem kinds_of_mark_in_line {text : List Char} (hfeed : '\n' ∉ text) :
    textLexicon.trimmedKinds (TextLexeme.tokenKind value comment) ('#' :: text) =
      [.comment comment] := by
  rw [Lexicon.trimmedKinds_of_next (textLexicon_reads.next_mark text), Piece.trim_of_mark rfl,
    dropWhile_ne_feed hfeed, Lexicon.trimmedKinds_nil]
  rfl

/-- Free text runs up to the end of the line or up to a comment. -/
theorem kinds_behind_text_in_line {rest : List Char} (hfeed : '\n' ∉ rest) :
    textLexicon.trimmedKinds (TextLexeme.tokenKind value comment)
        (rest.dropWhile fun c => c != '\n' && c != '#') = [] ∨
      textLexicon.trimmedKinds (TextLexeme.tokenKind value comment)
        (rest.dropWhile fun c => c != '\n' && c != '#') = [.comment comment] := by
  have hsuffix := List.dropWhile_suffix (fun c => c != '\n' && c != '#') (l := rest)
  have hhead := List.head?_dropWhile_not (fun c => c != '\n' && c != '#') rest
  cases hrest : rest.dropWhile fun c => c != '\n' && c != '#' with
  | nil => exact .inl Lexicon.trimmedKinds_nil
  | cons d later =>
      rw [hrest] at hsuffix hhead
      have hnofeed : '\n' ∉ d :: later := fun hmem => hfeed (hsuffix.mem hmem)
      rw [List.mem_cons, not_or] at hnofeed
      obtain rfl : d = '#' := by simpa [Ne.symm hnofeed.1] using hhead
      exact .inr (kinds_of_mark_in_line value comment hnofeed.2)

/-- Free text gives a value, and whitespace if blanks were cut off its end. A comment can follow
without blanks. -/
theorem kinds_of_text_in_line {c : Char} {rest : List Char} (hc : opensWord c)
    (hfeed : '\n' ∉ rest) :
    ∃ blanks comments,
      textLexicon.trimmedKinds (TextLexeme.tokenKind value comment) (c :: rest) =
        .argument value :: (blanks ++ comments) ∧
      (blanks = [] ∨ blanks = [.whitespace]) ∧
      (comments = [] ∨ comments = [.comment comment]) := by
  obtain ⟨kind, hblank, hcomment, hnext⟩ := textLexicon_reads.next_item c rest hc
  obtain rfl : kind = .text := by
    cases kind with
    | blank => exact absurd rfl hblank
    | comment => exact absurd rfl hcomment
    | text => rfl
  have hcomments := kinds_behind_text_in_line value comment hfeed
  rw [Lexicon.trimmedKinds_of_next hnext]
  rcases Piece.map_kind_trim
    ⟨TextLexeme.text.tokenKind value comment, c :: rest.takeWhile fun c => c != '\n' && c != '#'⟩
    with htrim | htrim
  · rw [htrim]
    exact ⟨[], _, rfl, .inl rfl, hcomments⟩
  · rw [htrim]
    exact ⟨[.whitespace], _, rfl, .inr rfl, hcomments⟩

theorem kinds_cut_line {text : List Char} (hboundary : atWordBoundary text)
    (hfeed : '\n' ∉ text) :
    ((ArgumentMode.line value comment).cut text).map Piece.kind ∈
      (ArgumentMode.line value comment).grammar.matches' := by
  change textLexicon.trimmedKinds (TextLexeme.tokenKind value comment) text ∈ _
  rw [ArgumentMode.grammar, mem_add, mem_close]
  rcases Lexicon.trimmedKinds_of_atWordBoundary (TextLexeme.tokenKind value comment)
    textLexicon_reads.next_blank rfl hboundary hfeed with
    hkinds | hkinds | ⟨c, rest, hc, hnofeed, hkinds⟩
  · exact .inl (.inl hkinds)
  · exact .inl (.inr (.inl hkinds))
  · rw [hkinds]
    rw [List.mem_cons, not_or] at hnofeed
    rcases isBlank_or_mark_or_opensWord (Ne.symm hnofeed.1) with hblank | rfl | hopens
    · exact absurd hblank hc
    · rw [kinds_of_mark_in_line value comment hnofeed.2]
      exact .inl (.inr (.inr rfl))
    · obtain ⟨blanks, comments, htext, hblanks, hcomments⟩ :=
        kinds_of_text_in_line value comment hopens hnofeed.2
      rw [htext]
      have hvalue : [.whitespace, .argument value] ∈ (blank * .char (.argument value)).matches' :=
        mem_mul.mpr ⟨_, mem_char.mpr rfl, _, mem_char.mpr rfl, rfl⟩
      have htrimmed : [.whitespace, .argument value] ++ blanks ∈
          (blank * .char (.argument value) * (1 + blank)).matches' :=
        mem_mul.mpr ⟨_, hvalue, blanks, mem_add.mpr hblanks, rfl⟩
      exact .inr (mem_mul.mpr ⟨_, htrimmed, comments, mem_add.mpr hcomments, rfl⟩)

end

/-- A command is the last thing on its line, so only its own trailing blanks follow it. -/
theorem kinds_cut_command {text : List Char} (hboundary : atWordBoundary text)
    (hfeed : '\n' ∉ text) :
    (ArgumentMode.command.cut text).map Piece.kind ∈ ArgumentMode.command.grammar.matches' := by
  change commandLexicon.trimmedKinds CommandLexeme.tokenKind text ∈ _
  rw [ArgumentMode.grammar, mem_add, mem_add]
  rcases Lexicon.trimmedKinds_of_atWordBoundary CommandLexeme.tokenKind
    commandLexicon_next_blank rfl hboundary hfeed with
    hkinds | hkinds | ⟨c, rest, hc, hnofeed, hkinds⟩
  · exact .inl (.inl hkinds)
  · exact .inl (.inr hkinds)
  · rw [List.mem_cons, not_or] at hnofeed
    have hword : isWordChar c := by
      simp [isWordChar, hc, Ne.symm hnofeed.1]
    rw [hkinds, Lexicon.trimmedKinds_of_next (commandLexicon_next_command c rest hword),
      dropWhile_ne_feed hnofeed.2, Lexicon.trimmedKinds_nil, List.append_nil]
    have hcommand : [.whitespace, .argument .command] ∈
        (blank * .char (.argument .command)).matches' :=
      mem_mul.mpr ⟨_, mem_char.mpr rfl, _, mem_char.mpr rfl, rfl⟩
    rcases Piece.map_kind_trim
      ⟨CommandLexeme.command.tokenKind, c :: rest.takeWhile (· != '\n')⟩ with htrim | htrim
    · rw [htrim]
      exact .inr (mem_mul.mpr ⟨_, hcommand, [], mem_add.mpr (.inl rfl), rfl⟩)
    · rw [htrim]
      exact .inr (mem_mul.mpr ⟨_, hcommand, [.whitespace], mem_add.mpr (.inr rfl), rfl⟩)

theorem ArgumentMode.kinds_cut (mode : ArgumentMode) {text : List Char}
    (hboundary : atWordBoundary text) (hfeed : '\n' ∉ text) :
    (mode.cut text).map Piece.kind ∈ mode.grammar.matches' := by
  cases mode with
  | words value comment => exact kinds_cut_words value comment hboundary hfeed
  | line value comment => exact kinds_cut_line value comment hboundary hfeed
  | command => exact kinds_cut_command hboundary hfeed
  | env => exact kinds_cut_env hboundary hfeed
  | conditions => exact kinds_cut_conditions hboundary hfeed

/-! ### Lines -/

theorem Piece.map_kind_ofText (kind : TokenKind) (text : List Char) :
    (Piece.ofText kind text).map Piece.kind = [] ∨
      (Piece.ofText kind text).map Piece.kind = [kind] := by
  unfold Piece.ofText
  split
  · exact .inl rfl
  · exact .inr rfl

theorem kinds_contentPieces {content : List Char} (hfeed : '\n' ∉ content) :
    (contentPieces content).map Piece.kind ∈ lineGrammar.matches' := by
  rw [contentPieces, List.map_append, mem_lineGrammar]
  refine ⟨_, _, rfl, Piece.map_kind_ofText _ _, ?_⟩
  have hnofeed : '\n' ∉ content.dropWhile isBlank :=
    fun hmem => hfeed ((List.dropWhile_suffix isBlank).mem hmem)
  rcases statement_cases (content.dropWhile isBlank) with
    ⟨-, hnil⟩ | hcomment | hunknown |
    ⟨instruction, keyword, arguments, htext, hboundary, hstatement⟩
  · exact .inl (by rw [hnil]; rfl)
  · exact .inr (.inl (by rw [hcomment]; rfl))
  · exact .inr (.inr (.inl (by rw [hunknown]; rfl)))
  · have harguments : '\n' ∉ arguments := by
      intro hmem
      apply hnofeed
      rw [htext]
      exact List.mem_append_right _ hmem
    refine .inr (.inr (.inr ⟨instruction, (instruction.mode.cut arguments).map Piece.kind, ?_,
      instruction.mode.kinds_cut hboundary harguments⟩))
    rw [hstatement]
    rfl

theorem map_kind_place (number column : Nat) (pieces : List Piece) :
    (Piece.place number column pieces).map Token.kind = pieces.map Piece.kind := by
  induction pieces generalizing column with
  | nil => rfl
  | cons piece pieces ih => simp [Piece.place, ih]

theorem line_of_mem_place {number column : Nat} {pieces : List Piece} {token : Token}
    (h : token ∈ Piece.place number column pieces) : token.line = number := by
  obtain ⟨_, _, _, _, rfl⟩ := exists_piece_of_mem_place h
  rfl

theorem le_line_of_mem_placeLines {number : Nat} {lines : List Line} {token : Token}
    (h : token ∈ placeLines number lines) : number ≤ token.line := by
  obtain ⟨index, _, _, hline, _⟩ := exists_line_of_mem_placeLines h
  omega

theorem filter_line_placeLines (number index : Nat) (lines : List Line) :
    (placeLines number lines).filter (fun token => token.line = number + index) =
      (lines[index]?.map fun line => Piece.place (number + index) 0 line.pieces).getD [] := by
  induction lines generalizing number index with
  | nil => rfl
  | cons line later ih =>
      rw [placeLines, List.filter_append]
      cases index with
      | zero =>
          have hown : (Piece.place number 0 line.pieces).filter
              (fun token => token.line = number + 0) = Piece.place number 0 line.pieces := by
            rw [List.filter_eq_self]
            intro token htoken
            simpa using line_of_mem_place htoken
          have hlater : (placeLines (number + 1) later).filter
              (fun token => token.line = number + 0) = [] := by
            rw [List.filter_eq_nil_iff]
            intro token htoken
            have hle := le_line_of_mem_placeLines htoken
            simp only [decide_eq_true_eq]
            omega
          rw [hown, hlater, List.append_nil]
          rfl
      | succ index =>
          have hown : (Piece.place number 0 line.pieces).filter
              (fun token => token.line = number + (index + 1)) = [] := by
            rw [List.filter_eq_nil_iff]
            intro token htoken
            have hline := line_of_mem_place htoken
            simp only [decide_eq_true_eq]
            omega
          have hnumber : number + (index + 1) = number + 1 + index := by omega
          rw [hown, List.nil_append, hnumber, ih, List.getElem?_cons_succ]

theorem kinds_pieces {line : Line} (hfeed : '\n' ∉ line.content) :
    ∃ kinds ending, line.pieces.map Piece.kind = kinds ++ ending ∧
      (ending = [] ∨ ending = [.newline]) ∧ kinds ∈ lineGrammar.matches' :=
  ⟨_, _, List.map_append, Piece.map_kind_ofText _ _, kinds_contentPieces hfeed⟩

/-- No two pieces of a line are unknown text side by side, so there is nothing to join. -/
theorem isChain_pieces {source : List Char} {line : Line} (h : line ∈ lines source) :
    line.pieces.IsChain fun first second => first.kind.Apart second.kind := by
  obtain ⟨kinds, ending, hkinds, hending, hgrammar⟩ :=
    kinds_pieces (not_mem_content_of_mem_lines h)
  rw [← List.isChain_map, hkinds, List.isChain_append]
  refine ⟨isChain_of_lineGrammar hgrammar, ?_, ?_⟩
  · rcases hending with rfl | rfl <;> simp
  · rcases hending with rfl | rfl <;> simp [TokenKind.Apart]

theorem kinds_of_line (source : String) (number : Nat) :
    ∃ kinds ending,
      ((tokenize source).filter fun token => token.line = number).map Token.kind =
        kinds ++ ending ∧
      (ending = [] ∨ ending = [.newline]) ∧ kinds ∈ lineGrammar.matches' := by
  have hempty : [] ∈ lineGrammar.matches' := mem_lineGrammar.mpr ⟨[], [], by simp⟩
  cases number with
  | zero =>
      have hnone : (tokenize source).filter (fun token => token.line = 0) = [] := by
        rw [List.filter_eq_nil_iff]
        intro token htoken
        have hle := le_line_of_mem_placeLines htoken
        simp only [decide_eq_true_eq]
        omega
      rw [hnone]
      exact ⟨[], [], rfl, .inl rfl, hempty⟩
  | succ index =>
      rw [Nat.add_comm, tokenize, filter_line_placeLines]
      cases hline : (lines source.toList)[index]? with
      | none => exact ⟨[], [], rfl, .inl rfl, hempty⟩
      | some line =>
          rw [Option.map_some, Option.getD_some, map_kind_place]
          exact kinds_pieces (not_mem_content_of_mem_lines (List.mem_of_getElem? hline))

/-- The kinds of a line conform to the grammar, up to a line ending. So there is at most one
keyword, its arguments are of its own mode, and a spaced assignment ends those of an environment
line. -/
theorem tokenize_conforms_to_grammar (source : String) (number : Nat) :
    ∃ kinds ending,
      ((tokenize source).filter fun token => token.line = number).map Token.kind =
        kinds ++ ending ∧
      (ending = [] ∨ ending = [.newline]) ∧
      kinds ∈ lineGrammar.matches' ∧
      kinds.countP TokenKind.isInstruction ≤ 1 ∧
      (∀ instruction, .instruction instruction ∈ kinds → ∀ kind ∈ kinds,
        kind = .whitespace ∨ kind = .instruction instruction ∨ kind ∈ instruction.mode.kinds) ∧
      ((∀ instruction, .instruction instruction ∉ kinds) → ∀ kind ∈ kinds,
        kind = .whitespace ∨ kind = .comment .line ∨ kind = .unknown) ∧
      (∀ before after, kinds = before ++ .argument .spacedAssignment :: after →
        .instruction .env ∈ before ∧ .argument .spacedAssignment ∉ before ∧
          ∀ kind ∈ after, kind = .whitespace ∨ kind = .comment .env) := by
  obtain ⟨kinds, ending, hkinds, hending, hgrammar⟩ := kinds_of_line source number
  exact ⟨kinds, ending, hkinds, hending, hgrammar, countP_isInstruction_of_lineGrammar hgrammar,
    fun _ => kind_of_lineGrammar_with_instruction hgrammar,
    kind_of_lineGrammar_without_instruction hgrammar,
    fun _ _ => spacedAssignment_of_lineGrammar hgrammar⟩

/-- A quoted value takes the blank inside it, and the bare key behind it the words up to the
comment. -/
example :
    ((tokenize "RUN x\n ENV A=\"b c\" d=1 KEY v=2  w #z\n").filter fun token =>
      token.line = 2).map Token.kind =
        [.whitespace, .instruction .env, .whitespace, .argument .assignment, .whitespace,
          .argument .assignment, .whitespace, .argument .spacedAssignment, .whitespace,
          .comment .env, .newline] := by
  decide +kernel

end Layerfile
