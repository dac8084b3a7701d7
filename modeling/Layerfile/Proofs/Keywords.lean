import Layerfile.Proofs.Conformance
import Layerfile.Proofs.Phrases

/-! Which instruction a line is read as: the one whose phrase opens the text behind the indentation.
A text that no instruction opens is a comment or unknown. -/

namespace Layerfile

open Text

/-- What the text of a line behind its indentation is read as. -/
inductive ReadsStatement (text : List Char) : List Piece → Prop
  | nil (htext : text = []) : ReadsStatement text []
  | comment (hmark : text.head? = some '#') : ReadsStatement text [⟨.comment .line, text⟩]
  | instruction {instruction : Instruction} {keyword arguments : List Char}
      (hopens : instruction.Opens text keyword arguments) :
      ReadsStatement text
        (⟨.instruction instruction, keyword⟩ :: instruction.mode.cut arguments)
  | unknown (htext : text ≠ []) (hmark : text.head? ≠ some '#')
      (hnone : ∀ (instruction : Instruction) (keyword arguments : List Char),
        ¬ instruction.Opens text keyword arguments) :
      ReadsStatement text [⟨.unknown, text⟩]

/-! ### The opener of a text -/

theorem mem_headLexicon {rule : Rule HeadLexeme} (h : rule ∈ headLexicon.rules) :
    (∃ opener : Opener, rule = .literal (.opener opener) opener.word) ∨
      rule = .comment .comment ∨ rule = .blanks .blank := by
  simp only [headLexicon, List.mem_append, List.mem_map, List.mem_cons, List.not_mem_nil,
    or_false] at h
  rcases h with ⟨opener, -, rfl⟩ | h
  · exact .inl ⟨opener, rfl⟩
  · exact .inr h

theorem Rule.isPrefix_of_literal {κ : Type} {kind : κ} {word text : List Char}
    (h : 0 < (Rule.literal kind word).measure text) : word <+: text := by
  simp only [literal] at h
  split at h
  · next hstarts => exact List.isPrefixOf_iff_prefix.mp hstarts
  · cases h

/-- Of the rules for the start of a line only the one of the opener measures something there. -/
theorem headLexicon_find? (opener : Opener) (after : List Char) :
    headLexicon.find? (opener.word ++ after) = some (.opener opener, opener.word.length) := by
  obtain ⟨c, hhead, hblank, hmark⟩ := opener.exists_letter
  obtain ⟨letters, hword⟩ := List.head?_eq_some_iff.mp hhead
  have hmeasure : (Rule.literal (HeadLexeme.opener opener) opener.word).measure
      (opener.word ++ after) = opener.word.length := by
    simp [Rule.literal]
  have hlength : 0 < opener.word.length := by simp [hword]
  cases hfound : Rule.longest headLexicon.rules (opener.word ++ after) with
  | none =>
      have hrule : .literal (.opener opener) opener.word ∈ headLexicon.rules :=
        List.mem_append_left _ (List.mem_map_of_mem opener.mem_all)
      have hzero := Rule.longest_eq_none_iff.mp hfound _ hrule
      omega
  | some found =>
      obtain ⟨kind, size⟩ := found
      have hpos := Rule.longest_pos hfound
      obtain ⟨rule, hrule, rfl, rfl⟩ := Rule.exists_mem_of_longest hfound
      rcases mem_headLexicon hrule with ⟨other, rfl⟩ | rfl | rfl
      · obtain rfl := Opener.eq_of_isPrefix (Rule.isPrefix_of_literal hpos)
          (List.prefix_append opener.word after)
        rw [hmeasure] at hfound
        simp only [Lexicon.find?, hfound, Option.map_some]
        rfl
      · simp [hword, Rule.comment, Rule.headed, hmark] at hpos
      · simp [hword, Rule.blanks, Rule.run, hblank] at hpos

theorem headLexicon_next {opener : Opener} {after rest : List Char} {c : Char}
    (h : c :: rest = opener.word ++ after) :
    headLexicon.next c rest = (⟨some (.opener opener), opener.word⟩, after) := by
  simp only [Lexicon.next, h, headLexicon_find?, List.take_left, List.drop_left]

theorem Opener.isPrefix_of_next {opener : Opener} {c : Char} {rest : List Char}
    (h : (headLexicon.next c rest).1.kind = some (.opener opener)) :
    opener.word <+: c :: rest := by
  obtain ⟨rule, hrule, hkind, hpos⟩ := Lexicon.exists_rule_of_next h
  rcases mem_headLexicon hrule with ⟨other, rfl⟩ | rfl | rfl
  · obtain rfl : other = opener := by simpa [Rule.literal] using hkind
    exact Rule.isPrefix_of_literal hpos
  · simp [Rule.comment, Rule.headed] at hkind
  · simp [Rule.blanks, Rule.run] at hkind

/-! ### Statements -/

theorem statement_of_opener (opener : Opener) (after : List Char) :
    (atWordBoundary after ∧ ∃ keyword, opener.resolve after = some keyword ∧
      statement (opener.word ++ after) =
        ⟨.instruction keyword.instruction, opener.word ++ keyword.completion⟩ ::
          keyword.instruction.mode.cut keyword.arguments) ∨
    (∀ keyword, opener.resolve after = some keyword → ¬ atWordBoundary after) ∧
      statement (opener.word ++ after) = [⟨.unknown, opener.word ++ after⟩] := by
  obtain ⟨c, hhead, -, hmark⟩ := opener.exists_letter
  obtain ⟨letters, hword⟩ := List.head?_eq_some_iff.mp hhead
  have htext : c :: (letters ++ after) = opener.word ++ after := by rw [hword, List.cons_append]
  rw [← htext, statement, if_neg hmark]
  split
  · next found word rest hnext =>
      rw [headLexicon_next htext] at hnext
      simp only [Prod.mk.injEq, Lexeme.mk.injEq, Option.some.injEq, HeadLexeme.opener.injEq]
        at hnext
      obtain ⟨⟨rfl, rfl⟩, rfl⟩ := hnext
      split
      · next keyword hresolve =>
          by_cases hboundary : atWordBoundary after
          · exact .inl ⟨hboundary, keyword, hresolve, if_pos hboundary⟩
          · exact .inr ⟨fun _ _ => hboundary, if_neg hboundary⟩
      · next hresolve => exact .inr ⟨by simp [hresolve], rfl⟩
  · next hother => exact absurd (headLexicon_next htext) (hother _ _ _)

theorem statement_of_no_opener {text : List Char} (htext : text ≠ [])
    (hmark : text.head? ≠ some '#') (hnone : ∀ opener : Opener, ¬ opener.word <+: text) :
    statement text = [⟨.unknown, text⟩] := by
  obtain ⟨c, rest, rfl⟩ := List.exists_cons_of_ne_nil htext
  have hc : c ≠ '#' := by simpa using hmark
  rw [statement, if_neg hc]
  split
  · next opener word after hnext =>
      refine absurd (Opener.isPrefix_of_next ?_) (hnone opener)
      rw [hnext]
  · rfl

theorem Instruction.Opens.statement_eq {instruction : Instruction}
    {text keyword arguments : List Char} (h : instruction.Opens text keyword arguments) :
    statement text = ⟨.instruction instruction, keyword⟩ :: instruction.mode.cut arguments := by
  obtain ⟨opener, completion, -, -, rfl, -⟩ := h.exists_opener
  obtain ⟨hboundary, completion, rfl, hresolve⟩ := Opener.opens_iff.mp h
  rcases statement_of_opener opener _ with ⟨-, keyword, hkeyword, hstatement⟩ | ⟨hnone, -⟩
  · obtain rfl : _ = keyword := Option.some.inj (hresolve.symm.trans hkeyword)
    exact hstatement
  · exact absurd hboundary (hnone _ hresolve)

theorem statement_of_unopened {text : List Char} (htext : text ≠ [])
    (hmark : text.head? ≠ some '#')
    (hnone : ∀ (instruction : Instruction) (keyword arguments : List Char),
      ¬ instruction.Opens text keyword arguments) :
    statement text = [⟨.unknown, text⟩] := by
  by_cases hopener : ∃ opener : Opener, opener.word <+: text
  · obtain ⟨opener, after, rfl⟩ := hopener
    rcases statement_of_opener opener after with
      ⟨hboundary, keyword, hresolve, -⟩ | ⟨-, hstatement⟩
    · exact absurd (Opener.opens_iff.mpr ⟨hboundary, _, rfl, hresolve⟩) (hnone _ _ _)
    · exact hstatement
  · rw [not_exists] at hopener
    exact statement_of_no_opener htext hmark hopener

/-- The rules give a statement for every text, and only one. -/
theorem readsStatement_iff {text : List Char} {pieces : List Piece} :
    ReadsStatement text pieces ↔ pieces = statement text := by
  constructor
  · intro h
    cases h with
    | nil htext => rw [htext, statement]
    | comment hmark =>
        obtain ⟨rest, rfl⟩ := List.head?_eq_some_iff.mp hmark
        rw [statement, if_pos rfl]
    | instruction hopens => exact hopens.statement_eq.symm
    | unknown htext hmark hnone => exact (statement_of_unopened htext hmark hnone).symm
  · rintro rfl
    by_cases htext : text = []
    · subst htext
      exact .nil rfl
    by_cases hmark : text.head? = some '#'
    · obtain ⟨rest, rfl⟩ := List.head?_eq_some_iff.mp hmark
      exact .comment rfl
    by_cases hopens : ∃ (instruction : Instruction) (keyword arguments : List Char),
        instruction.Opens text keyword arguments
    · obtain ⟨instruction, keyword, arguments, hopens⟩ := hopens
      rw [hopens.statement_eq]
      exact .instruction hopens
    · simp only [not_exists] at hopens
      rw [statement_of_unopened htext hmark hopens]
      exact .unknown htext hmark hopens

/-- A second word that only starts like the one of a phrase leaves `RUN` on its own, but no
`BUILD`. -/
example : (statement "RUN BACKGROUNDER".toList).map Piece.kind =
      [.instruction .run, .whitespace, .argument .command] ∧
    statement "BUILD ENVY".toList = [⟨.unknown, "BUILD ENVY".toList⟩] := by
  decide +kernel

theorem instruction_mem_statement_iff {text : List Char} (hfeed : '\n' ∉ text)
    {instruction : Instruction} {keyword : List Char} :
    ⟨.instruction instruction, keyword⟩ ∈ statement text ↔
      ∃ arguments, instruction.Opens text keyword arguments := by
  constructor
  · intro hmem
    generalize hpieces : statement text = pieces at hmem
    cases readsStatement_iff.mpr hpieces.symm with
    | nil => cases hmem
    | comment => simp at hmem
    | unknown => simp at hmem
    | @instruction own phrase arguments hopens =>
        rcases List.mem_cons.mp hmem with hown | hmem
        · simp only [Piece.mk.injEq, TokenKind.instruction.injEq] at hown
          obtain ⟨rfl, rfl⟩ := hown
          exact ⟨arguments, hopens⟩
        · have hnofeed : '\n' ∉ arguments := by
            intro h
            exact hfeed (hopens.text_eq ▸ List.mem_append_right _ h)
          have hkind : .instruction instruction ∈
              (own.mode.cut arguments).map Piece.kind := List.mem_map_of_mem hmem
          rcases ArgumentMode.mem_kinds_of_grammar
            (own.mode.kinds_cut hopens.boundary hnofeed) _ hkind with hblank | hkind
          · cases hblank
          · exact absurd rfl (own.mode.not_isInstruction_of_mem_kinds _ hkind)
  · rintro ⟨arguments, hopens⟩
    rw [hopens.statement_eq]
    exact List.mem_cons_self

/-! ### Lines of a source -/

def Token.piece (token : Token) : Piece :=
  ⟨token.kind, token.text.toList⟩

theorem map_piece_place (number column : Nat) (pieces : List Piece) :
    (Piece.place number column pieces).map Token.piece = pieces := by
  induction pieces generalizing column with
  | nil => rfl
  | cons piece pieces ih => simp [Piece.place, Token.piece, ih]

/-- The tokens of a line are its indentation, what the rules of statements give for the text behind
it, and its ending. A keyword is among them exactly if its instruction opens that text. -/
theorem tokenize_recognises_keywords (source : String) (number : Nat) {line : Line}
    (hline : (lines source.toList)[number]? = some line) :
    ∃ pieces,
      ((tokenize source).filter fun token => token.line = number + 1).map Token.piece =
        Piece.ofText .whitespace (line.content.takeWhile isBlank) ++ pieces ++
          Piece.ofText .newline line.ending.text ∧
      (∀ other, ReadsStatement (line.content.dropWhile isBlank) other ↔ other = pieces) ∧
      ∀ instruction keyword, ⟨.instruction instruction, keyword⟩ ∈ pieces ↔
        ∃ arguments, Instruction.Opens instruction (line.content.dropWhile isBlank) keyword
          arguments := by
  have hfeed : '\n' ∉ line.content.dropWhile isBlank := by
    intro hmem
    exact not_mem_content_of_mem_lines (List.mem_of_getElem? hline)
      ((List.dropWhile_suffix isBlank).mem hmem)
  refine ⟨statement (line.content.dropWhile isBlank), ?_, fun _ => readsStatement_iff,
    fun _ _ => instruction_mem_statement_iff hfeed⟩
  rw [Nat.add_comm, tokenize, filter_line_placeLines, hline, Option.map_some, Option.getD_some,
    map_piece_place]
  rfl

/-- The words of a phrase are joined by any blanks. -/
theorem tokenize_recognises_keyword_between_tabs :
    ∃ pieces,
      ((tokenize "RUN x\n\tSKIP \t REMAINING\tIF a=b\r\n").filter fun token =>
        token.line = 2).map Token.piece =
          [⟨.whitespace, ['\t']⟩] ++ pieces ++ [⟨.newline, ['\r', '\n']⟩] ∧
      ⟨.instruction .skipRemainingIf, "SKIP \t REMAINING\tIF".toList⟩ ∈ pieces := by
  have hline : (lines "RUN x\n\tSKIP \t REMAINING\tIF a=b\r\n".toList)[1]? =
      some ⟨"\tSKIP \t REMAINING\tIF a=b".toList, .crlf⟩ := by
    decide +kernel
  obtain ⟨pieces, htokens, -, hkeyword⟩ := tokenize_recognises_keywords _ 1 hline
  refine ⟨pieces, htokens, (hkeyword _ _).mpr ⟨" a=b".toList, ⟨by decide, ?_, rfl⟩, nofun⟩⟩
  have hlast : Spells ["REMAINING".toList, "IF".toList] "REMAINING\tIF".toList :=
    .join (List.cons_ne_nil '\t' []) (by simp [isBlank]) (.word "IF".toList)
  exact .join (List.cons_ne_nil ' ' "\t ".toList) (by simp [isBlank]) hlast

end Layerfile
