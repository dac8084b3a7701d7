import Layerfile.Argument.Mode
import Layerfile.Proofs.Reading

/-! Pieces of arguments and the lexemes behind them. A word ends without blanks, so only free text
and commands are trimmed. -/

namespace Layerfile

open Text

/-! ### Trimming -/

theorem trailingBlanks_eq_nil {text : List Char} (h : ∀ c ∈ text, ¬ isBlank c) :
    trailingBlanks text = [] := by
  rw [trailingBlanks, List.reverse_eq_nil_iff]
  cases hlast : text.reverse with
  | nil => rfl
  | cons c front =>
      have hmem : c ∈ text := by
        rw [← List.mem_reverse, hlast]
        exact List.mem_cons_self
      exact List.takeWhile_cons_of_neg (h c hmem)

namespace Piece

theorem trim_of_isLayout {piece : Piece} (h : piece.kind.isLayout) : piece.trim = [piece] := by
  simp [trim, h]

/-- A comment keeps its trailing blanks. -/
theorem trim_of_mark {piece : Piece} (h : piece.text.head? = some '#') : piece.trim = [piece] := by
  simp [trim, h]

theorem trim_of_not_isBlank {piece : Piece} (h : ∀ c ∈ piece.text, ¬ isBlank c) :
    piece.trim = [piece] := by
  simp [trim, trailingBlanks_eq_nil h]

/-- Trimming keeps the kind and at most adds whitespace. -/
theorem map_kind_trim (piece : Piece) :
    piece.trim.map kind = [piece.kind] ∨ piece.trim.map kind = [piece.kind, .whitespace] := by
  unfold trim
  split
  · exact .inl rfl
  · exact .inr rfl

end Piece

/-! ### Words are whole pieces -/

namespace Lexicon

variable {κ : Type} {lexicon : Lexicon κ} {blank comment : κ}

theorem scan_cons (lexicon : Lexicon κ) (c : Char) (rest : List Char) :
    lexicon.scan (c :: rest) = (lexicon.next c rest).1 :: lexicon.scan (lexicon.next c rest).2 := by
  rw [scan]

theorem Reads.trim_toPiece (hreads : lexicon.Reads blank comment isWordChar)
    {kindOf : κ → TokenKind} (hblank : kindOf blank = .whitespace) {text : List Char}
    (hfeed : '\n' ∉ text) {lexeme : Lexeme κ} (hlexeme : lexeme ∈ lexicon.scan text) :
    (lexeme.toPiece kindOf).trim = [lexeme.toPiece kindOf] := by
  obtain ⟨c, rest, rfl⟩ := exists_next_of_mem_scan hlexeme
  have hc : c ≠ '\n' := by
    rintro rfl
    apply hfeed
    rw [← lexicon.flatMap_text_scan text]
    exact List.mem_flatMap.mpr
      ⟨_, hlexeme, List.mem_of_mem_head? (lexicon.head?_text_next '\n' rest)⟩
  rcases isBlank_or_mark_or_opensWord hc with hc | rfl | hc
  · apply Piece.trim_of_isLayout
    simp [Lexeme.toPiece, hreads.next_blank c rest hc, hblank, TokenKind.isLayout]
  · apply Piece.trim_of_mark
    simp [Lexeme.toPiece, hreads.next_mark rest]
  · obtain ⟨kind, -, -, hnext⟩ := hreads.next_item c rest hc
    apply Piece.trim_of_not_isBlank
    simp only [Lexeme.toPiece, hnext, List.forall_mem_cons]
    refine ⟨not_isBlank_of_opensWord hc, ?_⟩
    intro d hd
    exact not_isBlank_of_isWordChar (List.mem_takeWhile_imp hd)

theorem Reads.flatMap_trim (hreads : lexicon.Reads blank comment isWordChar)
    {kindOf : κ → TokenKind} (hblank : kindOf blank = .whitespace) {text : List Char}
    (hfeed : '\n' ∉ text) :
    ((lexicon.scan text).flatMap fun lexeme => (lexeme.toPiece kindOf).trim) =
      (lexicon.scan text).map (Lexeme.toPiece kindOf) := by
  rw [List.map_eq_flatMap]
  exact List.flatMap_congr fun lexeme hlexeme => hreads.trim_toPiece hblank hfeed hlexeme

end Lexicon

theorem ArgumentMode.cut_words (value : ArgumentKind) (comment : CommentKind) {text : List Char}
    (hfeed : '\n' ∉ text) :
    (words value comment).cut text =
      (wordLexicon.scan text).map (Lexeme.toPiece (WordLexeme.tokenKind value comment)) :=
  wordLexicon_reads.flatMap_trim rfl hfeed

theorem ArgumentMode.cut_conditions {text : List Char} (hfeed : '\n' ∉ text) :
    conditions.cut text =
      (conditionLexicon.scan text).map (Lexeme.toPiece ConditionLexeme.tokenKind) :=
  conditionLexicon_reads.flatMap_trim rfl hfeed

end Layerfile
