import Layerfile.Proofs.Lexing
import Layerfile.Token.Tokenize
import Mathlib.Data.List.TakeWhile

/-! Tokens partition their source. Each step that cuts a text into pieces keeps every character
and makes no empty piece; the tokens of a source are the pieces of its lines. -/

namespace Layerfile

open Text

/-- The pieces share out `text`: none is empty, and together they are all of it. -/
structure Piece.Partition (text : List Char) (pieces : List Piece) : Prop where
  flatMap_text : pieces.flatMap Piece.text = text
  ne_nil : ∀ piece ∈ pieces, piece.text ≠ []

namespace Piece.Partition

theorem nil : Partition [] [] :=
  ⟨rfl, by simp⟩

theorem singleton (kind : TokenKind) {text : List Char} (h : text ≠ []) :
    Partition text [⟨kind, text⟩] := by
  refine ⟨by simp, ?_⟩
  intro piece hpiece
  rw [List.mem_singleton.mp hpiece]
  exact h

theorem append {first later : List Char} {pieces morePieces : List Piece}
    (h : Partition first pieces) (hlater : Partition later morePieces) :
    Partition (first ++ later) (pieces ++ morePieces) := by
  refine ⟨?_, ?_⟩
  · rw [List.flatMap_append, h.flatMap_text, hlater.flatMap_text]
  · intro piece hpiece
    rcases List.mem_append.mp hpiece with hpiece | hpiece
    · exact h.ne_nil piece hpiece
    · exact hlater.ne_nil piece hpiece

theorem cons (kind : TokenKind) {text later : List Char} {pieces : List Piece} (h : text ≠ [])
    (hlater : Partition later pieces) : Partition (text ++ later) (⟨kind, text⟩ :: pieces) :=
  (singleton kind h).append hlater

theorem ofText (kind : TokenKind) (text : List Char) : Partition text (Piece.ofText kind text) := by
  cases text with
  | nil => exact nil
  | cons c text => exact singleton kind (by simp)

theorem flatMap {α : Type} (textOf : α → List Char) (piecesOf : α → List Piece) (parts : List α)
    (h : ∀ part ∈ parts, Partition (textOf part) (piecesOf part)) :
    Partition (parts.flatMap textOf) (parts.flatMap piecesOf) := by
  induction parts with
  | nil => exact nil
  | cons part parts ih =>
      rw [List.flatMap_cons, List.flatMap_cons]
      apply (h part (by simp)).append
      apply ih
      intro later hlater
      exact h later (List.mem_cons_of_mem _ hlater)

end Piece.Partition

/-! ### Arguments -/

theorem trimRight_ne_nil {c : Char} {text : List Char} (hhead : text.head? = some c)
    (hc : ¬ isBlank c) : trimRight text ≠ [] := by
  intro hnil
  have hblanks : ∀ d ∈ text, isBlank d := by
    simpa [trimRight, List.dropWhile_eq_nil_iff] using hnil
  exact hc (hblanks c (List.mem_of_mem_head? hhead))

/-- Trimming keeps all of a piece. The value that is left has its first character, unless the
piece is layout, which is not trimmed. -/
theorem Piece.trim_partition (piece : Piece) {c : Char} (hhead : piece.text.head? = some c)
    (hc : piece.kind.isLayout ∨ ¬ isBlank c) : Partition piece.text piece.trim := by
  have hne : piece.text ≠ [] := by
    intro hnil
    simp [hnil] at hhead
  unfold trim
  split
  · exact .singleton piece.kind hne
  · next hvalue =>
      simp only [Bool.or_eq_true, not_or, Bool.not_eq_true, List.isEmpty_eq_false_iff] at hvalue
      obtain ⟨⟨hlayout, -⟩, htail⟩ := hvalue
      have hblank : ¬ isBlank c := by
        rcases hc with hc | hc
        · simp [hlayout] at hc
        · exact hc
      have hparts := Partition.cons piece.kind (trimRight_ne_nil hhead hblank)
        (.singleton .whitespace htail)
      rwa [trimRight_append_trailingBlanks] at hparts

theorem Piece.partition_scan_trim {κ : Type} {lexicon : Lexicon κ} {blank : κ}
    {kindOf : κ → TokenKind} (hblank : lexicon.SeparatesBlanks blank)
    (hkind : kindOf blank = .whitespace) (text : List Char) :
    Partition text ((lexicon.scan text).flatMap fun lexeme => (lexeme.toPiece kindOf).trim) := by
  have hparts : Partition ((lexicon.scan text).flatMap Lexeme.text)
      ((lexicon.scan text).flatMap fun lexeme => (lexeme.toPiece kindOf).trim) := by
    apply Partition.flatMap
    intro lexeme hlexeme
    obtain ⟨c, rest, rfl⟩ := Lexicon.exists_next_of_mem_scan hlexeme
    apply trim_partition ((lexicon.next c rest).1.toPiece kindOf) (lexicon.head?_text_next c rest)
    by_cases hc : isBlank c
    · left
      simp [Lexeme.toPiece, hblank c rest hc, hkind, TokenKind.isLayout]
    · exact .inr hc
  rwa [Lexicon.flatMap_text_scan] at hparts

theorem ArgumentMode.cut_partition (mode : ArgumentMode) (text : List Char) :
    Piece.Partition text (mode.cut text) := by
  cases mode with
  | words value comment => exact Piece.partition_scan_trim wordLexicon_separatesBlanks rfl text
  | line value comment => exact Piece.partition_scan_trim textLexicon_separatesBlanks rfl text
  | command => exact Piece.partition_scan_trim commandLexicon_separatesBlanks rfl text
  | conditions => exact Piece.partition_scan_trim conditionLexicon_separatesBlanks rfl text
  | env =>
      -- Stretched lexemes are trimmed already, so each one is a piece of its own.
      have hparts := Piece.Partition.flatMap Lexeme.text
        (fun lexeme => [lexeme.toPiece EnvLexeme.tokenKind]) (envLexicon.scan text)
        (fun lexeme hlexeme => .singleton _ (Lexicon.text_ne_nil_of_mem_scan hlexeme))
      rwa [Lexicon.flatMap_text_scan, ← List.map_eq_flatMap] at hparts

/-! ### Lines -/

theorem cutWords_append {words : List (List Char)} {text cut rest : List Char}
    (h : cutWords words text = some (cut, rest)) : cut ++ rest = text := by
  induction words generalizing text cut rest with
  | nil =>
      simp only [cutWords, Option.some.injEq, Prod.mk.injEq] at h
      rw [← h.1, ← h.2, List.nil_append]
  | cons word words ih =>
      simp only [cutWords, Option.ite_none_left_eq_some, Option.map_eq_some_iff] at h
      obtain ⟨hword, ⟨later, rest⟩, hlater, heq⟩ := h
      obtain ⟨rfl, rfl⟩ := Prod.mk.inj heq
      have hprefix : word <+: text.dropWhile isBlank := by
        simp only [Bool.or_eq_true, not_or, Bool.not_eq_true, Bool.not_eq_false'] at hword
        exact List.isPrefixOf_iff_prefix.mp hword.2
      obtain ⟨tail, htail⟩ := hprefix
      rw [← htail, List.drop_left] at hlater
      calc
        text.takeWhile isBlank ++ word ++ later ++ rest =
            text.takeWhile isBlank ++ (word ++ (later ++ rest)) := by
          simp only [List.append_assoc]
        _ = text.takeWhile isBlank ++ text.dropWhile isBlank := by rw [ih hlater, htail]
        _ = text := List.takeWhile_append_dropWhile

/-- A phrase is completed by its later words, and one with later words needs a word boundary. -/
theorem Instruction.complete_eq_some_iff {instruction : Instruction} {text : List Char}
    {keyword : Keyword} :
    instruction.complete text = some keyword ↔
      keyword.instruction = instruction ∧
      cutWords instruction.continuation text = some (keyword.completion, keyword.arguments) ∧
      (instruction.continuation = [] ∨ atWordBoundary keyword.arguments) := by
  obtain ⟨own, completion, arguments⟩ := keyword
  unfold complete
  cases cutWords instruction.continuation text with
  | none => simp
  | some cut =>
      obtain ⟨cut, rest⟩ := cut
      simp only [Option.ite_none_right_eq_some, Bool.or_eq_true, List.isEmpty_iff,
        Option.some.injEq, Keyword.mk.injEq, Prod.mk.injEq]
      constructor
      · rintro ⟨hend, rfl, rfl, rfl⟩
        exact ⟨rfl, ⟨rfl, rfl⟩, hend⟩
      · rintro ⟨rfl, ⟨rfl, rfl⟩, hend⟩
        exact ⟨hend, rfl, rfl, rfl⟩

theorem Opener.resolve_append {opener : Opener} {text : List Char} {keyword : Keyword}
    (h : opener.resolve text = some keyword) : keyword.completion ++ keyword.arguments = text := by
  obtain ⟨instruction, -, hcomplete⟩ := List.exists_of_findSome?_eq_some h
  exact cutWords_append (Instruction.complete_eq_some_iff.mp hcomplete).2.1

theorem statement_partition (text : List Char) : Piece.Partition text (statement text) := by
  cases text with
  | nil => exact .nil
  | cons c rest =>
      have hunknown : Piece.Partition (c :: rest) [⟨.unknown, c :: rest⟩] :=
        .singleton _ (by simp)
      have happend := headLexicon.next_text_append c rest
      have hne := headLexicon.next_text_ne_nil c rest
      rw [statement]
      split
      · exact .singleton _ (by simp)
      · split
        · next opener word after hnext =>
            rw [hnext] at happend hne
            split
            · next keyword hkeyword =>
                split
                · have hkept := Opener.resolve_append hkeyword
                  have hparts := Piece.Partition.cons (.instruction keyword.instruction)
                    (List.append_ne_nil_of_left_ne_nil hne keyword.completion)
                    (keyword.instruction.mode.cut_partition keyword.arguments)
                  rwa [List.append_assoc, hkept, happend] at hparts
                · exact hunknown
            · exact hunknown
        · exact hunknown

theorem contentPieces_partition (content : List Char) :
    Piece.Partition content (contentPieces content) := by
  have hparts := (Piece.Partition.ofText .whitespace (content.takeWhile isBlank)).append
    (statement_partition (content.dropWhile isBlank))
  rwa [List.takeWhile_append_dropWhile] at hparts

theorem Text.Line.pieces_partition (line : Line) : Piece.Partition line.text line.pieces :=
  (contentPieces_partition line.content).append (.ofText .newline line.ending.text)

/-! ### Tokens -/

def Token.textOf (tokens : List Token) : List Char :=
  tokens.flatMap fun token => token.text.toList

@[simp] theorem Token.textOf_nil : Token.textOf [] = [] := rfl

@[simp] theorem Token.textOf_cons (token : Token) (tokens : List Token) :
    Token.textOf (token :: tokens) = token.text.toList ++ Token.textOf tokens := rfl

@[simp] theorem Token.textOf_append (tokens later : List Token) :
    Token.textOf (tokens ++ later) = Token.textOf tokens ++ Token.textOf later :=
  List.flatMap_append

@[simp] theorem Token.textOf_place (number column : Nat) (pieces : List Piece) :
    Token.textOf (Piece.place number column pieces) = pieces.flatMap Piece.text := by
  induction pieces generalizing column with
  | nil => rfl
  | cons piece pieces ih => simp [Piece.place, ih]

theorem exists_piece_of_mem_place {number column : Nat} {pieces : List Piece} {token : Token}
    (h : token ∈ Piece.place number column pieces) :
    ∃ earlier piece later, pieces = earlier ++ piece :: later ∧
      token = ⟨piece.kind, number, column + units (earlier.flatMap Piece.text),
        String.ofList piece.text⟩ := by
  induction pieces generalizing column with
  | nil => simp [Piece.place] at h
  | cons first pieces ih =>
      rcases List.mem_cons.mp h with rfl | h
      · exact ⟨[], first, pieces, rfl, by simp⟩
      · obtain ⟨earlier, piece, later, rfl, rfl⟩ := ih h
        exact ⟨first :: earlier, piece, later, rfl, by simp [Nat.add_assoc]⟩

theorem textOf_placeLines (number : Nat) (lines : List Line) :
    Token.textOf (placeLines number lines) = lines.flatMap Line.text := by
  induction lines generalizing number with
  | nil => rfl
  | cons line later ih =>
      rw [placeLines, Token.textOf_append, Token.textOf_place, line.pieces_partition.flatMap_text,
        ih, List.flatMap_cons]

theorem text_ne_nil_of_mem_placeLines {number : Nat} {lines : List Line} {token : Token}
    (h : token ∈ placeLines number lines) : token.text.toList ≠ [] := by
  induction lines generalizing number with
  | nil => simp [placeLines] at h
  | cons line later ih =>
      rcases List.mem_append.mp h with h | h
      · obtain ⟨earlier, piece, later, hpieces, rfl⟩ := exists_piece_of_mem_place h
        rw [String.toList_ofList]
        apply line.pieces_partition.ne_nil
        simp [hpieces]
      · exact ih h

theorem textOf_tokenize (source : String) : Token.textOf (tokenize source) = source.toList := by
  rw [tokenize, textOf_placeLines, flatMap_text_lines]

theorem text_ne_nil_of_mem_tokenize {source : String} {token : Token}
    (h : token ∈ tokenize source) : token.text.toList ≠ [] :=
  text_ne_nil_of_mem_placeLines h

/-- The texts of the tokens in order are the source, and no token is empty. -/
theorem tokenize_partitions_source (source : String) :
    String.join ((tokenize source).map Token.text) = source ∧
      ∀ token ∈ tokenize source, token.text ≠ "" := by
  constructor
  · rw [← String.toList_inj, String.toList_join, List.flatMap_map]
    exact textOf_tokenize source
  · intro token htoken hempty
    apply text_ne_nil_of_mem_tokenize htoken
    rw [hempty, String.toList_empty]

end Layerfile
