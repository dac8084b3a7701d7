import Layerfile.Proofs.Spans

/-! What stands on a line behind its indentation: nothing, a comment, unknown text, or a keyword
with its arguments, which start at a word boundary. -/

namespace Layerfile

open Text

/-! ### Keywords -/

theorem Instruction.atWordBoundary_of_complete {instruction : Instruction} {text : List Char}
    {keyword : Keyword} (h : instruction.complete text = some keyword)
    (hboundary : atWordBoundary text) : atWordBoundary keyword.arguments := by
  obtain ⟨-, hcut, hsingle | hend⟩ := Instruction.complete_eq_some_iff.mp h
  · simp only [hsingle, cutWords, Option.some.injEq, Prod.mk.injEq] at hcut
    rwa [← hcut.2]
  · exact hend

theorem Opener.atWordBoundary_of_resolve {opener : Opener} {text : List Char} {keyword : Keyword}
    (h : opener.resolve text = some keyword) (hboundary : atWordBoundary text) :
    atWordBoundary keyword.arguments := by
  obtain ⟨instruction, -, hcomplete⟩ := List.exists_of_findSome?_eq_some h
  exact instruction.atWordBoundary_of_complete hcomplete hboundary

/-- Everything that a statement can be. -/
theorem statement_cases (text : List Char) :
    text = [] ∧ statement text = [] ∨
    statement text = [⟨.comment .line, text⟩] ∨
    statement text = [⟨.unknown, text⟩] ∨
    ∃ instruction keyword arguments, text = keyword ++ arguments ∧ atWordBoundary arguments ∧
      statement text =
        ⟨.instruction instruction, keyword⟩ :: instruction.mode.cut arguments := by
  cases text with
  | nil => exact .inl ⟨rfl, rfl⟩
  | cons c rest =>
      have happend := headLexicon.next_text_append c rest
      rw [statement]
      split
      · exact .inr (.inl rfl)
      · split
        · next opener word after hnext =>
            rw [hnext] at happend
            split
            · next keyword hkeyword =>
                split
                · next hboundary =>
                    refine .inr (.inr (.inr ⟨keyword.instruction, word ++ keyword.completion,
                      keyword.arguments, ?_, ?_, rfl⟩))
                    · rw [List.append_assoc, Opener.resolve_append hkeyword, happend]
                    · exact Opener.atWordBoundary_of_resolve hkeyword hboundary
                · exact .inr (.inr (.inl rfl))
            · exact .inr (.inr (.inl rfl))
        · exact .inr (.inr (.inl rfl))

/-! ### Arguments in a source -/

theorem Text.not_mem_content_of_mem_lines {source : List Char} {line : Line}
    (h : line ∈ lines source) : '\n' ∉ line.content := by
  obtain ⟨number, hline⟩ := List.mem_iff_getElem?.mp h
  exact (lineAt_of_getElem?_lines hline).wellFormed.not_mem

/-- An item that the first of two parts does not have stands in the second. -/
theorem exists_append_of_append_eq {α : Type} {first second earlier later : List α} {item : α}
    (h : first ++ second = earlier ++ item :: later) (hitem : item ∉ first) :
    ∃ inner, earlier = first ++ inner ∧ second = inner ++ item :: later := by
  rcases List.append_eq_append_iff.mp h with ⟨inner, hearlier, hsecond⟩ | ⟨inner, hfirst, hlater⟩
  · exact ⟨inner, hearlier, hsecond⟩
  · cases inner with
    | nil => exact ⟨[], by simpa using hfirst.symm, hlater.symm⟩
    | cons other inner =>
        obtain ⟨rfl, -⟩ := List.cons.inj hlater
        simp [hfirst] at hitem

theorem exists_cut_of_contentPieces {content : List Char} {earlier later : List Piece}
    {piece : Piece} {kind : ArgumentKind} (h : contentPieces content = earlier ++ piece :: later)
    (hkind : piece.kind = .argument kind) :
    ∃ (instruction : Instruction) (front arguments : List Char) (inner : List Piece),
      content = front ++ arguments ∧ atWordBoundary arguments ∧
      instruction.mode.cut arguments = inner ++ piece :: later ∧
      earlier.flatMap Piece.text = front ++ inner.flatMap Piece.text := by
  have hindent : piece ∉ Piece.ofText .whitespace (content.takeWhile isBlank) := by
    intro hmem
    simp [Piece.kind_of_mem_ofText hmem] at hkind
  obtain ⟨behind, rfl, hstatement⟩ := exists_append_of_append_eq h hindent
  have hmem : piece ∈ statement (content.dropWhile isBlank) := by simp [hstatement]
  rcases statement_cases (content.dropWhile isBlank) with
    ⟨-, hnil⟩ | hcomment | hunknown |
    ⟨instruction, keyword, arguments, htext, hboundary, hcut⟩
  · simp [hnil] at hmem
  · rw [hcomment, List.mem_singleton] at hmem
    simp [hmem] at hkind
  · rw [hunknown, List.mem_singleton] at hmem
    simp [hmem] at hkind
  · have hkeyword : piece ∉ [⟨.instruction instruction, keyword⟩] := by
      intro hmem
      simp [List.mem_singleton.mp hmem] at hkind
    obtain ⟨inner, rfl, harguments⟩ :=
      exists_append_of_append_eq (hcut.symm.trans hstatement) hkeyword
    have hindented := (Piece.Partition.ofText .whitespace (content.takeWhile isBlank)).flatMap_text
    refine ⟨instruction, content.takeWhile isBlank ++ keyword, arguments, inner, ?_, hboundary,
      harguments, ?_⟩
    · rw [List.append_assoc, ← htext, List.takeWhile_append_dropWhile]
    · simp [hindented]

/-- An argument of a source stands among the arguments of an instruction on its line. -/
theorem exists_arguments_of_mem_tokenize {source : String} {token : Token} {kind : ArgumentKind}
    (h : token ∈ tokenize source) (hkind : token.kind = .argument kind) :
    ∃ (line : Line) (instruction : Instruction) (front arguments : List Char)
      (earlier later : List Piece), LineAt source.toList token.row line ∧
      line.content = front ++ arguments ∧ atWordBoundary arguments ∧
      instruction.mode.cut arguments =
        earlier ++ ⟨token.kind, token.text.toList⟩ :: later ∧
      token.column = units (front ++ earlier.flatMap Piece.text) := by
  obtain ⟨-, line, hline, hnewline | ⟨before, later, hpieces, hcolumn⟩⟩ :=
    exists_contentPieces_of_mem_tokenize h
  · simp [hkind] at hnewline
  · obtain ⟨instruction, front, arguments, earlier, hcontent, hboundary, hcut, hfront⟩ :=
      exists_cut_of_contentPieces hpieces hkind
    refine ⟨line, instruction, front, arguments, earlier, later, hline, hcontent, hboundary,
      hcut, ?_⟩
    rw [hcolumn, hfront]

theorem exists_cut_of_mem_tokenize {source : String} {token : Token} {kind : ArgumentKind}
    (h : token ∈ tokenize source) (hkind : token.kind = .argument kind) :
    ∃ (instruction : Instruction) (arguments : List Char), '\n' ∉ arguments ∧
      atWordBoundary arguments ∧
      ⟨token.kind, token.text.toList⟩ ∈ instruction.mode.cut arguments := by
  obtain ⟨line, instruction, front, arguments, earlier, later, hline, hcontent, hboundary, hcut,
    -⟩ := exists_arguments_of_mem_tokenize h hkind
  have hfeed := hline.wellFormed.not_mem
  rw [hcontent, List.mem_append, not_or] at hfeed
  exact ⟨instruction, arguments, hfeed.2, hboundary, by simp [hcut]⟩

end Layerfile
