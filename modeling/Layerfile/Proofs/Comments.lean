import Layerfile.Proofs.Trimming

/-! Comments behind a keyword. A comment starts with its mark and takes the rest of its line. In
front of it stands whitespace, and only the free text of a button can end right where the mark
starts a comment. -/

namespace Layerfile

open Text Grammar

/-! ### Comments in the grammar -/

namespace Grammar

variable {front behind : List TokenKind} {comment : CommentKind}

theorem comment_of_close {body closing : List TokenKind} {own : CommentKind}
    (hbody : .comment comment ∉ body) (hclosing : closing ∈ (close own).matches')
    (h : body ++ closing = front ++ .comment comment :: behind) :
    behind = [] ∧ front.getLast? = some .whitespace := by
  obtain ⟨inner, rfl, rfl⟩ := exists_append_of_append_eq h hbody
  rcases mem_close.mp hclosing with hnil | hblank | hcomment
  · simp at hnil
  · cases inner <;> simp at hblank
  · cases inner with
    | nil => simp at hcomment
    | cons first inner =>
        cases inner with
        | nil =>
            simp only [List.singleton_append, List.cons.injEq] at hcomment
            exact ⟨hcomment.2.2, by simp [hcomment.1]⟩
        | cons second inner => simp at hcomment

theorem comment_of_items {item : RegularExpression TokenKind} {own : CommentKind}
    (hitem : .comment comment ∉ letters item)
    (h : front ++ .comment comment :: behind ∈ (items item (close own)).matches') :
    behind = [] ∧ front.getLast? = some .whitespace := by
  obtain ⟨body, hbody, closing, hclosing, hkinds⟩ := mem_mul.mp h
  refine comment_of_close ?_ hclosing hkinds
  intro hmem
  have hletter := mem_letters_of_mem hbody _ hmem
  simp [blank, hitem] at hletter

end Grammar

/-- A comment ends the arguments. It stands behind whitespace, unless it stands right behind free
text. -/
theorem ArgumentMode.comment_of_grammar {mode : ArgumentMode} {front behind : List TokenKind}
    {comment : CommentKind}
    (h : front ++ .comment comment :: behind ∈ mode.grammar.matches') :
    behind = [] ∧ (front.getLast? = some .whitespace ∨
      ∃ value, mode = .line value comment ∧ front.getLast? = some (.argument value)) := by
  cases mode with
  | words value own =>
      obtain ⟨hbehind, hlast⟩ := comment_of_items (by simp) h
      exact ⟨hbehind, .inl hlast⟩
  | conditions =>
      obtain ⟨hbehind, hlast⟩ := comment_of_items (by simp) h
      exact ⟨hbehind, .inl hlast⟩
  | env =>
      obtain ⟨body, hbody, rest, hrest, hkinds⟩ := mem_mul.mp h
      obtain ⟨spaced, hspaced, closing, hclosing, rfl⟩ := mem_mul.mp hrest
      have hmem : .comment comment ∉ body ++ spaced := by
        intro hmem
        rcases List.mem_append.mp hmem with hmem | hmem
        · simpa [blank] using mem_letters_of_mem hbody _ hmem
        · simpa [blank] using mem_letters_of_mem hspaced _ hmem
      rw [← List.append_assoc] at hkinds
      obtain ⟨hbehind, hlast⟩ := comment_of_close hmem hclosing hkinds
      exact ⟨hbehind, .inl hlast⟩
  | command =>
      have hmem := mem_kinds_of_grammar h (.comment comment) (by simp)
      simp [kinds] at hmem
  | line value own =>
      rcases mem_add.mp h with hclose | htext
      · obtain ⟨hbehind, hlast⟩ := comment_of_close List.not_mem_nil hclose rfl
        exact ⟨hbehind, .inl hlast⟩
      · -- The blanks that are cut off the text may be missing, and then nothing separates the two.
        obtain ⟨_, hbody, last, hlast, hkinds⟩ := mem_mul.mp htext
        obtain ⟨_, htext, blanks, hblanks, rfl⟩ := mem_mul.mp hbody
        obtain ⟨_, hblank, _, hchar, rfl⟩ := mem_mul.mp htext
        obtain rfl := mem_char.mp hblank
        obtain rfl := mem_char.mp hchar
        have hbody : .comment comment ∉ [.whitespace] ++ [.argument value] ++ blanks := by
          rcases mem_add.mp hblanks with hblanks | hblanks
          · simp [mem_one.mp hblanks]
          · simp [mem_char.mp hblanks]
        obtain ⟨inner, rfl, rfl⟩ := exists_append_of_append_eq hkinds hbody
        rcases mem_add.mp hlast with hlast | hlast
        · simpa using mem_one.mp hlast
        · obtain ⟨rfl, rfl, rfl⟩ : inner = [] ∧ comment = own ∧ behind = [] := by
            simpa [List.append_eq_singleton_iff] using mem_char.mp hlast
          refine ⟨rfl, ?_⟩
          rcases mem_add.mp hblanks with hblanks | hblanks
          · exact .inr ⟨value, rfl, by simp [mem_one.mp hblanks]⟩
          · exact .inl (by simp [mem_char.mp hblanks])

/-- Behind a keyword a comment is the last piece of its line. -/
theorem comment_of_lineGrammar {before after : List TokenKind} {comment : CommentKind}
    {instruction : Instruction}
    (h : before ++ .comment comment :: after ∈ lineGrammar.matches')
    (hmem : .instruction instruction ∈ before) :
    after = [] ∧ (before.getLast? = some .whitespace ∨
      ∃ value, instruction.mode = .line value comment ∧
        before.getLast? = some (.argument value)) := by
  obtain ⟨indentation, rest, hkinds, hindentation, hrest⟩ := mem_lineGrammar.mp h
  have hblank : ∀ kind ∈ indentation, kind = .whitespace := by
    rcases hindentation with rfl | rfl <;> simp
  have hcomment : .comment comment ∉ indentation := fun hmem => by simpa using hblank _ hmem
  obtain ⟨behind, rfl, hstatement⟩ := exists_append_of_append_eq hkinds.symm hcomment
  have hkeyword : .instruction instruction ∈ behind := by
    rcases List.mem_append.mp hmem with hmem | hmem
    · simpa using hblank _ hmem
    · exact hmem
  rcases hrest with rfl | rfl | rfl | ⟨found, arguments, rfl, harguments⟩
  · simp at hstatement
  · cases behind <;> simp_all
  · cases behind <;> simp_all
  · obtain ⟨inner, rfl, rfl⟩ := exists_append_of_append_eq
      (List.singleton_append.trans hstatement) (by simp)
    obtain rfl : instruction = found := by
      rcases List.mem_append.mp hkeyword with heq | hmem
      · simpa using heq
      · rcases ArgumentMode.mem_kinds_of_grammar harguments _ (List.mem_append_left _ hmem) with
          hkind | hkind
        · simp at hkind
        · exact absurd rfl (found.mode.not_isInstruction_of_mem_kinds _ hkind)
    obtain ⟨hafter, hlast⟩ := ArgumentMode.comment_of_grammar harguments
    have hne : inner ≠ [] := by
      rintro rfl
      simp at hlast
    rw [← List.append_assoc, List.getLast?_append_of_ne_nil _ hne]
    exact ⟨hafter, hlast⟩

/-! ### The line of a token -/

theorem Text.Line.exists_contentPieces_of_pieces {line : Line} {front behind : List Piece}
    {piece : Piece} (h : line.pieces = front ++ piece :: behind) (hkind : piece.kind ≠ .newline) :
    ∃ inner, contentPieces line.content = front ++ piece :: inner := by
  have hending : piece ∉ Piece.ofText .newline line.ending.text :=
    fun hmem => hkind (Piece.kind_of_mem_ofText hmem)
  rcases List.append_eq_append_iff.mp h with ⟨inner, -, hinner⟩ | ⟨inner, hcontent, hinner⟩
  · simp [hinner] at hending
  · cases inner with
    | nil =>
        rw [List.nil_append] at hinner
        simp [← hinner] at hending
    | cons first inner =>
        obtain ⟨rfl, -⟩ := List.cons.inj hinner
        exact ⟨inner, hcontent⟩

theorem column_of_place {number column : Nat} {pieces : List Piece} {own later : List Token}
    {token : Token} (h : Piece.place number column pieces = own ++ token :: later) :
    token.column = column + units (Token.textOf own) := by
  induction own generalizing column pieces with
  | nil =>
      cases pieces with
      | nil => simp [Piece.place] at h
      | cons piece pieces =>
          rw [Piece.place, List.nil_append, List.cons.injEq] at h
          simp [← h.1]
  | cons first own ih =>
      cases pieces with
      | nil => simp [Piece.place] at h
      | cons piece pieces =>
          rw [Piece.place, List.cons_append, List.cons.injEq] at h
          rw [ih h.2, ← h.1]
          simp [Nat.add_assoc]

/-- The tokens in front of a token that stand on its line are the pieces in front of its own. -/
theorem exists_pieces_of_tokenize {source : String} {earlier later : List Token} {token : Token}
    (h : tokenize source = earlier ++ token :: later) :
    ∃ line own behind, LineAt source.toList token.row line ∧
      own = earlier.filter (fun other => other.line = token.line) ∧
      line.pieces = own.map Token.piece ++ token.piece :: behind ∧
      token.column = units (Token.textOf own) := by
  have hmem : token ∈ tokenize source := by simp [h]
  obtain ⟨index, line, hline, hnumber, -⟩ := exists_line_of_mem_placeLines hmem
  have hplace := filter_line_placeLines 1 index (lines source.toList)
  rw [hline, Option.map_some, Option.getD_some, ← hnumber, ← tokenize, h, List.filter_append,
    List.filter_cons_of_pos (by simp)] at hplace
  have hpieces := congrArg (List.map Token.piece) hplace
  rw [map_piece_place, List.map_append, List.map_cons] at hpieces
  have hrow : token.row = index := by
    rw [Token.row]
    omega
  refine ⟨line, _, _, hrow ▸ lineAt_of_getElem?_lines hline, rfl, hpieces.symm, ?_⟩
  simpa using column_of_place hplace.symm

theorem Token.EndsBefore.line_le {first second : Token} (h : first.EndsBefore second) :
    first.line ≤ second.line := by
  rcases h with hlt | ⟨heq, -⟩
  · exact hlt.le
  · exact heq.le

/-- Lines of tokens do not decrease, so all tokens between two of a line stand on that line. -/
theorem line_eq_of_tokenize {source : String} {front later : List Token}
    {keyword previous token : Token}
    (h : tokenize source = front ++ [previous] ++ token :: later)
    (hkeyword : keyword ∈ front ++ [previous]) (hline : keyword.line = token.line) :
    previous.line = token.line := by
  have hordered := tokenize_pairwise_endsBefore source
  rw [h, List.pairwise_append] at hordered
  obtain ⟨hfront, -, hbehind⟩ := hordered
  have hle := (hbehind previous (by simp) token (by simp)).line_le
  rw [List.pairwise_append] at hfront
  rcases List.mem_append.mp hkeyword with hmem | hmem
  · have hge := (hfront.2.2 keyword hmem previous (by simp)).line_le
    omega
  · rw [← List.mem_singleton.mp hmem]
    exact hline

/-! ### Tokens -/

theorem Piece.Shaped.isBlank_of_whitespace {piece : Piece} (h : piece.Shaped)
    (hkind : piece.kind = .whitespace) : ∀ c ∈ piece.text, isBlank c := by
  cases h with
  | whitespace h => exact h
  | _ => cases hkind

theorem Piece.Shaped.head?_of_comment {piece : Piece} (h : piece.Shaped) {kind : CommentKind}
    (hkind : piece.kind = .comment kind) : piece.text.head? = some '#' := by
  cases h with
  | comment h => exact h
  | _ => cases hkind

theorem Piece.Shaped.trimmed_of_argument {piece : Piece} (h : piece.Shaped) {kind : ArgumentKind}
    (hkind : piece.kind = .argument kind) (hvalue : kind ≠ .command) : Trimmed piece.text := by
  cases h with
  | argument h => exact h
  | command =>
      cases hkind
      exact absurd rfl hvalue
  | _ => cases hkind

theorem Token.flatMap_text_map_piece (tokens : List Token) :
    (tokens.map Token.piece).flatMap Piece.text = Token.textOf tokens := by
  rw [List.flatMap_map]
  rfl

theorem Instruction.button_of_mode_line {instruction : Instruction} {value : ArgumentKind}
    {comment : CommentKind} (h : instruction.mode = .line value comment) :
    instruction = .button ∧ value = .buttonData := by
  cases instruction <;> simp_all [mode]

/-- A comment behind a keyword ends the content of its line, and the tokens in front of it end with
whitespace or the text of a button. -/
theorem exists_content_of_comment {source : String} {earlier later : List Token}
    {token keyword : Token} {instruction : Instruction} {comment : CommentKind}
    (h : tokenize source = earlier ++ token :: later) (hcomment : token.kind = .comment comment)
    (hkeyword : keyword ∈ earlier) (hline : keyword.line = token.line)
    (hkind : keyword.kind = .instruction instruction) :
    ∃ line own, LineAt source.toList token.row line ∧
      own = earlier.filter (fun other => other.line = token.line) ∧
      line.content = Token.textOf own ++ token.text.toList ∧
      token.column = units (Token.textOf own) ∧
      ((own.map Token.kind).getLast? = some .whitespace ∨
        instruction = .button ∧ (own.map Token.kind).getLast? = some (.argument .buttonData)) := by
  obtain ⟨line, own, behind, hlineAt, hfilter, hpieces, hcolumn⟩ := exists_pieces_of_tokenize h
  have hown : token.piece.kind = .comment comment := hcomment
  obtain ⟨inner, hcontent⟩ := Line.exists_contentPieces_of_pieces hpieces (by simp [hown])
  have hkinds : (own.map Token.piece).map Piece.kind = own.map Token.kind := by
    rw [List.map_map]
    rfl
  have hmem : .instruction instruction ∈ own.map Token.kind := by
    refine List.mem_map.mpr ⟨keyword, ?_, hkind⟩
    rw [hfilter, List.mem_filter]
    exact ⟨hkeyword, by simpa using hline⟩
  have hgrammar := kinds_contentPieces hlineAt.wellFormed.not_mem
  rw [hcontent, List.map_append, List.map_cons, hown, hkinds] at hgrammar
  obtain ⟨hinner, hlast⟩ := comment_of_lineGrammar hgrammar hmem
  have hparts := content_of_contentPieces hcontent
  rw [List.map_eq_nil_iff.mp hinner, List.flatMap_nil, List.append_nil,
    Token.flatMap_text_map_piece] at hparts
  refine ⟨line, own, hlineAt, hfilter, hparts, hcolumn, hlast.imp_right ?_⟩
  rintro ⟨value, hmode, htext⟩
  obtain ⟨rfl, rfl⟩ := Instruction.button_of_mode_line hmode
  exact ⟨rfl, htext⟩

/-- A comment behind a keyword starts with its mark and takes the rest of its line. It stands behind
whitespace exactly if a blank is in front of it; otherwise it is right behind the text of a
button. -/
theorem comment_follows_whitespace_or_button_text (source : String) {earlier later : List Token}
    {token keyword : Token} {instruction : Instruction}
    (h : tokenize source = earlier ++ token :: later) (hcomment : token.kind.isComment)
    (hkeyword : keyword ∈ earlier) (hline : keyword.line = token.line)
    (hkind : keyword.kind = .instruction instruction) :
    ∃ line before previous, LineAt source.toList token.row line ∧
      line.content = before ++ token.text.toList ∧ token.column = units before ∧
      token.text.toList.head? = some '#' ∧
      earlier.getLast? = some previous ∧ previous.line = token.line ∧
      (previous.kind = .whitespace ↔ ∃ b ∈ before.getLast?, isBlank b) ∧
      (previous.kind = .whitespace ∨
        instruction = .button ∧ previous.kind = .argument .buttonData) := by
  obtain ⟨comment, hcomment⟩ : ∃ comment, token.kind = .comment comment := by
    revert hcomment
    cases token.kind <;> simp [TokenKind.isComment]
  obtain ⟨line, own, hlineAt, hfilter, hcontent, hcolumn, hlast⟩ :=
    exists_content_of_comment h hcomment hkeyword hline hkind
  have hmark := (shaped_of_mem_tokenize (by simp [h] : token ∈ tokenize source)).head?_of_comment
    hcomment
  rcases earlier.eq_nil_or_concat' with rfl | ⟨front, previous, rfl⟩
  · cases hkeyword
  -- The last of the tokens in front is also the last of those on the line.
  have hprevious := line_eq_of_tokenize h hkeyword hline
  have hend : own = front.filter (fun other => other.line = token.line) ++ [previous] := by
    simp [hfilter, hprevious]
  have hmem : previous ∈ tokenize source := by simp [h]
  have hne := text_ne_nil_of_mem_tokenize hmem
  have hbefore : (Token.textOf own).getLast? = previous.text.toList.getLast? := by
    rw [hend, Token.textOf_append, Token.textOf_cons, Token.textOf_nil, List.append_nil,
      List.getLast?_append_of_ne_nil _ hne]
  have hshaped := shaped_of_mem_tokenize hmem
  refine ⟨line, _, previous, hlineAt, hcontent, hcolumn, hmark, by simp, hprevious, ?_⟩
  rw [hbefore]
  simp only [hend, List.map_append, List.map_cons, List.map_nil, List.getLast?_concat,
    Option.some.injEq] at hlast
  refine ⟨?_, hlast⟩
  rcases hlast with hblank | ⟨-, htext⟩
  · have hlast := List.getLast?_eq_some_getLast hne
    have hblanks := hshaped.isBlank_of_whitespace hblank _ (List.getLast_mem hne)
    exact ⟨fun _ => ⟨_, hlast, hblanks⟩, fun _ => hblank⟩
  · have htrimmed := hshaped.trimmed_of_argument htext (by simp)
    constructor
    · intro hblank
      rw [htext] at hblank
      cases hblank
    · rintro ⟨b, hb, hblank⟩
      exact absurd hblank (htrimmed.last b hb)

/-- The mark inside the value starts no comment, but the one behind the tab does. -/
theorem comment_follows_whitespace_behind_marked_value :
    tokenize "ENV K v#w\t#c" =
      [⟨.instruction .env, 1, 0, "ENV"⟩, ⟨.whitespace, 1, 3, " "⟩,
        ⟨.argument .spacedAssignment, 1, 4, "K v#w"⟩, ⟨.whitespace, 1, 9, "\t"⟩] ++
          ⟨.comment .env, 1, 10, "#c"⟩ :: [] ∧
    ∃ line before, LineAt "ENV K v#w\t#c".toList 0 line ∧
      line.content = before ++ "#c".toList ∧ units before = 10 ∧
      ∃ b ∈ before.getLast?, isBlank b := by
  have htokens : tokenize "ENV K v#w\t#c" =
      [⟨.instruction .env, 1, 0, "ENV"⟩, ⟨.whitespace, 1, 3, " "⟩,
        ⟨.argument .spacedAssignment, 1, 4, "K v#w"⟩, ⟨.whitespace, 1, 9, "\t"⟩] ++
          ⟨.comment .env, 1, 10, "#c"⟩ :: [] := by decide +kernel
  obtain ⟨line, before, previous, hline, hcontent, hcolumn, -, -, -, hblank, hkind⟩ :=
    comment_follows_whitespace_or_button_text _ htokens rfl List.mem_cons_self rfl rfl
  have hspace : previous.kind = .whitespace := by simpa using hkind
  exact ⟨htokens, line, before, hline, hcontent, hcolumn.symm, hblank.mp hspace⟩

/-- Inside the text of a button a mark starts a comment behind any character. -/
theorem comment_follows_button_text_without_blank :
    tokenize "BUTTON a#b" =
      [⟨.instruction .button, 1, 0, "BUTTON"⟩, ⟨.whitespace, 1, 6, " "⟩,
        ⟨.argument .buttonData, 1, 7, "a"⟩, ⟨.comment .button, 1, 8, "#b"⟩] ∧
    "BUTTON a".toList.getLast? = some 'a' ∧ ¬ isBlank 'a' := by
  decide +kernel

end Layerfile
