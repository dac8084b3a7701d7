import Layerfile.Proofs.Conformance
import Layerfile.Proofs.Independence

/-! Reading and splitting agree on assignments and conditions. What is read as one of them starts
with a key in front of a delimiter, and that delimiter is the first one that splitting finds. -/

namespace Layerfile

open Text

/-! ### What is read -/

theorem Lexicon.exists_lexeme_of_argument {κ : Type} {lexicon : Lexicon κ} {kindOf : κ → TokenKind}
    {text : List Char} {piece : Piece} {kind : ArgumentKind}
    (h : piece ∈ (lexicon.scan text).map (Lexeme.toPiece kindOf))
    (hkind : piece.kind = .argument kind) :
    ∃ own, kindOf own = .argument kind ∧ ⟨some own, piece.text⟩ ∈ lexicon.scan text := by
  obtain ⟨⟨own, word⟩, hlexeme, rfl⟩ := List.mem_map.mp h
  cases own with
  | none => cases hkind
  | some own => exact ⟨own, hkind, hlexeme⟩

/-- A word keeps the key at its front, however far it stretches. -/
theorem Lexicon.Reads.exists_text_next {κ : Type} {lexicon : Lexicon κ} {blank comment : κ}
    (hreads : lexicon.unstretched.Reads blank comment isWordChar) {c : Char}
    {rest key tail : List Char} (htext : c :: rest = key ++ tail) (hne : key ≠ [])
    (hkey : ∀ d ∈ key, opensWord d) :
    ∃ more, (lexicon.next c rest).1.text = key ++ (tail.takeWhile isWordChar ++ more) := by
  obtain ⟨d, key, rfl⟩ := List.exists_cons_of_ne_nil hne
  rw [List.cons_append, List.cons.injEq] at htext
  obtain ⟨rfl, rfl⟩ := htext
  rw [List.forall_mem_cons] at hkey
  obtain ⟨kind, -, -, hword⟩ := hreads.next_item c (key ++ tail) hkey.1
  rw [List.takeWhile_append_of_pos (p := isWordChar)
    fun d hd => isWordChar_of_opensWord (hkey.2 d hd)] at hword
  rw [next_of_unstretched hword]
  exact ⟨_, by rw [← List.cons_append, List.append_assoc]⟩

theorem exists_key_of_mem_envLexicon {text word : List Char}
    (h : ⟨some .assignment, word⟩ ∈ envLexicon.scan text) :
    ∃ key value, word = key ++ '=' :: value ∧ key ≠ [] ∧ '=' ∉ key := by
  obtain ⟨c, rest, hnext⟩ := Lexicon.exists_next_of_mem_scan h
  obtain ⟨rule, hrule, hsame, hpos⟩ :=
    Lexicon.exists_rule_of_next (congrArg Lexeme.kind hnext).symm
  obtain rfl : rule = .assignment .assignment := by
    simp only [envLexicon, envRules, List.mem_cons, List.not_mem_nil, or_false] at hrule
    rcases hrule with rfl | rfl | rfl | rfl
    · cases hsame
    · cases hsame
    · rfl
    · cases hsame
  obtain ⟨key, value, htext, hne, hkey, -⟩ := Rule.exists_key_of_assignment hpos
  obtain ⟨more, hmore⟩ :=
    envLexicon_reads.exists_text_next htext hne fun d hd => (hkey d hd).1
  rw [← hnext, List.takeWhile_cons_of_pos (by decide)] at hmore
  exact ⟨key, _, hmore, hne, fun hmem => (hkey _ hmem).2 rfl⟩

theorem startsWithComparison_takeWhile {tail : List Char} (h : startsWithComparison tail)
    (more : List Char) : startsWithComparison (tail.takeWhile isWordChar ++ more) := by
  unfold startsWithComparison at h
  split at h
  · rw [List.takeWhile_cons_of_pos (by decide)]
    rfl
  · rw [List.takeWhile_cons_of_pos (by decide), List.takeWhile_cons_of_pos (by decide)]
    rfl
  · cases h

theorem exists_key_of_mem_conditionLexicon {text word : List Char}
    (h : ⟨some .condition, word⟩ ∈ conditionLexicon.scan text) :
    ∃ key tail, word = key ++ tail ∧ key ≠ [] ∧
      (∀ c ∈ key, c ≠ '=' ∧ c ≠ '!' ∧ c ≠ '~') ∧ startsWithComparison tail := by
  obtain ⟨c, rest, hnext⟩ := Lexicon.exists_next_of_mem_scan h
  obtain ⟨rule, hrule, hsame, hpos⟩ :=
    Lexicon.exists_rule_of_next (congrArg Lexeme.kind hnext).symm
  obtain rfl : rule = .condition .condition := by
    simp only [conditionLexicon, List.mem_cons, List.not_mem_nil, or_false] at hrule
    rcases hrule with rfl | rfl | rfl | rfl | rfl
    · cases hsame
    · cases hsame
    · cases hsame
    · rfl
    · cases hsame
  obtain ⟨key, tail, htext, hne, hkey, hstarts, -⟩ := Rule.exists_key_of_condition hpos
  have hreads : conditionLexicon.unstretched.Reads .blank .comment isWordChar :=
    conditionLexicon_reads
  obtain ⟨more, hmore⟩ := hreads.exists_text_next htext hne fun d hd => (hkey d hd).1
  rw [← hnext] at hmore
  exact ⟨key, _, hmore, hne, fun d hd => (hkey d hd).2,
    startsWithComparison_takeWhile hstarts more⟩

/-! ### Delimited tokens of a source -/

theorem ArgumentMode.mem_kinds_of_mem_cut {mode : ArgumentMode} {arguments : List Char}
    {piece : Piece} {kind : ArgumentKind} (hboundary : atWordBoundary arguments)
    (hfeed : '\n' ∉ arguments) (h : piece ∈ mode.cut arguments)
    (hkind : piece.kind = .argument kind) : .argument kind ∈ mode.kinds := by
  have hmem : piece.kind ∈ (mode.cut arguments).map Piece.kind := List.mem_map_of_mem h
  rw [hkind] at hmem
  rcases ArgumentMode.mem_kinds_of_grammar (mode.kinds_cut hboundary hfeed) _ hmem with
    hblank | hmem
  · cases hblank
  · exact hmem

theorem exists_mode_of_mem_tokenize {source : String} {token : Token} {kind : ArgumentKind}
    (h : token ∈ tokenize source) (hkind : token.kind = .argument kind) :
    ∃ (instruction : Instruction) (arguments : List Char), '\n' ∉ arguments ∧
      .argument kind ∈ instruction.mode.kinds ∧
      ⟨token.kind, token.text.toList⟩ ∈ instruction.mode.cut arguments := by
  obtain ⟨instruction, arguments, hfeed, hboundary, hpiece⟩ := exists_cut_of_mem_tokenize h hkind
  exact ⟨instruction, arguments, hfeed,
    ArgumentMode.mem_kinds_of_mem_cut hboundary hfeed hpiece hkind, hpiece⟩

theorem Instruction.mode_of_assignment (instruction : Instruction)
    (h : .argument .assignment ∈ instruction.mode.kinds) : instruction.mode = .env := by
  revert h
  cases instruction <;> decide

theorem Instruction.mode_of_condition (instruction : Instruction)
    (h : .argument .condition ∈ instruction.mode.kinds) : instruction.mode = .conditions := by
  revert h
  cases instruction <;> decide

section

variable {source : String} {token : Token}

theorem exists_key_of_assignment (h : token ∈ tokenize source)
    (hkind : token.kind = .argument .assignment) :
    ∃ key value, token.text.toList = key ++ '=' :: value ∧ key ≠ [] ∧ '=' ∉ key := by
  obtain ⟨instruction, arguments, -, hmem, hpiece⟩ := exists_mode_of_mem_tokenize h hkind
  rw [instruction.mode_of_assignment hmem] at hpiece
  obtain ⟨own, hown, hlexeme⟩ := Lexicon.exists_lexeme_of_argument hpiece hkind
  obtain rfl : own = .assignment := by
    revert hown
    cases own <;> decide
  exact exists_key_of_mem_envLexicon hlexeme

theorem exists_key_of_condition (h : token ∈ tokenize source)
    (hkind : token.kind = .argument .condition) :
    ∃ key tail, token.text.toList = key ++ tail ∧ key ≠ [] ∧
      (∀ c ∈ key, c ≠ '=' ∧ c ≠ '!' ∧ c ≠ '~') ∧ startsWithComparison tail := by
  obtain ⟨instruction, arguments, hfeed, hmem, hpiece⟩ := exists_mode_of_mem_tokenize h hkind
  rw [instruction.mode_of_condition hmem, ArgumentMode.cut_conditions hfeed] at hpiece
  obtain ⟨own, hown, hlexeme⟩ := Lexicon.exists_lexeme_of_argument hpiece hkind
  obtain rfl : own = .condition := by
    revert hown
    cases own <;> decide
  exact exists_key_of_mem_conditionLexicon hlexeme

end

/-! ### Where a text is cut -/

namespace Delimiter

/-- The first delimiter stands behind a key that no delimiter can start in. -/
theorem cut?_append {delimiter : Delimiter} {key tail : List Char}
    (hkey : ∀ c ∈ key, ∀ rest, delimiter.width (c :: rest) = 0)
    (htail : 0 < delimiter.width tail) :
    ∃ cut, delimiter.cut? (key ++ tail) = some cut ∧ cut.before = key := by
  induction key with
  | nil =>
      cases tail with
      | nil => cases delimiter <;> simp [width] at htail
      | cons c rest =>
          obtain ⟨size, hsize⟩ := Nat.exists_eq_add_of_lt htail
          rw [Nat.zero_add] at hsize
          refine ⟨⟨[], (c :: rest).take (size + 1), (c :: rest).drop (size + 1)⟩, ?_, rfl⟩
          simp [cut?, hsize]
  | cons c key ih =>
      rw [List.forall_mem_cons] at hkey
      obtain ⟨cut, hcut, rfl⟩ := ih hkey.2
      refine ⟨{ cut with before := c :: cut.before }, ?_, rfl⟩
      rw [List.cons_append, cut?, hkey.1]
      simp [hcut]

theorem segment_isPrefix (delimiter : Delimiter) (cut : Cut) :
    delimiter.segment cut <+: cut.after := by
  unfold segment
  split
  · next later hlater =>
      rw [← append_of_cut? hlater, List.append_assoc]
      exact List.prefix_append _ _
  · exact List.prefix_rfl

theorem width_equals_of_ne {c : Char} (hc : c ≠ '=') (rest : List Char) :
    equals.width (c :: rest) = 0 := by
  simp [width, hc]

theorem width_comparison_of_ne {c : Char} (hc : c ≠ '=' ∧ c ≠ '!') (rest : List Char) :
    comparison.width (c :: rest) = 0 := by
  simp [width, hc]

/-- Reading and splitting know the same comparisons. -/
theorem width_comparison_pos_iff (text : List Char) :
    0 < comparison.width text ↔ startsWithComparison text := by
  unfold width startsWithComparison
  split <;> split <;> simp_all

end Delimiter

theorem exists_offsetOf? {needle text : List Char} (h : needle <:+: text) :
    ∃ offset, offsetOf? needle text = some offset := by
  induction text with
  | nil => simp [offsetOf?, List.infix_nil.mp h]
  | cons c rest ih =>
      rw [offsetOf?]
      split
      · exact ⟨0, rfl⟩
      · next hprefix =>
          rcases List.infix_cons_iff.mp h with h | h
          · exact absurd (List.isPrefixOf_iff_prefix.mpr h) hprefix
          · obtain ⟨offset, hoffset⟩ := ih h
            exact ⟨offset + 1, by simp [hoffset]⟩

/-- The value of a cut is always found again. -/
theorem Token.exists_valueOffset (delimiter : Delimiter) (mode : ValueSpan) (cut : Cut) :
    ∃ offset, valueOffset delimiter mode cut = some offset := by
  cases mode with
  | structural => exact ⟨_, rfl⟩
  | absorbToEnd =>
      have hinfix : delimiter.segment cut <:+: cut.delimiter ++ cut.after :=
        (delimiter.segment_isPrefix cut).isInfix.trans (List.suffix_append _ _).isInfix
      obtain ⟨offset, hoffset⟩ := exists_offsetOf? hinfix
      exact ⟨cut.before.length + offset, by simp [valueOffset, hoffset]⟩

/-! ### The spans of delimited tokens -/

/-- The span over a key at the front of a token. -/
def Token.keySpan (token : Token) (key : List Char) : Span where
  line := token.row
  start := token.column
  length := Text.units key
  category := .variableName

/-- A token with two spans, one over a key and one over a value that runs to the end of the
token. It goes without them only if the value starts beyond the last position. -/
structure Token.Splits (mode : ValueSpan) (token : Token) (key : List Char) (value : Span) :
    Prop where
  line_value : value.line = token.row
  end_value : value.start + value.length = token.column + token.units
  spans_eq : token.spans mode =
    if value.start < positionLimit then .ok [token.keySpan key, value] else .error .overflow

structure Token.SplitsInto (mode : ValueSpan) (token : Token) (key : List Char) (value : Span) :
    Prop extends Token.Splits mode token key value where
  key_ne_nil : key ≠ []

theorem Token.exists_splits {token : Token} {delimiter : Delimiter} (mode : ValueSpan)
    (hkind : token.kind.highlight = .compound ⟨.variableName, .string, delimiter⟩)
    {key tail : List Char} (htext : token.text.toList = key ++ tail)
    (hkey : ∀ c ∈ key, ∀ rest, delimiter.width (c :: rest) = 0)
    (htail : 0 < delimiter.width tail) : ∃ value, token.Splits mode key value := by
  obtain ⟨cut, hcut, rfl⟩ := Delimiter.cut?_append hkey htail
  rw [← htext] at hcut
  obtain ⟨offset, hoffset⟩ := exists_valueOffset delimiter mode cut
  obtain ⟨middle, last, hparts, hsplit⟩ :=
    token.split_of_cut? ⟨.variableName, .string, delimiter⟩ hcut hoffset
  refine ⟨token.spanOver (cut.before ++ middle) last .string, rfl, ?_,
    spans_of_split hkind hsplit⟩
  rw [Token.units, hparts, units_append _ last, ← Nat.add_assoc]
  rfl

theorem Token.exists_splitsInto {token : Token} {delimiter : Delimiter} (mode : ValueSpan)
    (hkind : token.kind.highlight = .compound ⟨.variableName, .string, delimiter⟩)
    {key tail : List Char} (htext : token.text.toList = key ++ tail) (hne : key ≠ [])
    (hkey : ∀ c ∈ key, ∀ rest, delimiter.width (c :: rest) = 0)
    (htail : 0 < delimiter.width tail) : ∃ value, token.SplitsInto mode key value := by
  obtain ⟨value, hsplits⟩ := exists_splits mode hkind htext hkey htail
  exact ⟨value, hsplits, hne⟩

theorem highlight_around {mode : ValueSpan} {source : String} {earlier later : List Token}
    {token : Token} (h : tokenize source = earlier ++ token :: later)
    (hlimit : units source.toList < positionLimit) {own : List Span}
    (hown : token.spans mode = .ok own) :
    ∃ before after, collectSpans mode earlier = .ok before ∧
      collectSpans mode later = .ok after ∧
      highlight mode source = .ok (before ++ own ++ after) := by
  have hbound : ∀ other ∈ tokenize source, other.column + other.units < positionLimit := by
    intro other hother
    exact (column_add_units_le_of_mem_tokenize hother).trans_lt hlimit
  rw [h, List.forall_mem_append, List.forall_mem_cons] at hbound
  obtain ⟨before, hbefore⟩ := exists_collectSpans mode hbound.1
  obtain ⟨after, hafter⟩ := exists_collectSpans mode hbound.2.2
  have hrest : collectSpans mode (token :: later) = .ok (own ++ after) := by
    simp only [collectSpans, hown, hafter]
    rfl
  refine ⟨before, after, hbefore, hafter, ?_⟩
  rw [highlight, h, collectSpans_append hbefore hrest, List.append_assoc]

theorem Token.Splits.exists_highlight {mode : ValueSpan} {source : String}
    {earlier later : List Token} {token : Token} {key : List Char} {value : Span}
    (hsplits : token.Splits mode key value)
    (h : tokenize source = earlier ++ token :: later)
    (hlimit : Text.units source.toList < positionLimit) :
    ∃ before after, collectSpans mode earlier = .ok before ∧
      collectSpans mode later = .ok after ∧
      highlight mode source = .ok (before ++ [token.keySpan key, value] ++ after) := by
  have hmem : token ∈ tokenize source := by simp [h]
  have hend := hsplits.end_value
  have hunits := column_add_units_le_of_mem_tokenize hmem
  have hspans := hsplits.spans_eq
  rw [if_pos (by omega)] at hspans
  exact highlight_around h hlimit hspans

section

variable (mode : ValueSpan) {source : String} {token : Token}

theorem exists_splitsInto_of_assignment (h : token ∈ tokenize source)
    (hkind : token.kind = .argument .assignment) :
    '=' ∈ token.text.toList ∧
      ∃ value, token.SplitsInto mode (token.text.toList.takeWhile (· != '=')) value := by
  obtain ⟨key, rest, htext, hne, hequals⟩ := exists_key_of_assignment h hkind
  have hchars : ∀ c ∈ key, c ≠ '=' := by
    rintro c hc rfl
    exact hequals hc
  have hkey : token.text.toList.takeWhile (· != '=') = key := by
    rw [htext, List.takeWhile_append_of_pos (by simpa using hchars),
      List.takeWhile_cons_of_neg (by decide), List.append_nil]
  have hhighlight : token.kind.highlight = .compound ⟨.variableName, .string, .equals⟩ := by
    rw [hkind]
    rfl
  rw [hkey]
  exact ⟨by simp [htext], Token.exists_splitsInto mode hhighlight htext hne
    (fun c hc => Delimiter.width_equals_of_ne (hchars c hc)) Nat.one_pos⟩

theorem exists_splitsInto_of_condition (h : token ∈ tokenize source)
    (hkind : token.kind = .argument .condition) :
    ∃ value, token.SplitsInto mode
      (token.text.toList.takeWhile fun c => c != '=' && c != '!' && c != '~') value := by
  obtain ⟨key, tail, htext, hne, hchars, hstarts⟩ := exists_key_of_condition h hkind
  have htail : tail.takeWhile (fun c => c != '=' && c != '!' && c != '~') = [] := by
    unfold startsWithComparison at hstarts
    split at hstarts
    · rfl
    · rfl
    · cases hstarts
  have hkey : token.text.toList.takeWhile (fun c => c != '=' && c != '!' && c != '~') = key := by
    rw [htext, List.takeWhile_append_of_pos (by simpa [and_assoc] using hchars), htail,
      List.append_nil]
  have hhighlight : token.kind.highlight = .compound ⟨.variableName, .string, .comparison⟩ := by
    rw [hkind]
    rfl
  rw [hkey]
  exact Token.exists_splitsInto mode hhighlight htext hne
    (fun c hc => Delimiter.width_comparison_of_ne ⟨(hchars c hc).1, (hchars c hc).2.1⟩)
    ((Delimiter.width_comparison_pos_iff tail).mpr hstarts)

end

/-- Every assignment and every condition of a source is split. Its key is what stands before the
first equals sign, or before the first character that a comparison can hold. -/
theorem highlight_splits_delimited_tokens (mode : ValueSpan) (source : String)
    {earlier later : List Token} {token : Token}
    (h : tokenize source = earlier ++ token :: later)
    (hkind : token.kind = .argument .assignment ∨ token.kind = .argument .condition) :
    ∃ key value, token.SplitsInto mode key value ∧
      (token.kind = .argument .assignment →
        '=' ∈ token.text.toList ∧ key = token.text.toList.takeWhile (· != '=')) ∧
      (token.kind = .argument .condition →
        key = token.text.toList.takeWhile fun c => c != '=' && c != '!' && c != '~') ∧
      (units source.toList < positionLimit → ∃ before after,
        collectSpans mode earlier = .ok before ∧ collectSpans mode later = .ok after ∧
        highlight mode source = .ok (before ++ [token.keySpan key, value] ++ after)) := by
  have hmem : token ∈ tokenize source := by simp [h]
  rcases hkind with hkind | hkind
  · obtain ⟨hequals, value, hsplits⟩ := exists_splitsInto_of_assignment mode hmem hkind
    exact ⟨_, value, hsplits, fun _ => ⟨hequals, rfl⟩, by simp [hkind],
      hsplits.exists_highlight h⟩
  · obtain ⟨value, hsplits⟩ := exists_splitsInto_of_condition mode hmem hkind
    exact ⟨_, value, hsplits, by simp [hkind], fun _ => rfl, hsplits.exists_highlight h⟩

/-- The quoted value has an equals sign of its own, and the operator goes on behind the longest
comparison. -/
theorem highlight_splits_quoted_value_and_long_operator :
    (∃ earlier later, tokenize "ENV 🚀=\"x =y\" # z" =
        earlier ++ ⟨.argument .assignment, 1, 4, "🚀=\"x =y\""⟩ :: later ∧
      ∃ value before after, highlight .absorbToEnd "ENV 🚀=\"x =y\" # z" =
        .ok (before ++ [⟨0, 4, 2, .variableName, []⟩, value] ++ after)) ∧
    ∃ earlier later, tokenize "SKIP REMAINING IF a!=~~b AND" =
        earlier ++ ⟨.argument .condition, 1, 18, "a!=~~b"⟩ :: later ∧
      ∃ value before after, highlight .structural "SKIP REMAINING IF a!=~~b AND" =
        .ok (before ++ [⟨0, 18, 1, .variableName, []⟩, value] ++ after) := by
  constructor
  · have htokens : tokenize "ENV 🚀=\"x =y\" # z" =
        [⟨.instruction .env, 1, 0, "ENV"⟩, ⟨.whitespace, 1, 3, " "⟩] ++
          ⟨.argument .assignment, 1, 4, "🚀=\"x =y\""⟩ ::
            [⟨.whitespace, 1, 13, " "⟩, ⟨.comment .env, 1, 14, "# z"⟩] := by
      decide +kernel
    obtain ⟨key, value, -, hassignment, -, hhighlight⟩ :=
      highlight_splits_delimited_tokens .absorbToEnd _ htokens (.inl rfl)
    obtain rfl : key = ['🚀'] := (hassignment rfl).2.trans (by decide)
    obtain ⟨before, after, -, -, hspans⟩ := hhighlight (by decide)
    exact ⟨_, _, htokens, value, before, after, hspans⟩
  · have htokens : tokenize "SKIP REMAINING IF a!=~~b AND" =
        [⟨.instruction .skipRemainingIf, 1, 0, "SKIP REMAINING IF"⟩, ⟨.whitespace, 1, 17, " "⟩] ++
          ⟨.argument .condition, 1, 18, "a!=~~b"⟩ ::
            [⟨.whitespace, 1, 24, " "⟩, ⟨.argument .conjunction, 1, 25, "AND"⟩] := by
      decide +kernel
    obtain ⟨key, value, -, -, hcondition, hhighlight⟩ :=
      highlight_splits_delimited_tokens .structural _ htokens (.inr rfl)
    obtain rfl : key = ['a'] := (hcondition rfl).trans (by decide)
    obtain ⟨before, after, -, -, hspans⟩ := hhighlight (by decide)
    exact ⟨_, _, htokens, value, before, after, hspans⟩

end Layerfile
