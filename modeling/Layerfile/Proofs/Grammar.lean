import Layerfile.Argument.Mode
import Mathlib.Computability.RegularExpressions
import Mathlib.Data.List.Chain

/-! The grammar of a line, as regular expressions over token kinds, and what follows from it for
every line that conforms to it. -/

namespace Layerfile

/-! ### The grammar -/

namespace Grammar

def blank : RegularExpression TokenKind :=
  .char .whitespace

/-- What can stand behind the last argument: nothing, blanks, or blanks and a comment. -/
def close (comment : CommentKind) : RegularExpression TokenKind :=
  1 + blank + blank * .char (.comment comment)

/-- Items with blanks in front of each, then `last`. -/
def items (item last : RegularExpression TokenKind) : RegularExpression TokenKind :=
  .star (blank * item) * last

end Grammar

open Grammar

/-- The arguments that a mode admits behind a keyword. -/
def ArgumentMode.grammar : ArgumentMode → RegularExpression TokenKind
  | words value comment => items (.char (.argument value)) (close comment)
  | line value comment =>
    close comment +
      blank * .char (.argument value) * (1 + blank) * (1 + .char (.comment comment))
  | command => 1 + blank + blank * .char (.argument .command) * (1 + blank)
  | env =>
    items (.char (.argument .assignment))
      ((1 + blank * .char (.argument .spacedAssignment)) * close .env)
  | conditions =>
    items (.char (.argument .conjunction) + .char (.argument .condition) + .char .unknown)
      (close .line)

def Instruction.grammar (instruction : Instruction) : RegularExpression TokenKind :=
  .char (.instruction instruction) * instruction.mode.grammar

/-- A line without its ending: indentation, then nothing, a comment, unknown text or an
instruction. -/
def lineGrammar : RegularExpression TokenKind :=
  (1 + blank) * (1 + .char (.comment .line) + .char .unknown +
    (Instruction.all.map Instruction.grammar).sum)

/-- The kinds, apart from whitespace, that can stand behind the keyword of an instruction. -/
def ArgumentMode.kinds : ArgumentMode → List TokenKind
  | words value comment | line value comment => [.argument value, .comment comment]
  | command => [.argument .command]
  | env => [.argument .assignment, .argument .spacedAssignment, .comment .env]
  | conditions => [.argument .conjunction, .argument .condition, .unknown, .comment .line]

/-! ### Words of the grammar -/

namespace Grammar

variable {first second item last : RegularExpression TokenKind} {kinds : List TokenKind}

theorem mem_one : kinds ∈ (1 : RegularExpression TokenKind).matches' ↔ kinds = [] :=
  Iff.rfl

theorem mem_char {kind : TokenKind} :
    kinds ∈ (RegularExpression.char kind).matches' ↔ kinds = [kind] :=
  Iff.rfl

theorem mem_add : kinds ∈ (first + second).matches' ↔
    kinds ∈ first.matches' ∨ kinds ∈ second.matches' :=
  Iff.rfl

theorem mem_mul : kinds ∈ (first * second).matches' ↔
    ∃ front ∈ first.matches', ∃ rest ∈ second.matches', front ++ rest = kinds :=
  Iff.rfl

theorem mem_sum {expressions : List (RegularExpression TokenKind)} :
    kinds ∈ expressions.sum.matches' ↔ ∃ expression ∈ expressions, kinds ∈ expression.matches' := by
  induction expressions with
  | nil => simp
  | cons expression expressions ih => rw [List.sum_cons, mem_add, ih, List.exists_mem_cons_iff]

theorem mem_close {comment : CommentKind} : kinds ∈ (close comment).matches' ↔
    kinds = [] ∨ kinds = [.whitespace] ∨ kinds = [.whitespace, .comment comment] := by
  simp [close, blank, mem_add, mem_mul, mem_one, mem_char, or_assoc, eq_comm,
    -RegularExpression.matches']

theorem mem_items_of_last (h : kinds ∈ last.matches') : kinds ∈ (items item last).matches' :=
  mem_mul.mpr ⟨[], Language.nil_mem_kstar _, kinds, h, rfl⟩

theorem cons_mem_items {kind : TokenKind} (hkind : [kind] ∈ item.matches')
    (h : kinds ∈ (items item last).matches') :
    .whitespace :: kind :: kinds ∈ (items item last).matches' := by
  obtain ⟨front, hfront, rest, hrest, rfl⟩ := mem_mul.mp h
  obtain ⟨words, rfl, hwords⟩ := Language.mem_kstar.mp hfront
  refine mem_mul.mpr ⟨[.whitespace, kind] ++ words.flatten, ?_, rest, hrest, rfl⟩
  refine Language.mem_kstar.mpr ⟨[.whitespace, kind] :: words, rfl, ?_⟩
  rw [List.forall_mem_cons]
  exact ⟨mem_mul.mpr ⟨_, mem_char.mpr rfl, _, hkind, rfl⟩, hwords⟩

def letters : RegularExpression TokenKind → List TokenKind
  | .zero | .epsilon => []
  | .char kind => [kind]
  | .plus first second | .comp first second => letters first ++ letters second
  | .star expression => letters expression

@[simp] theorem letters_one : letters 1 = [] := rfl

@[simp] theorem letters_char (kind : TokenKind) : letters (.char kind) = [kind] := rfl

@[simp] theorem letters_add (first second : RegularExpression TokenKind) :
    letters (first + second) = letters first ++ letters second := rfl

@[simp] theorem letters_mul (first second : RegularExpression TokenKind) :
    letters (first * second) = letters first ++ letters second := rfl

@[simp] theorem letters_star (expression : RegularExpression TokenKind) :
    letters (.star expression) = letters expression := rfl

theorem mem_letters_of_mem {expression : RegularExpression TokenKind}
    (h : kinds ∈ expression.matches') : ∀ kind ∈ kinds, kind ∈ letters expression := by
  induction expression generalizing kinds with
  | zero => exact absurd h (Language.notMem_zero kinds)
  | epsilon =>
      obtain rfl : kinds = [] := mem_one.mp h
      simp
  | char letter =>
      obtain rfl := mem_char.mp h
      simp [letters]
  | plus first second ihfirst ihsecond =>
      intro kind hkind
      rw [letters, List.mem_append]
      rcases mem_add.mp h with h | h
      · exact .inl (ihfirst h kind hkind)
      · exact .inr (ihsecond h kind hkind)
  | comp first second ihfirst ihsecond =>
      obtain ⟨front, hfront, rest, hrest, rfl⟩ := mem_mul.mp h
      intro kind hkind
      rw [letters, List.mem_append]
      rcases List.mem_append.mp hkind with hkind | hkind
      · exact .inl (ihfirst hfront kind hkind)
      · exact .inr (ihsecond hrest kind hkind)
  | star expression ih =>
      obtain ⟨words, rfl, hwords⟩ := Language.mem_kstar.mp h
      intro kind hkind
      obtain ⟨word, hword, hkind⟩ := List.mem_flatten.mp hkind
      exact ih (hwords word hword) kind hkind

end Grammar

theorem ArgumentMode.mem_kinds_of_grammar {mode : ArgumentMode} {kinds : List TokenKind}
    (h : kinds ∈ mode.grammar.matches') :
    ∀ kind ∈ kinds, kind = .whitespace ∨ kind ∈ mode.kinds := by
  intro kind hkind
  have hletter := mem_letters_of_mem h kind hkind
  cases mode <;>
    simp only [grammar, items, close, blank, letters_one, letters_char, letters_add, letters_mul,
      letters_star, List.mem_append, List.mem_singleton, List.not_mem_nil] at hletter <;>
    simp only [ArgumentMode.kinds, List.mem_cons, List.not_mem_nil] <;>
    tauto

theorem mem_lineGrammar {kinds : List TokenKind} : kinds ∈ lineGrammar.matches' ↔
    ∃ indentation rest, kinds = indentation ++ rest ∧
      (indentation = [] ∨ indentation = [.whitespace]) ∧
      (rest = [] ∨ rest = [.comment .line] ∨ rest = [.unknown] ∨
        ∃ instruction arguments, rest = .instruction instruction :: arguments ∧
          arguments ∈ (Instruction.mode instruction).grammar.matches') := by
  have hinstruction : ∀ rest : List TokenKind,
      rest ∈ (Instruction.all.map Instruction.grammar).sum.matches' ↔
        ∃ instruction arguments, rest = .instruction instruction :: arguments ∧
          arguments ∈ (Instruction.mode instruction).grammar.matches' := by
    intro rest
    simp only [mem_sum, List.mem_map, Instruction.mem_all, true_and, exists_exists_eq_and]
    constructor
    · rintro ⟨instruction, h⟩
      obtain ⟨front, hfront, arguments, harguments, rfl⟩ := mem_mul.mp h
      obtain rfl := mem_char.mp hfront
      exact ⟨instruction, arguments, rfl, harguments⟩
    · rintro ⟨instruction, arguments, rfl, harguments⟩
      exact ⟨instruction, mem_mul.mpr ⟨_, mem_char.mpr rfl, arguments, harguments, rfl⟩⟩
  rw [lineGrammar, mem_mul]
  simp only [mem_add, mem_one, mem_char, hinstruction, blank, or_assoc]
  constructor
  · rintro ⟨indentation, hindentation, rest, hrest, rfl⟩
    exact ⟨indentation, rest, rfl, hindentation, hrest⟩
  · rintro ⟨indentation, rest, rfl, hindentation, hrest⟩
    exact ⟨indentation, hindentation, rest, hrest, rfl⟩

/-- Nothing but a comment can stand behind a spaced assignment. -/
example : lineGrammar.rmatch [.instruction .env, .whitespace, .argument .spacedAssignment,
    .whitespace, .argument .assignment] = false := by
  decide +kernel

/-! ### What conforming lines have in common -/

theorem ArgumentMode.not_isInstruction_of_mem_kinds (mode : ArgumentMode) :
    ∀ kind ∈ mode.kinds, ¬ kind.isInstruction := by
  cases mode <;> simp [ArgumentMode.kinds, TokenKind.isInstruction]

theorem ArgumentMode.countP_isInstruction_of_grammar {mode : ArgumentMode}
    {kinds : List TokenKind} (h : kinds ∈ mode.grammar.matches') :
    kinds.countP TokenKind.isInstruction = 0 := by
  rw [List.countP_eq_zero]
  intro kind hkind
  rcases mem_kinds_of_grammar h kind hkind with rfl | hkind
  · simp [TokenKind.isInstruction]
  · exact mode.not_isInstruction_of_mem_kinds kind hkind

section

variable {kinds : List TokenKind}

theorem countP_isInstruction_of_lineGrammar (h : kinds ∈ lineGrammar.matches') :
    kinds.countP TokenKind.isInstruction ≤ 1 := by
  obtain ⟨indentation, rest, rfl, hindentation, hrest⟩ := mem_lineGrammar.mp h
  have hblank : indentation.countP TokenKind.isInstruction = 0 := by
    rcases hindentation with rfl | rfl <;> rfl
  rw [List.countP_append, hblank, Nat.zero_add]
  rcases hrest with rfl | rfl | rfl | ⟨instruction, arguments, rfl, harguments⟩
  · exact Nat.zero_le _
  · exact Nat.zero_le _
  · exact Nat.zero_le _
  · rw [List.countP_cons, ArgumentMode.countP_isInstruction_of_grammar harguments]
    simp [TokenKind.isInstruction]

theorem kind_of_lineGrammar_without_instruction (h : kinds ∈ lineGrammar.matches')
    (hnone : ∀ instruction, .instruction instruction ∉ kinds) :
    ∀ kind ∈ kinds, kind = .whitespace ∨ kind = .comment .line ∨ kind = .unknown := by
  obtain ⟨indentation, rest, rfl, hindentation, hrest⟩ := mem_lineGrammar.mp h
  rcases hrest with rfl | rfl | rfl | ⟨instruction, arguments, rfl, harguments⟩
  · rcases hindentation with rfl | rfl <;> simp
  · rcases hindentation with rfl | rfl <;> simp
  · rcases hindentation with rfl | rfl <;> simp
  · exact absurd (by simp) (hnone instruction)

theorem kind_of_lineGrammar_with_instruction (h : kinds ∈ lineGrammar.matches')
    {instruction : Instruction} (hmem : .instruction instruction ∈ kinds) :
    ∀ kind ∈ kinds, kind = .whitespace ∨ kind = .instruction instruction ∨
      kind ∈ instruction.mode.kinds := by
  obtain ⟨indentation, rest, rfl, hindentation, hrest⟩ := mem_lineGrammar.mp h
  have hblank : ∀ kind ∈ indentation, kind = .whitespace := by
    rcases hindentation with rfl | rfl <;> simp
  have hkeyword : .instruction instruction ∈ rest := by
    rcases List.mem_append.mp hmem with hmem | hmem
    · simpa using hblank _ hmem
    · exact hmem
  rcases hrest with rfl | rfl | rfl | ⟨found, arguments, rfl, harguments⟩
  · simp at hkeyword
  · simp at hkeyword
  · simp at hkeyword
  · have hfound : found = instruction := by
      rcases List.mem_cons.mp hkeyword with heq | hmem
      · simpa using heq.symm
      · rcases ArgumentMode.mem_kinds_of_grammar harguments _ hmem with hkind | hkind
        · simp at hkind
        · exact absurd rfl (found.mode.not_isInstruction_of_mem_kinds _ hkind)
    subst hfound
    intro kind hkind
    rw [List.mem_append, List.mem_cons] at hkind
    rcases hkind with hkind | hkind | hkind
    · exact .inl (hblank kind hkind)
    · exact .inr (.inl hkind)
    · rcases ArgumentMode.mem_kinds_of_grammar harguments kind hkind with hkind | hkind
      · exact .inl hkind
      · exact .inr (.inr hkind)

theorem Instruction.eq_env_of_mem_kinds (instruction : Instruction)
    (h : .argument .spacedAssignment ∈ instruction.mode.kinds) : instruction = .env := by
  revert h
  cases instruction <;> decide

/-- The arguments of an environment line up to a spaced assignment, if there is one. -/
theorem ArgumentMode.env_grammar_cases (h : kinds ∈ ArgumentMode.env.grammar.matches')
    (hmem : .argument .spacedAssignment ∈ kinds) :
    ∃ front closing, kinds = front ++ .argument .spacedAssignment :: closing ∧
      .argument .spacedAssignment ∉ front ∧
      ∀ kind ∈ closing, kind = .whitespace ∨ kind = .comment .env := by
  obtain ⟨front, hfront, rest, hrest, rfl⟩ := mem_mul.mp h
  obtain ⟨spaced, hspaced, closing, hclosing, rfl⟩ := mem_mul.mp hrest
  have hfront : .argument .spacedAssignment ∉ front := by
    intro hmem
    simpa [blank] using mem_letters_of_mem hfront _ hmem
  have hclosing : ∀ kind ∈ closing, kind = .whitespace ∨ kind = .comment .env := by
    rcases mem_close.mp hclosing with rfl | rfl | rfl <;> simp
  rcases mem_add.mp hspaced with hspaced | hspaced
  · obtain rfl := mem_one.mp hspaced
    rcases List.mem_append.mp hmem with hmem | hmem
    · exact absurd hmem hfront
    · simpa using hclosing _ hmem
  · obtain ⟨_, hblank, _, hchar, rfl⟩ := mem_mul.mp hspaced
    obtain rfl := mem_char.mp hblank
    obtain rfl := mem_char.mp hchar
    exact ⟨front ++ [.whitespace], closing, by simp, by simp [hfront], hclosing⟩

theorem spacedAssignment_of_lineGrammar (h : kinds ∈ lineGrammar.matches')
    {before after : List TokenKind}
    (hsplit : kinds = before ++ .argument .spacedAssignment :: after) :
    .instruction .env ∈ before ∧ .argument .spacedAssignment ∉ before ∧
      ∀ kind ∈ after, kind = .whitespace ∨ kind = .comment .env := by
  have hmem : .argument .spacedAssignment ∈ kinds := by simp [hsplit]
  obtain ⟨indentation, rest, rfl, hindentation, hrest⟩ := mem_lineGrammar.mp h
  have hblank : .argument .spacedAssignment ∉ indentation := by
    rcases hindentation with rfl | rfl <;> simp
  replace hmem : .argument .spacedAssignment ∈ rest := by simpa [hblank] using hmem
  rcases hrest with rfl | rfl | rfl | ⟨instruction, arguments, rfl, harguments⟩
  · simp at hmem
  · simp at hmem
  · simp at hmem
  · replace hmem : .argument .spacedAssignment ∈ arguments := by simpa using hmem
    obtain rfl : instruction = .env := by
      rcases ArgumentMode.mem_kinds_of_grammar harguments _ hmem with hkind | hkind
      · simp at hkind
      · exact instruction.eq_env_of_mem_kinds hkind
    obtain ⟨front, closing, rfl, hfront, hclosing⟩ :=
      ArgumentMode.env_grammar_cases harguments hmem
    -- The spaced assignment stands in one place only, so both ways to split the line agree.
    have hagree : (indentation ++ .instruction .env :: front) ++
        .argument .spacedAssignment :: closing =
          before ++ .argument .spacedAssignment :: after := by simpa using hsplit
    rw [List.append_cons_inj_of_notMem (by simp [hblank, hfront])
      (by intro hmem; simpa using hclosing _ hmem)] at hagree
    obtain ⟨rfl, -, rfl⟩ := hagree
    exact ⟨by simp, by simp [hblank, hfront], hclosing⟩

end

/-! ### Unknown text -/

/-- Of two neighbours at most one is unknown text. -/
def TokenKind.Apart (first second : TokenKind) : Prop :=
  first = .unknown → second ≠ .unknown

/-- Items of one kind each are kept apart by the blanks in front of them. -/
theorem Grammar.isChain_of_mem_items {item : RegularExpression TokenKind} {comment : CommentKind}
    {kinds : List TokenKind} (hitem : ∀ word ∈ item.matches', ∃ kind, word = [kind])
    (h : kinds ∈ (items item (close comment)).matches') :
    kinds.IsChain TokenKind.Apart ∧ ∀ kind ∈ kinds.head?, kind = .whitespace := by
  obtain ⟨front, hfront, rest, hrest, rfl⟩ := mem_mul.mp h
  obtain ⟨words, rfl, hwords⟩ := Language.mem_kstar.mp hfront
  clear h hfront
  induction words with
  | nil =>
      rcases mem_close.mp hrest with rfl | rfl | rfl <;> simp [TokenKind.Apart]
  | cons word words ih =>
      obtain ⟨hword, hwords⟩ := List.forall_mem_cons.mp hwords
      obtain ⟨hchain, hhead⟩ := ih hwords
      obtain ⟨_, hblank, _, hkind, rfl⟩ := mem_mul.mp hword
      obtain rfl := mem_char.mp hblank
      obtain ⟨kind, rfl⟩ := hitem _ hkind
      refine ⟨?_, by simp⟩
      simp only [List.flatten_cons, List.cons_append, List.nil_append, List.isChain_cons]
      refine ⟨by simp [TokenKind.Apart], ?_, hchain⟩
      rintro next hnext -
      simp [hhead next hnext]

theorem ArgumentMode.isChain_of_grammar {mode : ArgumentMode} {kinds : List TokenKind}
    (h : kinds ∈ mode.grammar.matches') : kinds.IsChain TokenKind.Apart := by
  by_cases hmode : mode = .conditions
  · subst hmode
    refine (isChain_of_mem_items ?_ h).1
    intro word hword
    simp only [mem_add, mem_char] at hword
    rcases hword with (rfl | rfl) | rfl <;> exact ⟨_, rfl⟩
  · have hknown : .unknown ∉ kinds := by
      intro hmem
      rcases mem_kinds_of_grammar h _ hmem with hkind | hkind
      · cases hkind
      · cases mode <;> simp [ArgumentMode.kinds] at hkind hmode
    refine (List.pairwise_of_forall_mem_list ?_).isChain
    rintro first hfirst second - rfl
    exact absurd hfirst hknown

theorem isChain_of_lineGrammar {kinds : List TokenKind} (h : kinds ∈ lineGrammar.matches') :
    kinds.IsChain TokenKind.Apart := by
  obtain ⟨indentation, rest, rfl, hindentation, hrest⟩ := mem_lineGrammar.mp h
  have hrest : rest.IsChain TokenKind.Apart := by
    rcases hrest with rfl | rfl | rfl | ⟨instruction, arguments, rfl, harguments⟩
    · exact .nil
    · exact .singleton _
    · exact .singleton _
    · rw [List.isChain_cons]
      exact ⟨by simp [TokenKind.Apart], ArgumentMode.isChain_of_grammar harguments⟩
  rcases hindentation with rfl | rfl
  · exact hrest
  · rw [List.singleton_append, List.isChain_cons]
    exact ⟨by simp [TokenKind.Apart], hrest⟩

end Layerfile
