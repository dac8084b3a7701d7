import Layerfile.Proofs.Statements

/-! Keyword phrases. The opener of a phrase is found by its letters and the later words are cut off
behind blanks, one by one. Together this accepts exactly the phrases of the instructions, each in
front of a word boundary. -/

namespace Layerfile

open Text

/-! ### Phrases -/

/-- The text of `words` with a run of blanks between any two of them. -/
inductive Spells : List (List Char) → List Char → Prop
  | word (word : List Char) : Spells [word] word
  | join {word blanks text : List Char} {words : List (List Char)} (hne : blanks ≠ [])
      (hblanks : ∀ c ∈ blanks, isBlank c) (hwords : Spells words text) :
      Spells (word :: words) (word ++ (blanks ++ text))

/-- A text that starts with the phrase of an instruction, spelled as `keyword`, and goes on with
`arguments` at a word boundary. -/
structure Instruction.Leads (instruction : Instruction) (text keyword arguments : List Char) :
    Prop where
  text_eq : text = keyword ++ arguments
  spells : Spells (instruction.phrase.map String.toList) keyword
  boundary : atWordBoundary arguments

/-- The instruction that a text is read as: `RUN` gives way to the longer phrases that start with
it. -/
structure Instruction.Opens (instruction : Instruction) (text keyword arguments : List Char) :
    Prop extends instruction.Leads text keyword arguments where
  prevails : instruction = .run → ∀ longer ∈ [Instruction.runBackground, .runRepeatable],
    ∀ keyword arguments, ¬ longer.Leads text keyword arguments

theorem spells_singleton_iff {word text : List Char} : Spells [word] text ↔ text = word := by
  constructor
  · intro h
    cases h with
    | word => rfl
    | join _ _ hwords => cases hwords
  · rintro rfl
    exact .word text

theorem spells_cons_cons_iff {first second text : List Char} {words : List (List Char)} :
    Spells (first :: second :: words) text ↔ ∃ blanks later, blanks ≠ [] ∧
      (∀ c ∈ blanks, isBlank c) ∧ Spells (second :: words) later ∧
      text = first ++ (blanks ++ later) := by
  constructor
  · intro h
    cases h with
    | join hne hblanks hwords => exact ⟨_, _, hne, hblanks, hwords, rfl⟩
  · rintro ⟨blanks, later, hne, hblanks, hwords, rfl⟩
    exact .join hne hblanks hwords

theorem Spells.exists_append {word text : List Char} {words : List (List Char)}
    (h : Spells (word :: words) text) : ∃ tail, text = word ++ tail ∧ atWordBoundary tail := by
  cases h with
  | word => exact ⟨[], by simp, rfl⟩
  | join hne hblanks _ =>
      obtain ⟨b, blanks, rfl⟩ := List.exists_cons_of_ne_nil hne
      exact ⟨_, rfl, hblanks b (by simp)⟩

/-! ### Cutting words off -/

theorem takeWhile_isBlank_append {blanks text : List Char} (hblanks : ∀ c ∈ blanks, isBlank c)
    (htext : ∀ c ∈ text.head?, ¬ isBlank c) :
    (blanks ++ text).takeWhile isBlank = blanks ∧ (blanks ++ text).dropWhile isBlank = text := by
  rw [List.takeWhile_append_of_pos hblanks, List.dropWhile_append_of_pos hblanks]
  cases text with
  | nil => simp
  | cons c text =>
      have hc := htext c rfl
      simp [hc]

theorem cutWords_cons_iff {word text cut rest : List Char} {words : List (List Char)}
    (hword : ∃ c ∈ word.head?, ¬ isBlank c) :
    cutWords (word :: words) text = some (cut, rest) ↔ ∃ blanks tail later, blanks ≠ [] ∧
      (∀ c ∈ blanks, isBlank c) ∧ text = blanks ++ (word ++ tail) ∧
      cutWords words tail = some (later, rest) ∧ cut = blanks ++ (word ++ later) := by
  simp only [cutWords, Option.ite_none_left_eq_some, Option.map_eq_some_iff, Bool.or_eq_true,
    not_or, List.isEmpty_iff, Bool.not_eq_true, Bool.not_eq_false', List.isPrefixOf_iff_prefix]
  constructor
  · rintro ⟨⟨hne, tail, htail⟩, ⟨later, rest⟩, hlater, hcut⟩
    obtain ⟨rfl, rfl⟩ := Prod.mk.inj hcut
    rw [← htail, List.drop_left] at hlater
    refine ⟨text.takeWhile isBlank, tail, later, hne, fun c => List.mem_takeWhile_imp, ?_, hlater,
      List.append_assoc _ _ _⟩
    rw [htail, List.takeWhile_append_dropWhile]
  · rintro ⟨blanks, tail, later, hne, hblanks, rfl, hlater, rfl⟩
    obtain ⟨c, hhead, hc⟩ := hword
    have hfront : ∀ d ∈ (word ++ tail).head?, ¬ isBlank d := by
      rw [List.head?_append, hhead]
      simpa using hc
    obtain ⟨htake, hdrop⟩ := takeWhile_isBlank_append hblanks hfront
    rw [htake, hdrop]
    refine ⟨⟨hne, List.prefix_append word tail⟩, (later, rest), ?_, ?_⟩
    · rw [List.drop_left, hlater]
    · rw [List.append_assoc]

/-- Words are cut off exactly where they go on with the phrase that `first` starts. -/
theorem cutWords_eq_some_iff {first text cut rest : List Char} {words : List (List Char)}
    (hwords : ∀ word ∈ words, ∃ c ∈ word.head?, ¬ isBlank c) :
    cutWords words text = some (cut, rest) ↔
      text = cut ++ rest ∧ Spells (first :: words) (first ++ cut) := by
  induction words generalizing first text cut with
  | nil =>
      simp only [cutWords, Option.some.injEq, Prod.mk.injEq, spells_singleton_iff]
      constructor
      · rintro ⟨rfl, rfl⟩
        simp
      · rintro ⟨rfl, hcut⟩
        obtain rfl : cut = [] := by simpa using hcut
        simp
  | cons word words ih =>
      rw [List.forall_mem_cons] at hwords
      rw [cutWords_cons_iff hwords.1, spells_cons_cons_iff]
      constructor
      · rintro ⟨blanks, tail, later, hne, hblanks, rfl, hlater, rfl⟩
        obtain ⟨rfl, hspells⟩ := (ih hwords.2).mp hlater
        exact ⟨by simp, blanks, word ++ later, hne, hblanks, hspells, rfl⟩
      · rintro ⟨rfl, blanks, phrase, hne, hblanks, hspells, hcut⟩
        obtain rfl := List.append_cancel_left hcut
        obtain ⟨later, rfl, -⟩ := hspells.exists_append
        exact ⟨blanks, later ++ rest, later, hne, hblanks, by simp,
          (ih hwords.2).mpr ⟨rfl, hspells⟩, rfl⟩

/-! ### Openers -/

theorem Opener.mem_all (opener : Opener) : opener ∈ all := by
  cases opener <;> decide

theorem Instruction.exists_letter_of_mem_continuation (instruction : Instruction) :
    ∀ word ∈ instruction.continuation, ∃ c ∈ word.head?, ¬ isBlank c := by
  cases instruction <;> simp [continuation, phrase, isBlank]

theorem Opener.exists_letter (opener : Opener) :
    ∃ c ∈ opener.word.head?, ¬ isBlank c ∧ c ≠ '#' := by
  cases opener <;> exact ⟨_, rfl, by decide, by decide⟩

/-- No opener starts another one. -/
theorem Opener.eq_of_word_isPrefix {first second : Opener} (h : first.word <+: second.word) :
    first = second := by
  have hfree : ∀ first ∈ all, ∀ second ∈ all, first.word <+: second.word → first = second := by
    decide +kernel
  exact hfree first first.mem_all second second.mem_all h

theorem Opener.eq_of_isPrefix {first second : Opener} {text : List Char}
    (hfirst : first.word <+: text) (hsecond : second.word <+: text) : first = second := by
  rcases List.prefix_or_prefix_of_prefix hfirst hsecond with h | h
  · exact eq_of_word_isPrefix h
  · exact (eq_of_word_isPrefix h).symm

theorem Opener.exists_of_instruction (instruction : Instruction) :
    ∃ opener : Opener, instruction ∈ opener.instructions := by
  have hopened : ∃ opener ∈ all, instruction ∈ opener.instructions := by
    cases instruction <;> decide
  obtain ⟨opener, -, h⟩ := hopened
  exact ⟨opener, h⟩

theorem Opener.map_phrase {opener : Opener} {instruction : Instruction}
    (h : instruction ∈ opener.instructions) :
    instruction.phrase.map String.toList = opener.word :: instruction.continuation := by
  have hhead := phrase_of_mem_instructions h
  cases hphrase : instruction.phrase with
  | nil => simp [hphrase] at hhead
  | cons first words =>
      rw [hphrase, List.head?_cons, Option.map_some, Option.some.injEq] at hhead
      rw [List.map_cons, hhead, Instruction.continuation, hphrase, List.tail_cons]

/-! ### Completing a phrase -/

theorem Opener.complete_iff_leads {opener : Opener} {instruction : Instruction}
    {after completion arguments : List Char} (hopens : instruction ∈ opener.instructions)
    (hboundary : atWordBoundary after) :
    instruction.complete after = some ⟨instruction, completion, arguments⟩ ↔
      instruction.Leads (opener.word ++ after) (opener.word ++ completion) arguments := by
  have hcut := @cutWords_eq_some_iff opener.word after completion arguments _
    instruction.exists_letter_of_mem_continuation
  constructor
  · intro h
    obtain ⟨htext, hspells⟩ := hcut.mp (Instruction.complete_eq_some_iff.mp h).2.1
    exact ⟨by rw [htext, List.append_assoc], by rwa [map_phrase hopens],
      instruction.atWordBoundary_of_complete h hboundary⟩
  · rintro ⟨htext, hspells, hend⟩
    rw [List.append_assoc, List.append_cancel_left_eq] at htext
    rw [map_phrase hopens] at hspells
    exact Instruction.complete_eq_some_iff.mpr ⟨rfl, hcut.mpr ⟨htext, hspells⟩, .inr hend⟩

theorem Instruction.Leads.exists_opener {instruction : Instruction}
    {text keyword arguments : List Char} (h : instruction.Leads text keyword arguments) :
    ∃ (opener : Opener) (completion : List Char), instruction ∈ opener.instructions ∧
      keyword = opener.word ++ completion ∧ text = opener.word ++ (completion ++ arguments) ∧
      atWordBoundary (completion ++ arguments) := by
  obtain ⟨opener, hopener⟩ := Opener.exists_of_instruction instruction
  have hspells := h.spells
  rw [Opener.map_phrase hopener] at hspells
  obtain ⟨completion, rfl, hcompletion⟩ := hspells.exists_append
  refine ⟨opener, completion, hopener, rfl, by rw [h.text_eq, List.append_assoc], ?_⟩
  cases completion with
  | nil => exact h.boundary
  | cons c completion => exact hcompletion

theorem Opener.leads_iff {opener : Opener} {instruction : Instruction}
    {after keyword arguments : List Char} :
    instruction.Leads (opener.word ++ after) keyword arguments ↔
      instruction ∈ opener.instructions ∧ atWordBoundary after ∧ ∃ completion,
        keyword = opener.word ++ completion ∧
        instruction.complete after = some ⟨instruction, completion, arguments⟩ := by
  constructor
  · intro h
    obtain ⟨own, completion, hown, rfl, htext, hboundary⟩ := h.exists_opener
    obtain rfl : own = opener :=
      eq_of_isPrefix (htext ▸ List.prefix_append _ _) (List.prefix_append _ after)
    obtain rfl := List.append_cancel_left htext
    exact ⟨hown, hboundary, completion, rfl, (complete_iff_leads hown hboundary).mpr h⟩
  · rintro ⟨hopener, hboundary, completion, rfl, hcomplete⟩
    exact (complete_iff_leads hopener hboundary).mp hcomplete

/-! ### Choosing among phrases -/

theorem Instruction.isPrefix_of_complete {instruction : Instruction} {after word : List Char}
    {words : List (List Char)} {keyword : Keyword} (h : instruction.complete after = some keyword)
    (hwords : instruction.continuation = word :: words) : word <+: after.dropWhile isBlank := by
  have hcut := (complete_eq_some_iff.mp h).2.1
  simp only [hwords, cutWords, Option.ite_none_left_eq_some, Bool.or_eq_true, not_or,
    Bool.not_eq_true, Bool.not_eq_false', List.isPrefixOf_iff_prefix] at hcut
  exact hcut.1.2

/-- The longer phrases that start with `RUN` differ in their second word. -/
theorem Instruction.complete_runBackground_eq_none {after : List Char} {keyword : Keyword}
    (h : runRepeatable.complete after = some keyword) : runBackground.complete after = none := by
  rw [Option.eq_none_iff_forall_ne_some]
  intro other hother
  have hbackground := isPrefix_of_complete hother (rfl : _ = "BACKGROUND".toList :: _)
  have hrepeatable := isPrefix_of_complete h (rfl : _ = "REPEATABLE".toList :: _)
  rcases List.prefix_or_prefix_of_prefix hbackground hrepeatable with hle | hle <;>
    revert hle <;> decide

/-- Only `RUN` opens more than one instruction. -/
theorem Opener.instructions_cases (opener : Opener) :
    opener = .run ∨ ∃ instruction, instruction ≠ .run ∧ opener.instructions = [instruction] := by
  cases opener
  case run => exact .inl rfl
  all_goals exact .inr ⟨_, by decide, rfl⟩

/-- An opener gives the phrase that can be completed, `RUN` only if no longer one can. -/
theorem Opener.resolve_eq_some_iff {opener : Opener} {after : List Char} {keyword : Keyword} :
    opener.resolve after = some keyword ↔
      keyword.instruction ∈ opener.instructions ∧
      keyword.instruction.complete after = some keyword ∧
      (keyword.instruction = .run → ∀ longer ∈ [Instruction.runBackground, .runRepeatable],
        longer.complete after = none) := by
  constructor
  · intro h
    obtain ⟨earlier, instruction, later, hlist, hcomplete, hearlier⟩ :=
      List.findSome?_eq_some_iff.mp h
    obtain rfl := (Instruction.complete_eq_some_iff.mp hcomplete).1
    have hopener : keyword.instruction ∈ opener.instructions := by simp [hlist]
    refine ⟨hopener, hcomplete, ?_⟩
    intro hrun longer hlonger
    rcases opener.instructions_cases with rfl | ⟨sole, hne, hsole⟩
    · rw [hrun] at hlist
      have hsplit : [Instruction.runBackground, .runRepeatable] ++ [.run] =
          earlier ++ .run :: later := hlist
      obtain ⟨inner, rfl, -⟩ := exists_append_of_append_eq hsplit (by decide)
      exact hearlier longer (List.mem_append_left _ hlonger)
    · rw [hsole, List.mem_singleton, hrun] at hopener
      exact absurd hopener.symm hne
  · rintro ⟨hopener, hcomplete, hprevails⟩
    rcases opener.instructions_cases with rfl | ⟨sole, -, hsole⟩
    · simp only [instructions, List.mem_cons, List.not_mem_nil, or_false] at hopener
      rcases hopener with hfound | hfound | hfound <;> rw [hfound] at hcomplete
      · simp [resolve, instructions, hcomplete]
      · simp [resolve, instructions, hcomplete,
          Instruction.complete_runBackground_eq_none hcomplete]
      · simp [resolve, instructions, hcomplete, hprevails hfound]
    · obtain rfl : keyword.instruction = sole := by simpa [hsole] using hopener
      simp [resolve, hsole, hcomplete]

theorem Opener.complete_eq_none_iff {opener : Opener} {instruction : Instruction}
    {after : List Char} (hopener : instruction ∈ opener.instructions)
    (hboundary : atWordBoundary after) :
    instruction.complete after = none ↔
      ∀ keyword arguments, ¬ instruction.Leads (opener.word ++ after) keyword arguments := by
  simp only [leads_iff, hopener, hboundary, true_and, Option.eq_none_iff_forall_ne_some]
  constructor
  · rintro hnone keyword arguments ⟨completion, -, hcomplete⟩
    exact hnone _ hcomplete
  · rintro hnone ⟨own, completion, arguments⟩ hcomplete
    obtain rfl := (Instruction.complete_eq_some_iff.mp hcomplete).1
    exact hnone _ arguments ⟨completion, rfl, hcomplete⟩

theorem Opener.opens_iff {opener : Opener} {instruction : Instruction}
    {after keyword arguments : List Char} :
    instruction.Opens (opener.word ++ after) keyword arguments ↔
      atWordBoundary after ∧ ∃ completion, keyword = opener.word ++ completion ∧
        opener.resolve after = some ⟨instruction, completion, arguments⟩ := by
  -- What `RUN` gives way to has the same opener.
  have hlonger : instruction ∈ opener.instructions → instruction = .run →
      ∀ longer ∈ [Instruction.runBackground, .runRepeatable], longer ∈ opener.instructions := by
    rintro hopener rfl
    revert hopener
    cases opener <;> decide
  simp only [resolve_eq_some_iff]
  constructor
  · rintro ⟨hleads, hprevails⟩
    obtain ⟨hopener, hboundary, completion, rfl, hcomplete⟩ := leads_iff.mp hleads
    refine ⟨hboundary, completion, rfl, hopener, hcomplete, ?_⟩
    intro hrun longer hmem
    exact (complete_eq_none_iff (hlonger hopener hrun longer hmem) hboundary).mpr
      (hprevails hrun longer hmem)
  · rintro ⟨hboundary, completion, rfl, hopener, hcomplete, hnone⟩
    refine ⟨leads_iff.mpr ⟨hopener, hboundary, completion, rfl, hcomplete⟩, ?_⟩
    intro hrun longer hmem
    exact (complete_eq_none_iff (hlonger hopener hrun longer hmem) hboundary).mp
      (hnone hrun longer hmem)

end Layerfile
