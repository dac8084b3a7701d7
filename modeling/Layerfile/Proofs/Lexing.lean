import Layerfile.Argument.Lexeme

/-! What a lexicon finds at the front of a text: the kind comes from a rule that measures
something there. A blank at the front always gives a lexeme of blanks. -/

namespace Layerfile

open Text

variable {κ : Type}

/-! ### The winning rule -/

theorem Rule.exists_mem_of_longest {rules : List (Rule κ)} {text : List Char} {kind : κ}
    {size : Nat} (h : longest rules text = some (kind, size)) :
    ∃ rule ∈ rules, rule.kind = kind ∧ rule.measure text = size := by
  induction rules generalizing kind size with
  | nil => simp [longest] at h
  | cons rule rules ih =>
      rw [longest] at h
      cases hrest : longest rules text with
      | none =>
          simp only [hrest, Option.ite_none_right_eq_some, Option.some.injEq, Prod.mk.injEq] at h
          exact ⟨rule, by simp, h.2⟩
      | some found =>
          obtain ⟨laterKind, laterSize⟩ := found
          simp only [hrest] at h
          split at h
          · simp only [Option.some.injEq, Prod.mk.injEq] at h
            exact ⟨rule, by simp, h⟩
          · obtain ⟨rfl, rfl⟩ := Prod.mk.inj (Option.some.inj h)
            obtain ⟨later, hmem, hlater⟩ := ih hrest
            exact ⟨later, List.mem_cons_of_mem _ hmem, hlater⟩

theorem Rule.longest_eq_none_iff {rules : List (Rule κ)} {text : List Char} :
    longest rules text = none ↔ ∀ rule ∈ rules, rule.measure text = 0 := by
  induction rules with
  | nil => simp [longest]
  | cons rule rules ih =>
      rw [longest]
      cases hrest : longest rules text with
      | none =>
          have hlater := ih.mp hrest
          simp only [ite_eq_right_iff, reduceCtorEq, imp_false, Nat.not_lt, Nat.le_zero,
            List.mem_cons, forall_eq_or_imp]
          exact ⟨fun h => ⟨h, hlater⟩, fun h => h.1⟩
      | some found =>
          obtain ⟨kind, size⟩ := found
          have hsome : ¬ ∀ rule ∈ rules, rule.measure text = 0 := by
            intro hzero
            rw [ih.mpr hzero] at hrest
            simp at hrest
          simp only [List.mem_cons, forall_eq_or_imp]
          constructor
          · intro h
            split at h <;> simp at h
          · intro h
            exact absurd h.2 hsome

namespace Lexicon

theorem head?_text_next (lexicon : Lexicon κ) (c : Char) (rest : List Char) :
    (lexicon.next c rest).1.text.head? = some c := by
  have happend := lexicon.next_text_append c rest
  cases htext : (lexicon.next c rest).1.text with
  | nil => exact absurd htext (lexicon.next_text_ne_nil c rest)
  | cons first text =>
      rw [htext, List.cons_append] at happend
      rw [List.head?_cons, (List.cons.inj happend).1]

/-- Each lexeme is the first one of the text behind the lexemes in front of it. -/
theorem exists_next_of_scan_eq_append {lexicon : Lexicon κ} {text : List Char}
    {earlier later : List (Lexeme κ)} {lexeme : Lexeme κ}
    (h : lexicon.scan text = earlier ++ lexeme :: later) :
    ∃ c rest, text = earlier.flatMap Lexeme.text ++ c :: rest ∧
      lexeme = (lexicon.next c rest).1 ∧ later = lexicon.scan (lexicon.next c rest).2 := by
  induction earlier generalizing text with
  | nil =>
      cases text with
      | nil => simp [scan] at h
      | cons c rest =>
          rw [scan, List.nil_append, List.cons.injEq] at h
          exact ⟨c, rest, rfl, h.1.symm, h.2.symm⟩
  | cons first earlier ih =>
      cases text with
      | nil => simp [scan] at h
      | cons c rest =>
          rw [scan, List.cons_append, List.cons.injEq] at h
          obtain ⟨rfl, hbehind⟩ := h
          obtain ⟨d, tail, htext, hlexeme, hlater⟩ := ih hbehind
          refine ⟨d, tail, ?_, hlexeme, hlater⟩
          rw [List.flatMap_cons, List.append_assoc, ← htext, next_text_append]

theorem exists_next_of_mem_scan {lexicon : Lexicon κ} {text : List Char} {lexeme : Lexeme κ}
    (h : lexeme ∈ lexicon.scan text) : ∃ c rest, lexeme = (lexicon.next c rest).1 := by
  obtain ⟨earlier, later, hscan⟩ := List.append_of_mem h
  obtain ⟨c, rest, -, hnext, -⟩ := exists_next_of_scan_eq_append hscan
  exact ⟨c, rest, hnext⟩

theorem exists_rule_of_next {lexicon : Lexicon κ} {c : Char} {rest : List Char} {kind : κ}
    (h : (lexicon.next c rest).1.kind = some kind) :
    ∃ rule ∈ lexicon.rules, rule.kind = kind ∧ 0 < rule.measure (c :: rest) := by
  unfold next find? at h
  cases hfound : Rule.longest lexicon.rules (c :: rest) with
  | none => simp [hfound] at h
  | some found =>
      obtain ⟨found, size⟩ := found
      simp only [hfound, Option.map_some, Option.some.injEq] at h
      obtain ⟨rule, hmem, hkind, hsize⟩ := Rule.exists_mem_of_longest hfound
      refine ⟨rule, hmem, hkind.trans h, ?_⟩
      rw [hsize]
      exact Rule.longest_pos hfound

theorem measure_eq_zero_of_next {lexicon : Lexicon κ} {c : Char} {rest : List Char}
    (h : (lexicon.next c rest).1.kind = none) :
    ∀ rule ∈ lexicon.rules, rule.measure (c :: rest) = 0 := by
  unfold next find? at h
  cases hfound : Rule.longest lexicon.rules (c :: rest) with
  | none => exact Rule.longest_eq_none_iff.mp hfound
  | some found => simp [hfound] at h

/-! ### Blanks -/

/-- Blanks at the front of a text are a lexeme of the kind `blank`. -/
def SeparatesBlanks (lexicon : Lexicon κ) (blank : κ) : Prop :=
  ∀ c rest, isBlank c → (lexicon.next c rest).1.kind = some blank

/-- It suffices that one rule takes blanks and no rule of another kind starts with one. -/
theorem separatesBlanks_of_rules {lexicon : Lexicon κ} {blank : κ}
    (hblank : Rule.blanks blank ∈ lexicon.rules)
    (hother : ∀ rule ∈ lexicon.rules, rule.kind = blank ∨
      ∀ c rest, isBlank c → rule.measure (c :: rest) = 0) :
    lexicon.SeparatesBlanks blank := by
  intro c rest hc
  cases hkind : (lexicon.next c rest).1.kind with
  | none =>
      have hzero := measure_eq_zero_of_next hkind _ hblank
      simp [Rule.blanks, Rule.run, hc] at hzero
  | some kind =>
      obtain ⟨rule, hmem, hrule, hpos⟩ := exists_rule_of_next hkind
      rcases hother rule hmem with hsame | hzero
      · rw [← hrule, hsame]
      · have := hzero c rest hc
        omega

end Lexicon

theorem Rule.measure_headed_of_isBlank {kind : κ} {opens accepts : Char → Bool}
    (hopens : ∀ c, opens c → isWordChar c) (c : Char) (rest : List Char) (hc : isBlank c) :
    (Rule.headed kind opens accepts).measure (c :: rest) = 0 := by
  have hclosed : ¬ opens c := by
    intro hopen
    have hword := hopens c hopen
    simp [isWordChar, hc] at hword
  simp [Rule.headed, hclosed]

theorem isWordChar_of_opensWord {c : Char} (h : opensWord c) : isWordChar c := by
  simp only [opensWord, Bool.and_eq_true] at h
  exact h.1

theorem Rule.measure_comment_of_isBlank {kind : κ} (c : Char) (rest : List Char)
    (hc : isBlank c) : (Rule.comment kind).measure (c :: rest) = 0 := by
  apply Rule.measure_headed_of_isBlank _ c rest hc
  intro c hmark
  obtain rfl : c = '#' := by simpa using hmark
  decide

theorem Rule.measure_word_of_isBlank {kind : κ} (c : Char) (rest : List Char)
    (hc : isBlank c) : (Rule.word kind).measure (c :: rest) = 0 :=
  Rule.measure_headed_of_isBlank (fun _ => isWordChar_of_opensWord) c rest hc

theorem Rule.measure_condition_of_isBlank {kind : κ} (c : Char) (rest : List Char)
    (hc : isBlank c) : (Rule.condition kind).measure (c :: rest) = 0 := by
  simp [Rule.condition, opensWord, isWordChar, hc]

theorem wordLexicon_separatesBlanks : wordLexicon.SeparatesBlanks .blank := by
  apply Lexicon.separatesBlanks_of_rules (by simp [wordLexicon])
  simp only [wordLexicon, List.mem_cons, List.not_mem_nil, or_false, forall_eq_or_imp, forall_eq]
  exact ⟨.inl rfl, .inr Rule.measure_comment_of_isBlank, .inr Rule.measure_word_of_isBlank⟩

theorem textLexicon_separatesBlanks : textLexicon.SeparatesBlanks .blank := by
  apply Lexicon.separatesBlanks_of_rules (by simp [textLexicon])
  simp only [textLexicon, List.mem_cons, List.not_mem_nil, or_false, forall_eq_or_imp, forall_eq]
  exact ⟨.inl rfl, .inr Rule.measure_comment_of_isBlank,
    .inr (Rule.measure_headed_of_isBlank fun _ => isWordChar_of_opensWord)⟩

theorem commandLexicon_separatesBlanks : commandLexicon.SeparatesBlanks .blank := by
  apply Lexicon.separatesBlanks_of_rules (by simp [commandLexicon])
  simp only [commandLexicon, List.mem_cons, List.not_mem_nil, or_false, forall_eq_or_imp, forall_eq]
  exact ⟨.inl rfl, .inr (Rule.measure_headed_of_isBlank fun _ h => h)⟩

theorem conditionLexicon_separatesBlanks : conditionLexicon.SeparatesBlanks .blank := by
  apply Lexicon.separatesBlanks_of_rules (by simp [conditionLexicon])
  simp only [conditionLexicon, List.mem_cons, List.not_mem_nil, or_false, forall_eq_or_imp,
    forall_eq]
  refine ⟨.inl rfl, .inr Rule.measure_comment_of_isBlank, .inr ?_,
    .inr Rule.measure_condition_of_isBlank, .inr Rule.measure_word_of_isBlank⟩
  -- The literal starts with a letter, which is no blank.
  intro c rest hc
  have hletter : 'A' ≠ c := by
    rintro rfl
    simp [isBlank] at hc
  simp [Rule.literal, hletter]

end Layerfile
