import Layerfile.Proofs.Lexing
import Mathlib.Data.List.Basic
import Mathlib.Data.List.TakeWhile

/-! What the lexicons of arguments read at the front of a text: a run of blanks, a comment up to
the line feed, or an item that goes on as long as its characters are accepted. -/

namespace Layerfile

open Text

variable {κ : Type}

/-! ### Measures by the first character -/

theorem Rule.measure_blanks_of_isBlank (kind : κ) {c : Char} (hc : isBlank c)
    (rest : List Char) :
    (Rule.blanks kind).measure (c :: rest) = 1 + (rest.takeWhile isBlank).length := by
  simp [Rule.blanks, Rule.run, hc, Nat.add_comm]

theorem not_isBlank_of_isWordChar {c : Char} (h : isWordChar c) : ¬ isBlank c := by
  simp only [isWordChar, Bool.and_eq_true, Bool.not_eq_true'] at h
  simp [h.1]

theorem not_isBlank_of_opensWord {c : Char} (h : opensWord c) : ¬ isBlank c :=
  not_isBlank_of_isWordChar (isWordChar_of_opensWord h)

theorem isBlank_or_mark_or_opensWord {c : Char} (h : c ≠ '\n') :
    isBlank c ∨ c = '#' ∨ opensWord c := by
  by_cases hblank : isBlank c
  · exact .inl hblank
  · by_cases hmark : c = '#'
    · exact .inr (.inl hmark)
    · exact .inr (.inr (by simp [opensWord, isWordChar, hblank, hmark, h]))

theorem Rule.measure_blanks_of_opensWord (kind : κ) {c : Char} (hc : opensWord c)
    (rest : List Char) : (Rule.blanks kind).measure (c :: rest) = 0 := by
  simp [Rule.blanks, Rule.run, not_isBlank_of_opensWord hc]

theorem Rule.measure_comment_of_opensWord (kind : κ) {c : Char} (hc : opensWord c)
    (rest : List Char) : (Rule.comment kind).measure (c :: rest) = 0 := by
  have hmark : c ≠ '#' := by
    rintro rfl
    simp [opensWord] at hc
  simp [Rule.comment, Rule.headed, hmark]

/-! ### How far a lexeme reaches -/

theorem drop_length_takeWhile (accepts : Char → Bool) (text : List Char) :
    text.drop (text.takeWhile accepts).length = text.dropWhile accepts := by
  have hsplit : (text.takeWhile accepts ++ text.dropWhile accepts).drop
      (text.takeWhile accepts).length = text.dropWhile accepts := List.drop_left
  rwa [List.takeWhile_append_dropWhile] at hsplit

theorem not_isBlank_head?_dropWhile (text : List Char) :
    ∀ c ∈ (text.dropWhile isBlank).head?, ¬ isBlank c := by
  intro c hc
  have := List.head?_dropWhile_not isBlank text
  rw [hc] at this
  simp [this]

theorem takeWhile_ne_feed {text : List Char} (h : '\n' ∉ text) :
    text.takeWhile (· != '\n') = text := by
  rw [List.takeWhile_eq_self_iff]
  intro c hc
  simpa using fun heq : c = '\n' => h (heq ▸ hc)

theorem dropWhile_ne_feed {text : List Char} (h : '\n' ∉ text) :
    text.dropWhile (· != '\n') = [] := by
  rw [← drop_length_takeWhile, takeWhile_ne_feed h, List.drop_length]

theorem Rule.measure_le_of_longest {rules : List (Rule κ)} {text : List Char} {kind : κ}
    {size : Nat} (h : longest rules text = some (kind, size)) :
    ∀ rule ∈ rules, rule.measure text ≤ size := by
  induction rules generalizing kind size with
  | nil => simp
  | cons rule rules ih =>
      rw [longest] at h
      rw [List.forall_mem_cons]
      cases hrest : longest rules text with
      | none =>
          simp only [hrest, Option.ite_none_right_eq_some, Option.some.injEq, Prod.mk.injEq] at h
          have hzero := longest_eq_none_iff.mp hrest
          exact ⟨by omega, fun later hlater => by rw [hzero later hlater]; omega⟩
      | some found =>
          obtain ⟨laterKind, laterSize⟩ := found
          have hlater := ih hrest
          simp only [hrest] at h
          split at h
          · simp only [Option.some.injEq, Prod.mk.injEq] at h
            exact ⟨by omega, fun later hmem => by have := hlater later hmem; omega⟩
          · simp only [Option.some.injEq, Prod.mk.injEq] at h
            exact ⟨by omega, fun later hmem => by have := hlater later hmem; omega⟩

namespace Lexicon

def unstretched (lexicon : Lexicon κ) : Lexicon κ where
  rules := lexicon.rules

/-- The greatest measure decides how far the first lexeme reaches, and a rule that has it decides
its kind. -/
theorem next_of_greatest {lexicon : Lexicon κ} {c : Char} {rest : List Char}
    {accepts : Char → Bool}
    (hle : ∀ rule ∈ lexicon.rules,
      rule.measure (c :: rest) ≤ 1 + (rest.takeWhile accepts).length)
    (hsome : ∃ rule ∈ lexicon.rules,
      rule.measure (c :: rest) = 1 + (rest.takeWhile accepts).length) :
    ∃ rule ∈ lexicon.rules, 0 < rule.measure (c :: rest) ∧
      lexicon.unstretched.next c rest =
        (⟨some rule.kind, c :: rest.takeWhile accepts⟩, rest.dropWhile accepts) := by
  obtain ⟨greatest, hgreatest, hsize⟩ := hsome
  cases hfound : Rule.longest lexicon.rules (c :: rest) with
  | none =>
      have := Rule.longest_eq_none_iff.mp hfound greatest hgreatest
      omega
  | some found =>
      obtain ⟨kind, size⟩ := found
      obtain ⟨rule, hmem, rfl, rfl⟩ := Rule.exists_mem_of_longest hfound
      have hlower := Rule.measure_le_of_longest hfound greatest hgreatest
      have hreach : rule.measure (c :: rest) = (rest.takeWhile accepts).length + 1 := by
        have := hle rule hmem
        omega
      have htake : rest.take (rest.takeWhile accepts).length = rest.takeWhile accepts :=
        (List.prefix_iff_eq_take.mp (List.takeWhile_prefix accepts)).symm
      refine ⟨rule, hmem, by omega, ?_⟩
      simp [next, find?, unstretched, hfound, hreach, htake, drop_length_takeWhile]

theorem next_of_sole_rule {lexicon : Lexicon κ} {rule : Rule κ} {c : Char} {rest : List Char}
    {accepts : Char → Bool} (hrule : rule ∈ lexicon.rules)
    (hsize : rule.measure (c :: rest) = 1 + (rest.takeWhile accepts).length)
    (hothers : ∀ other ∈ lexicon.rules, other = rule ∨ other.measure (c :: rest) = 0) :
    lexicon.unstretched.next c rest =
      (⟨some rule.kind, c :: rest.takeWhile accepts⟩, rest.dropWhile accepts) := by
  have hle : ∀ other ∈ lexicon.rules,
      other.measure (c :: rest) ≤ 1 + (rest.takeWhile accepts).length := by
    intro other hother
    rcases hothers other hother with rfl | hzero
    · exact hsize.le
    · omega
  obtain ⟨winner, hwinner, hpos, hnext⟩ := next_of_greatest hle ⟨rule, hrule, hsize⟩
  rcases hothers winner hwinner with rfl | hzero
  · exact hnext
  · omega

/-- A stretched lexeme takes characters from the text behind it. -/
theorem next_of_unstretched {lexicon : Lexicon κ} {c : Char} {rest word tail : List Char}
    {kind : κ} (h : lexicon.unstretched.next c rest = (⟨some kind, word⟩, tail)) :
    lexicon.next c rest =
      (⟨some kind, word ++ tail.take (lexicon.stretch kind word tail)⟩,
        tail.drop (lexicon.stretch kind word tail)) := by
  unfold next find? at h ⊢
  simp only [unstretched] at h
  cases hfound : Rule.longest lexicon.rules (c :: rest) with
  | none => simp [hfound] at h
  | some found =>
      obtain ⟨found, size⟩ := found
      simp only [hfound, Option.map_some, Nat.add_zero, Prod.mk.injEq, Lexeme.mk.injEq,
        Option.some.injEq] at h ⊢
      obtain ⟨⟨rfl, rfl⟩, rfl⟩ := h
      rw [List.take_add, List.drop_drop]
      exact ⟨⟨rfl, rfl⟩, rfl⟩

/-! ### Blanks, comments and items -/

/-- Blanks are read as one lexeme, and so is a comment up to the line feed. -/
structure ReadsLayout (lexicon : Lexicon κ) (blank comment : κ) : Prop where
  next_blank : ∀ c rest, isBlank c → lexicon.next c rest =
    (⟨some blank, c :: rest.takeWhile isBlank⟩, rest.dropWhile isBlank)
  next_mark : ∀ rest, lexicon.next '#' rest =
    (⟨some comment, '#' :: rest.takeWhile (· != '\n')⟩, rest.dropWhile (· != '\n'))

/-- Whatever opens a word is read as one lexeme of the characters that it `accepts`. -/
structure Reads (lexicon : Lexicon κ) (blank comment : κ) (accepts : Char → Bool) : Prop
    extends lexicon.ReadsLayout blank comment where
  next_item : ∀ c rest, opensWord c → ∃ kind, kind ≠ blank ∧ kind ≠ comment ∧
    lexicon.next c rest = (⟨some kind, c :: rest.takeWhile accepts⟩, rest.dropWhile accepts)

/-- The form that all lexicons of arguments with comments have. The rules in the middle only
change the kind of an item, not how far it reaches. -/
theorem reads_of_rules {lexicon : Lexicon κ} {blank comment item : κ} {accepts : Char → Bool}
    {special : List (Rule κ)}
    (hrules : lexicon.rules =
      .blanks blank :: .comment comment :: (special ++ [.headed item opensWord accepts]))
    (hitem : item ≠ blank ∧ item ≠ comment)
    (hspecial : ∀ rule ∈ special, (rule.kind ≠ blank ∧ rule.kind ≠ comment) ∧
      ∀ text, rule.measure text ≤ (Rule.headed item opensWord accepts).measure text) :
    lexicon.unstretched.Reads blank comment accepts := by
  have hcases : ∀ rule ∈ lexicon.rules, rule = .blanks blank ∨ rule = .comment comment ∨
      (rule.kind ≠ blank ∧ rule.kind ≠ comment) ∧
        ∀ text, rule.measure text ≤ (Rule.headed item opensWord accepts).measure text := by
    intro rule hrule
    rw [hrules] at hrule
    simp only [List.mem_cons, List.mem_append, List.not_mem_nil, or_false] at hrule
    rcases hrule with rfl | rfl | hrule | rfl
    · exact .inl rfl
    · exact .inr (.inl rfl)
    · exact .inr (.inr (hspecial rule hrule))
    · exact .inr (.inr ⟨hitem, fun text => Nat.le_refl _⟩)
  -- The three kinds of first characters exclude each other.
  refine ⟨⟨?_, ?_⟩, ?_⟩
  · intro c rest hc
    have hitems : (Rule.headed item opensWord accepts).measure (c :: rest) = 0 :=
      Rule.measure_headed_of_isBlank (fun _ => isWordChar_of_opensWord) c rest hc
    apply next_of_sole_rule (by simp [hrules]) (Rule.measure_blanks_of_isBlank blank hc rest)
    intro rule hrule
    rcases hcases rule hrule with rfl | rfl | ⟨-, hle⟩
    · exact .inl rfl
    · exact .inr (Rule.measure_comment_of_isBlank c rest hc)
    · exact .inr (Nat.le_zero.mp ((hle (c :: rest)).trans_eq hitems))
  · intro rest
    have hcomment : (Rule.comment comment).measure ('#' :: rest) =
        1 + (rest.takeWhile (· != '\n')).length := rfl
    apply next_of_sole_rule (by simp [hrules]) hcomment
    intro rule hrule
    rcases hcases rule hrule with rfl | rfl | ⟨-, hle⟩
    · exact .inr rfl
    · exact .inl rfl
    · exact .inr (Nat.le_zero.mp (hle ('#' :: rest)))
  · intro c rest hc
    have hblanks := Rule.measure_blanks_of_opensWord blank hc rest
    have hcomment := Rule.measure_comment_of_opensWord comment hc rest
    have hitems : (Rule.headed item opensWord accepts).measure (c :: rest) =
        1 + (rest.takeWhile accepts).length := if_pos hc
    have hbound : ∀ rule ∈ lexicon.rules,
        rule.measure (c :: rest) ≤ 1 + (rest.takeWhile accepts).length := by
      intro rule hrule
      rcases hcases rule hrule with rfl | rfl | ⟨-, hle⟩
      · omega
      · omega
      · exact (hle (c :: rest)).trans_eq hitems
    obtain ⟨rule, hrule, hpos, hnext⟩ := next_of_greatest hbound ⟨_, by simp [hrules], hitems⟩
    rcases hcases rule hrule with rfl | rfl | ⟨hkind, -⟩
    · omega
    · omega
    · exact ⟨rule.kind, hkind.1, hkind.2, hnext⟩

end Lexicon

/-! ### Rules that refine words -/

theorem Rule.measure_word_of_opensWord (kind : κ) {c : Char} (hc : opensWord c)
    (rest : List Char) :
    (Rule.word kind).measure (c :: rest) = ((c :: rest).takeWhile isWordChar).length := by
  rw [List.takeWhile_cons_of_pos (isWordChar_of_opensWord hc), List.length_cons, Nat.add_comm]
  exact if_pos hc

theorem Rule.exists_key_of_assignment {kind : κ} {text : List Char}
    (h : 0 < (Rule.assignment kind).measure text) :
    ∃ key value, text = key ++ '=' :: value ∧ key ≠ [] ∧ (∀ c ∈ key, opensWord c ∧ c ≠ '=') ∧
      (Rule.assignment kind).measure text = (text.takeWhile isWordChar).length := by
  simp only [Rule.assignment] at h ⊢
  cases htail : text.dropWhile (fun c => opensWord c && c != '=') with
  | nil => simp [htail] at h
  | cons c value =>
      have hsplit : text.takeWhile (fun c => opensWord c && c != '=') ++ c :: value = text := by
        rw [← htail, List.takeWhile_append_dropWhile]
      have hchars : ∀ c ∈ text.takeWhile (fun c => opensWord c && c != '='),
          opensWord c ∧ c ≠ '=' := by
        intro c hc
        simpa using List.mem_takeWhile_imp hc
      generalize text.takeWhile (fun c => opensWord c && c != '=') = key at hsplit hchars h ⊢
      subst hsplit
      by_cases hc : c = '='
      · subst hc
        have hkey : key ≠ [] := by
          rintro rfl
          simp at h
        refine ⟨key, value, rfl, hkey, hchars, ?_⟩
        rw [List.takeWhile_append_of_pos fun d hd => isWordChar_of_opensWord (hchars d hd).1,
          List.takeWhile_cons_of_pos (by decide)]
        simp [hkey, Nat.add_assoc, Nat.add_comm 1]
      · simp [htail, hc] at h

theorem Rule.exists_key_of_condition {kind : κ} {text : List Char}
    (h : 0 < (Rule.condition kind).measure text) :
    ∃ key tail, text = key ++ tail ∧ key ≠ [] ∧
      (∀ c ∈ key, opensWord c ∧ c ≠ '=' ∧ c ≠ '!' ∧ c ≠ '~') ∧ startsWithComparison tail ∧
      (Rule.condition kind).measure text = (text.takeWhile isWordChar).length := by
  simp only [Rule.condition] at h ⊢
  have hsplit : text.takeWhile (fun c => opensWord c && c != '=' && c != '!' && c != '~') ++
      text.dropWhile (fun c => opensWord c && c != '=' && c != '!' && c != '~') = text :=
    List.takeWhile_append_dropWhile
  have hchars : ∀ c ∈ text.takeWhile (fun c => opensWord c && c != '=' && c != '!' && c != '~'),
      opensWord c ∧ c ≠ '=' ∧ c ≠ '!' ∧ c ≠ '~' := by
    intro c hc
    simpa [and_assoc] using List.mem_takeWhile_imp hc
  generalize text.takeWhile (fun c => opensWord c && c != '=' && c != '!' && c != '~') = key
    at hsplit hchars h ⊢
  generalize text.dropWhile (fun c => opensWord c && c != '=' && c != '!' && c != '~') = tail
    at hsplit h ⊢
  subst hsplit
  by_cases hfound : key.isEmpty || !startsWithComparison tail
  · simp [hfound] at h
  · simp only [hfound, Bool.false_eq_true, if_false]
    simp only [Bool.or_eq_true, List.isEmpty_iff, Bool.not_eq_true', not_or,
      Bool.not_eq_false] at hfound
    refine ⟨key, tail, rfl, hfound.1, hchars, hfound.2, ?_⟩
    rw [List.takeWhile_append_of_pos fun d hd => isWordChar_of_opensWord (hchars d hd).1,
      List.length_append]

/-- A rule that finds only words, or the starts of words, measures no more than the rule of
words. -/
theorem Rule.measure_le_word {rule : Rule κ} {item : κ} {text : List Char}
    (h : 0 < rule.measure text → ∃ c rest, text = c :: rest ∧ opensWord c ∧
      rule.measure text ≤ (text.takeWhile isWordChar).length) :
    rule.measure text ≤ (Rule.word item).measure text := by
  rcases Nat.eq_zero_or_pos (rule.measure text) with hzero | hpos
  · omega
  · obtain ⟨c, rest, rfl, hc, hle⟩ := h hpos
    rwa [measure_word_of_opensWord item hc]

theorem Rule.measure_assignment_le_word (kind item : κ) (text : List Char) :
    (Rule.assignment kind).measure text ≤ (Rule.word item).measure text := by
  apply measure_le_word
  intro hpos
  obtain ⟨key, value, rfl, hkey, hchars, hmeasure⟩ := exists_key_of_assignment hpos
  obtain ⟨c, key, rfl⟩ := List.exists_cons_of_ne_nil hkey
  exact ⟨c, key ++ '=' :: value, rfl, (hchars c (by simp)).1, hmeasure.le⟩

theorem Rule.measure_condition_le_word (kind item : κ) (text : List Char) :
    (Rule.condition kind).measure text ≤ (Rule.word item).measure text := by
  apply measure_le_word
  intro hpos
  obtain ⟨key, tail, rfl, hkey, hchars, -, hmeasure⟩ := exists_key_of_condition hpos
  obtain ⟨c, key, rfl⟩ := List.exists_cons_of_ne_nil hkey
  exact ⟨c, key ++ tail, rfl, (hchars c (by simp)).1, hmeasure.le⟩

theorem Rule.measure_literal_le_word (kind item : κ) {c : Char} {word : List Char}
    (hc : opensWord c) (hword : ∀ d ∈ word, isWordChar d) (text : List Char) :
    (Rule.literal kind (c :: word)).measure text ≤ (Rule.word item).measure text := by
  apply measure_le_word
  intro hpos
  have hprefix : c :: word <+: text := by
    by_contra hno
    simp [Rule.literal, hno] at hpos
  obtain ⟨rest, rfl⟩ := hprefix
  refine ⟨c, word ++ rest, rfl, hc, ?_⟩
  have hall : ∀ d ∈ c :: word, isWordChar d := by
    rw [List.forall_mem_cons]
    exact ⟨isWordChar_of_opensWord hc, hword⟩
  rw [List.takeWhile_append_of_pos hall]
  simp [Rule.literal]

/-! ### The lexicons of arguments -/

theorem wordLexicon_reads : wordLexicon.Reads .blank .comment isWordChar := by
  have hrules : wordLexicon.rules =
      .blanks .blank :: .comment .comment :: ([] ++ [.headed .word opensWord isWordChar]) := rfl
  exact Lexicon.reads_of_rules hrules (by simp) (by simp)

theorem textLexicon_reads :
    textLexicon.Reads .blank .comment fun c => c != '\n' && c != '#' := by
  have hrules : textLexicon.rules = .blanks .blank :: .comment .comment ::
      ([] ++ [.headed .text opensWord fun c => c != '\n' && c != '#']) := rfl
  exact Lexicon.reads_of_rules hrules (by simp) (by simp)

theorem envLexicon_reads : envLexicon.unstretched.Reads .blank .comment isWordChar := by
  have hrules : envLexicon.rules = .blanks .blank :: .comment .comment ::
      ([.assignment .assignment] ++ [.headed .bare opensWord isWordChar]) := rfl
  apply Lexicon.reads_of_rules hrules (by simp)
  intro rule hrule
  obtain rfl := List.mem_singleton.mp hrule
  exact ⟨by simp [Rule.assignment], Rule.measure_assignment_le_word _ _⟩

theorem conditionLexicon_reads : conditionLexicon.Reads .blank .comment isWordChar := by
  have hrules : conditionLexicon.rules = .blanks .blank :: .comment .comment ::
      ([.literal .conjunction "AND".toList, .condition .condition] ++
        [.headed .word opensWord isWordChar]) := rfl
  apply Lexicon.reads_of_rules hrules (by simp)
  intro rule hrule
  have hletters : ∀ d ∈ ['N', 'D'], isWordChar d := by simp [isWordChar, isBlank]
  rcases List.mem_pair.mp hrule with rfl | rfl
  · exact ⟨by simp [Rule.literal], Rule.measure_literal_le_word _ _ (by decide) hletters⟩
  · exact ⟨by simp [Rule.condition], Rule.measure_condition_le_word _ _⟩

theorem envLexicon_readsLayout : envLexicon.ReadsLayout .blank .comment where
  next_blank c rest hc := by
    have hnext := Lexicon.next_of_unstretched (envLexicon_reads.next_blank c rest hc)
    simpa [envLexicon, EnvLexeme.stretch] using hnext
  next_mark rest := by
    have hnext := Lexicon.next_of_unstretched (envLexicon_reads.next_mark rest)
    simpa [envLexicon, EnvLexeme.stretch] using hnext

/-- A command has no comments: what is no blank starts it, and it takes the rest of the line. -/
theorem commandLexicon_next_command (c : Char) (rest : List Char) (hc : isWordChar c) :
    commandLexicon.next c rest =
      (⟨some .command, c :: rest.takeWhile (· != '\n')⟩, rest.dropWhile (· != '\n')) := by
  have hcommand : (Rule.headed CommandLexeme.command isWordChar (· != '\n')).measure (c :: rest) =
      1 + (rest.takeWhile (· != '\n')).length := if_pos hc
  change commandLexicon.unstretched.next c rest = _
  apply Lexicon.next_of_sole_rule (by simp [commandLexicon]) hcommand
  intro rule hrule
  rcases List.mem_pair.mp hrule with rfl | rfl
  · right
    simp [Rule.blanks, Rule.run, not_isBlank_of_isWordChar hc]
  · exact .inl rfl

theorem commandLexicon_next_blank (c : Char) (rest : List Char) (hc : isBlank c) :
    commandLexicon.next c rest =
      (⟨some .blank, c :: rest.takeWhile isBlank⟩, rest.dropWhile isBlank) := by
  change commandLexicon.unstretched.next c rest = _
  apply Lexicon.next_of_sole_rule (by simp [commandLexicon])
    (Rule.measure_blanks_of_isBlank CommandLexeme.blank hc rest)
  intro rule hrule
  rcases List.mem_pair.mp hrule with rfl | rfl
  · exact .inl rfl
  · exact .inr (Rule.measure_headed_of_isBlank (fun _ h => h) c rest hc)

end Layerfile
