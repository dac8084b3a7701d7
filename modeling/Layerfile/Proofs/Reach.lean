import Layerfile.Proofs.Runs

/-! How far the spaced form of an environment value reaches. A word that is no assignment takes the
value behind it, up to the first comment mark that follows a blank. With the word alone or with its
value, it is the last argument: only blanks and a comment come behind it. -/

namespace Layerfile

open Text

/-- A key that is not empty and holds no mark, in front of an equals sign and anything else. -/
def IsAssignment (word : List Char) : Prop :=
  ∃ key value, word = key ++ '=' :: value ∧ key ≠ [] ∧ ∀ c ∈ key, c ≠ '#' ∧ c ≠ '='

/-- No comment mark of a text follows a blank. -/
def Text.Unmarked (text : List Char) : Prop :=
  ∀ before after, text = before ++ '#' :: after → ∀ b ∈ before.getLast?, ¬ isBlank b

/-- The part of `rest` that belongs to a bare word in front of it. -/
inductive SpacedReach (rest : List Char) : List Char → Prop
  /-- Only blanks follow, or blanks and a comment mark. -/
  | alone (hcloses : ClosesArguments rest) : SpacedReach rest []
  /-- A value follows. It ends with the last character that is no blank, before the first comment
  mark that follows a blank or before the end of the line. -/
  | value {reach blanks comment : List Char} {last : Char} (hopen : ¬ ClosesArguments rest)
      (hrest : rest = reach ++ blanks ++ comment) (hreach : reach.getLast? = some last)
      (hlast : ¬ isBlank last) (hblanks : ∀ b ∈ blanks, isBlank b)
      (hunmarked : Unmarked (reach ++ blanks))
      (hcomment : comment = [] ∨ blanks ≠ [] ∧ ∃ text, comment = '#' :: text) :
      SpacedReach rest reach

/-- A word that starts with no comment mark and is no assignment. Blanks separate it from what
stands `before` it and from the `rest`. -/
structure BareWord (before word rest : List Char) : Prop where
  before_boundary : ∀ b ∈ before.getLast?, isBlank b
  word_ne_nil : word ≠ []
  not_isBlank : ∀ c ∈ word, ¬ isBlank c
  not_mark : word.head? ≠ some '#'
  not_assignment : ¬ IsAssignment word
  rest_boundary : atWordBoundary rest

/-- What is read behind `before`: a bare word with what it reaches over as `value`, and blanks and
at most one comment as the `later` pieces, up to the end of the text. -/
def ReadsSpaced (text before value : List Char) (later : List Piece) : Prop :=
  ∃ word rest reach blanks comment, text = before ++ word ++ rest ∧ BareWord before word rest ∧
    SpacedReach rest reach ∧ value = word ++ reach ∧ rest = reach ++ blanks ++ comment ∧
    (∀ b ∈ blanks, isBlank b) ∧ (comment = [] ∨ blanks ≠ [] ∧ ∃ text, comment = '#' :: text) ∧
    later = Piece.ofText .whitespace blanks ++ Piece.ofText (.comment .env) comment

/-! ### Text before a comment -/

namespace Text

variable {text : List Char}

theorem unmarked_cons {c : Char} :
    Unmarked (c :: text) ↔ (isBlank c → text.head? ≠ some '#') ∧ Unmarked text := by
  constructor
  · intro h
    constructor
    · intro hc hhead
      obtain ⟨after, rfl⟩ := List.head?_eq_some_iff.mp hhead
      exact h [c] after rfl c rfl hc
    · rintro before after rfl b hb
      refine h (c :: before) after rfl b ?_
      rw [List.getLast?_cons, hb]
      rfl
  · rintro ⟨hhead, htext⟩ before after hsplit b hb hblank
    cases before with
    | nil => cases hb
    | cons d before =>
        obtain ⟨rfl, rfl⟩ := List.cons.inj hsplit
        cases hlast : before.getLast? with
        | none =>
            -- The mark follows the first character.
            rw [List.getLast?_cons, hlast] at hb
            obtain rfl : c = b := by simpa using hb
            rw [List.getLast?_eq_none_iff.mp hlast] at hhead
            exact hhead hblank rfl
        | some d =>
            rw [List.getLast?_cons, hlast] at hb
            exact htext before after rfl b (hlast.trans (by simpa using hb)) hblank

theorem unmarked_nil : Unmarked [] := by
  intro before after h
  simp at h

end Text

theorem head?_beforeComment (text : List Char) : (beforeComment text).head? = text.head? := by
  fun_cases beforeComment text with
  | case1 => rfl
  | case2 => rfl
  | case3 => rfl
  | case4 => rfl

theorem unmarked_beforeComment (text : List Char) : Unmarked (beforeComment text) := by
  fun_induction beforeComment text with
  | case1 c rest hc => exact unmarked_cons.mpr ⟨by simp, unmarked_nil⟩
  | case2 c rest hc ih => exact unmarked_cons.mpr ⟨fun hblank => absurd hblank hc, ih⟩
  | case3 c rest hmark ih =>
      refine unmarked_cons.mpr ⟨?_, ih⟩
      intro _ hhead
      rw [head?_beforeComment] at hhead
      obtain ⟨after, rfl⟩ := List.head?_eq_some_iff.mp hhead
      exact hmark after rfl
  | case4 => exact unmarked_nil

theorem beforeComment_append {front comment : List Char} (hfront : Unmarked front)
    (hcomment : comment = [] ∨
      (∃ b ∈ front.getLast?, isBlank b) ∧ ∃ text, comment = '#' :: text) :
    beforeComment (front ++ comment) = front := by
  induction front with
  | nil =>
      obtain rfl : comment = [] := by simpa using hcomment
      rfl
  | cons c front ih =>
      rw [unmarked_cons] at hfront
      cases front with
      | nil =>
          rcases hcomment with rfl | ⟨⟨b, hb, hblank⟩, after, rfl⟩
          · rfl
          · obtain rfl : c = b := by simpa using hb
            simp [beforeComment, hblank]
      | cons d front =>
          have hinner := ih hfront.2 (by simpa using hcomment)
          rw [List.cons_append] at hinner ⊢
          by_cases hd : d = '#'
          · subst hd
            have hc : ¬ isBlank c := fun hblank => hfront.1 hblank rfl
            rw [List.cons_append, beforeComment, if_neg hc, hinner]
          · rw [List.cons_append, beforeComment, hinner]
            intro after hafter
            exact hd (List.cons.inj hafter).1

theorem Text.trimRight_append_blanks {text blanks : List Char} {last : Char}
    (hlast : text.getLast? = some last) (hnot : ¬ isBlank last)
    (hblanks : ∀ b ∈ blanks, isBlank b) : trimRight (text ++ blanks) = text := by
  obtain ⟨front, rfl⟩ := List.getLast?_eq_some_iff.mp hlast
  have hreverse : ∀ b ∈ blanks.reverse, isBlank b := by simpa using hblanks
  rw [trimRight, List.reverse_append, List.dropWhile_append_of_pos hreverse]
  simp [hnot]

/-! ### How far a bare word stretches -/

section

variable {rest : List Char}

theorem closesArguments_iff (h : atWordBoundary rest) :
    ClosesArguments rest ↔ ∀ c ∈ (rest.dropWhile isBlank).head?, c = '#' := by
  constructor
  · rintro ⟨blanks, mark, rfl, hblanks, hmark⟩
    rw [List.dropWhile_append_of_pos hblanks]
    rcases hmark with rfl | ⟨-, comment, rfl⟩
    · simp
    · rw [List.dropWhile_cons_of_neg (by decide)]
      simp
  · intro hhead
    refine ⟨rest.takeWhile isBlank, rest.dropWhile isBlank,
      List.takeWhile_append_dropWhile.symm, fun c => List.mem_takeWhile_imp, ?_⟩
    cases hmark : rest.dropWhile isBlank with
    | nil => exact .inl rfl
    | cons c comment =>
        rw [hmark] at hhead
        obtain rfl : c = '#' := hhead c rfl
        cases rest with
        | nil => cases hmark
        | cons b rest =>
            rw [atWordBoundary_cons] at h
            exact .inr ⟨by simp [h], comment, rfl⟩

theorem ClosesArguments.boundary (h : ClosesArguments rest) : atWordBoundary rest := by
  obtain ⟨blanks, mark, rfl, hblanks, hmark⟩ := h
  cases blanks with
  | nil =>
      obtain rfl : mark = [] := by simpa using hmark
      rfl
  | cons b blanks => exact hblanks b List.mem_cons_self

theorem spacedStretch_of_closes (h : atWordBoundary rest) (hcloses : ClosesArguments rest) :
    spacedStretch rest = 0 := by
  rw [closesArguments_iff h] at hcloses
  unfold spacedStretch
  split
  · next c value _ hvalue =>
      rw [hvalue] at hcloses
      exact if_pos (hcloses c rfl)
  · rfl

theorem take_spacedStretch_of_not_closes (h : atWordBoundary rest)
    (hopen : ¬ ClosesArguments rest) :
    rest.take (spacedStretch rest) = trimRight (beforeComment rest) := by
  rw [closesArguments_iff h] at hopen
  push Not at hopen
  obtain ⟨c, hhead, hc⟩ := hopen
  obtain ⟨value, hvalue⟩ := List.head?_eq_some_iff.mp hhead
  have hstretch : spacedStretch rest = (trimRight (beforeComment rest)).length := by
    cases rest with
    | nil => cases hvalue
    | cons b rest =>
        have hb : isBlank b := h
        rw [spacedStretch, hvalue, List.takeWhile_cons_of_pos hb]
        exact if_neg hc
  obtain ⟨after, happend, -⟩ := exists_append_beforeComment rest
  have hprefix : trimRight (beforeComment rest) <+: rest := by
    refine ⟨trailingBlanks (beforeComment rest) ++ after, ?_⟩
    rw [← List.append_assoc, trimRight_append_trailingBlanks, ← happend]
  rw [hstretch, ← List.prefix_iff_eq_take.mp hprefix]

/-- The stretch of a bare word is what belongs to it, and nothing else does. -/
theorem spacedReach_iff (h : atWordBoundary rest) {reach : List Char} :
    SpacedReach rest reach ↔ reach = rest.take (spacedStretch rest) := by
  constructor
  · intro hreach
    cases hreach with
    | alone hcloses => rw [spacedStretch_of_closes h hcloses, List.take_zero]
    | @value _ blanks comment _ hopen hrest hlast hnot hblanks hunmarked hcomment =>
        have hbefore : beforeComment rest = reach ++ blanks := by
          rw [hrest]
          apply beforeComment_append hunmarked
          refine hcomment.imp id fun ⟨hne, hmark⟩ => ⟨?_, hmark⟩
          refine ⟨blanks.getLast hne, ?_, hblanks _ (List.getLast_mem hne)⟩
          rw [List.getLast?_append_of_ne_nil _ hne]
          exact List.getLast?_eq_some_getLast hne
        rw [take_spacedStretch_of_not_closes h hopen, hbefore,
          trimRight_append_blanks hlast hnot hblanks]
  · rintro rfl
    by_cases hcloses : ClosesArguments rest
    · rw [spacedStretch_of_closes h hcloses, List.take_zero]
      exact .alone hcloses
    · rw [take_spacedStretch_of_not_closes h hcloses]
      obtain ⟨after, happend, hafter⟩ := exists_append_beforeComment rest
      have hsplit := trimRight_append_trailingBlanks (beforeComment rest)
      have hafter : after = [] ∨
          trailingBlanks (beforeComment rest) ≠ [] ∧ ∃ comment, after = '#' :: comment :=
        hafter.imp id fun ⟨⟨b, hlast, hb⟩, hmark⟩ => ⟨trailingBlanks_ne_nil hlast hb, hmark⟩
      have hrest : rest =
          trimRight (beforeComment rest) ++ trailingBlanks (beforeComment rest) ++ after := by
        rw [hsplit]
        exact happend
      cases hlast : (trimRight (beforeComment rest)).getLast? with
      | none =>
          -- Nothing but blanks stands before the comment, which closes the arguments.
          rw [List.getLast?_eq_none_iff.mp hlast, List.nil_append] at hrest
          exact absurd ⟨_, _, hrest, fun c => isBlank_of_mem_trailingBlanks, hafter⟩ hcloses
      | some last =>
          refine .value hcloses hrest hlast (not_isBlank_getLast?_trimRight _ last hlast)
            (fun b => isBlank_of_mem_trailingBlanks) ?_ hafter
          rw [hsplit]
          exact unmarked_beforeComment rest

end

/-! ### What stands around a bare word -/

theorem Rule.measure_assignment_pos {κ : Type} (kind : κ) {key value : List Char} (hne : key ≠ [])
    (hkey : ∀ c ∈ key, opensWord c ∧ c ≠ '=') :
    0 < (Rule.assignment kind).measure (key ++ '=' :: value) := by
  have hchars : ∀ c ∈ key, opensWord c && c != '=' := by simpa using hkey
  have htake : (key ++ '=' :: value).takeWhile (fun c => opensWord c && c != '=') = key := by
    rw [List.takeWhile_append_of_pos hchars, List.takeWhile_cons_of_neg (by decide),
      List.append_nil]
  have hdrop : (key ++ '=' :: value).dropWhile (fun c => opensWord c && c != '=') =
      '=' :: value := by
    rw [List.dropWhile_append_of_pos hchars, List.dropWhile_cons_of_neg (by decide)]
  simp only [Rule.assignment, htake, hdrop]
  rw [if_neg (by simpa using hne)]
  omega

/-- An assignment measures as much as any word and comes first, so no bare word is one. -/
theorem not_isAssignment_of_bare {c : Char} {rest : List Char} (hc : opensWord c)
    (h : (envLexicon.unstretched.next c rest).1.kind = some .bare) :
    ¬ IsAssignment (c :: rest.takeWhile isWordChar) := by
  rintro ⟨key, value, hword, hne, hkey⟩
  have htake : (c :: rest).takeWhile isWordChar = c :: rest.takeWhile isWordChar :=
    List.takeWhile_cons_of_pos (isWordChar_of_opensWord hc)
  have htext : c :: rest = key ++ '=' :: (value ++ rest.dropWhile isWordChar) := by
    rw [← List.cons_append, ← List.append_assoc, ← hword, List.cons_append,
      List.takeWhile_append_dropWhile]
  have hopens : ∀ d ∈ key, opensWord d ∧ d ≠ '=' := by
    intro d hd
    have hmem : d ∈ (c :: rest).takeWhile isWordChar := by simp [htake, hword, hd]
    simp [opensWord, List.mem_takeWhile_imp hmem, hkey d hd]
  have hpos : 0 < (Rule.assignment EnvLexeme.assignment).measure (c :: rest) := by
    rw [htext]
    exact Rule.measure_assignment_pos _ hne hopens
  obtain ⟨-, -, -, -, -, hmeasure⟩ := Rule.exists_key_of_assignment hpos
  have hsize := Rule.measure_word_of_opensWord EnvLexeme.bare hc rest
  have hlongest : Rule.longest [.word .bare] (c :: rest) =
      some (EnvLexeme.bare, ((c :: rest).takeWhile isWordChar).length) := by
    simp only [Rule.longest, hsize, ← hmeasure, if_pos hpos]
    rfl
  have hlongest := Rule.longest_cons_of_le hlongest hmeasure.le
  rw [if_pos hmeasure.ge] at hlongest
  have hcomment := Rule.measure_comment_of_opensWord EnvLexeme.comment hc rest
  have hblanks := Rule.measure_blanks_of_opensWord EnvLexeme.blank hc rest
  have hlongest := Rule.longest_cons_of_le hlongest (hcomment.trans_le (Nat.zero_le _))
  have hlongest := Rule.longest_cons_of_le hlongest (hblanks.trans_le (Nat.zero_le _))
  rw [hcomment, hblanks, ← hmeasure, if_neg (Nat.not_le.mpr hpos),
    if_neg (Nat.not_le.mpr hpos)] at hlongest
  have hrules : envLexicon.unstretched.rules = [.blanks .blank, .comment .comment,
    .assignment .assignment, .word .bare] := rfl
  simp only [Lexicon.next, Lexicon.find?, hrules, hlongest, Option.map_some] at h
  cases h

/-- Behind every lexeme of an environment line but blanks comes a blank or the end of the line. -/
theorem isBlank_or_boundary_of_next_env {c : Char} {rest : List Char} (hfeed : '\n' ∉ c :: rest) :
    (∀ d ∈ (envLexicon.next c rest).1.text, isBlank d) ∨
      atWordBoundary (envLexicon.next c rest).2 := by
  rw [List.mem_cons, not_or] at hfeed
  rcases isBlank_or_mark_or_opensWord (Ne.symm hfeed.1) with hc | rfl | hc
  · rw [envLexicon_readsLayout.next_blank c rest hc]
    exact .inl (Lexicon.isBlank_of_mem_blanks hc rest)
  · rw [envLexicon_readsLayout.next_mark rest, dropWhile_ne_feed hfeed.2]
    exact .inr rfl
  · obtain ⟨own, hblank, hcomment, hword⟩ := envLexicon_reads.next_item c rest hc
    have hend := atWordBoundary_dropWhile_isWordChar hfeed.2
    rw [Lexicon.next_of_unstretched hword]
    right
    cases own with
    | blank => exact absurd rfl hblank
    | comment => exact absurd rfl hcomment
    | assignment => exact atWordBoundary_drop_quotedStretch _ hend
    | bare => exact (closesArguments_drop_spacedStretch hend).boundary

/-- A lexeme that starts with no blank stands at the front of the line or behind a blank. -/
theorem isBlank_before_lexeme {text : List Char} (hfeed : '\n' ∉ text)
    {earlier later : List (Lexeme EnvLexeme)} {lexeme : Lexeme EnvLexeme}
    (h : envLexicon.scan text = earlier ++ lexeme :: later)
    (hhead : ∀ c ∈ lexeme.text.head?, ¬ isBlank c) :
    ∀ b ∈ (earlier.flatMap Lexeme.text).getLast?, isBlank b := by
  rcases earlier.eq_nil_or_concat' with rfl | ⟨front, previous, rfl⟩
  · simp
  · rw [List.append_assoc, List.singleton_append] at h
    obtain ⟨c, rest, rfl, rfl, htail⟩ := Lexicon.exists_next_of_scan_eq_append h
    rw [List.mem_append, not_or] at hfeed
    rw [List.flatMap_append, List.flatMap_singleton,
      List.getLast?_append_of_ne_nil _ (envLexicon.next_text_ne_nil c rest)]
    rcases isBlank_or_boundary_of_next_env hfeed.2 with hblanks | hboundary
    · exact fun b hb => hblanks b (List.mem_of_getLast? hb)
    · -- The lexeme starts the text behind the previous one, and so with a blank.
      generalize (envLexicon.next c rest).2 = behind at htail hboundary
      cases behind with
      | nil => simp [Lexicon.scan] at htail
      | cons d behind =>
          rw [Lexicon.scan_cons, List.cons.injEq] at htail
          rw [htail.1, Lexicon.head?_text_next] at hhead
          exact absurd hboundary (hhead d rfl)

theorem ArgumentMode.cut_env_blanks_append {blanks comment : List Char}
    (hblanks : ∀ b ∈ blanks, isBlank b) (hcomment : comment = [] ∨ ∃ text, comment = '#' :: text)
    (hfeed : '\n' ∉ comment) :
    env.cut (blanks ++ comment) =
      Piece.ofText .whitespace blanks ++ Piece.ofText (.comment .env) comment := by
  have hmark : comment.takeWhile isBlank = [] ∧ comment.dropWhile isBlank = comment ∧
      env.cut comment = Piece.ofText (.comment .env) comment := by
    rcases hcomment with rfl | ⟨rest, rfl⟩
    · exact ⟨rfl, rfl, cut_nil env⟩
    · rw [List.mem_cons, not_or] at hfeed
      refine ⟨List.takeWhile_cons_of_neg (by decide), List.dropWhile_cons_of_neg (by decide), ?_⟩
      rw [cut, Lexicon.scan_cons, envLexicon_readsLayout.next_mark rest,
        takeWhile_ne_feed hfeed.2, dropWhile_ne_feed hfeed.2, Lexicon.scan]
      rfl
  cases blanks with
  | nil => exact hmark.2.2
  | cons b blanks =>
      rw [List.forall_mem_cons] at hblanks
      rw [List.cons_append, cut_of_isBlank env hblanks.1,
        List.takeWhile_append_of_pos hblanks.2, List.dropWhile_append_of_pos hblanks.2, hmark.1,
        hmark.2.1, hmark.2.2, List.append_nil, Piece.ofText_of_ne_nil _ (List.cons_ne_nil b blanks)]
      rfl

/-! ### Spaced values of an environment line -/

theorem next_of_bare {c : Char} {tail : List Char} (hfeed : '\n' ∉ c :: tail)
    (h : (envLexicon.next c tail).1.kind = some .bare) :
    opensWord c ∧ ¬ IsAssignment (c :: tail.takeWhile isWordChar) ∧
      envLexicon.next c tail =
        (⟨some .bare, c :: tail.takeWhile isWordChar ++
            (tail.dropWhile isWordChar).take (spacedStretch (tail.dropWhile isWordChar))⟩,
          (tail.dropWhile isWordChar).drop (spacedStretch (tail.dropWhile isWordChar))) := by
  rw [List.mem_cons, not_or] at hfeed
  rcases isBlank_or_mark_or_opensWord (Ne.symm hfeed.1) with hc | rfl | hc
  · rw [envLexicon_readsLayout.next_blank c tail hc] at h
    cases h
  · rw [envLexicon_readsLayout.next_mark tail] at h
    cases h
  · obtain ⟨own, -, -, hword⟩ := envLexicon_reads.next_item c tail hc
    have hnext := Lexicon.next_of_unstretched hword
    rw [hnext] at h
    obtain rfl : own = .bare := Option.some.inj h
    exact ⟨hc, not_isAssignment_of_bare hc (by rw [hword]), hnext⟩

theorem readsSpaced_of_cut {text : List Char} (hfeed : '\n' ∉ text) {earlier later : List Piece}
    {piece : Piece} (h : ArgumentMode.env.cut text = earlier ++ piece :: later)
    (hkind : piece.kind = .argument .spacedAssignment) :
    ReadsSpaced text (earlier.flatMap Piece.text) piece.text later := by
  obtain ⟨front, behind, hscan, rfl, hbehind⟩ := List.map_eq_append_iff.mp h
  obtain ⟨lexeme, after, rfl, rfl, rfl⟩ := List.map_eq_cons_iff.mp hbehind
  obtain ⟨c, tail, htext, rfl, rfl⟩ := Lexicon.exists_next_of_scan_eq_append hscan
  have hnofeed : '\n' ∉ c :: tail := by
    intro hmem
    exact hfeed (by simp [htext, hmem])
  have hbare : (envLexicon.next c tail).1.kind = some .bare := by
    revert hkind
    unfold Lexeme.toPiece
    rcases (envLexicon.next c tail).1.kind with _ | _ | _ | _ | _ <;>
      simp [EnvLexeme.tokenKind]
  obtain ⟨hc, hassignment, hnext⟩ := next_of_bare hnofeed hbare
  have hhead : ∀ d ∈ (envLexicon.next c tail).1.text.head?, ¬ isBlank d := by
    rw [Lexicon.head?_text_next]
    simpa using not_isBlank_of_opensWord hc
  have hbefore := isBlank_before_lexeme hfeed hscan hhead
  rw [List.mem_cons, not_or] at hnofeed
  have hend := atWordBoundary_dropWhile_isWordChar hnofeed.2
  obtain ⟨blanks, comment, hbehind, hblanks, hcomment⟩ := closesArguments_drop_spacedStretch hend
  have hclean : '\n' ∉ comment := by
    intro hmem
    have hdrop : '\n' ∈ tail.dropWhile isWordChar :=
      List.mem_of_mem_drop (hbehind ▸ List.mem_append_right _ hmem)
    exact hnofeed.2 ((List.dropWhile_suffix _).mem hdrop)
  have hcut := ArgumentMode.cut_env_blanks_append hblanks (hcomment.imp id And.right) hclean
  have hrest := List.take_append_drop (spacedStretch (tail.dropWhile isWordChar))
    (tail.dropWhile isWordChar)
  rw [hnext, List.flatMap_map]
  refine ⟨c :: tail.takeWhile isWordChar, tail.dropWhile isWordChar, _, blanks, comment, ?_,
    ⟨hbefore, by simp, Lexicon.not_isBlank_of_mem_word hc tail, ?_, hassignment, hend⟩,
    (spacedReach_iff hend).mpr rfl, rfl, ?_, hblanks, hcomment, ?_⟩
  · rw [List.append_assoc, List.cons_append, List.takeWhile_append_dropWhile]
    exact htext
  · simpa using Lexicon.ne_mark_of_opensWord hc
  · rw [List.append_assoc, ← hbehind, hrest]
  · rw [hbehind]
    exact hcut

/-- A spaced value of an environment line starts at a bare word and reaches to the last character
that is no blank before a comment. Only blanks and at most that comment follow it. Every such token
of a source is one of the arguments of its line. -/
theorem spaced_value_reaches_comment :
    (∀ text earlier piece later, '\n' ∉ text →
      ArgumentMode.env.cut text = earlier ++ piece :: later →
      piece.kind = .argument .spacedAssignment →
      ReadsSpaced text (earlier.flatMap Piece.text) piece.text later) ∧
    ∀ source token, token ∈ tokenize source → token.kind = .argument .spacedAssignment →
      ∃ line front arguments earlier later, LineAt source.toList token.row line ∧
        line.content = front ++ arguments ∧
        ArgumentMode.env.cut arguments = earlier ++ token.piece :: later ∧
        token.column = units (front ++ earlier.flatMap Piece.text) ∧
        ReadsSpaced arguments (earlier.flatMap Piece.text) token.text.toList later := by
  constructor
  · intro text earlier piece later hfeed h hkind
    exact readsSpaced_of_cut hfeed h hkind
  · intro source token hmem hkind
    obtain ⟨line, instruction, front, arguments, earlier, later, hline, hcontent, hboundary, hcut,
      hcolumn⟩ := exists_arguments_of_mem_tokenize hmem hkind
    have hfeed := hline.wellFormed.not_mem
    rw [hcontent, List.mem_append, not_or] at hfeed
    have hpiece : ⟨token.kind, token.text.toList⟩ ∈ instruction.mode.cut arguments := by
      simp [hcut]
    have hmode := ArgumentMode.mem_kinds_of_mem_cut hboundary hfeed.2 hpiece hkind
    rw [instruction.eq_env_of_mem_kinds hmode] at hcut
    exact ⟨line, front, arguments, earlier, later, hline, hcontent, hcut, hcolumn,
      readsSpaced_of_cut hfeed.2 hcut hkind⟩

/-- Neither the mark inside the value nor its equals sign ends it. -/
theorem spaced_value_reaches_second_mark :
    ArgumentMode.env.cut " A=1 KEY v#w x=2  #c #d".toList =
      [⟨.whitespace, [' ']⟩, ⟨.argument .assignment, "A=1".toList⟩, ⟨.whitespace, [' ']⟩] ++
        ⟨.argument .spacedAssignment, "KEY v#w x=2".toList⟩ ::
          [⟨.whitespace, "  ".toList⟩, ⟨.comment .env, "#c #d".toList⟩] ∧
    ReadsSpaced " A=1 KEY v#w x=2  #c #d".toList " A=1 ".toList "KEY v#w x=2".toList
      [⟨.whitespace, "  ".toList⟩, ⟨.comment .env, "#c #d".toList⟩] := by
  have hcut : ArgumentMode.env.cut " A=1 KEY v#w x=2  #c #d".toList =
      [⟨.whitespace, [' ']⟩, ⟨.argument .assignment, "A=1".toList⟩, ⟨.whitespace, [' ']⟩] ++
        ⟨.argument .spacedAssignment, "KEY v#w x=2".toList⟩ ::
          [⟨.whitespace, "  ".toList⟩, ⟨.comment .env, "#c #d".toList⟩] := by decide +kernel
  exact ⟨hcut, spaced_value_reaches_comment.1 _ _ _ _ (by decide) hcut rfl⟩

end Layerfile
