import Layerfile.Proofs.Spaced

/-! How far the quoted value of an assignment reaches. A quote that is closed inside its word ends
there, and one that is still open runs over the next quote of its kind. Only the last character of
the word tells the two apart, so a word that goes on behind its closing quote is taken for open. -/

namespace Layerfile

open Text

/-- The part of `rest` that belongs to a value which `quote` opens, when its first word goes on
with `inner` and `rest` stands behind the word. -/
inductive ClosingReach (quote : Char) (inner rest : List Char) : List Char → Prop
  /-- The quote is closed in its word, and the value ends with the word. -/
  | closed (hinner : quote ∈ inner) : ClosingReach quote inner rest []
  /-- The quote is closed later on the line, and the value ends at the next blank. -/
  | spanning {before after behind : List Char} (hinner : quote ∉ inner)
      (hrest : rest = before ++ quote :: (after ++ behind)) (hbefore : quote ∉ before)
      (hafter : ∀ c ∈ after, ¬ isBlank c) (hbehind : atWordBoundary behind) :
      ClosingReach quote inner rest (before ++ quote :: after)
  /-- The quote is never closed, and the value ends with the word. -/
  | unclosed (hinner : quote ∉ inner) (hrest : quote ∉ rest) : ClosingReach quote inner rest []

theorem ClosingReach.eq_nil_of_mem {quote : Char} {inner rest reach : List Char}
    (h : ClosingReach quote inner rest reach) (hinner : quote ∈ inner) : reach = [] := by
  cases h with
  | closed => rfl
  | spanning hopen => exact absurd hinner hopen
  | unclosed hopen => exact absurd hinner hopen

/-! ### How far an assignment stretches -/

section

variable {key inner rest : List Char} {quote : Char}

theorem value_of_word (hkey : '=' ∉ key) :
    ((key ++ '=' :: inner).dropWhile (· != '=')).drop 1 = inner := by
  have hchars : ∀ c ∈ key, (c != '=') = true := by
    intro c hc
    simpa using fun heq : c = '=' => hkey (heq ▸ hc)
  rw [List.dropWhile_append_of_pos hchars, List.dropWhile_cons_of_neg (by decide), List.drop_one,
    List.tail_cons]

theorem exists_value_of_quotedStretch_pos {word : List Char} (h : 0 < quotedStretch word rest) :
    ∃ key quote inner, word = key ++ '=' :: quote :: inner ∧ '=' ∉ key := by
  unfold quotedStretch at h
  split at h
  · cases h
  · next quote inner hvalue =>
      refine ⟨word.takeWhile (· != '='), quote, inner, ?_, ?_⟩
      · cases htail : word.dropWhile (· != '=') with
        | nil => simp [htail] at hvalue
        | cons c tail =>
            have hc := List.head?_dropWhile_not (· != '=') word
            rw [htail] at hvalue hc
            obtain rfl : c = '=' := by simpa using hc
            rw [List.drop_one, List.tail_cons] at hvalue
            rw [← hvalue, ← htail, List.takeWhile_append_dropWhile]
      · intro hmem
        have hchar := List.mem_takeWhile_imp hmem
        simp at hchar

/-- A quoted word stretches exactly if it does not end with its quote and the quote comes again.
Then it takes the text up to the blank behind the next quote. -/
theorem quotedStretch_cases (hkey : '=' ∉ key) (hquote : isQuote quote) (rest : List Char) :
    ((inner.getLast? = some quote ∨ quote ∉ rest) ∧
      quotedStretch (key ++ '=' :: quote :: inner) rest = 0) ∨
    inner.getLast? ≠ some quote ∧ ∃ before after behind,
      rest = before ++ quote :: (after ++ behind) ∧ quote ∉ before ∧
      (∀ c ∈ after, ¬ isBlank c) ∧ atWordBoundary behind ∧
      rest.take (quotedStretch (key ++ '=' :: quote :: inner) rest) =
        before ++ quote :: after := by
  by_cases hlast : inner.getLast? = some quote
  · exact .inl ⟨.inl hlast, by simp [quotedStretch, value_of_word hkey, hlast]⟩
  · have hopen : ¬ (!isQuote quote || inner.getLast? == some quote) = true := by
      simp [hquote, hlast]
    have hsplit := List.takeWhile_append_dropWhile (p := (· != quote)) (l := rest)
    cases htail : rest.dropWhile (· != quote) with
    | nil =>
        refine .inl ⟨.inr ?_, ?_⟩
        · intro hmem
          have hchar := List.dropWhile_eq_nil_iff.mp htail quote hmem
          simp at hchar
        · simp only [quotedStretch, value_of_word hkey, if_neg hopen, htail]
    | cons c tail =>
        have hc := List.head?_dropWhile_not (· != quote) rest
        rw [htail] at hc hsplit
        obtain rfl : c = quote := by simpa using hc
        refine .inr ⟨hlast, rest.takeWhile (· != c), tail.takeWhile (!isBlank ·),
          tail.dropWhile (!isBlank ·), ?_, ?_, ?_, atWordBoundary_dropWhile_not_isBlank tail, ?_⟩
        · rw [List.takeWhile_append_dropWhile, hsplit]
        · intro hmem
          have hchar := List.mem_takeWhile_imp hmem
          simp at hchar
        · intro d hd
          simpa using List.mem_takeWhile_imp hd
        · have hstretch : quotedStretch (key ++ '=' :: c :: inner) rest =
              (rest.takeWhile (· != c) ++ c :: tail.takeWhile (!isBlank ·)).length := by
            simp only [quotedStretch, value_of_word hkey, if_neg hopen, htail,
              List.length_append, List.length_cons]
            omega
          have hrest : rest = (rest.takeWhile (· != c) ++ c :: tail.takeWhile (!isBlank ·)) ++
              tail.dropWhile (!isBlank ·) := by
            rw [List.append_assoc, List.cons_append, List.takeWhile_append_dropWhile, hsplit]
          rw [hstretch]
          exact (congrArg (List.take _) hrest).trans List.take_left

/-- The stretch of an assignment ends where its quote is closed, unless the quote is closed inside
the word, the word goes on behind it and the quote comes again on the line. -/
theorem closingReach_iff (hkey : '=' ∉ key) (hquote : isQuote quote) (rest : List Char) :
    ClosingReach quote inner rest
        (rest.take (quotedStretch (key ++ '=' :: quote :: inner) rest)) ↔
      (quote ∈ inner → inner.getLast? = some quote ∨ quote ∉ rest) := by
  rcases quotedStretch_cases hkey hquote rest with
    ⟨hends, hzero⟩ | ⟨hlast, before, after, behind, hrest, hbefore, hafter, hbehind, htake⟩
  · rw [hzero, List.take_zero]
    refine ⟨fun _ _ => hends, fun _ => ?_⟩
    by_cases hinner : quote ∈ inner
    · exact .closed hinner
    · rcases hends with hlast | hrest
      · exact absurd (List.mem_of_getLast? hlast) hinner
      · exact .unclosed hinner hrest
  · rw [htake]
    constructor
    · intro hreach hinner
      exact absurd (hreach.eq_nil_of_mem hinner) (by simp)
    · intro hends
      refine .spanning ?_ hrest hbefore hafter hbehind
      intro hinner
      rcases hends hinner with hclosed | hnone
      · exact hlast hclosed
      · exact hnone (by simp [hrest])

/-! ### Quoted assignments of a source -/

theorem eq_of_append_mark_eq {mark : Char} {first second tail behind : List Char}
    (h : first ++ mark :: tail = second ++ mark :: behind) (hfirst : mark ∉ first)
    (hsecond : mark ∉ second) : first = second ∧ tail = behind := by
  rcases List.append_eq_append_iff.mp h with ⟨more, hmore, htail⟩ | ⟨more, hmore, htail⟩
  · cases more with
    | nil => simp_all
    | cons c more =>
        obtain ⟨rfl, -⟩ := List.cons.inj htail
        simp [hmore] at hsecond
  · cases more with
    | nil => simp_all
    | cons c more =>
        obtain ⟨rfl, -⟩ := List.cons.inj htail
        simp [hmore] at hfirst

theorem exists_inner_of_text {word value : List Char} (hkey : '=' ∉ key)
    (h : word ++ rest.take (quotedStretch word rest) = key ++ '=' :: quote :: value) :
    ∃ inner, word = key ++ '=' :: quote :: inner := by
  rcases Nat.eq_zero_or_pos (quotedStretch word rest) with hzero | hpos
  · rw [hzero, List.take_zero, List.append_nil] at h
    exact ⟨value, h⟩
  · obtain ⟨own, opening, inner, rfl, hown⟩ := exists_value_of_quotedStretch_pos hpos
    rw [List.append_assoc, List.cons_append] at h
    obtain ⟨rfl, hvalue⟩ := eq_of_append_mark_eq h hown hkey
    rw [List.cons_append, List.cons.injEq] at hvalue
    exact ⟨inner, by rw [hvalue.1]⟩

end

/-- A quoted assignment takes the word that opens its quote and text behind that word. It ends
where its quote is closed exactly if a quote that is closed inside the word ends the word, or does
not come again on the line. -/
theorem assignment_closes_quote_iff (source : String) {token : Token}
    (h : token ∈ tokenize source) (hkind : token.kind = .argument .assignment)
    {key value : List Char} {quote : Char}
    (htext : token.text.toList = key ++ '=' :: quote :: value) (hkey : '=' ∉ key)
    (hquote : isQuote quote) :
    ∃ inner rest reach,
      token.TakesWord source (key ++ '=' :: quote :: inner) rest reach ∧
      (ClosingReach quote inner rest reach ↔
        (quote ∈ inner → inner.getLast? = some quote ∨ quote ∉ rest)) := by
  obtain ⟨own, word, rest, hown, htakes⟩ :=
    exists_takesWord h hkind fun instruction => instruction.mode_of_assignment
  obtain rfl : own = .assignment := by
    revert hown
    cases own <;> decide
  obtain ⟨inner, rfl⟩ := exists_inner_of_text hkey (htakes.text_eq.symm.trans htext)
  exact ⟨inner, rest, _, htakes, closingReach_iff hkey hquote rest⟩

/-- The quote is closed in a later word, which goes on up to its blank. -/
theorem assignment_closes_quote_in_later_word :
    ⟨.argument .assignment, 1, 10, "B=\"two  words\"z"⟩ ∈
      tokenize "ENV A=\"x\" B=\"two  words\"z C=\"1\"" ∧
    ∃ rest reach,
      Token.TakesWord "ENV A=\"x\" B=\"two  words\"z C=\"1\""
        ⟨.argument .assignment, 1, 10, "B=\"two  words\"z"⟩ "B=\"two".toList rest reach ∧
      ClosingReach '"' "two".toList rest reach := by
  have hmem : ⟨.argument .assignment, 1, 10, "B=\"two  words\"z"⟩ ∈
      tokenize "ENV A=\"x\" B=\"two  words\"z C=\"1\"" := by decide +kernel
  have htext : "B=\"two  words\"z".toList = ['B'] ++ '=' :: '"' :: "two  words\"z".toList := rfl
  obtain ⟨inner, rest, reach, htakes, hreach⟩ :=
    assignment_closes_quote_iff _ hmem rfl htext (by decide) rfl
  have hword : ['B'] ++ '=' :: '"' :: inner = "B=\"two".toList :=
    htakes.word_eq.trans (by decide)
  obtain rfl : inner = "two".toList := by simpa using hword
  exact ⟨hmem, rest, reach, htakes, hreach.mpr fun hclosed => absurd hclosed (by decide)⟩

/-- The word goes on behind its closing quote, and the value takes the next assignment. -/
theorem assignment_runs_past_closing_quote :
    tokenize "ENV A=\"b\"c D=\"e\"" =
      [⟨.instruction .env, 1, 0, "ENV"⟩, ⟨.whitespace, 1, 3, " "⟩,
        ⟨.argument .assignment, 1, 4, "A=\"b\"c D=\"e\""⟩] ∧
    Token.TakesWord "ENV A=\"b\"c D=\"e\"" ⟨.argument .assignment, 1, 4, "A=\"b\"c D=\"e\""⟩
      "A=\"b\"c".toList " D=\"e\"".toList " D=\"e\"".toList ∧
    ¬ ClosingReach '"' "b\"c".toList " D=\"e\"".toList " D=\"e\"".toList := by
  refine ⟨by decide +kernel, ?_, ?_⟩
  · refine ⟨?_, by decide, by simp [isBlank], rfl, rfl, List.prefix_rfl⟩
    exact ⟨⟨"ENV A=\"b\"c D=\"e\"".toList, .unterminated⟩, "ENV ".toList,
      lineAt_of_getElem?_lines (by decide +kernel), rfl, rfl⟩
  · intro hreach
    exact absurd (hreach.eq_nil_of_mem (by decide)) (by decide)

end Layerfile
