import Layerfile.Proofs.Reading

/-! Where the stretched lexemes of an environment line end. Behind an assignment comes a blank or
nothing; behind a bare key come blanks and at most a comment. -/

namespace Layerfile

open Text

/-! ### Word boundaries -/

@[simp] theorem atWordBoundary_nil : atWordBoundary [] = true := rfl

@[simp] theorem atWordBoundary_cons (c : Char) (rest : List Char) :
    atWordBoundary (c :: rest) = isBlank c := rfl

theorem atWordBoundary_dropWhile_isWordChar {text : List Char} (h : '\n' ∉ text) :
    atWordBoundary (text.dropWhile isWordChar) := by
  cases hrest : text.dropWhile isWordChar with
  | nil => rfl
  | cons c rest =>
      have hc : isWordChar c = false := by
        have := List.head?_dropWhile_not isWordChar text
        rwa [hrest] at this
      have hfeed : c ≠ '\n' := by
        rintro rfl
        apply h
        apply (List.dropWhile_suffix isWordChar).mem
        rw [hrest]
        exact List.mem_cons_self
      simpa [isWordChar, hfeed] using hc

theorem atWordBoundary_dropWhile_not_isBlank (text : List Char) :
    atWordBoundary (text.dropWhile (!isBlank ·)) := by
  cases hrest : text.dropWhile (!isBlank ·) with
  | nil => rfl
  | cons c rest =>
      have := List.head?_dropWhile_not (!isBlank ·) text
      simpa [hrest] using this

/-! ### Quoted values -/

/-- A quoted value reaches up to a blank, so what follows an assignment is a word boundary. -/
theorem atWordBoundary_drop_quotedStretch (word : List Char) {rest : List Char}
    (h : atWordBoundary rest) : atWordBoundary (rest.drop (quotedStretch word rest)) := by
  unfold quotedStretch
  split
  · exact h
  · next quote value hvalue =>
      split
      · exact h
      · split
        · exact h
        · next d after hafter =>
            rw [← List.drop_drop, ← List.drop_drop, drop_length_takeWhile, hafter,
              List.drop_one, List.tail_cons, drop_length_takeWhile]
            exact atWordBoundary_dropWhile_not_isBlank after

/-! ### Spaced values -/

/-- The part in front of a comment ends with a blank, unless there is no comment. -/
theorem exists_append_beforeComment (text : List Char) :
    ∃ after, text = beforeComment text ++ after ∧
      (after = [] ∨ (∃ b, (beforeComment text).getLast? = some b ∧ isBlank b) ∧
        ∃ comment, after = '#' :: comment) := by
  fun_induction beforeComment text with
  | case1 c rest hc => exact ⟨'#' :: rest, rfl, .inr ⟨⟨c, rfl, hc⟩, rest, rfl⟩⟩
  | case2 c rest hc ih =>
      obtain ⟨after, happend, hafter⟩ := ih
      refine ⟨after, by rw [List.cons_append, ← happend], ?_⟩
      rcases hafter with hnil | ⟨⟨b, hlast, hb⟩, hcomment⟩
      · exact .inl hnil
      · exact .inr ⟨⟨b, by simp [List.getLast?_cons, hlast], hb⟩, hcomment⟩
  | case3 c rest hmark ih =>
      obtain ⟨after, happend, hafter⟩ := ih
      refine ⟨after, by rw [List.cons_append, ← happend], ?_⟩
      rcases hafter with hnil | ⟨⟨b, hlast, hb⟩, hcomment⟩
      · exact .inl hnil
      · exact .inr ⟨⟨b, by simp [List.getLast?_cons, hlast], hb⟩, hcomment⟩
  | case4 => exact ⟨[], rfl, .inl rfl⟩

theorem isBlank_of_mem_trailingBlanks {text : List Char} {c : Char}
    (h : c ∈ trailingBlanks text) : isBlank c := by
  rw [trailingBlanks, List.mem_reverse] at h
  exact List.mem_takeWhile_imp h

theorem trailingBlanks_ne_nil {text : List Char} {b : Char} (hlast : text.getLast? = some b)
    (hb : isBlank b) : trailingBlanks text ≠ [] := by
  obtain ⟨front, rfl⟩ := List.getLast?_eq_some_iff.mp hlast
  simp [trailingBlanks, hb]

/-- Blanks, and behind them nothing or a comment. -/
def ClosesArguments (text : List Char) : Prop :=
  ∃ blanks mark, text = blanks ++ mark ∧ (∀ c ∈ blanks, isBlank c) ∧
    (mark = [] ∨ blanks ≠ [] ∧ ∃ comment, mark = '#' :: comment)

theorem closesArguments_drop_spacedStretch {rest : List Char} (h : atWordBoundary rest) :
    ClosesArguments (rest.drop (spacedStretch rest)) := by
  have hsplit : rest.takeWhile isBlank ++ rest.dropWhile isBlank = rest :=
    List.takeWhile_append_dropWhile
  have hblanks : ∀ c ∈ rest.takeWhile isBlank, isBlank c := fun c => List.mem_takeWhile_imp
  unfold spacedStretch
  split
  · next b blanks c value hblank hvalue =>
      split
      · next hmark =>
          refine ⟨_, _, hsplit.symm, hblanks, .inr ⟨by simp [hblank], value, ?_⟩⟩
          rw [hvalue, hmark]
      · obtain ⟨after, happend, hafter⟩ := exists_append_beforeComment rest
        have hdrop : rest.drop (trimRight (beforeComment rest)).length =
            trailingBlanks (beforeComment rest) ++ after := by
          have hrest : rest = trimRight (beforeComment rest) ++
              (trailingBlanks (beforeComment rest) ++ after) := by
            rw [← List.append_assoc, trimRight_append_trailingBlanks]
            exact happend
          exact (congrArg (List.drop _) hrest).trans List.drop_left
        refine ⟨_, _, hdrop, fun c => isBlank_of_mem_trailingBlanks, ?_⟩
        rcases hafter with hnil | ⟨⟨b, hlast, hb⟩, hcomment⟩
        · exact .inl hnil
        · exact .inr ⟨trailingBlanks_ne_nil hlast hb, hcomment⟩
  · next hother =>
      cases hvalue : rest.dropWhile isBlank with
      | nil =>
          rw [hvalue, List.append_nil] at hsplit
          exact ⟨_, [], by simpa using hsplit.symm, hblanks, .inl rfl⟩
      | cons c value =>
          -- A boundary has a blank in front, so the blanks are not empty here.
          obtain ⟨d, tail, rfl⟩ : ∃ d tail, rest = d :: tail :=
            List.exists_cons_of_ne_nil (by rintro rfl; simp at hvalue)
          rw [atWordBoundary_cons] at h
          exact (hother d _ c value (List.takeWhile_cons_of_pos h) hvalue).elim

end Layerfile
