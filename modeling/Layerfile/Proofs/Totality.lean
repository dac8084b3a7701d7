import Layerfile.Proofs.Pieces

/-! Scanning a text. Every lexicon keeps all characters of a text. The lexicons of arguments
recognise each of them but the line feed: no rule takes one, and any other character starts a
lexeme. So what is not recognised are the line feeds, one by one. -/

namespace Layerfile

open Text

variable {κ : Type}

namespace Lexicon

theorem text_next_of_kind_eq_none {lexicon : Lexicon κ} {c : Char} {rest : List Char}
    (h : (lexicon.next c rest).1.kind = none) : (lexicon.next c rest).1.text = [c] := by
  unfold next at h ⊢
  cases hfound : lexicon.find? (c :: rest) with
  | none => rfl
  | some found => simp [hfound] at h

/-- The lexemes of a text are not empty and make up the text, and one without a kind is a single
character. -/
structure Covers (lexicon : Lexicon κ) (text : List Char) : Prop where
  joined : (lexicon.scan text).flatMap Lexeme.text = text
  ne_nil : ∀ lexeme ∈ lexicon.scan text, lexeme.text ≠ []
  single : ∀ lexeme ∈ lexicon.scan text, lexeme.kind = none → lexeme.text.length = 1

theorem covers (lexicon : Lexicon κ) (text : List Char) : lexicon.Covers text where
  joined := lexicon.flatMap_text_scan text
  ne_nil _ := text_ne_nil_of_mem_scan
  single lexeme hlexeme hkind := by
    obtain ⟨c, rest, rfl⟩ := exists_next_of_mem_scan hlexeme
    rw [text_next_of_kind_eq_none hkind]
    rfl

/-! ### Where a scan fails -/

/-- A lexeme without a kind starts behind `offset` characters. -/
def FailsAt (lexicon : Lexicon κ) (text : List Char) (offset : Nat) : Prop :=
  ∃ earlier lexeme later, lexicon.scan text = earlier ++ lexeme :: later ∧
    lexeme.kind = none ∧ (earlier.flatMap Lexeme.text).length = offset

/-- The lexemes without a kind are the line feeds of the text. -/
structure FailsAtFeeds (lexicon : Lexicon κ) (text : List Char) : Prop where
  failsAt_iff : ∀ offset, lexicon.FailsAt text offset ↔ text[offset]? = some '\n'
  text_eq : ∀ lexeme ∈ lexicon.scan text, lexeme.kind = none → lexeme.text = ['\n']
  kind_ne_none : '\n' ∉ text → ∀ lexeme ∈ lexicon.scan text, lexeme.kind ≠ none

section

variable {lexicon : Lexicon κ} {c : Char} {rest : List Char} {offset : Nat}

theorem not_failsAt_nil : ¬ lexicon.FailsAt [] offset := by
  rintro ⟨earlier, lexeme, later, hscan, -⟩
  simp [scan] at hscan

theorem failsAt_cons :
    lexicon.FailsAt (c :: rest) offset ↔
      ((lexicon.next c rest).1.kind = none ∧ offset = 0) ∨
      ∃ behind, offset = (lexicon.next c rest).1.text.length + behind ∧
        lexicon.FailsAt (lexicon.next c rest).2 behind := by
  constructor
  · rintro ⟨earlier, lexeme, later, hscan, hkind, rfl⟩
    rw [scan_cons] at hscan
    cases earlier with
    | nil =>
        obtain ⟨rfl, -⟩ := List.cons.inj hscan
        exact .inl ⟨hkind, rfl⟩
    | cons first earlier =>
        obtain ⟨rfl, hbehind⟩ := List.cons.inj hscan
        refine .inr ⟨(earlier.flatMap Lexeme.text).length, ?_, ?_⟩
        · rw [List.flatMap_cons, List.length_append]
        · exact ⟨earlier, lexeme, later, hbehind, hkind, rfl⟩
  · rintro (⟨hkind, rfl⟩ | ⟨behind, rfl, earlier, lexeme, later, hscan, hkind, rfl⟩)
    · exact ⟨[], _, _, scan_cons lexicon c rest, hkind, rfl⟩
    · refine ⟨(lexicon.next c rest).1 :: earlier, lexeme, later, ?_, hkind, ?_⟩
      · rw [scan_cons, hscan, List.cons_append]
      · rw [List.flatMap_cons, List.length_append]

theorem exists_failsAt_of_mem_scan {text : List Char} {lexeme : Lexeme κ}
    (h : lexeme ∈ lexicon.scan text) (hkind : lexeme.kind = none) :
    ∃ offset, lexicon.FailsAt text offset := by
  obtain ⟨earlier, later, hscan⟩ := List.append_of_mem h
  exact ⟨_, earlier, lexeme, later, hscan, hkind, rfl⟩

end

/-! ### Lexicons that reject line feeds -/

/-- The first lexeme of a text lacks a kind exactly if it holds a line feed. -/
def RejectsFeeds (lexicon : Lexicon κ) : Prop :=
  ∀ c rest, (lexicon.next c rest).1.kind = none ↔ '\n' ∈ (lexicon.next c rest).1.text

namespace RejectsFeeds

variable {lexicon : Lexicon κ} {c : Char} {rest : List Char}

theorem text_eq (h : lexicon.RejectsFeeds) (hkind : (lexicon.next c rest).1.kind = none) :
    (lexicon.next c rest).1.text = ['\n'] := by
  have htext := text_next_of_kind_eq_none hkind
  have hfeed := (h c rest).mp hkind
  rw [htext, List.mem_singleton] at hfeed
  rw [htext, ← hfeed]

theorem getElem?_text_iff (h : lexicon.RejectsFeeds) (offset : Nat) :
    (lexicon.next c rest).1.text[offset]? = some '\n' ↔
      (lexicon.next c rest).1.kind = none ∧ offset = 0 := by
  constructor
  · intro hfeed
    have hkind := (h c rest).mpr (List.mem_of_getElem? hfeed)
    have hlt := (List.getElem?_eq_some_iff.mp hfeed).1
    rw [h.text_eq hkind, List.length_singleton] at hlt
    exact ⟨hkind, by omega⟩
  · rintro ⟨hkind, rfl⟩
    rw [h.text_eq hkind]
    rfl

/-- Each line feed of a text is the start of a lexeme without a kind, and there is no other. -/
theorem failsAt_iff (h : lexicon.RejectsFeeds) (text : List Char) (offset : Nat) :
    lexicon.FailsAt text offset ↔ text[offset]? = some '\n' := by
  fun_induction scan lexicon text generalizing offset with
  | case1 => simp [not_failsAt_nil]
  | case2 c rest ih =>
      rw [failsAt_cons, ← h.getElem?_text_iff, ← lexicon.next_text_append c rest]
      -- The offset is inside the first lexeme or behind it.
      by_cases hlt : offset < (lexicon.next c rest).1.text.length
      · rw [List.getElem?_append_left hlt, or_iff_left]
        rintro ⟨behind, rfl, -⟩
        omega
      · have hge : (lexicon.next c rest).1.text.length ≤ offset := by omega
        obtain ⟨behind, rfl⟩ := Nat.exists_eq_add_of_le hge
        rw [List.getElem?_append_right hge, List.getElem?_eq_none hge, Nat.add_sub_cancel_left]
        simp [ih]

theorem failsAtFeeds (h : lexicon.RejectsFeeds) (text : List Char) : lexicon.FailsAtFeeds text where
  failsAt_iff := h.failsAt_iff text
  text_eq lexeme hlexeme hkind := by
    obtain ⟨c, rest, rfl⟩ := exists_next_of_mem_scan hlexeme
    exact h.text_eq hkind
  kind_ne_none hfeed lexeme hlexeme hkind := by
    obtain ⟨offset, hfails⟩ := exists_failsAt_of_mem_scan hlexeme hkind
    exact hfeed (List.mem_of_getElem? ((h.failsAt_iff text offset).mp hfails))

end RejectsFeeds

/-- It suffices that every other character starts a run that ends in front of a line feed. -/
theorem rejectsFeeds_of_runs {lexicon : Lexicon κ}
    (hfeed : ∀ rest, (lexicon.next '\n' rest).1.kind = none)
    (hruns : ∀ c rest, c ≠ '\n' → ∃ kind accepts, accepts '\n' = false ∧
      (lexicon.next c rest).1 = ⟨some kind, c :: rest.takeWhile accepts⟩) :
    lexicon.RejectsFeeds := by
  intro c rest
  by_cases hc : c = '\n'
  · subst hc
    exact iff_of_true (hfeed rest) (List.mem_of_mem_head? (lexicon.head?_text_next '\n' rest))
  · obtain ⟨kind, accepts, haccepts, hnext⟩ := hruns c rest hc
    have hclean : '\n' ∉ c :: rest.takeWhile accepts := by
      rw [List.mem_cons, not_or]
      refine ⟨Ne.symm hc, ?_⟩
      intro hmem
      rw [List.mem_takeWhile_imp hmem] at haccepts
      cases haccepts
    rw [hnext]
    exact iff_of_false (Option.some_ne_none kind) hclean

theorem Reads.rejectsFeeds {lexicon : Lexicon κ} {blank comment : κ} {accepts : Char → Bool}
    (hreads : lexicon.Reads blank comment accepts) (haccepts : accepts '\n' = false)
    (hfeed : ∀ rest, (lexicon.next '\n' rest).1.kind = none) : lexicon.RejectsFeeds := by
  apply rejectsFeeds_of_runs hfeed
  intro c rest hc
  rcases isBlank_or_mark_or_opensWord hc with hblank | rfl | hopens
  · exact ⟨blank, isBlank, by decide, by rw [hreads.next_blank c rest hblank]⟩
  · exact ⟨comment, (· != '\n'), by decide, by rw [hreads.next_mark rest]⟩
  · obtain ⟨kind, -, -, hnext⟩ := hreads.next_item c rest hopens
    exact ⟨kind, accepts, haccepts, by rw [hnext]⟩

end Lexicon

/-! ### The lexicons of arguments -/

theorem wordLexicon_rejectsFeeds : wordLexicon.RejectsFeeds :=
  wordLexicon_reads.rejectsFeeds rfl fun _ => rfl

theorem textLexicon_rejectsFeeds : textLexicon.RejectsFeeds :=
  textLexicon_reads.rejectsFeeds rfl fun _ => rfl

theorem envLexicon_rejectsFeeds : envLexicon.unstretched.RejectsFeeds :=
  envLexicon_reads.rejectsFeeds rfl fun _ => rfl

theorem conditionLexicon_rejectsFeeds : conditionLexicon.RejectsFeeds :=
  conditionLexicon_reads.rejectsFeeds rfl fun _ => rfl

theorem commandLexicon_rejectsFeeds : commandLexicon.RejectsFeeds := by
  apply Lexicon.rejectsFeeds_of_runs fun _ => rfl
  intro c rest hc
  by_cases hblank : isBlank c
  · exact ⟨.blank, isBlank, by decide, by rw [commandLexicon_next_blank c rest hblank]⟩
  · have hword : isWordChar c := by simp [isWordChar, hblank, hc]
    exact ⟨.command, (· != '\n'), by decide, by rw [commandLexicon_next_command c rest hword]⟩

/-- Each lexicon cuts every text into lexemes that are not empty and lose nothing. Those of
arguments, the words of an environment line taken one by one, recognise all but the line feeds. -/
theorem lexicons_cover_and_fail_at_feeds (text : List Char) :
    (headLexicon.Covers text ∧ wordLexicon.Covers text ∧ textLexicon.Covers text ∧
      commandLexicon.Covers text ∧ envLexicon.unstretched.Covers text ∧
      conditionLexicon.Covers text) ∧
    wordLexicon.FailsAtFeeds text ∧ textLexicon.FailsAtFeeds text ∧
      commandLexicon.FailsAtFeeds text ∧ envLexicon.unstretched.FailsAtFeeds text ∧
      conditionLexicon.FailsAtFeeds text := by
  constructor
  · exact ⟨headLexicon.covers text, wordLexicon.covers text, textLexicon.covers text,
      commandLexicon.covers text, envLexicon.unstretched.covers text,
      conditionLexicon.covers text⟩
  · exact ⟨wordLexicon_rejectsFeeds.failsAtFeeds text, textLexicon_rejectsFeeds.failsAtFeeds text,
      commandLexicon_rejectsFeeds.failsAtFeeds text, envLexicon_rejectsFeeds.failsAtFeeds text,
      conditionLexicon_rejectsFeeds.failsAtFeeds text⟩

end Layerfile
