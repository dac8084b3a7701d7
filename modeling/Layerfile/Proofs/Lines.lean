import Layerfile.Text.Line
import Layerfile.Text.Units
import Mathlib.Data.List.DropRight

/-! Lines as a reader finds them. A line starts behind a line feed or at the front of the
source, holds no line feed inside, and has the number of line feeds in front of it. -/

namespace Layerfile.Text

/-! ### The text behind the last line feed -/

/-- What stands behind the last line feed of a text. -/
def lastLine (text : List Char) : List Char :=
  text.rtakeWhile (· != '\n')

@[simp] theorem lastLine_nil : lastLine [] = [] := rfl

@[simp] theorem lastLine_append_feed (text : List Char) : lastLine (text ++ ['\n']) = [] :=
  List.rtakeWhile_concat_neg _ _ _ (by simp)

theorem lastLine_append_of_not_mem (before : List Char) {text : List Char} (h : '\n' ∉ text) :
    lastLine (before ++ text) = lastLine before ++ text := by
  have hall : ∀ c ∈ text.reverse, (c != '\n') = true := by
    intro c hc
    have hmem : c ∈ text := List.mem_reverse.mp hc
    simpa using fun heq : c = '\n' => h (heq ▸ hmem)
  simp only [lastLine, List.rtakeWhile, List.reverse_append]
  rw [List.takeWhile_append_of_pos hall, List.reverse_append, List.reverse_reverse]

theorem units_lastLine_le (text : List Char) : units (lastLine text) ≤ units text := by
  obtain ⟨front, hfront⟩ : lastLine text <:+ text := List.rtakeWhile_suffix _ _
  calc
    units (lastLine text) ≤ units front + units (lastLine text) := Nat.le_add_left _ _
    _ = units text := by rw [← units_append, hfront]

theorem length_le_units (text : List Char) : text.length ≤ units text := by
  induction text with
  | nil => simp
  | cons c text ih =>
      have hc := unitWidth_pos c
      simp only [List.length_cons, units_cons]
      omega

/-! ### Lines of a source -/

/-- No line feed stands inside a line, and a carriage return before one is not left over. -/
structure Line.WellFormed (line : Line) : Prop where
  not_mem : '\n' ∉ line.content
  getLast? : line.ending = .lf → line.content.getLast? ≠ some '\r'

/-- Well-formed lines of which only the last can be unterminated. -/
def Lined : List Line → Prop
  | [] => True
  | line :: later => line.WellFormed ∧ (later ≠ [] → line.ending ≠ .unterminated) ∧ Lined later

theorem lines_lined (source : List Char) : Lined (lines source) := by
  fun_induction lines source with
  | case1 => trivial
  | case2 rest ih => exact ⟨⟨by simp, by simp⟩, by simp, ih⟩
  | case3 rest ih => exact ⟨⟨by simp, by simp⟩, by simp, ih⟩
  | case4 c rest hfeed hreturn hrest ih =>
      refine ⟨⟨?_, by simp⟩, by simp, trivial⟩
      simpa using fun heq : '\n' = c => hfeed heq.symm
  | case5 c rest hfeed hreturn line later hrest ih =>
      rw [hrest] at ih
      obtain ⟨hline, hlater⟩ := ih
      refine ⟨⟨?_, ?_⟩, hlater⟩
      · simpa [hline.not_mem] using fun heq : '\n' = c => hfeed heq.symm
      · intro hending
        replace hending : line.ending = .lf := hending
        cases hcontent : line.content with
        | cons d content =>
            rw [List.getLast?_cons_cons, ← hcontent]
            exact hline.getLast? hending
        | nil =>
            -- The line feed follows `c` at once, so `c` is no carriage return.
            have hlines := flatMap_text_lines rest
            rw [hrest, List.flatMap_cons, Line.text, hcontent, hending] at hlines
            simpa using fun heq : c = '\r' => hreturn _ heq hlines.symm

/-! A terminated line ends in the only line feed that it holds. -/

theorem Line.WellFormed.count_text {line : Line} (h : line.WellFormed)
    (hending : line.ending ≠ .unterminated) : line.text.count '\n' = 1 := by
  have hcontent : line.content.count '\n' = 0 := List.count_eq_zero.mpr h.not_mem
  rw [Line.text, List.count_append, hcontent]
  cases hline : line.ending with
  | unterminated => exact absurd hline hending
  | lf => rfl
  | crlf => rfl

theorem lastLine_append_text (before : List Char) {line : Line}
    (hending : line.ending ≠ .unterminated) : lastLine (before ++ line.text) = [] := by
  cases hline : line.ending with
  | unterminated => exact absurd hline hending
  | lf =>
      rw [Line.text, hline, Ending.text, ← List.append_assoc]
      exact lastLine_append_feed _
  | crlf =>
      have hsplit : before ++ line.text = (before ++ line.content ++ ['\r']) ++ ['\n'] := by
        simp [Line.text, hline, Ending.text]
      rw [hsplit]
      exact lastLine_append_feed _

/-- `line` is the line of a source that has `number` line feeds in front of it. -/
structure LineAt (source : List Char) (number : Nat) (line : Line) : Prop where
  wellFormed : line.WellFormed
  split : ∃ before after, source = before ++ line.text ++ after ∧
    before.count '\n' = number ∧ lastLine before = [] ∧
    (line.ending = .unterminated → after = [])

theorem Lined.lineAt {lines : List Line} (h : Lined lines) {front : List Char}
    (hfront : lastLine front = []) {index : Nat} {line : Line}
    (hline : lines[index]? = some line) :
    LineAt (front ++ lines.flatMap Line.text) (front.count '\n' + index) line := by
  induction lines generalizing front index with
  | nil => simp at hline
  | cons first later ih =>
      obtain ⟨hfirst, hlast, hlater⟩ := h
      cases index with
      | zero =>
          obtain rfl : first = line := by simpa using hline
          refine ⟨hfirst, front, later.flatMap Line.text, by simp, rfl, hfront, ?_⟩
          intro hending
          by_contra hne
          apply hlast _ hending
          rintro rfl
          exact hne rfl
      | succ index =>
          have hterminated : first.ending ≠ .unterminated := by
            apply hlast
            rintro rfl
            simp at hline
          have hat := ih hlater (lastLine_append_text front hterminated) (by simpa using hline)
          rw [List.count_append, hfirst.count_text hterminated, List.append_assoc,
            Nat.add_assoc, Nat.add_comm 1] at hat
          exact hat

theorem lineAt_of_getElem?_lines {source : List Char} {number : Nat} {line : Line}
    (h : (lines source)[number]? = some line) : LineAt source number line := by
  have hat := (lines_lined source).lineAt lastLine_nil h
  rwa [List.nil_append, flatMap_text_lines, List.count_nil, Nat.zero_add] at hat

end Layerfile.Text
