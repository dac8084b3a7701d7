/-!
Lines. A source is cut after every line feed; a carriage return right before the
line feed belongs to the ending, any other one to the content.
-/

namespace Layerfile.Text

/-- How a line ends: at the end of the source, with a line feed, or with a carriage
return and a line feed. -/
inductive Ending where
  | unterminated
  | lf
  | crlf
deriving DecidableEq, Repr

def Ending.text : Ending → List Char
  | .unterminated => []
  | .lf => ['\n']
  | .crlf => ['\r', '\n']

structure Line where
  content : List Char
  ending : Ending
deriving DecidableEq, Repr

def Line.text (line : Line) : List Char :=
  line.content ++ line.ending.text

/-- The lines of a source. A final line feed opens no further line. -/
def lines : List Char → List Line
  | [] => []
  | '\n' :: rest => ⟨[], .lf⟩ :: lines rest
  | '\r' :: '\n' :: rest => ⟨[], .crlf⟩ :: lines rest
  | c :: rest =>
    match lines rest with
    | [] => [⟨[c], .unterminated⟩]
    | line :: later => ⟨c :: line.content, line.ending⟩ :: later

/-- Cutting a source into lines loses nothing. -/
theorem flatMap_text_lines (source : List Char) : (lines source).flatMap Line.text = source := by
  fun_induction lines source with
  | case1 => rfl
  | case2 rest ih => simp [Line.text, Ending.text, ih]
  | case3 rest ih => simp [Line.text, Ending.text, ih]
  | case4 c rest _ _ h ih => simpa [Line.text, Ending.text, h] using ih
  | case5 c rest _ _ line later h ih => simpa [Line.text, h] using ih

end Layerfile.Text
