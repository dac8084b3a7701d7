/-!
Longest-match scanning. A rule measures the lexeme of its kind at the front of a
text. A lexicon takes the longest lexeme, the first listed of several, and lets it
stretch into the text that follows. A character that no rule accepts is a lexeme
of its own, without a kind.
-/

namespace Layerfile

/-- A kind of lexeme and the length of the longest one at the front of a text,
zero where there is none. -/
structure Rule (κ : Type) where
  kind : κ
  measure : List Char → Nat

namespace Rule

variable {κ : Type}

def literal (kind : κ) (word : List Char) : Rule κ where
  kind := kind
  measure text := if word.isPrefixOf text then word.length else 0

def run (kind : κ) (accepts : Char → Bool) : Rule κ where
  kind := kind
  measure text := (text.takeWhile accepts).length

/-- One character that `opens`, then a run of characters that it `accepts`. -/
def headed (kind : κ) (opens accepts : Char → Bool) : Rule κ where
  kind := kind
  measure
    | [] => 0
    | c :: rest => if opens c then 1 + (rest.takeWhile accepts).length else 0

def longest : List (Rule κ) → List Char → Option (κ × Nat)
  | [], _ => none
  | rule :: rules, text =>
    match longest rules text with
    | none => if 0 < rule.measure text then some (rule.kind, rule.measure text) else none
    | some (kind, size) =>
      if size ≤ rule.measure text then some (rule.kind, rule.measure text)
      else some (kind, size)

theorem longest_pos {rules : List (Rule κ)} {text : List Char} {kind : κ} {size : Nat}
    (h : longest rules text = some (kind, size)) : 0 < size := by
  induction rules generalizing kind size with
  | nil => simp [longest] at h
  | cons rule rules ih =>
    rw [longest] at h
    cases hrest : longest rules text with
    | none =>
      simp only [hrest] at h
      split at h
      · simp_all
      · simp at h
    | some found =>
      obtain ⟨k, n⟩ := found
      have hn := ih hrest
      simp only [hrest] at h
      split at h <;> simp only [Option.some.injEq, Prod.mk.injEq] at h <;> omega

end Rule

/-- A piece of text and the kind it was recognised as, if any. -/
structure Lexeme (κ : Type) where
  kind : Option κ
  text : List Char
deriving DecidableEq, Repr

/-- Rules in order of preference. `stretch kind lexeme rest` says how many characters
of `rest` still belong to `lexeme`. -/
structure Lexicon (κ : Type) where
  rules : List (Rule κ)
  stretch : κ → List Char → List Char → Nat := fun _ _ _ => 0

namespace Lexicon

variable {κ : Type}

/-- The kind and the size of the first lexeme of `text`, stretched as far as it reaches. -/
def find? (lexicon : Lexicon κ) (text : List Char) : Option (κ × Nat) :=
  (Rule.longest lexicon.rules text).map fun (kind, size) =>
    (kind, size + lexicon.stretch kind (text.take size) (text.drop size))

/-- The first lexeme of `c :: rest` and the text after it. -/
def next (lexicon : Lexicon κ) (c : Char) (rest : List Char) : Lexeme κ × List Char :=
  match lexicon.find? (c :: rest) with
  | none => (⟨none, [c]⟩, rest)
  | some (kind, size) => (⟨some kind, (c :: rest).take size⟩, (c :: rest).drop size)

theorem find?_pos {lexicon : Lexicon κ} {text : List Char} {kind : κ} {size : Nat}
    (h : lexicon.find? text = some (kind, size)) : 0 < size := by
  simp only [find?, Option.map_eq_some_iff, Prod.mk.injEq] at h
  obtain ⟨⟨k, n⟩, hfound, -, rfl⟩ := h
  have := Rule.longest_pos hfound
  omega

theorem next_text_append (lexicon : Lexicon κ) (c : Char) (rest : List Char) :
    (lexicon.next c rest).1.text ++ (lexicon.next c rest).2 = c :: rest := by
  unfold next
  split <;> simp

theorem next_text_ne_nil (lexicon : Lexicon κ) (c : Char) (rest : List Char) :
    (lexicon.next c rest).1.text ≠ [] := by
  unfold next
  split
  · simp
  · next h =>
    have := find?_pos h
    simp
    omega

theorem next_length_lt (lexicon : Lexicon κ) (c : Char) (rest : List Char) :
    (lexicon.next c rest).2.length < (c :: rest).length := by
  have happend := congrArg List.length (lexicon.next_text_append c rest)
  have hpos := List.length_pos_iff.2 (lexicon.next_text_ne_nil c rest)
  rw [List.length_append] at happend
  omega

def scan (lexicon : Lexicon κ) : List Char → List (Lexeme κ)
  | [] => []
  | c :: rest => (lexicon.next c rest).1 :: lexicon.scan (lexicon.next c rest).2
termination_by text => text.length
decreasing_by exact lexicon.next_length_lt c rest

/-- Scanning loses nothing. -/
theorem flatMap_text_scan (lexicon : Lexicon κ) (text : List Char) :
    (lexicon.scan text).flatMap Lexeme.text = text := by
  fun_induction scan lexicon text with
  | case1 => rfl
  | case2 c rest ih => rw [List.flatMap_cons, ih, next_text_append]

theorem text_ne_nil_of_mem_scan {lexicon : Lexicon κ} {text : List Char} {lexeme : Lexeme κ}
    (h : lexeme ∈ lexicon.scan text) : lexeme.text ≠ [] := by
  fun_induction scan lexicon text with
  | case1 => simp at h
  | case2 c rest ih =>
    rcases List.mem_cons.1 h with rfl | h
    · exact lexicon.next_text_ne_nil c rest
    · exact ih h

end Lexicon

end Layerfile
