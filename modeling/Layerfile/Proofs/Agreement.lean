import Layerfile.Proofs.Delimited

/-! Where the two modes place the same value. One looks for the second segment behind the key, the
other starts right behind the first delimiter. They part exactly where the segment is found inside
the delimiter, which only a comparison allows. -/

namespace Layerfile

open Text

/-! ### The first occurrence -/

section

variable {needle rest : List Char}

theorem exists_offsetOf?_append (h : needle <+: rest) (front : List Char) :
    ∃ offset, offset ≤ front.length ∧ offsetOf? needle (front ++ rest) = some offset := by
  induction front with
  | nil =>
      refine ⟨0, Nat.le_refl _, ?_⟩
      cases rest with
      | nil => simp [offsetOf?, List.prefix_nil.mp h]
      | cons c rest => simp [offsetOf?, h]
  | cons c front ih =>
      obtain ⟨offset, hle, hoffset⟩ := ih
      rw [List.cons_append, offsetOf?]
      split
      · exact ⟨0, Nat.zero_le _, rfl⟩
      · exact ⟨offset + 1, Nat.succ_le_succ hle, by rw [hoffset]; rfl⟩

/-- What stands behind `front` is found there exactly if it does not start inside `front`. -/
theorem offsetOf?_append_iff (h : needle <+: rest) (front : List Char) :
    offsetOf? needle (front ++ rest) = some front.length ↔
      ∀ inner, inner <:+ front → inner ≠ [] → ¬ needle <+: inner ++ rest := by
  induction front with
  | nil =>
      obtain ⟨offset, hle, hoffset⟩ := exists_offsetOf?_append h []
      rw [hoffset, Nat.le_zero.mp hle]
      refine ⟨fun _ inner hinner hne => ?_, fun _ => rfl⟩
      exact absurd (List.suffix_nil.mp hinner) hne
  | cons c front ih =>
      rw [List.cons_append, offsetOf?]
      split
      · next hstarts =>
          rw [List.isPrefixOf_iff_prefix] at hstarts
          refine ⟨by simp, fun hnone => ?_⟩
          exact absurd hstarts (hnone (c :: front) List.suffix_rfl (by simp))
      · next hstarts =>
          rw [List.isPrefixOf_iff_prefix] at hstarts
          have hsucc : (offsetOf? needle (front ++ rest)).map (· + 1) = some (c :: front).length ↔
              offsetOf? needle (front ++ rest) = some front.length := by
            simp
          rw [hsucc, ih]
          constructor
          · intro hnone inner hinner hne
            rcases List.suffix_cons_iff.mp hinner with rfl | hinner
            · exact hstarts
            · exact hnone inner hinner hne
          · intro hnone inner hinner
            exact hnone inner (hinner.trans (List.suffix_cons c front))

end

/-! ### Runs of one character -/

section

variable {word text : List Char} {c : Char}

/-- A word that a text starts with at two places in a row has a single character. -/
theorem eq_of_mem_of_isPrefix_cons (hcons : word <+: c :: text) (htext : word <+: text) :
    ∀ d ∈ word, d = c := by
  induction word generalizing text with
  | nil => simp
  | cons d word ih =>
      obtain ⟨rfl, hword⟩ := List.cons_prefix_cons.mp hcons
      obtain ⟨after, rfl⟩ := htext
      rw [List.forall_mem_cons]
      exact ⟨rfl, ih hword (List.prefix_append word after)⟩

theorem isPrefix_cons_of_forall_mem (hword : ∀ d ∈ word, d = c) (htext : word <+: text) :
    word <+: c :: text := by
  obtain ⟨after, rfl⟩ := htext
  have hrun : c :: word = word ++ [c] := by
    rw [List.eq_replicate_of_mem hword, ← List.replicate_succ, ← List.replicate_succ']
  refine ⟨c :: after, ?_⟩
  rw [← List.cons_append, hrun, List.append_assoc]
  rfl

end

/-! ### What a delimiter leaves behind -/

namespace Delimiter

theorem width_le_length (delimiter : Delimiter) (text : List Char) :
    delimiter.width text ≤ text.length := by
  cases delimiter with
  | equals => unfold width; split <;> simp_all
  | whitespace => exact (List.takeWhile_prefix _).length_le
  | comparison => unfold width; split <;> simp_all

theorem width_of_cut? {delimiter : Delimiter} {text : List Char} {cut : Cut}
    (h : delimiter.cut? text = some cut) :
    cut.delimiter ≠ [] ∧ delimiter.width (cut.delimiter ++ cut.after) = cut.delimiter.length := by
  induction text generalizing cut with
  | nil => simp [cut?] at h
  | cons c rest ih =>
      have hle := delimiter.width_le_length (c :: rest)
      rw [cut?] at h
      split at h
      · obtain ⟨inner, hinner, rfl⟩ := Option.map_eq_some_iff.mp h
        have hcut := ih hinner
        exact hcut
      · next width hwidth =>
          obtain rfl := Option.some.inj h
          rw [hwidth] at hle
          simp only [List.take_append_drop, hwidth, List.length_take, Nat.min_eq_left hle]
          simp

theorem width_after_of_segment {delimiter : Delimiter} {cut : Cut}
    (h : delimiter.segment cut ≠ []) : delimiter.width cut.after = 0 := by
  unfold segment at h
  cases hafter : cut.after with
  | nil => simp [hafter, cut?] at h
  | cons c rest =>
      rw [hafter, cut?] at h
      cases hwidth : delimiter.width (c :: rest) with
      | zero => rfl
      | succ width => simp [hwidth] at h

theorem not_segment_isPrefix {delimiter : Delimiter} {cut : Cut}
    (h : delimiter.segment cut ≠ []) {c : Char} (hc : ∀ rest, 0 < delimiter.width (c :: rest))
    (text : List Char) : ¬ delimiter.segment cut <+: c :: text := by
  intro hstarts
  have hwidth := width_after_of_segment h
  obtain ⟨d, segment, hsegment⟩ := List.exists_cons_of_ne_nil h
  obtain ⟨behind, hafter⟩ := delimiter.segment_isPrefix cut
  rw [hsegment] at hstarts hafter
  rw [← hafter, (List.cons_prefix_cons.mp hstarts).1] at hwidth
  exact absurd hwidth (hc _).ne'

def comparisons : List (List Char) :=
  [['!', '=', '~'], ['!', '='], ['=', '~'], ['=']]

theorem take_width_mem_comparisons {text : List Char} (h : 0 < comparison.width text) :
    text.take (comparison.width text) ∈ comparisons := by
  rw [width_comparison_pos_iff] at h
  unfold startsWithComparison at h
  split at h
  · next rest =>
      cases rest with
      | nil => simp [width, comparisons]
      | cons c rest => by_cases hc : c = '~' <;> simp [width, comparisons, hc]
  · next rest =>
      cases rest with
      | nil => simp [width, comparisons]
      | cons c rest => by_cases hc : c = '~' <;> simp [width, comparisons, hc]
  · cases h

/-- What a comparison ends with starts with its `=`, is all of it behind its `!`, or is its `~`. -/
theorem cases_of_suffix_comparison {marks tail : List Char} {c : Char} (hmarks : marks ∈ comparisons)
    (h : c :: tail <:+ marks) :
    c = '=' ∨ (c = '!' ∧ (∃ more, tail = '=' :: more) ∧ marks.head? = some '!') ∨
      (c = '~' ∧ tail = [] ∧ marks.getLast? = some '~') := by
  simp only [comparisons, List.mem_cons, List.not_mem_nil, or_false] at hmarks
  rcases hmarks with rfl | rfl | rfl | rfl <;> simp [List.suffix_cons_iff] at h ⊢ <;> grind

/-- Every character of an equals sign or of white space is a delimiter of its own. -/
theorem width_pos_of_mem_take_width {delimiter : Delimiter} (hkind : delimiter ≠ .comparison)
    {text : List Char} {c : Char} (hc : c ∈ text.take (delimiter.width text))
    (rest : List Char) : 0 < delimiter.width (c :: rest) := by
  cases delimiter with
  | equals =>
      cases text with
      | nil => simp at hc
      | cons d text =>
          by_cases hd : d = '='
          · simp_all [width]
          · simp [width_equals_of_ne hd] at hc
  | whitespace =>
      rw [width, ← List.prefix_iff_eq_take.mp (List.takeWhile_prefix _)] at hc
      simp [width, List.mem_takeWhile_imp hc]
  | comparison => exact absurd rfl hkind

theorem delimiter_eq_take_width {delimiter : Delimiter} {text : List Char} {cut : Cut}
    (h : delimiter.cut? text = some cut) : cut.delimiter =
      (cut.delimiter ++ cut.after).take (delimiter.width (cut.delimiter ++ cut.after)) := by
  rw [(width_of_cut? h).2, List.take_left]

end Delimiter

/-! ### Segments that start inside the delimiter -/

/-- The marks of the delimiter go on in the segment: it is a single `!` behind a delimiter that
starts with one, or it consists of `~` behind a delimiter that ends with one. -/
def Cut.Echoes (cut : Cut) (segment : List Char) : Prop :=
  cut.delimiter.head? = some '!' ∧ segment = ['!'] ∨
    cut.delimiter.getLast? = some '~' ∧ ∀ c ∈ segment, c = '~'

namespace Delimiter

section

variable {delimiter : Delimiter} {text : List Char} {cut : Cut}

theorem not_echoes_of_ne_comparison (h : delimiter.cut? text = some cut)
    (hkind : delimiter ≠ .comparison) : ¬ cut.Echoes (delimiter.segment cut) := by
  have hmark : ∀ c ∈ cut.delimiter, c ≠ '!' ∧ c ≠ '~' := by
    intro c hc
    rw [delimiter_eq_take_width h] at hc
    have hpos := width_pos_of_mem_take_width hkind hc []
    constructor
    · rintro rfl
      cases delimiter <;> revert hpos <;> decide
    · rintro rfl
      cases delimiter <;> revert hpos <;> decide
  rintro (⟨hhead, -⟩ | ⟨hlast, -⟩)
  · exact (hmark _ (List.mem_of_mem_head? hhead)).1 rfl
  · exact (hmark _ (List.mem_of_getLast? hlast)).2 rfl

/-- In `!=` a segment is found at the front only if it is a single `!`. -/
theorem segment_eq_of_isPrefix_mark (hsegment : comparison.segment cut ≠ [])
    (h : comparison.segment cut <+: '!' :: '=' :: text) : comparison.segment cut = ['!'] := by
  have hwidth := width_after_of_segment hsegment
  obtain ⟨behind, hafter⟩ := comparison.segment_isPrefix cut
  generalize comparison.segment cut = segment at hsegment h hafter
  match segment, hsegment with
  | [c], _ => rw [(List.cons_prefix_cons.mp h).1]
  | c :: d :: segment, _ =>
      -- A second character would make the segment start with a comparison.
      obtain ⟨rfl, htail⟩ := List.cons_prefix_cons.mp h
      obtain ⟨rfl, -⟩ := List.cons_prefix_cons.mp htail
      have hpos : 0 < comparison.width cut.after := by
        rw [← hafter, width_comparison_pos_iff]
        rfl
      omega

theorem echoes_of_isPrefix (h : delimiter.cut? text = some cut)
    (hsegment : delimiter.segment cut ≠ []) {inner : List Char} (hinner : inner <:+ cut.delimiter)
    (hne : inner ≠ []) (hstarts : delimiter.segment cut <+: inner ++ cut.after) :
    cut.Echoes (delimiter.segment cut) := by
  obtain ⟨c, tail, rfl⟩ := List.exists_cons_of_ne_nil hne
  have hc : c ∈ cut.delimiter := hinner.mem (by simp)
  by_cases hkind : delimiter = .comparison
  · subst hkind
    have hpos : 0 < comparison.width (cut.delimiter ++ cut.after) := by
      rw [(width_of_cut? h).2]
      exact List.length_pos_of_mem hc
    have hmarks := take_width_mem_comparisons hpos
    rw [← delimiter_eq_take_width h] at hmarks
    rcases cases_of_suffix_comparison hmarks hinner with
      rfl | ⟨rfl, ⟨more, rfl⟩, hhead⟩ | ⟨rfl, rfl, hlast⟩
    · have hequals : ∀ rest, 0 < comparison.width ('=' :: rest) := by
        intro rest
        rw [width_comparison_pos_iff]
        rfl
      exact absurd hstarts (not_segment_isPrefix hsegment hequals _)
    · exact .inl ⟨hhead, segment_eq_of_isPrefix_mark hsegment hstarts⟩
    · exact .inr ⟨hlast, eq_of_mem_of_isPrefix_cons hstarts (comparison.segment_isPrefix cut)⟩
  · rw [delimiter_eq_take_width h] at hc
    exact absurd hstarts
      (not_segment_isPrefix hsegment (width_pos_of_mem_take_width hkind hc) _)

/-- A segment is found inside the delimiter exactly if it echoes it. -/
theorem echoes_iff (h : delimiter.cut? text = some cut) (hsegment : delimiter.segment cut ≠ []) :
    cut.Echoes (delimiter.segment cut) ↔ ∃ inner, inner <:+ cut.delimiter ∧ inner ≠ [] ∧
      delimiter.segment cut <+: inner ++ cut.after := by
  constructor
  · rintro (⟨hhead, heq⟩ | ⟨hlast, hmarks⟩)
    · obtain ⟨marks, hmarks⟩ := List.head?_eq_some_iff.mp hhead
      refine ⟨cut.delimiter, List.suffix_rfl, by simp [hmarks], ?_⟩
      rw [heq, hmarks]
      exact ⟨_, rfl⟩
    · obtain ⟨front, hfront⟩ := List.getLast?_eq_some_iff.mp hlast
      refine ⟨['~'], by rw [hfront]; exact List.suffix_append _ _, by simp, ?_⟩
      exact isPrefix_cons_of_forall_mem hmarks (delimiter.segment_isPrefix cut)
  · rintro ⟨inner, hinner, hne, hstarts⟩
    exact echoes_of_isPrefix h hsegment hinner hne hstarts

end

end Delimiter

/-! ### Two places for a value -/

theorem units_take_lt {text : List Char} {first second : Nat} (h : first < second)
    (hlength : second ≤ text.length) : units (text.take first) < units (text.take second) := by
  have hsplit : text.take second = text.take first ++ (text.drop first).take (second - first) := by
    rw [← List.take_add, Nat.add_sub_cancel' h.le]
  have hmore : units ((text.drop first).take (second - first)) ≠ 0 := by
    rw [Ne, units_eq_zero_iff, ← List.length_eq_zero_iff, List.length_take, List.length_drop]
    omega
  rw [hsplit, units_append]
  omega

namespace Token

section

variable {token : Token} {compound : Compound} {cut : Cut}

/-- The search finds the segment behind the key and no later than behind the delimiter. -/
theorem exists_valueOffset_absorbToEnd (delimiter : Delimiter) (cut : Cut) :
    ∃ offset, offset ≤ cut.delimiter.length ∧
      offsetOf? (delimiter.segment cut) (cut.delimiter ++ cut.after) = some offset ∧
      valueOffset delimiter .absorbToEnd cut = some (cut.before.length + offset) := by
  obtain ⟨offset, hle, hoffset⟩ :=
    exists_offsetOf?_append (delimiter.segment_isPrefix cut) cut.delimiter
  exact ⟨offset, hle, hoffset, by simp [valueOffset, hoffset]⟩

theorem exists_value_of_split (hcut : compound.delimiter.cut? token.text.toList = some cut)
    {mode : ValueSpan} {offset : Nat}
    (hoffset : valueOffset compound.delimiter mode cut = some offset)
    (hfits : token.split compound mode ≠ .error .overflow) :
    ∃ key value, token.split compound mode = .ok (some (key, value)) ∧
      value.start = token.column + Text.units (token.text.toList.take offset) := by
  simp only [split, hcut, hoffset] at hfits ⊢
  split at hfits
  · next hlimit => exact ⟨_, _, if_pos hlimit, rfl⟩
  · exact absurd rfl hfits

end

end Token

/-- Where the second segment is not empty, both modes give the same spans exactly if the segment
does not echo the delimiter. An equals sign and white space are never echoed. -/
theorem split_modes_agree_iff (token : Token) (compound : Compound) {cut : Cut}
    (hcut : compound.delimiter.cut? token.text.toList = some cut)
    (hsegment : compound.delimiter.segment cut ≠ [])
    (hfits : ∀ mode, token.split compound mode ≠ .error .overflow) :
    (token.split compound .absorbToEnd = token.split compound .structural ↔
      ¬ cut.Echoes (compound.delimiter.segment cut)) ∧
    (compound.delimiter ≠ .comparison → ¬ cut.Echoes (compound.delimiter.segment cut)) := by
  refine ⟨?_, Delimiter.not_echoes_of_ne_comparison hcut⟩
  obtain ⟨offset, hle, hsearch, habsorb⟩ :=
    Token.exists_valueOffset_absorbToEnd compound.delimiter cut
  have hstructural : Token.valueOffset compound.delimiter .structural cut =
      some (cut.before.length + cut.delimiter.length) := rfl
  have hagree : token.split compound .absorbToEnd = token.split compound .structural ↔
      offset = cut.delimiter.length := by
    constructor
    · intro hsame
      obtain ⟨key, value, hsplit, hstart⟩ :=
        Token.exists_value_of_split hcut habsorb (hfits .absorbToEnd)
      obtain ⟨key', value', hsplit', hstart'⟩ :=
        Token.exists_value_of_split hcut hstructural (hfits .structural)
      rw [hsplit, hsplit', Except.ok.injEq, Option.some.injEq, Prod.mk.injEq] at hsame
      rw [hsame.2, hstart'] at hstart
      by_contra hne
      have hlength : cut.before.length + cut.delimiter.length ≤ token.text.toList.length := by
        rw [← Delimiter.append_of_cut? hcut]
        simp
      have hlt := units_take_lt (by omega : cut.before.length + offset < _) hlength
      omega
    · rintro rfl
      simp only [Token.split, hcut, habsorb, hstructural]
  rw [hagree, Delimiter.echoes_iff hcut hsegment]
  have hfound := offsetOf?_append_iff (compound.delimiter.segment_isPrefix cut) cut.delimiter
  rw [hsearch, Option.some.injEq] at hfound
  rw [hfound]
  simp only [not_exists, not_and]

/-- The value shares both marks with its operator and is still found behind it. -/
theorem split_modes_agree_on_shared_marks :
    Delimiter.comparison.cut? "x!=~!~".toList = some ⟨['x'], ['!', '=', '~'], ['!', '~']⟩ ∧
    Delimiter.comparison.segment ⟨['x'], ['!', '=', '~'], ['!', '~']⟩ = ['!', '~'] ∧
    Token.split ⟨.argument .condition, 1, 18, "x!=~!~"⟩ ⟨.variableName, .string, .comparison⟩
        .absorbToEnd =
      Token.split ⟨.argument .condition, 1, 18, "x!=~!~"⟩ ⟨.variableName, .string, .comparison⟩
        .structural := by
  have hcut : Delimiter.comparison.cut? "x!=~!~".toList =
      some ⟨['x'], ['!', '=', '~'], ['!', '~']⟩ := by decide
  have hsegment : Delimiter.comparison.segment ⟨['x'], ['!', '=', '~'], ['!', '~']⟩ =
      ['!', '~'] := by decide
  have hfits : ∀ mode, Token.split ⟨.argument .condition, 1, 18, "x!=~!~"⟩
      ⟨.variableName, .string, .comparison⟩ mode ≠ .error .overflow := by
    intro mode
    cases mode <;> decide
  obtain ⟨hagree, -⟩ := split_modes_agree_iff ⟨.argument .condition, 1, 18, "x!=~!~"⟩
    ⟨.variableName, .string, .comparison⟩ hcut (by rw [hsegment]; simp) hfits
  refine ⟨hcut, hsegment, hagree.mpr ?_⟩
  rw [hsegment]
  rintro (⟨-, heq⟩ | ⟨-, hmarks⟩)
  · simp at heq
  · simp at hmarks

/-- The value of `x!=!` is not empty, and the search finds it at the front of its operator. -/
theorem split_modes_differ_on_repeated_mark :
    ⟨.argument .condition, 1, 18, "x!=!"⟩ ∈ tokenize "SKIP REMAINING IF x!=!" ∧
    (TokenKind.argument .condition).highlight =
      .compound ⟨.variableName, .string, .comparison⟩ ∧
    Delimiter.comparison.cut? "x!=!".toList = some ⟨['x'], ['!', '='], ['!']⟩ ∧
    Delimiter.comparison.segment ⟨['x'], ['!', '='], ['!']⟩ = ['!'] ∧
    Token.split ⟨.argument .condition, 1, 18, "x!=!"⟩ ⟨.variableName, .string, .comparison⟩
        .absorbToEnd =
      .ok (some (⟨0, 18, 1, .variableName, []⟩, ⟨0, 19, 3, .string, []⟩)) ∧
    Token.split ⟨.argument .condition, 1, 18, "x!=!"⟩ ⟨.variableName, .string, .comparison⟩
        .structural =
      .ok (some (⟨0, 18, 1, .variableName, []⟩, ⟨0, 21, 1, .string, []⟩)) := by
  decide +kernel

end Layerfile
