import Layerfile.Proofs.Agreement
import Layerfile.Proofs.Trimming

/-! Arguments as runs between blanks. Words and conditions are whole runs up to the first one that
starts with a comment mark, which makes the rest of the text a comment. Free text stands before the
first mark of all, and it keeps its blanks inside. -/

namespace Layerfile

open Text

/-! ### Runs -/

/-- The maximal parts of a text without blanks, in order. -/
def Text.runs (text : List Char) : List (List Char) :=
  (text.splitOnP isBlank).filter (!·.isEmpty)

/-- From its first run on that starts with a mark, all of a text is `comment`, and `front` is what
stands before it. Without such a run the comment is empty. -/
structure Text.EndsInComment (text front comment : List Char) : Prop where
  text_eq : text = front ++ comment
  runs_front : runs front = (runs text).takeWhile (·.head? != some '#')
  starts : comment ≠ [] → comment.head? = some '#' ∧ ∀ b ∈ front.getLast?, isBlank b

namespace Text

@[simp] theorem runs_nil : runs [] = [] := by
  simp [runs, List.splitOnP_nil]

theorem runs_append_blank {b : Char} (hb : isBlank b) (front behind : List Char) :
    runs (front ++ b :: behind) = runs front ++ runs behind := by
  rw [runs, List.splitOnP_append_cons front behind hb, List.filter_append]
  rfl

theorem runs_cons_blank {b : Char} (hb : isBlank b) (text : List Char) :
    runs (b :: text) = runs text := by
  simpa using runs_append_blank hb [] text

theorem runs_blanks_append {blanks : List Char} (h : ∀ b ∈ blanks, isBlank b)
    (text : List Char) : runs (blanks ++ text) = runs text := by
  induction blanks with
  | nil => rfl
  | cons b blanks ih =>
      rw [List.forall_mem_cons] at h
      rw [List.cons_append, runs_cons_blank h.1, ih h.2]

section

variable {word text front comment : List Char}

theorem runs_of_word (hne : word ≠ []) (hword : ∀ c ∈ word, ¬ isBlank c) : runs word = [word] := by
  rw [runs, List.splitOnP_eq_singleton fun c hc => by simpa using hword c hc]
  simp [hne]

theorem runs_word_append (hne : word ≠ []) (hword : ∀ c ∈ word, ¬ isBlank c)
    (hboundary : atWordBoundary text) : runs (word ++ text) = word :: runs text := by
  cases text with
  | nil => rw [List.append_nil, runs_of_word hne hword, runs_nil]
  | cons b behind =>
      rw [runs_append_blank hboundary, runs_of_word hne hword, runs_cons_blank hboundary,
        List.singleton_append]

theorem runs_cons {c : Char} (hc : ¬ isBlank c) (rest : List Char) :
    runs (c :: rest) =
      (c :: rest.takeWhile (!isBlank ·)) :: runs (rest.dropWhile (!isBlank ·)) := by
  have hword : ∀ d ∈ c :: rest.takeWhile (!isBlank ·), ¬ isBlank d := by
    rw [List.forall_mem_cons]
    exact ⟨hc, fun d hd => by simpa using List.mem_takeWhile_imp hd⟩
  rw [← runs_word_append (by simp) hword (atWordBoundary_dropWhile_not_isBlank rest),
    List.cons_append, List.takeWhile_append_dropWhile]

theorem runs_append_of_getLast? (h : ∀ b ∈ front.getLast?, isBlank b) (behind : List Char) :
    runs (front ++ behind) = runs front ++ runs behind := by
  rcases front.eq_nil_or_concat' with rfl | ⟨inner, b, rfl⟩
  · simp
  · have hb : isBlank b := h b (by simp)
    rw [List.append_assoc, List.singleton_append, runs_append_blank hb, runs_append_blank hb,
      runs_nil, List.append_nil]

namespace EndsInComment

theorem nil : EndsInComment [] [] [] :=
  ⟨rfl, by simp, by simp⟩

theorem mark (rest : List Char) : EndsInComment ('#' :: rest) [] ('#' :: rest) := by
  refine ⟨rfl, ?_, by simp⟩
  simp [runs_cons (by decide : ¬ isBlank '#') rest]

theorem blanks_append {blanks : List Char} (hblanks : ∀ b ∈ blanks, isBlank b)
    (h : EndsInComment text front comment) :
    EndsInComment (blanks ++ text) (blanks ++ front) comment := by
  refine ⟨by rw [h.text_eq, List.append_assoc], ?_, ?_⟩
  · rw [runs_blanks_append hblanks, runs_blanks_append hblanks, h.runs_front]
  · intro hne
    refine ⟨(h.starts hne).1, ?_⟩
    intro b hb
    rw [List.getLast?_append] at hb
    cases hlast : front.getLast? with
    | none =>
        rw [hlast, Option.none_or] at hb
        exact hblanks b (List.mem_of_getLast? hb)
    | some last =>
        rw [hlast, Option.some_or] at hb
        exact (h.starts hne).2 b (hlast.trans hb)

theorem word_append (hne : word ≠ []) (hword : ∀ c ∈ word, ¬ isBlank c)
    (hmark : word.head? ≠ some '#') (hboundary : atWordBoundary text)
    (h : EndsInComment text front comment) :
    runs (word ++ front) = word :: runs front ∧
      EndsInComment (word ++ text) (word ++ front) comment := by
  have hfront : atWordBoundary front := by
    cases front with
    | nil => rfl
    | cons b front =>
        rw [h.text_eq] at hboundary
        exact hboundary
  have hruns := runs_word_append hne hword hfront
  refine ⟨hruns, by rw [h.text_eq, List.append_assoc], ?_, ?_⟩
  · rw [hruns, runs_word_append hne hword hboundary, h.runs_front,
      List.takeWhile_cons_of_pos (by simpa using hmark)]
  · intro hcomment
    obtain ⟨hhead, hlast⟩ := h.starts hcomment
    refine ⟨hhead, ?_⟩
    -- The text starts with a blank, so the comment is not all of it.
    have hfrontNe : front ≠ [] := by
      rintro rfl
      rw [h.text_eq, List.nil_append] at hboundary
      obtain ⟨rest, rfl⟩ := List.head?_eq_some_iff.mp hhead
      simp [isBlank] at hboundary
    rw [List.getLast?_append_of_ne_nil _ hfrontNe]
    exact hlast

/-- The longer of two comments starts a run that the text before the shorter one would have. -/
theorem eq_nil_of_append {mid : List Char} (h : EndsInComment text front (mid ++ comment))
    (h' : EndsInComment text (front ++ mid) comment) : mid = [] := by
  by_contra hne
  obtain ⟨c, mid, rfl⟩ := List.exists_cons_of_ne_nil hne
  obtain ⟨hmark, hstarts⟩ := h.starts (by simp)
  obtain rfl : c = '#' := by simpa using hmark
  have hruns := h'.runs_front.trans h.runs_front.symm
  rw [runs_append_of_getLast? hstarts, runs_cons (by decide)] at hruns
  simp at hruns

theorem unique {other otherComment : List Char} (h : EndsInComment text front comment)
    (h' : EndsInComment text other otherComment) : comment = otherComment := by
  rcases List.append_eq_append_iff.mp (h.text_eq.symm.trans h'.text_eq) with
    ⟨mid, rfl, rfl⟩ | ⟨mid, rfl, rfl⟩
  · rw [eq_nil_of_append h h', List.nil_append]
  · rw [eq_nil_of_append h' h, List.nil_append]

end EndsInComment

end

end Text

/-! ### Words -/

def Piece.significant (pieces : List Piece) : List Piece :=
  pieces.filter (·.kind != .whitespace)

namespace Piece

@[simp] theorem significant_nil : significant [] = [] := rfl

@[simp] theorem significant_cons_whitespace (text : List Char) (pieces : List Piece) :
    significant (⟨.whitespace, text⟩ :: pieces) = significant pieces := rfl

theorem significant_cons_of_ne {piece : Piece} (h : piece.kind ≠ .whitespace)
    (pieces : List Piece) : significant (piece :: pieces) = piece :: significant pieces :=
  List.filter_cons_of_pos (by simpa using h)

theorem ofText_of_ne_nil (kind : TokenKind) {text : List Char} (h : text ≠ []) :
    ofText kind text = [⟨kind, text⟩] := by
  simp [ofText, h]

theorem significant_append (pieces later : List Piece) :
    significant (pieces ++ later) = significant pieces ++ significant later :=
  List.filter_append ..

@[simp] theorem significant_ofText_whitespace (text : List Char) :
    significant (ofText .whitespace text) = [] := by
  unfold ofText
  split <;> rfl

theorem significant_ofText_of_ne {kind : TokenKind} (h : kind ≠ .whitespace) (text : List Char) :
    significant (ofText kind text) = ofText kind text := by
  unfold ofText
  split
  · rfl
  · exact significant_cons_of_ne h []

end Piece

/-- A lexicon whose items are whole words reads the runs of a text up to a comment. -/
theorem Lexicon.Reads.exists_endsInComment {κ : Type} {lexicon : Lexicon κ} {blank comment : κ}
    (hreads : lexicon.Reads blank comment isWordChar) {kindOf : κ → TokenKind}
    {commentKind : CommentKind} (hblank : kindOf blank = .whitespace)
    (hcomment : kindOf comment = .comment commentKind) {runKind : List Char → TokenKind}
    (hitem : ∀ c rest, opensWord c → ∃ kind,
      (lexicon.next c rest).1.kind = some kind ∧
        kindOf kind = runKind (c :: rest.takeWhile isWordChar))
    (hrun : ∀ run, runKind run ≠ .whitespace) {text : List Char} (hfeed : '\n' ∉ text) :
    ∃ front tail, EndsInComment text front tail ∧
      Piece.significant ((lexicon.scan text).map (Lexeme.toPiece kindOf)) =
        (runs front).map (fun run => ⟨runKind run, run⟩) ++
          Piece.ofText (.comment commentKind) tail := by
  fun_induction scan lexicon text with
  | case1 => exact ⟨[], [], .nil, rfl⟩
  | case2 c rest ih =>
      obtain ⟨front, tail, hends, hpieces⟩ := ih (not_mem_next hfeed)
      rw [List.mem_cons, not_or] at hfeed
      rw [List.map_cons]
      -- Blanks are no run, a word is the next one, and a mark ends the runs with a comment.
      rcases isBlank_or_mark_or_opensWord (Ne.symm hfeed.1) with hc | rfl | hc
      · rw [hreads.next_blank c rest hc] at hends hpieces ⊢
        have hblanks := isBlank_of_mem_blanks hc rest
        have hwhole := hends.blanks_append hblanks
        rw [List.cons_append, List.takeWhile_append_dropWhile] at hwhole
        refine ⟨_, tail, hwhole, ?_⟩
        rw [runs_blanks_append hblanks, ← hpieces, toPiece_some, hblank,
          Piece.significant_cons_whitespace]
      · refine ⟨[], '#' :: rest, .mark rest, ?_⟩
        rw [hreads.next_mark rest, takeWhile_ne_feed hfeed.2, dropWhile_ne_feed hfeed.2,
          toPiece_some, hcomment, Piece.significant_cons_of_ne (by simp), scan]
        rfl
      · obtain ⟨own, hown, hkind⟩ := hitem c rest hc
        obtain ⟨kind, -, -, hnext⟩ := hreads.next_item c rest hc
        rw [hnext] at hends hpieces hown ⊢
        obtain rfl : kind = own := Option.some.inj hown
        have hmark : (c :: rest.takeWhile isWordChar).head? ≠ some '#' := by
          simpa using ne_mark_of_opensWord hc
        obtain ⟨hruns, hwhole⟩ := hends.word_append (by simp) (not_isBlank_of_mem_word hc rest)
          hmark (atWordBoundary_dropWhile_isWordChar hfeed.2)
        rw [List.cons_append, List.takeWhile_append_dropWhile] at hwhole
        refine ⟨_, tail, hwhole, ?_⟩
        rw [hruns, List.map_cons, List.cons_append, ← hpieces, toPiece_some, hkind,
          Piece.significant_cons_of_ne (hrun _)]

/-! ### Conditions -/

def isKeyChar (c : Char) : Bool :=
  c != '#' && c != '=' && c != '!' && c != '~'

/-- A comparison behind a key that is not empty, and anything behind it. -/
def IsCondition (run : List Char) : Prop :=
  ∃ key operator value, run = key ++ operator ++ value ∧ key ≠ [] ∧ (∀ c ∈ key, isKeyChar c) ∧
    operator ∈ Delimiter.comparisons

theorem startsWithComparison_iff {tail : List Char} :
    startsWithComparison tail ↔ ∃ operator ∈ Delimiter.comparisons, operator <+: tail := by
  constructor
  · intro h
    unfold startsWithComparison at h
    split at h
    · exact ⟨['='], by simp [Delimiter.comparisons], by simp⟩
    · exact ⟨['!', '='], by simp [Delimiter.comparisons], by simp⟩
    · cases h
  · rintro ⟨operator, hoperator, after, rfl⟩
    simp only [Delimiter.comparisons, List.mem_cons, List.not_mem_nil, or_false] at hoperator
    rcases hoperator with rfl | rfl | rfl | rfl <;> rfl

theorem takeWhile_of_startsWithComparison (accepts : Char → Bool) (hequals : ¬ accepts '=')
    (hnot : ¬ accepts '!') {key tail : List Char} (hkey : ∀ c ∈ key, accepts c)
    (htail : startsWithComparison tail) :
    (key ++ tail).takeWhile accepts = key ∧ (key ++ tail).dropWhile accepts = tail := by
  have hstop : tail.takeWhile accepts = [] ∧ tail.dropWhile accepts = tail := by
    unfold startsWithComparison at htail
    split at htail
    · exact ⟨List.takeWhile_cons_of_neg hequals, List.dropWhile_cons_of_neg hequals⟩
    · exact ⟨List.takeWhile_cons_of_neg hnot, List.dropWhile_cons_of_neg hnot⟩
    · cases htail
  constructor
  · rw [List.takeWhile_append_of_pos hkey, hstop.1, List.append_nil]
  · rw [List.dropWhile_append_of_pos hkey, hstop.2]

/-- The key of a condition is found by taking characters as long as they can belong to it. -/
theorem isCondition_iff {run : List Char} :
    IsCondition run ↔
      run.takeWhile isKeyChar ≠ [] ∧ startsWithComparison (run.dropWhile isKeyChar) := by
  constructor
  · rintro ⟨key, operator, value, rfl, hne, hkey, hoperator⟩
    have htail : startsWithComparison (operator ++ value) :=
      startsWithComparison_iff.mpr ⟨operator, hoperator, List.prefix_append _ _⟩
    obtain ⟨htake, hdrop⟩ :=
      takeWhile_of_startsWithComparison isKeyChar (by decide) (by decide) hkey htail
    rw [List.append_assoc, htake, hdrop]
    exact ⟨hne, htail⟩
  · rintro ⟨hne, htail⟩
    obtain ⟨operator, hoperator, value, hvalue⟩ := startsWithComparison_iff.mp htail
    refine ⟨_, operator, value, ?_, hne, ?_, hoperator⟩
    · rw [List.append_assoc, hvalue, List.takeWhile_append_dropWhile]
    · exact fun c => List.mem_takeWhile_imp

instance : DecidablePred IsCondition :=
  fun _ => decidable_of_iff _ isCondition_iff.symm

/-- The first mark decides: a lone `!` or `~` makes no comparison, even in front of one. -/
example : IsCondition "a=b!c".toList ∧ ¬ IsCondition "a!b=c".toList ∧
    ¬ IsCondition "a~=c".toList := by
  decide

def conditionKind (run : List Char) : TokenKind :=
  if run = "AND".toList then .argument .conjunction
  else if IsCondition run then .argument .condition
  else .unknown

namespace Rule

variable {κ : Type} {kind : κ} {c : Char} {rest : List Char}

theorem measure_condition_pos {key tail : List Char} (hne : key ≠ [])
    (hkey : ∀ d ∈ key, isWordChar d ∧ isKeyChar d) (htail : startsWithComparison tail) :
    0 < (Rule.condition kind).measure (key ++ tail) := by
  have hchars : ∀ d ∈ key, opensWord d && d != '=' && d != '!' && d != '~' := by
    intro d hd
    obtain ⟨hword, hfree⟩ := hkey d hd
    simp only [isKeyChar, Bool.and_eq_true] at hfree
    simp [opensWord, hword, hfree]
  obtain ⟨htake, hdrop⟩ :=
    takeWhile_of_startsWithComparison _ (by decide) (by decide) hchars htail
  have hlength := List.length_pos_iff.mpr hne
  simp only [Rule.condition, htake, hdrop]
  rw [if_neg (by simp [hne, htail])]
  omega

/-- The rule of conditions takes a whole word exactly if the word is a condition. -/
theorem length_le_measure_condition_iff (hc : opensWord c) :
    (c :: rest.takeWhile isWordChar).length ≤ (Rule.condition kind).measure (c :: rest) ↔
      IsCondition (c :: rest.takeWhile isWordChar) := by
  have hword : (c :: rest).takeWhile isWordChar = c :: rest.takeWhile isWordChar :=
    List.takeWhile_cons_of_pos (isWordChar_of_opensWord hc)
  constructor
  · intro hle
    have hpos : 0 < (Rule.condition kind).measure (c :: rest) := by
      simp only [List.length_cons] at hle
      omega
    obtain ⟨key, tail, htext, hne, hkey, hstarts, -⟩ := exists_key_of_condition hpos
    have hstarts := startsWithComparison_takeWhile hstarts []
    rw [List.append_nil] at hstarts
    obtain ⟨operator, hoperator, value, hvalue⟩ := startsWithComparison_iff.mp hstarts
    refine ⟨key, operator, value, ?_, hne, ?_, hoperator⟩
    · rw [← hword, htext, List.takeWhile_append_of_pos
        fun d hd => isWordChar_of_opensWord (hkey d hd).1, List.append_assoc, hvalue]
    · intro d hd
      simp [isKeyChar, Lexicon.ne_mark_of_opensWord (hkey d hd).1, (hkey d hd).2]
  · rintro ⟨key, operator, value, hrun, hne, hkey, hoperator⟩
    have htext : c :: rest = key ++ (operator ++ (value ++ rest.dropWhile isWordChar)) := by
      rw [← List.append_assoc, ← List.append_assoc, ← hrun, List.cons_append,
        List.takeWhile_append_dropWhile]
    have hchars : ∀ d ∈ key, isWordChar d ∧ isKeyChar d := by
      intro d hd
      have hmem : d ∈ (c :: rest).takeWhile isWordChar := by simp [hword, hrun, hd]
      exact ⟨List.mem_takeWhile_imp hmem, hkey d hd⟩
    have hpos : 0 < (Rule.condition kind).measure (c :: rest) := by
      rw [htext]
      apply measure_condition_pos hne hchars
      exact startsWithComparison_iff.mpr ⟨operator, hoperator, List.prefix_append _ _⟩
    -- What the rule measures at all is a whole word.
    obtain ⟨_, _, -, -, -, -, hmeasure⟩ := exists_key_of_condition hpos
    rw [hmeasure, hword]

theorem length_le_measure_literal_iff {word : List Char} (hword : ∀ d ∈ word, isWordChar d)
    (hc : opensWord c) :
    (c :: rest.takeWhile isWordChar).length ≤ (Rule.literal kind word).measure (c :: rest) ↔
      c :: rest.takeWhile isWordChar = word := by
  rw [← List.takeWhile_cons_of_pos (isWordChar_of_opensWord hc)]
  constructor
  · intro hle
    have hstarts : word <+: c :: rest := by
      by_contra hno
      simp [Rule.literal, hno, isWordChar_of_opensWord hc] at hle
    obtain ⟨after, hafter⟩ := hstarts
    have hmeasure : (Rule.literal kind word).measure (word ++ after) = word.length := by
      simp [Rule.literal]
    rw [← hafter, List.takeWhile_append_of_pos hword] at hle ⊢
    rw [hmeasure, List.length_append] at hle
    have hnil : after.takeWhile isWordChar = [] := List.length_eq_zero_iff.mp (by omega)
    rw [hnil, List.append_nil]
  · intro heq
    have hstarts : word <+: c :: rest := heq ▸ List.takeWhile_prefix isWordChar
    rw [heq, Rule.literal]
    simp [hstarts]

theorem longest_cons_of_le {rule : Rule κ} {rules : List (Rule κ)} {text : List Char} {size : Nat}
    (h : longest rules text = some (kind, size)) (hle : rule.measure text ≤ size) :
    longest (rule :: rules) text =
      some (if size ≤ rule.measure text then rule.kind else kind, size) := by
  rw [longest, h]
  by_cases hsize : size ≤ rule.measure text
  · rw [if_pos hsize, Nat.le_antisymm hle hsize]
    simp
  · simp [hsize]

end Rule

/-- The rules of conditions do not look past the word that they read. -/
theorem conditionLexicon_kind {c : Char} (hc : opensWord c) (rest : List Char) :
    ∃ kind, (conditionLexicon.next c rest).1.kind = some kind ∧
      kind.tokenKind = conditionKind (c :: rest.takeWhile isWordChar) := by
  have hblanks := Rule.measure_blanks_of_opensWord ConditionLexeme.blank hc rest
  have hcomment := Rule.measure_comment_of_opensWord ConditionLexeme.comment hc rest
  have hword := Rule.measure_word_of_opensWord ConditionLexeme.word hc rest
  rw [List.takeWhile_cons_of_pos (isWordChar_of_opensWord hc)] at hword
  have hand := @Rule.length_le_measure_literal_iff _ ConditionLexeme.conjunction c rest
    "AND".toList (by simp [isWordChar, isBlank]) hc
  have hcondition := @Rule.length_le_measure_condition_iff _ ConditionLexeme.condition c rest hc
  have hpos : 0 < (c :: rest.takeWhile isWordChar).length := by simp
  generalize c :: rest.takeWhile isWordChar = run at hword hand hcondition hpos ⊢
  have hliteral : (Rule.literal ConditionLexeme.conjunction "AND".toList).measure (c :: rest) ≤
      run.length := by
    have hletters : ∀ d ∈ ['N', 'D'], isWordChar d := by simp [isWordChar, isBlank]
    rw [← hword]
    exact Rule.measure_literal_le_word _ _ (by decide) hletters _
  -- No rule measures more than the one of words, which comes last.
  have hlongest : Rule.longest [.word .word] (c :: rest) =
      some (ConditionLexeme.word, run.length) := by
    simp only [Rule.longest, hword, if_pos hpos]
    rfl
  have hlongest := Rule.longest_cons_of_le hlongest
    ((Rule.measure_condition_le_word .condition _ _).trans_eq hword)
  have hlongest := Rule.longest_cons_of_le hlongest hliteral
  have hlongest := Rule.longest_cons_of_le hlongest (hcomment.trans_le (Nat.zero_le _))
  have hlongest := Rule.longest_cons_of_le hlongest (hblanks.trans_le (Nat.zero_le _))
  simp only [hblanks, hcomment, hand, hcondition, if_neg (Nat.not_le.mpr hpos)] at hlongest
  refine ⟨if run = "AND".toList then .conjunction else
    if IsCondition run then .condition else .word, ?_, ?_⟩
  · have hrules : conditionLexicon.rules = [.blanks .blank, .comment .comment,
      .literal .conjunction "AND".toList, .condition .condition, .word .word] := rfl
    simp only [Lexicon.next, Lexicon.find?, hrules, hlongest, Option.map_some]
    rfl
  · unfold conditionKind
    split
    · rfl
    · split <;> rfl

/-! ### Free text -/

theorem takeWhile_dropWhile_mark {text : List Char} (hfeed : '\n' ∉ text) :
    text.takeWhile (fun c => c != '\n' && c != '#') = text.takeWhile (· != '#') ∧
      text.dropWhile (fun c => c != '\n' && c != '#') = text.dropWhile (· != '#') := by
  induction text with
  | nil => exact ⟨rfl, rfl⟩
  | cons c text ih =>
      rw [List.mem_cons, not_or] at hfeed
      obtain ⟨htake, hdrop⟩ := ih hfeed.2
      have hc : (c != '\n') = true := by simpa using Ne.symm hfeed.1
      simp only [List.takeWhile_cons, List.dropWhile_cons, hc, Bool.true_and, htake, hdrop,
        and_self]

/-- Blanks at the front can be cut off before the comment or behind it. -/
theorem dropWhile_isBlank_mark (text : List Char) :
    (text.takeWhile (· != '#')).dropWhile isBlank =
        (text.dropWhile isBlank).takeWhile (· != '#') ∧
      text.dropWhile (· != '#') = (text.dropWhile isBlank).dropWhile (· != '#') := by
  induction text with
  | nil => exact ⟨rfl, rfl⟩
  | cons c text ih =>
      by_cases hc : isBlank c
      · have hmark : (c != '#') = true := by
          rw [bne_iff_ne]
          rintro rfl
          simp [isBlank] at hc
        simpa only [List.takeWhile_cons, List.dropWhile_cons, hmark, hc, if_true] using ih
      · by_cases hmark : (c != '#') = true
        · simp [hmark, hc]
        · simp [hmark, hc]

section

variable (value : ArgumentKind) (comment : CommentKind) {rest : List Char}

theorem ArgumentMode.cut_line_of_next {c : Char} {kind : TextLexeme} {text tail : List Char}
    (h : textLexicon.next c rest = (⟨some kind, text⟩, tail)) :
    (line value comment).cut (c :: rest) =
      Piece.trim ⟨kind.tokenKind value comment, text⟩ ++ (line value comment).cut tail := by
  simp only [cut, Lexicon.scan_cons, h, List.flatMap_cons]
  rfl

theorem ArgumentMode.cut_line_mark (hfeed : '\n' ∉ rest) :
    (line value comment).cut ('#' :: rest) = [⟨.comment comment, '#' :: rest⟩] := by
  rw [cut_line_of_next value comment (textLexicon_reads.next_mark rest), Piece.trim_of_mark rfl,
    takeWhile_ne_feed hfeed, dropWhile_ne_feed hfeed, cut_nil]
  rfl

theorem ArgumentMode.cut_line_behind_text (hfeed : '\n' ∉ rest) :
    (line value comment).cut (rest.dropWhile (· != '#')) =
      Piece.ofText (.comment comment) (rest.dropWhile (· != '#')) := by
  have hsuffix := List.dropWhile_suffix (· != '#') (l := rest)
  have hhead := List.head?_dropWhile_not (· != '#') rest
  cases hrest : rest.dropWhile (· != '#') with
  | nil => exact cut_nil _
  | cons d later =>
      rw [hrest] at hsuffix hhead
      obtain rfl : d = '#' := by simpa using hhead
      apply cut_line_mark
      exact fun hmem => hfeed (hsuffix.mem (List.mem_cons_of_mem _ hmem))

theorem ArgumentMode.significant_cut_line_text {c : Char} (hc : opensWord c)
    (hfeed : '\n' ∉ rest) :
    Piece.significant ((line value comment).cut (c :: rest)) =
      ⟨.argument value, trimRight (c :: rest.takeWhile (· != '#'))⟩ ::
        Piece.ofText (.comment comment) (rest.dropWhile (· != '#')) := by
  obtain ⟨kind, hblank, hcomment, hnext⟩ := textLexicon_reads.next_item c rest hc
  obtain rfl : kind = .text := by
    cases kind with
    | blank => exact absurd rfl hblank
    | comment => exact absurd rfl hcomment
    | text => rfl
  obtain ⟨htake, hdrop⟩ := takeWhile_dropWhile_mark hfeed
  rw [htake, hdrop] at hnext
  have hmark : (c :: rest.takeWhile (· != '#')).head? ≠ some '#' := by
    simpa using Lexicon.ne_mark_of_opensWord hc
  rw [cut_line_of_next value comment hnext,
    Piece.trim_of_value (by simp [TextLexeme.tokenKind, TokenKind.isLayout]) hmark,
    cut_line_behind_text value comment hfeed, List.cons_append,
    Piece.significant_cons_of_ne (by simp [TextLexeme.tokenKind]), Piece.significant_append,
    Piece.significant_ofText_whitespace, Piece.significant_ofText_of_ne (by simp)]
  rfl

/-- Free text is what stands before the first mark, without blanks at its ends. -/
theorem ArgumentMode.significant_cut_line {text : List Char} (hfeed : '\n' ∉ text) :
    Piece.significant ((line value comment).cut text) =
      Piece.ofText (.argument value) (trimRight ((text.takeWhile (· != '#')).dropWhile isBlank)) ++
        Piece.ofText (.comment comment) (text.dropWhile (· != '#')) := by
  obtain ⟨htake, hdrop⟩ := dropWhile_isBlank_mark text
  have hnofeed : '\n' ∉ text.dropWhile isBlank :=
    fun hmem => hfeed ((List.dropWhile_suffix isBlank).mem hmem)
  have hhead := not_isBlank_head?_dropWhile text
  have hcut : Piece.significant ((line value comment).cut text) =
      Piece.significant ((line value comment).cut (text.dropWhile isBlank)) := by
    cases text with
    | nil => rfl
    | cons b rest =>
        by_cases hb : isBlank b
        · rw [cut_of_isBlank _ hb, Piece.significant_cons_whitespace,
            List.dropWhile_cons_of_pos hb]
        · rw [List.dropWhile_cons_of_neg hb]
  rw [hcut, htake, hdrop]
  generalize text.dropWhile isBlank = behind at hnofeed hhead
  cases behind with
  | nil => simp [cut_nil, Piece.ofText, trimRight]
  | cons c rest =>
      rw [List.mem_cons, not_or] at hnofeed
      rcases isBlank_or_mark_or_opensWord (Ne.symm hnofeed.1) with hc | rfl | hc
      · exact absurd hc (hhead c rfl)
      · rw [cut_line_mark value comment hnofeed.2]
        rfl
      · have hmark : (c != '#') = true := bne_iff_ne.mpr (Lexicon.ne_mark_of_opensWord hc)
        have hne : trimRight (c :: rest.takeWhile (· != '#')) ≠ [] :=
          trimRight_ne_nil rfl (not_isBlank_of_opensWord hc)
        rw [significant_cut_line_text value comment hc hnofeed.2]
        simp only [List.takeWhile_cons, List.dropWhile_cons, hmark, if_true,
          Piece.ofText_of_ne_nil _ hne, List.singleton_append]

end

/-! ### The three modes -/

theorem ArgumentMode.exists_significant_cut_words (value : ArgumentKind) (kind : CommentKind)
    {text : List Char} (hfeed : '\n' ∉ text) :
    ∃ front comment, EndsInComment text front comment ∧
      Piece.significant ((words value kind).cut text) =
        (runs front).map (fun run => ⟨.argument value, run⟩) ++
          Piece.ofText (.comment kind) comment := by
  rw [cut_words value kind hfeed]
  refine wordLexicon_reads.exists_endsInComment rfl rfl ?_ (by simp) hfeed
  intro c rest hc
  obtain ⟨own, hblank, hcomment, hnext⟩ := wordLexicon_reads.next_item c rest hc
  cases own with
  | blank => exact absurd rfl hblank
  | comment => exact absurd rfl hcomment
  | word => exact ⟨.word, by rw [hnext], rfl⟩

theorem conditionKind_ne_whitespace (run : List Char) : conditionKind run ≠ .whitespace := by
  unfold conditionKind
  split
  · simp
  · split <;> simp

theorem conditionKind_iff (run : List Char) :
    (conditionKind run = .argument .conjunction ↔ run = "AND".toList) ∧
      (conditionKind run = .argument .condition ↔ IsCondition run) ∧
      (conditionKind run = .unknown ↔ run ≠ "AND".toList ∧ ¬ IsCondition run) := by
  have hand : ¬ IsCondition "AND".toList := by decide
  unfold conditionKind
  generalize "AND".toList = conjunction at hand ⊢
  by_cases hrun : run = conjunction
  · subst hrun
    simp [hand]
  · by_cases hcondition : IsCondition run <;> simp [hrun, hcondition]

/-- Words and conditions are the runs of a text up to the first one that starts with a mark, and
from there on all is comment. Free text stands before the first mark of all. -/
theorem cut_eq_runs_and_comment (text : List Char) (hfeed : '\n' ∉ text) :
    (∃ front comment, EndsInComment text front comment ∧
      (∀ value kind, Piece.significant ((ArgumentMode.words value kind).cut text) =
        ((runs text).takeWhile (·.head? != some '#')).map (fun run => ⟨.argument value, run⟩) ++
          Piece.ofText (.comment kind) comment) ∧
      Piece.significant (ArgumentMode.conditions.cut text) =
        ((runs text).takeWhile (·.head? != some '#')).map (fun run => ⟨conditionKind run, run⟩) ++
          Piece.ofText (.comment .line) comment) ∧
    (∀ run, (conditionKind run = .argument .conjunction ↔ run = "AND".toList) ∧
      (conditionKind run = .argument .condition ↔ IsCondition run) ∧
      (conditionKind run = .unknown ↔ run ≠ "AND".toList ∧ ¬ IsCondition run)) ∧
    ∀ value kind, Piece.significant ((ArgumentMode.line value kind).cut text) =
      Piece.ofText (.argument value) (trimRight ((text.takeWhile (· != '#')).dropWhile isBlank)) ++
        Piece.ofText (.comment kind) (text.dropWhile (· != '#')) := by
  refine ⟨?_, conditionKind_iff,
    fun value kind => ArgumentMode.significant_cut_line value kind hfeed⟩
  obtain ⟨front, comment, hends, hconditions⟩ := conditionLexicon_reads.exists_endsInComment rfl
    rfl (fun c rest hc => conditionLexicon_kind hc rest) conditionKind_ne_whitespace hfeed
  rw [← ArgumentMode.cut_conditions hfeed, hends.runs_front] at hconditions
  refine ⟨front, comment, hends, ?_, hconditions⟩
  intro value kind
  obtain ⟨other, tail, hother, hwords⟩ :=
    ArgumentMode.exists_significant_cut_words value kind hfeed
  rw [hwords, hother.runs_front, hends.unique hother]

/-- A mark inside a run starts no comment between conditions. -/
theorem cut_conditions_with_marked_run :
    '\n' ∉ " a#b x!=~y AND\t=z #c AND".toList ∧
    Piece.significant (ArgumentMode.conditions.cut " a#b x!=~y AND\t=z #c AND".toList) =
      [⟨.unknown, "a#b".toList⟩, ⟨.argument .condition, "x!=~y".toList⟩,
        ⟨.argument .conjunction, "AND".toList⟩, ⟨.unknown, "=z".toList⟩,
        ⟨.comment .line, "#c AND".toList⟩] := by
  have hfeed : '\n' ∉ " a#b x!=~y AND\t=z #c AND".toList := by decide
  obtain ⟨⟨front, comment, hends, -, hconditions⟩, -⟩ := cut_eq_runs_and_comment _ hfeed
  have hknown : EndsInComment " a#b x!=~y AND\t=z #c AND".toList " a#b x!=~y AND\t=z ".toList
      "#c AND".toList := ⟨by decide, by decide, by simp [isBlank]⟩
  rw [hends.unique hknown] at hconditions
  exact ⟨hfeed, hconditions.trans (by decide)⟩

end Layerfile
