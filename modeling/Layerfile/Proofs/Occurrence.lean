import Layerfile.Server.Session
import Mathlib.Data.List.Induction

/-! First occurrences. The index of a list of names is filled name by name and keeps the first
position of each, so a legend finds every name where it is listed first. A set of modifiers has the
bits of their first positions below 32, whatever their order and however often they are given. -/

namespace Layerfile

/-! ### First positions -/

/-- `name` stands at `position`, and at no position before it. -/
structure FirstAt (names : List String) (name : String) (position : Nat) : Prop where
  listed : names[position]? = some name
  first : ∀ earlier < position, names[earlier]? ≠ some name

namespace FirstAt

variable {names : List String} {name : String} {position other : Nat}

theorem mem (h : FirstAt names name position) : name ∈ names :=
  List.mem_of_getElem? h.listed

theorem lt_length (h : FirstAt names name position) : position < names.length :=
  (List.getElem?_eq_some_iff.mp h.listed).1

theorem unique (h : FirstAt names name position) (hother : FirstAt names name other) :
    position = other := by
  rcases Nat.lt_trichotomy position other with hlt | heq | hlt
  · exact absurd h.listed (hother.first position hlt)
  · exact heq
  · exact absurd hother.listed (h.first other hlt)

theorem append (h : FirstAt names name position) (later : List String) :
    FirstAt (names ++ later) name position := by
  refine ⟨?_, ?_⟩
  · rw [List.getElem?_append_left h.lt_length]
    exact h.listed
  · intro earlier hearlier
    rw [List.getElem?_append_left (Nat.lt_trans hearlier h.lt_length)]
    exact h.first earlier hearlier

/-- A name that is not listed has its first position behind the others. -/
theorem concat (h : name ∉ names) : FirstAt (names ++ [name]) name names.length := by
  refine ⟨by simp, ?_⟩
  intro earlier hearlier
  rw [List.getElem?_append_left hearlier]
  intro hlisted
  exact h (List.mem_of_getElem? hlisted)

end FirstAt

/-! ### The index of a list of names -/

/-- An index finds the first position of every name of a list, and no other name. -/
structure Indexes (index : List (String × Nat)) (names : List String) : Prop where
  firstAt : ∀ {name position}, index.lookup name = some position → FirstAt names name position
  not_mem : ∀ {name}, index.lookup name = none → name ∉ names

/-- One more name is entered under the number of names in front of it. -/
theorem Indexes.putNew {index : List (String × Nat)} {names : List String}
    (h : Indexes index names) (last : String) :
    Indexes (putNew last names.length index) (names ++ [last]) where
  firstAt {name position} hlookup := by
    rw [lookup_putNew] at hlookup
    split at hlookup
    · next heq =>
        subst heq
        cases hold : index.lookup name with
        | none =>
            rw [hold] at hlookup
            obtain rfl : names.length = position := Option.some.inj hlookup
            exact .concat (h.not_mem hold)
        | some first =>
            -- A name that comes again keeps the position it has.
            rw [hold] at hlookup
            obtain rfl : first = position := Option.some.inj hlookup
            exact (h.firstAt hold).append _
    · exact (h.firstAt hlookup).append _
  not_mem {name} hlookup := by
    rw [lookup_putNew] at hlookup
    split at hlookup
    · cases hlookup
    · next hne => simp [h.not_mem hlookup, hne]

theorem firstPositions_concat (names : List String) (last : String) :
    Legend.firstPositions (names ++ [last]) =
      putNew last names.length (Legend.firstPositions names) := by
  simp [Legend.firstPositions, List.zipIdx_append]

theorem indexes_firstPositions (names : List String) :
    Indexes (Legend.firstPositions names) names := by
  induction names using List.reverseRecOn with
  | nil =>
      refine ⟨?_, fun _ => List.not_mem_nil⟩
      intro name position hlookup
      cases hlookup
  | append_singleton names last ih =>
      rw [firstPositions_concat]
      exact ih.putNew last

theorem lookup_firstPositions_eq_some_iff {names : List String} {name : String} {position : Nat} :
    (Legend.firstPositions names).lookup name = some position ↔ FirstAt names name position := by
  have hindexes := indexes_firstPositions names
  refine ⟨hindexes.firstAt, ?_⟩
  intro hfirst
  cases hlookup : (Legend.firstPositions names).lookup name with
  | none => exact absurd hfirst.mem (hindexes.not_mem hlookup)
  | some found => rw [(hindexes.firstAt hlookup).unique hfirst]

/-! ### Sets of bits -/

theorem testBit_foldl_or (positions : List Nat) (bits i : Nat) :
    (positions.foldl (fun bits position => bits ||| (1 <<< position)) bits).testBit i ↔
      bits.testBit i ∨ i ∈ positions := by
  induction positions generalizing bits with
  | nil => simp
  | cons position positions ih =>
      rw [List.foldl_cons, ih, Nat.testBit_or, Nat.one_shiftLeft, Nat.testBit_two_pow]
      rw [Bool.or_eq_true, decide_eq_true_eq, @eq_comm _ position, or_assoc, List.mem_cons]

namespace Legend

variable (legend : Legend)

theorem indexOf_eq_iff (name : String) (position : Nat) :
    legend.indexOf name = position ↔
      FirstAt legend.categories name position ∨ name ∉ legend.categories ∧ position = 0 := by
  have hindexes := indexes_firstPositions legend.categories
  rw [indexOf]
  cases hlookup : (firstPositions legend.categories).lookup name with
  | none =>
      have hunlisted := hindexes.not_mem hlookup
      constructor
      · rintro rfl
        exact .inr ⟨hunlisted, rfl⟩
      · rintro (hfirst | ⟨-, rfl⟩)
        · exact absurd hfirst.mem hunlisted
        · rfl
  | some found =>
      have hfound := hindexes.firstAt hlookup
      constructor
      · rintro rfl
        exact .inl hfound
      · rintro (hfirst | ⟨hunlisted, -⟩)
        · exact hfound.unique hfirst
        · exact absurd hfound.mem hunlisted

theorem testBit_bitset (modifiers : List Modifier) (i : Nat) :
    (legend.bitset modifiers).testBit i ↔
      i < 32 ∧ ∃ modifier ∈ modifiers, FirstAt legend.modifiers modifier.name i := by
  simp only [bitset, testBit_foldl_or, Nat.zero_testBit, Bool.false_eq_true, false_or,
    List.mem_filter, List.mem_filterMap, lookup_firstPositions_eq_some_iff, decide_eq_true_eq]
  exact and_comm

theorem bitset_congr {modifiers others : List Modifier}
    (h : ∀ modifier, modifier ∈ modifiers ↔ modifier ∈ others) :
    legend.bitset modifiers = legend.bitset others := by
  apply Nat.eq_of_testBit_eq
  intro i
  rw [Bool.eq_iff_iff, testBit_bitset, testBit_bitset]
  simp only [h]

theorem categories_indexOf {name : String} (h : name ∈ legend.categories) :
    legend.categories[legend.indexOf name]? = some name := by
  rcases (legend.indexOf_eq_iff name _).mp rfl with hfirst | ⟨hunlisted, -⟩
  · exact hfirst.listed
  · exact absurd h hunlisted

theorem indexOf_lt_positionLimit (h : legend.categories.length ≤ positionLimit) (name : String) :
    legend.indexOf name < positionLimit := by
  rcases (legend.indexOf_eq_iff name _).mp rfl with hfirst | ⟨-, hzero⟩
  · exact Nat.lt_of_lt_of_le hfirst.lt_length h
  · rw [hzero]
    decide

theorem bitset_lt_positionLimit (modifiers : List Modifier) :
    legend.bitset modifiers < positionLimit := by
  change legend.bitset modifiers < 2 ^ 32
  apply Nat.lt_pow_two_of_testBit
  intro i hi
  rw [Bool.eq_false_iff, ne_eq, testBit_bitset]
  omega

end Legend

/-- A category is found at its first position, and counts as the first one if it is not listed. The
bits of a set of modifiers are the first positions of their names below 32, so neither order nor
repetition matters. Every listed category is published at the position where it is found. A set is a
word of 32 bits, and so is a position while no more categories are listed than there are words. -/
theorem legend_finds_first_occurrences (legend : Legend) :
    (∀ name position, legend.indexOf name = position ↔
      FirstAt legend.categories name position ∨ name ∉ legend.categories ∧ position = 0) ∧
    (∀ modifiers i, (legend.bitset modifiers).testBit i ↔
      i < 32 ∧ ∃ modifier ∈ modifiers, FirstAt legend.modifiers modifier.name i) ∧
    (∀ modifiers others : List Modifier,
      (∀ modifier, modifier ∈ modifiers ↔ modifier ∈ others) →
        legend.bitset modifiers = legend.bitset others) ∧
    (∀ name ∈ legend.categories, ∃ types, legend.toJson.field? "tokenTypes" = some (.arr types) ∧
      types[legend.indexOf name]? = some (.str name)) ∧
    (∀ modifiers, legend.bitset modifiers < positionLimit) ∧
    (legend.categories.length ≤ positionLimit → ∀ name, legend.indexOf name < positionLimit) := by
  refine ⟨legend.indexOf_eq_iff, legend.testBit_bitset, fun _ _ => legend.bitset_congr, ?_,
    legend.bitset_lt_positionLimit, legend.indexOf_lt_positionLimit⟩
  intro name hname
  refine ⟨legend.categories.map .str, rfl, ?_⟩
  rw [List.getElem?_map, legend.categories_indexOf hname]
  rfl

/-- Position 31 is the last one with a bit: the modifier behind it sets none, and neither does the
second occurrence of the one in front of it. -/
theorem legend_finds_last_position_with_bit :
    ∃ legend : Legend, legend.categories = ["keyword", "string", "keyword"] ∧
      legend.modifiers = List.replicate 31 "static" ++ ["async", "readonly", "async"] ∧
      (∀ modifier, modifier ∈ [Modifier.async, .readonly, .async] ↔
        modifier ∈ [Modifier.readonly, .async]) ∧
      legend.bitset [.async, .readonly, .async] = legend.bitset [.readonly, .async] ∧
      (legend.bitset [.readonly, .async]).testBit 31 ∧
      legend.bitset [.readonly, .async] = 1 <<< 31 ∧
      legend.indexOf "keyword" = 0 ∧ "string" ∈ legend.categories ∧
      (∃ types, legend.toJson.field? "tokenTypes" = some (.arr types) ∧
        types[legend.indexOf "string"]? = some (.str "string")) ∧
      legend.categories.length ≤ positionLimit ∧ legend.indexOf "string" < positionLimit := by
  refine ⟨⟨_, _⟩, rfl, rfl, ?_⟩
  obtain ⟨hindex, hbits, hsets, htypes, -, hword⟩ := legend_finds_first_occurrences
    ⟨["keyword", "string", "keyword"], List.replicate 31 "static" ++ ["async", "readonly", "async"]⟩
  have hsame : ∀ modifier, modifier ∈ [Modifier.async, .readonly, .async] ↔
      modifier ∈ [Modifier.readonly, .async] := by
    intro modifier
    cases modifier <;> decide
  refine ⟨hsame, hsets _ _ hsame, ?_, by decide, ?_, by decide, htypes _ (by decide),
    by decide, hword (by decide) _⟩
  · exact (hbits _ 31).mpr ⟨by decide, .async, by decide, ⟨by decide, by decide⟩⟩
  · exact (hindex _ 0).mpr (.inl ⟨by decide, by decide⟩)

end Layerfile
