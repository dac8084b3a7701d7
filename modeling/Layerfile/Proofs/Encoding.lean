import Layerfile.Proofs.Spans
import Layerfile.Server.Session

/-! Rows carry every drawn span to the editor. A row gives back the place of its span exactly
when neither of its differences stops at zero, and the spans of a source come in that order. -/

namespace Layerfile

open Text

/-! ### Reading rows -/

/-- What an editor draws for a row. -/
structure Mark where
  place : Place
  length : Nat
  category : Option Category
deriving DecidableEq, Repr

/-- Reads rows behind `previous`; `types` are the category names that the server published. -/
def Row.decodeFrom (types : List String) (previous : Place) : List Row → List Mark
  | [] => []
  | row :: rows =>
    ⟨row.place previous, row.length, types[row.category]?.bind Category.ofName?⟩ ::
      decodeFrom types (row.place previous) rows

def Row.decode (types : List String) (rows : List Row) : List Mark :=
  decodeFrom types ⟨0, 0⟩ rows

def Span.place (span : Span) : Place :=
  ⟨span.line, span.start⟩

def Span.mark (span : Span) : Mark :=
  ⟨span.place, span.length, some span.category⟩

/-- The spans that have a row. -/
def Span.drawn (spans : List Span) : List Span :=
  spans.filter fun span => span.length ≠ 0

theorem Span.drawn_cons_of_empty {span : Span} {spans : List Span} (h : span.length = 0) :
    drawn (span :: spans) = drawn spans := by
  simp [drawn, h]

theorem Span.drawn_cons_of_length {span : Span} {spans : List Span} (h : span.length ≠ 0) :
    drawn (span :: spans) = span :: drawn spans := by
  simp [drawn, h]

theorem Row.encodeFrom_cons_of_empty {legend : Legend} {previous : Place} {span : Span}
    {spans : List Span} (h : span.length = 0) :
    encodeFrom legend previous (span :: spans) = encodeFrom legend previous spans :=
  if_pos h

theorem Row.encodeFrom_cons_of_length {legend : Legend} {previous : Place} {span : Span}
    {spans : List Span} (h : span.length ≠ 0) :
    encodeFrom legend previous (span :: spans) =
      ofSpan legend previous span :: encodeFrom legend span.place spans :=
  if_neg h

/-! ### Places -/

/-- Neither the difference of lines nor, on one line, the difference of starts is negative. -/
def Place.Precedes (previous next : Place) : Prop :=
  previous.line ≤ next.line ∧ (previous.line = next.line → previous.start ≤ next.start)

theorem Row.place_ofSpan_iff (legend : Legend) (previous : Place) (span : Span) :
    (Row.ofSpan legend previous span).place previous = span.place ↔
      previous.Precedes span.place := by
  by_cases hline : span.line - previous.line = 0
  · simp only [ofSpan, place, Span.place, Place.Precedes, hline, if_true, Place.mk.injEq]
    omega
  · simp only [ofSpan, place, Span.place, Place.Precedes, hline, if_false, Place.mk.injEq,
      and_true]
    omega

theorem Span.EndsBefore.precedes {first second : Span} (h : first.EndsBefore second) :
    first.place.Precedes second.place := by
  simp only [Place.Precedes, place]
  rcases h with hline | ⟨hline, hstart⟩
  · omega
  · omega

theorem Span.isChain_drawn {spans : List Span} (h : spans.Pairwise Span.EndsBefore) :
    (⟨0, 0⟩ :: (drawn spans).map place).IsChain Place.Precedes := by
  apply List.Pairwise.isChain
  refine List.pairwise_cons.mpr ⟨?_, ?_⟩
  · intro later _
    exact ⟨Nat.zero_le _, fun _ => Nat.zero_le _⟩
  · rw [List.pairwise_map]
    exact (h.filter _).imp EndsBefore.precedes

/-! ### Categories -/

theorem Category.ofName?_name (category : Category) : ofName? category.name = some category := by
  cases category <;> decide

theorem Legend.standard_categories_indexOf (category : Category) :
    standard.categories[standard.indexOf category.name]? = some category.name := by
  cases category <;> decide

/-! ### The round trip -/

/-- What is drawn for a span when `types` are published in place of the names of `legend`. -/
def Span.markUnder (legend : Legend) (types : List String) (span : Span) : Mark :=
  ⟨span.place, span.length, types[legend.indexOf span.category.name]?.bind Category.ofName?⟩

theorem Span.markUnder_standard (span : Span) :
    span.markUnder .standard Legend.standard.categories = span.mark := by
  simp [markUnder, mark, Legend.standard_categories_indexOf, Category.ofName?_name]

theorem Row.decodeFrom_encodeFrom_of_isChain (legend : Legend) (types : List String)
    {previous : Place} {spans : List Span}
    (h : (previous :: (Span.drawn spans).map Span.place).IsChain Place.Precedes) :
    decodeFrom types previous (encodeFrom legend previous spans) =
      (Span.drawn spans).map (Span.markUnder legend types) := by
  induction spans generalizing previous with
  | nil => rfl
  | cons span spans ih =>
      by_cases hlength : span.length = 0
      · -- An empty span has no row, so the next row still counts from `previous`.
        rw [Span.drawn_cons_of_empty hlength] at h ⊢
        rw [encodeFrom_cons_of_empty hlength]
        exact ih h
      · rw [Span.drawn_cons_of_length hlength, List.map_cons, List.isChain_cons_cons] at h
        have hplace := (place_ofSpan_iff legend previous span).mpr h.1
        rw [Span.drawn_cons_of_length hlength, encodeFrom_cons_of_length hlength, decodeFrom,
          hplace, ih h.2]
        rfl

theorem Row.decodeFrom_encodeFrom {previous : Place} {spans : List Span}
    (h : (previous :: (Span.drawn spans).map Span.place).IsChain Place.Precedes) :
    decodeFrom Legend.standard.categories previous (encodeFrom .standard previous spans) =
      (Span.drawn spans).map Span.mark := by
  rw [decodeFrom_encodeFrom_of_isChain .standard _ h]
  exact List.map_congr_left fun span _ => span.markUnder_standard

/-! ### The legend that is published -/

/-- The category names in what a server tells about itself. -/
def Json.tokenTypes? (info : Json) : Option (List String) := do
  let capabilities ← info.field? "capabilities"
  let provider ← capabilities.field? "semanticTokensProvider"
  let legend ← provider.field? "legend"
  let types ← legend.field? "tokenTypes"
  (← types.items?).mapM Json.string?

theorem tokenTypes?_serverInfo : serverInfo.tokenTypes? = some Legend.standard.categories := by
  decide +kernel

theorem Session.info_of_handshake {session next : Session} {call : Call} {info : Json}
    (h : session.request call .handshake = (next, some (.ok info))) : info = serverInfo := by
  simp only [request] at h
  split at h
  · simp at h
  · split at h
    · simp only [Prod.mk.injEq, Option.some.injEq, Except.ok.injEq] at h
      exact h.2.symm
    · simp at h

/-- Reading the rows of a source with the published legend gives back the place, the length and
the category of every span that is not empty, in order, and no difference stops at zero. -/
theorem decode_highlightRows (mode : ValueSpan) (source : String)
    (h : units source.toList < positionLimit) {session next : Session} {call : Call} {info : Json}
    (hinfo : session.request call .handshake = (next, some (.ok info))) :
    ∃ types spans rows, info.tokenTypes? = some types ∧ highlight mode source = .ok spans ∧
      highlightRows mode source = .ok rows ∧
      Row.decode types rows = (Span.drawn spans).map Span.mark ∧
      (⟨0, 0⟩ :: (Span.drawn spans).map Span.place).IsChain Place.Precedes := by
  obtain rfl := Session.info_of_handshake hinfo
  obtain ⟨spans, hspans⟩ := exists_highlight mode h
  have hchain := Span.isChain_drawn (highlight_pairwise hspans)
  refine ⟨_, spans, Row.encode .standard spans, tokenTypes?_serverInfo, hspans, ?_, ?_, hchain⟩
  · rw [highlightRows, hspans]
    rfl
  · exact Row.decodeFrom_encodeFrom hchain

/-- The empty value on the first line has no row, and the row behind it still finds its line. -/
theorem decode_highlightRows_behind_empty_value :
    units "ENV A=\n  ENV 🚀=b".toList < positionLimit ∧
    ∃ types spans rows, serverInfo.tokenTypes? = some types ∧
      highlight .structural "ENV A=\n  ENV 🚀=b" = .ok spans ∧
      highlightRows .structural "ENV A=\n  ENV 🚀=b" = .ok rows ∧
      Row.decode types rows = (Span.drawn spans).map Span.mark ∧
      (Span.drawn spans).map Span.mark =
        [⟨⟨0, 0⟩, 3, some .keyword⟩, ⟨⟨0, 4⟩, 1, some .variableName⟩, ⟨⟨1, 2⟩, 3, some .keyword⟩,
          ⟨⟨1, 6⟩, 2, some .variableName⟩, ⟨⟨1, 9⟩, 1, some .string⟩] := by
  have hlimit : units "ENV A=\n  ENV 🚀=b".toList < positionLimit := by decide
  have hinfo : Session.request { server := { schemes := [], mode := .structural } }
      ⟨none, "initialize", some (.obj [("capabilities", .obj [])])⟩ .handshake =
        ({ phase := .initialized, server := { schemes := [], mode := .structural } },
          some (.ok serverInfo)) := rfl
  have hvalue : ((highlight .structural "ENV A=\n  ENV 🚀=b").toOption.map fun spans =>
      (Span.drawn spans).map Span.mark) = some
        [⟨⟨0, 0⟩, 3, some .keyword⟩, ⟨⟨0, 4⟩, 1, some .variableName⟩, ⟨⟨1, 2⟩, 3, some .keyword⟩,
          ⟨⟨1, 6⟩, 2, some .variableName⟩, ⟨⟨1, 9⟩, 1, some .string⟩] := by
    decide +kernel
  obtain ⟨types, spans, rows, htypes, hspans, hrows, hdecode, -⟩ :=
    decode_highlightRows .structural _ hlimit hinfo
  rw [hspans] at hvalue
  exact ⟨hlimit, types, spans, rows, htypes, hspans, hrows, hdecode, Option.some.inj hvalue⟩

end Layerfile
