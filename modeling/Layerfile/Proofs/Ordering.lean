import Layerfile.Proofs.Encoding
import Mathlib.Data.List.Chain
import Mathlib.Data.Prod.Lex

/-! Which spans can be read back from their rows. Reading never goes back, so what it gives is in
order; spans that are in order are read back as they were. -/

namespace Layerfile

/-! ### The order of places -/

/-- A place by its line and then by its start. -/
def Place.key (place : Place) : ℕ ×ₗ ℕ :=
  toLex (place.line, place.start)

theorem Place.precedes_iff_key_le (first second : Place) :
    first.Precedes second ↔ first.key ≤ second.key := by
  simp only [Precedes, key, Prod.Lex.toLex_le_toLex]
  omega

/-- Nothing comes before the first place, so the chain behind it is an order of all places. -/
theorem Place.isChain_iff_pairwise_key (places : List Place) :
    (⟨0, 0⟩ :: places).IsChain Precedes ↔ (places.map key).Pairwise (· ≤ ·) := by
  have hfirst : ∀ place ∈ places.head?, Precedes ⟨0, 0⟩ place :=
    fun _ _ => ⟨Nat.zero_le _, fun _ => Nat.zero_le _⟩
  rw [List.isChain_cons, and_iff_right hfirst, ← List.isChain_iff_pairwise, List.isChain_map]
  exact List.IsChain.iff precedes_iff_key_le

/-! ### Reading goes forward -/

theorem Row.precedes_place (previous : Place) (row : Row) :
    previous.Precedes (row.place previous) := by
  unfold place
  split
  · exact ⟨Nat.le_refl _, fun _ => Nat.le_add_right _ _⟩
  · exact ⟨Nat.le_add_right _ _, by intro hline; simp only at hline; omega⟩

theorem Row.isChain_decodeFrom (types : List String) (previous : Place) (rows : List Row) :
    (previous :: (decodeFrom types previous rows).map Mark.place).IsChain Place.Precedes := by
  induction rows generalizing previous with
  | nil => exact List.isChain_singleton _
  | cons row rows ih =>
      rw [decodeFrom, List.map_cons, List.isChain_cons_cons]
      exact ⟨row.precedes_place previous, ih (row.place previous)⟩

/-! ### What the rows carry -/

def Mark.extent (mark : Mark) : Place × Nat :=
  (mark.place, mark.length)

def Span.extent (span : Span) : Place × Nat :=
  (span.place, span.length)

/-- The parts of a row that do not depend on its place. -/
def Row.payload (row : Row) : Nat × Nat × Nat :=
  (row.length, row.category, row.modifiers)

def Span.payload (legend : Legend) (span : Span) : Nat × Nat × Nat :=
  (span.length, legend.indexOf span.category.name, legend.bitset span.modifiers)

theorem Row.map_payload_encodeFrom (legend : Legend) (previous : Place) (spans : List Span) :
    (encodeFrom legend previous spans).map payload =
      (Span.drawn spans).map (Span.payload legend) := by
  induction spans generalizing previous with
  | nil => rfl
  | cons span spans ih =>
      by_cases hlength : span.length = 0
      · rw [encodeFrom_cons_of_empty hlength, Span.drawn_cons_of_empty hlength, ih]
      · rw [encodeFrom_cons_of_length hlength, Span.drawn_cons_of_length hlength, List.map_cons,
          List.map_cons, ih]
        rfl

/-- Rows give back the places and lengths of the spans that are not empty exactly if these come in
the order of their lines and, on one line, of their starts. In any order there is one row for each
of them, with its length, the index of its category and the set of its modifiers. -/
theorem decode_encode_iff_ordered (legend : Legend) (types : List String) (spans : List Span) :
    ((Row.decode types (Row.encode legend spans)).map Mark.extent =
        (Span.drawn spans).map Span.extent ↔
      ((Span.drawn spans).map fun span => toLex (span.line, span.start)).Pairwise (· ≤ ·)) ∧
    (Row.encode legend spans).map Row.payload = (Span.drawn spans).map (Span.payload legend) := by
  refine ⟨?_, Row.map_payload_encodeFrom legend ⟨0, 0⟩ spans⟩
  have hkeys : (Span.drawn spans).map (fun span => toLex (span.line, span.start)) =
      ((Span.drawn spans).map Span.place).map Place.key := by
    rw [List.map_map]
    rfl
  rw [hkeys, ← Place.isChain_iff_pairwise_key]
  constructor
  · intro hread
    have hplaces : (Row.decode types (Row.encode legend spans)).map Mark.place =
        (Span.drawn spans).map Span.place := by
      simpa [Function.comp_def, Mark.extent, Span.extent] using congrArg (List.map Prod.fst) hread
    rw [← hplaces]
    exact Row.isChain_decodeFrom types ⟨0, 0⟩ _
  · intro hordered
    rw [Row.decode, Row.encode, Row.decodeFrom_encodeFrom_of_isChain legend types hordered,
      List.map_map]
    rfl

/-- A span on an earlier line is read on the line of the span before it. -/
example : (Row.decode [] (Row.encode .standard
    [⟨1, 0, 2, .comment, []⟩, ⟨0, 5, 1, .string, []⟩])).map Mark.extent =
      [(⟨1, 0⟩, 2), (⟨1, 5⟩, 1)] := by
  decide

end Layerfile
