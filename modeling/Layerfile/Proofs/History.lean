import Layerfile.Server.Documents
import Mathlib.Data.List.DropRight

/-! What a server answers after any history. The rows of a document depend on the settings and on
the last text that the document was given since it was closed, and on nothing else. -/

namespace Layerfile

/-- What an editor does with a server: it tells an event or asks for the rows of a document. -/
inductive Operation where
  | tell (event : DocumentEvent)
  | ask (uri : Uri)
deriving DecidableEq, Repr

namespace Server

/-- Performs an operation. Only a question has an answer, and it leaves the server as it is. -/
def perform (server : Server) :
    Operation → Server × Option (Except PositionError (Option (List Row)))
  | .tell event => (server.step event, none)
  | .ask uri => (server, some (server.rows uri))

def run (server : Server) (operations : List Operation) : Server :=
  operations.foldl (fun server operation => (server.perform operation).1) server

theorem run_concat (server : Server) (operations : List Operation) (operation : Operation) :
    server.run (operations ++ [operation]) = ((server.run operations).perform operation).1 := by
  simp [run]

end Server

/-! ### The text that counts -/

namespace Operation

/-- The text that an operation gives to a document: the text that it is opened with, or the last
one of several changes. -/
def textFor? (uri : Uri) : Operation → Option String
  | .tell (.opened target text) => if target = uri then some text else none
  | .tell (.changed target texts) => if target = uri then texts.getLast? else none
  | .tell (.closed _) | .ask _ => none

def closes (uri : Uri) (operation : Operation) : Bool :=
  operation = .tell (.closed uri)

/-- The operations behind the last one that closed the document. -/
def sinceClosed (uri : Uri) (operations : List Operation) : List Operation :=
  operations.rtakeWhile fun operation => !operation.closes uri

/-- The text that was given last to a document since it was closed. -/
def latestText? (uri : Uri) (operations : List Operation) : Option String :=
  ((sinceClosed uri operations).filterMap (textFor? uri)).getLast?

/-- An operation that gives a text to the document or closes it. -/
def concerns (uri : Uri) (operation : Operation) : Bool :=
  operation.closes uri || (operation.textFor? uri).isSome

theorem latestText?_concat (uri : Uri) (operations : List Operation) (operation : Operation) :
    latestText? uri (operations ++ [operation]) =
      if operation.closes uri then none
      else (operation.textFor? uri).or (latestText? uri operations) := by
  unfold latestText? sinceClosed
  rw [List.rtakeWhile_concat]
  by_cases hcloses : operation.closes uri
  · simp [hcloses]
  · cases htext : operation.textFor? uri with
    | none => simp [hcloses, htext]
    | some text => simp [hcloses, htext]

theorem latestText?_concat_of_not_concerns {uri : Uri} {operation : Operation}
    (h : ¬ operation.concerns uri) (operations : List Operation) :
    latestText? uri (operations ++ [operation]) = latestText? uri operations := by
  simp only [concerns, Bool.or_eq_true, not_or, Option.not_isSome_iff_eq_none] at h
  rw [latestText?_concat, if_neg h.1, h.2, Option.none_or]

theorem latestText?_filter (uri : Uri) (operations : List Operation) :
    latestText? uri (operations.filter (concerns uri)) = latestText? uri operations := by
  induction operations using List.reverseRecOn with
  | nil => rfl
  | append_singleton operations operation ih =>
      rw [List.filter_append, List.filter_singleton]
      by_cases hconcerns : operation.concerns uri
      · rw [hconcerns, cond_true, latestText?_concat, latestText?_concat, ih]
      · rw [latestText?_concat_of_not_concerns hconcerns, ← ih]
        simp [hconcerns]

end Operation

/-! ### Every run keeps the texts that count -/

namespace Server

open Operation

/-- A server with the given settings that keeps the latest text of every tracked document. -/
structure Keeps (settings : Settings) (operations : List Operation) (server : Server) : Prop where
  schemes : server.schemes = settings.documentSchemes
  mode : server.mode = settings.valueSpan
  lookup : ∀ uri, server.documents.lookup uri =
    if uri.scheme ∈ settings.documentSchemes then latestText? uri operations else none

theorem lookup_store (server : Server) (uri target : Uri) (text : String) :
    (server.store target text).documents.lookup uri =
      if uri = target ∧ uri.scheme ∈ server.schemes then some text
      else server.documents.lookup uri := by
  unfold store tracks
  by_cases htracked : target.scheme ∈ server.schemes
  · simp only [List.contains_eq_mem, htracked, decide_true, if_true, lookup_put]
    by_cases htarget : uri = target
    · simp [htarget, htracked]
    · simp [htarget]
  · simp only [List.contains_eq_mem, htracked, decide_false, Bool.false_eq_true, if_false]
    by_cases htarget : uri = target
    · simp [htarget, htracked]
    · simp [htarget]

theorem schemes_store (server : Server) (uri : Uri) (text : String) :
    (server.store uri text).schemes = server.schemes := by
  unfold store
  split <;> rfl

theorem mode_store (server : Server) (uri : Uri) (text : String) :
    (server.store uri text).mode = server.mode := by
  unfold store
  split <;> rfl

theorem keeps_start (settings : Settings) : Keeps settings [] (start settings) where
  schemes := rfl
  mode := rfl
  lookup uri := by simp [start, latestText?, sinceClosed]

variable {settings : Settings} {operations : List Operation} {server : Server}

theorem Keeps.idle (h : Keeps settings operations server) {operation : Operation}
    (hidle : ∀ uri, ¬ operation.concerns uri) :
    Keeps settings (operations ++ [operation]) server where
  schemes := h.schemes
  mode := h.mode
  lookup uri := by rw [h.lookup, latestText?_concat_of_not_concerns (hidle uri)]

/-- Storing a text is what an operation asks for that gives this text to one document. -/
theorem Keeps.store (h : Keeps settings operations server) {operation : Operation} {target : Uri}
    {text : String} (hcloses : ∀ uri, ¬ operation.closes uri)
    (htext : ∀ uri, operation.textFor? uri = if target = uri then some text else none) :
    Keeps settings (operations ++ [operation]) (server.store target text) where
  schemes := (server.schemes_store target text).trans h.schemes
  mode := (server.mode_store target text).trans h.mode
  lookup uri := by
    rw [lookup_store, latestText?_concat, if_neg (hcloses uri), htext, h.schemes, h.lookup]
    by_cases htarget : uri = target
    · subst htarget
      by_cases htracked : uri.scheme ∈ settings.documentSchemes
      · simp [htracked]
      · simp [htracked]
    · simp [htarget, Ne.symm htarget]

theorem Keeps.remove (h : Keeps settings operations server) (target : Uri) :
    Keeps settings (operations ++ [.tell (.closed target)]) (server.step (.closed target)) where
  schemes := h.schemes
  mode := h.mode
  lookup uri := by
    rw [step, lookup_remove, latestText?_concat, h.lookup]
    by_cases htarget : uri = target
    · simp [htarget, closes]
    · simp [htarget, Ne.symm htarget, closes, textFor?]

theorem Keeps.perform (h : Keeps settings operations server) (operation : Operation) :
    Keeps settings (operations ++ [operation]) (server.perform operation).1 := by
  cases operation with
  | ask uri => exact h.idle (by simp [concerns, closes, textFor?])
  | tell event =>
      cases event with
      | opened target text => exact h.store (by simp [closes]) (by simp [textFor?])
      | closed target => exact h.remove target
      | changed target texts =>
          simp only [Server.perform, step]
          cases htexts : texts.getLast? with
          | none => exact h.idle (by simp [concerns, closes, textFor?, htexts])
          | some text => exact h.store (by simp [closes]) (by simp [textFor?, htexts])

theorem keeps_run (settings : Settings) (operations : List Operation) :
    Keeps settings operations ((start settings).run operations) := by
  induction operations using List.reverseRecOn with
  | nil => exact keeps_start settings
  | append_singleton operations operation ih =>
      rw [run_concat]
      exact ih.perform operation

/-! ### Answers -/

theorem Keeps.rows_of_untracked (h : Keeps settings operations server) {uri : Uri}
    (huntracked : uri.scheme ∉ settings.documentSchemes) : server.rows uri = .ok none := by
  unfold rows
  rw [h.lookup, if_neg huntracked]

theorem Keeps.rows_of_none (h : Keeps settings operations server) {uri : Uri}
    (hnone : latestText? uri operations = none) : server.rows uri = .ok none := by
  unfold rows
  rw [h.lookup, hnone, ite_self]

theorem Keeps.rows_of_some (h : Keeps settings operations server) {uri : Uri} {text : String}
    (htracked : uri.scheme ∈ settings.documentSchemes)
    (htext : latestText? uri operations = some text) :
    server.rows uri = (highlightRows settings.valueSpan text).map some := by
  unfold rows
  rw [h.lookup, if_pos htracked, htext, h.mode]

theorem Keeps.rows_congr {others : List Operation} {other : Server}
    (h : Keeps settings operations server) (hother : Keeps settings others other) {uri : Uri}
    (htext : latestText? uri others = latestText? uri operations) :
    other.rows uri = server.rows uri := by
  unfold rows
  rw [hother.lookup, hother.mode, htext, h.lookup, h.mode]

def answerAfter (settings : Settings) (operations : List Operation) (uri : Uri) :
    Option (Except PositionError (Option (List Row))) :=
  (((start settings).run operations).perform (.ask uri)).2

/-- A document has rows if its scheme is tracked and it was given a text since it was last closed.
They are the rows of the last such text, whatever else happened. -/
theorem answerAfter_of_latest_text (settings : Settings) (operations : List Operation)
    (uri : Uri) :
    (uri.scheme ∉ settings.documentSchemes →
      answerAfter settings operations uri = some (.ok none)) ∧
    ((∀ operation ∈ sinceClosed uri operations, operation.textFor? uri = none) →
      answerAfter settings operations uri = some (.ok none)) ∧
    (uri.scheme ∈ settings.documentSchemes → ∀ earlier operation later text,
      sinceClosed uri operations = earlier ++ operation :: later →
      operation.textFor? uri = some text →
      (∀ other ∈ later, other.textFor? uri = none) →
      answerAfter settings operations uri =
        some ((highlight settings.valueSpan text).map fun spans =>
          some (Row.encode .standard spans))) ∧
    ∀ others : List Operation,
      others.filter (concerns uri) = operations.filter (concerns uri) →
      answerAfter settings others uri = answerAfter settings operations uri := by
  have hkeeps := keeps_run settings operations
  refine ⟨?_, ?_, ?_, ?_⟩
  · intro huntracked
    exact congrArg some (hkeeps.rows_of_untracked huntracked)
  · intro hnone
    refine congrArg some (hkeeps.rows_of_none ?_)
    simpa [latestText?, List.filterMap_eq_nil_iff] using hnone
  · intro htracked earlier operation later text hsplit htext hlater
    have hlatest : latestText? uri operations = some text := by
      have hnil : later.filterMap (textFor? uri) = [] := List.filterMap_eq_nil_iff.mpr hlater
      simp [latestText?, hsplit, htext, hnil]
    refine congrArg some ((hkeeps.rows_of_some htracked hlatest).trans ?_)
    rw [highlightRows]
    cases highlight settings.valueSpan text with
    | error e => rfl
    | ok spans => rfl
  · intro others hothers
    refine congrArg some (hkeeps.rows_congr (keeps_run settings others) ?_)
    rw [← latestText?_filter uri others, hothers, latestText?_filter]

/-- A change behind a close brings the document back. The last of its texts counts, not the empty
change or the other document behind it. -/
theorem answerAfter_of_change_behind_close :
    "file" ∈ ["file"] ∧
    answerAfter ⟨["file"], .structural, ""⟩
      [.tell (.opened ⟨"file", none, "/a", none, none⟩ "RUN"),
        .tell (.closed ⟨"file", none, "/a", none, none⟩),
        .tell (.changed ⟨"file", none, "/a", none, none⟩ ["RUN x", "USER a"]),
        .tell (.changed ⟨"file", none, "/a", none, none⟩ []),
        .tell (.opened ⟨"file", none, "/b", none, none⟩ "ENV B=c")]
      ⟨"file", none, "/a", none, none⟩ =
    some ((highlight .structural "USER a").map fun spans => some (Row.encode .standard spans)) ∧
    (highlight .structural "USER a").map (Row.encode .standard) =
      .ok [⟨0, 0, 4, 2, 0⟩, ⟨0, 5, 1, 17, 0⟩] := by
  refine ⟨by simp, ?_, by decide +kernel⟩
  apply (answerAfter_of_latest_text _ _ _).2.2.1 (by simp) []
    (.tell (.changed ⟨"file", none, "/a", none, none⟩ ["RUN x", "USER a"]))
    [.tell (.changed ⟨"file", none, "/a", none, none⟩ []),
      .tell (.opened ⟨"file", none, "/b", none, none⟩ "ENV B=c")]
  · decide
  · decide
  · decide

end Server

end Layerfile
