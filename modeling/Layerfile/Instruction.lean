import Layerfile.Lexicon
import Layerfile.Text.Blank

/-!
Instructions and their keyword phrases. The opener, the first word of a phrase, is
found by its letters alone; what follows decides which instruction it opens.
-/

namespace Layerfile

open Text

inductive Instruction where
  | button
  | cache
  | checkpoint
  | clone
  | copy
  | env
  | buildEnv
  | base
  | memory
  | run
  | runBackground
  | runRepeatable
  | secretEnv
  | setupFile
  | skipRemainingIf
  | split
  | exposeWebsite
  | user
  | wait
  | workdir
deriving DecidableEq, Repr

namespace Instruction

/-- The words of the keyword phrase, in order. -/
def phrase : Instruction → List String
  | button => ["BUTTON"]
  | cache => ["CACHE"]
  | checkpoint => ["CHECKPOINT"]
  | clone => ["CLONE"]
  | copy => ["COPY"]
  | env => ["ENV"]
  | buildEnv => ["BUILD", "ENV"]
  | base => ["FROM"]
  | memory => ["MEMORY"]
  | run => ["RUN"]
  | runBackground => ["RUN", "BACKGROUND"]
  | runRepeatable => ["RUN", "REPEATABLE"]
  | secretEnv => ["SECRET", "ENV"]
  | setupFile => ["SETUP", "FILE"]
  | skipRemainingIf => ["SKIP", "REMAINING", "IF"]
  | split => ["SPLIT"]
  | exposeWebsite => ["EXPOSE", "WEBSITE"]
  | user => ["USER"]
  | wait => ["WAIT"]
  | workdir => ["WORKDIR"]

def all : List Instruction :=
  [button, cache, checkpoint, clone, copy, env, buildEnv, base, memory, run, runBackground,
    runRepeatable, secretEnv, setupFile, skipRemainingIf, split, exposeWebsite, user, wait, workdir]

theorem mem_all (instruction : Instruction) : instruction ∈ all := by
  cases instruction <;> decide

def continuation (instruction : Instruction) : List (List Char) :=
  instruction.phrase.tail.map String.toList

end Instruction

inductive Opener where
  | button
  | cache
  | checkpoint
  | clone
  | copy
  | env
  | build
  | base
  | memory
  | run
  | secret
  | setup
  | skip
  | split
  | expose
  | user
  | wait
  | workdir
deriving DecidableEq, Repr

/-- A keyword counts only where no longer word goes on. -/
def atWordBoundary : List Char → Bool
  | [] => true
  | c :: _ => isBlank c

/-- Cuts `words` off the front of a text, each after at least one blank. -/
def cutWords : List (List Char) → List Char → Option (List Char × List Char)
  | [], text => some ([], text)
  | word :: words, text =>
    let blanks := text.takeWhile isBlank
    let tail := text.dropWhile isBlank
    if blanks.isEmpty || !word.isPrefixOf tail then none
    else (cutWords words (tail.drop word.length)).map fun (cut, rest) =>
      (blanks ++ word ++ cut, rest)

namespace Opener

def all : List Opener :=
  [button, cache, checkpoint, clone, copy, env, build, base, memory, run, secret, setup, skip,
    split, expose, user, wait, workdir]

/-- The instructions that an opener can begin, the preferred one first. -/
def instructions : Opener → List Instruction
  | button => [.button]
  | cache => [.cache]
  | checkpoint => [.checkpoint]
  | clone => [.clone]
  | copy => [.copy]
  | env => [.env]
  | build => [.buildEnv]
  | base => [.base]
  | memory => [.memory]
  | run => [.runBackground, .runRepeatable, .run]
  | secret => [.secretEnv]
  | setup => [.setupFile]
  | skip => [.skipRemainingIf]
  | split => [.split]
  | expose => [.exposeWebsite]
  | user => [.user]
  | wait => [.wait]
  | workdir => [.workdir]

def word : Opener → List Char
  | button => "BUTTON".toList
  | cache => "CACHE".toList
  | checkpoint => "CHECKPOINT".toList
  | clone => "CLONE".toList
  | copy => "COPY".toList
  | env => "ENV".toList
  | build => "BUILD".toList
  | base => "FROM".toList
  | memory => "MEMORY".toList
  | run => "RUN".toList
  | secret => "SECRET".toList
  | setup => "SETUP".toList
  | skip => "SKIP".toList
  | split => "SPLIT".toList
  | expose => "EXPOSE".toList
  | user => "USER".toList
  | wait => "WAIT".toList
  | workdir => "WORKDIR".toList

/-- Every instruction is opened by the first word of its phrase. -/
theorem phrase_of_mem_instructions {opener : Opener} {instruction : Instruction}
    (h : instruction ∈ opener.instructions) :
    instruction.phrase.head?.map String.toList = some opener.word := by
  cases opener <;> simp only [instructions, List.mem_cons, List.not_mem_nil, or_false] at h <;>
    rcases h with rfl | rfl | rfl <;> rfl

end Opener

/-- An instruction found behind its opener: the text that completes the keyword and
the text of the arguments. -/
structure Keyword where
  instruction : Instruction
  completion : List Char
  arguments : List Char
deriving DecidableEq, Repr

/-- Completes the phrase of `instruction` from the text behind the opener. A phrase of
several words has to end at a word boundary. -/
def Instruction.complete (instruction : Instruction) (text : List Char) : Option Keyword :=
  match cutWords instruction.continuation text with
  | none => none
  | some (completion, rest) =>
    if instruction.continuation.isEmpty || atWordBoundary rest then
      some ⟨instruction, completion, rest⟩
    else none

/-- The instruction that an opener begins in front of `text`. -/
def Opener.resolve (opener : Opener) (text : List Char) : Option Keyword :=
  opener.instructions.findSome? fun instruction => instruction.complete text

inductive HeadLexeme where
  | opener (opener : Opener)
  | comment
  | blank
deriving DecidableEq, Repr

/-- A comment starts with `#` and runs to the end of the line. -/
def Rule.comment {κ : Type} (kind : κ) : Rule κ :=
  .headed kind (· == '#') (· != '\n')

def Rule.blanks {κ : Type} (kind : κ) : Rule κ :=
  .run kind isBlank

def headLexicon : Lexicon HeadLexeme where
  rules := Opener.all.map (fun opener => Rule.literal (.opener opener) opener.word) ++
    [.comment .comment, .blanks .blank]

end Layerfile
