import PagePreview.Pattern.Parser
import PagePreview.Pattern.Search
import PagePreview.Pattern.Meaning
import PagePreview.Pattern.Size

/-!
# Patterns

A pattern is compiled once and then matched against any number of texts. Letters match in either
case unless the pattern says otherwise, and a match may lie anywhere in a text.
-/

namespace PagePreview

/-- A compiled pattern. -/
structure Pattern where
  /-- The pattern as it is written. -/
  source : String
  /-- The program that matches it. -/
  program : Pattern.Program
  /-- The number of groups, the whole match included. -/
  groups : Nat
  deriving DecidableEq, Inhabited

namespace Pattern

/-- Compile a pattern. It has to be well formed and its automata must not grow too large. -/
def compile? (source : String) : Option Pattern := do
  let ast ← Ast.parse? source
  let (node, _) ← ast.meaning? Flags.initial
  if node.fits then some ⟨source, node.program, node.groups⟩ else none

/-- The positions noted by the first match in a text. -/
def slots? (p : Pattern) (text : List Char) : Option Slots :=
  run p.program (Array.replicate (2 * p.groups) none) text 0 none [] none

/-- The groups of the first match in a text. Group 0 is the whole match, and a group that took no
part holds nothing. -/
def captures (p : Pattern) (text : String) : Option (List (Option String)) :=
  (p.slots? text.toList).map fun slots =>
    (List.range p.groups).map (groupOf text.toList slots)

end Pattern

end PagePreview
