import PagePreview.Pattern.Parser
import PagePreview.Pattern.Meaning

/-!
# Patterns for deterministic automata

A deterministic automaton reads a text byte by byte and looks no further. So it can tell the word
characters of ASCII from others at once, but not those outside it, which take several bytes: a
pattern with such a condition on words has no automaton.
-/

namespace PagePreview.Pattern

/-- Why there is no automaton for a pattern. -/
inductive AutomatonFault where
  /-- The pattern is not well formed. -/
  | malformed
  /-- A condition on words that takes in characters outside ASCII. -/
  | wordBoundary
  deriving DecidableEq, Repr

/-- The wording of a fault. -/
def AutomatonFault.message : AutomatonFault → String
  | .malformed => "error building NFA"
  | .wordBoundary => "unsupported regex feature for DFAs: cannot build DFAs for regexes with " ++
    "Unicode word boundaries; switch to ASCII word boundaries, or heuristically enable Unicode " ++
    "word boundaries or use a different regex engine"

/-- Whether a condition is about words with characters outside ASCII. -/
def Look.isWideWord : Look → Bool
  | .boundary unicode | .noBoundary unicode | .wordStart unicode | .wordEnd unicode
  | .wordStartHalf unicode | .wordEndHalf unicode => unicode
  | .textStart | .textEnd | .lineStart _ | .lineEnd _ => false

mutual

/-- Whether a condition on words with characters outside ASCII occurs. -/
def Node.hasWideWord : Node → Bool
  | .look l => l.isWideWord
  | .repetition _ _ _ sub => sub.hasWideWord
  | .capture _ sub => sub.hasWideWord
  | .concat items => Node.anyHasWideWord items
  | .choice items => Node.anyHasWideWord items
  | .empty => false
  | .literal _ => false
  | .set _ => false

/-- Whether such a condition occurs in one of several. -/
def Node.anyHasWideWord : List Node → Bool
  | [] => false
  | a :: rest => a.hasWideWord || anyHasWideWord rest

end

/-- What is wrong with a pattern for an automaton that tells capitals from small letters. -/
def automatonFault? (source : String) : Option AutomatonFault :=
  match (Ast.parse? source).bind (Ast.meaning? { Flags.initial with ignoreCase := false }) with
  | none => some .malformed
  | some (node, _) => if node.hasWideWord then some .wordBoundary else none

end PagePreview.Pattern
