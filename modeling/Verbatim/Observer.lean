import Verbatim.Issue

/-!
# Observers

An observer looks at a block after it has been read, and may report issues.  It
has no say in what the literal means.  It must not fail either, short of not being
implemented at all.
-/

namespace Verbatim

/-- What came of observing a block: the issues that were reported, and the failure
that ended the observation, if one did. -/
structure Observation where
  issues : List Issue
  failure? : Option Failure
  deriving DecidableEq, Repr

structure Observer where
  observe : Block → Observation

/-- The observer that nobody has implemented yet. -/
def Observer.unimplemented : Observer where
  observe _ := ⟨[], some .unimplementedObserver⟩

/-- The observer that reports the issues found by a function. -/
def Observer.reporting (issues : Block → List Issue) : Observer where
  observe block := ⟨issues block, none⟩

end Verbatim
