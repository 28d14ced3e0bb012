/-
  VersionPick.Regex.Basic — regular expressions with the text they were read from.
-/

import VersionPick.Regex.Parser
import VersionPick.Regex.Size
import VersionPick.Regex.Start

namespace VersionPick

structure Regex where
  source : String
  expr : Regex.Expr
deriving DecidableEq, Repr

namespace Regex

/-- Whether an expression needs no automaton, or one for which there is room. -/
def Expr.isSmall (e : Expr) : Bool :=
  let plan := Plan.ofExpr e
  plan.isFixed || plan.fits

inductive Error where
  | malformed (fault : Fault)
  | tooLarge
deriving DecidableEq, Repr

def Error.message (pattern : String) : Error → String
  | malformed fault => fault.message pattern.toList
  | tooLarge => "Compiled regex exceeds size limit of " ++ toString roomLimit ++ " bytes."

def compile (pattern : String) : Except Error Regex :=
  match read pattern.toList with
  | .error fault => .error (.malformed fault)
  | .ok expr => if expr.isSmall then .ok { source := pattern, expr } else .error .tooLarge

def isMatch (r : Regex) (text : String) : Bool := r.expr.foundIn text.toList

theorem source_of_compile {pattern : String} {r : Regex} (h : compile pattern = .ok r) :
    r.source = pattern := by
  rw [compile] at h
  split at h
  · cases h
  · split at h
    · cases h
      rfl
    · cases h

end Regex

end VersionPick
