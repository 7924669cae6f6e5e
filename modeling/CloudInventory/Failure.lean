/-! What ends a run, in the words of the user: a message, and the causes behind it. -/

namespace CloudInventory

structure Failure where
  message : String
  /-- The nearest cause first. -/
  causes : List String := []
deriving DecidableEq, Repr

namespace Failure

def within (message : String) (f : Failure) : Failure := ⟨message, f.message :: f.causes⟩

/-- All in one line. -/
def inline (f : Failure) : String := ": ".intercalate (f.message :: f.causes)

def padLeft (width : Nat) (s : String) : String :=
  String.ofList (List.replicate (width - s.length) ' ' ++ s.toList)

/-- A cause under its number, or alone; its further lines stand below its first. -/
def causeText (number : Option Nat) (cause : String) : String :=
  let (head, margin) : String × String :=
    match number with
    | some n => (padLeft 5 (toString n) ++ ": ", "       ")
    | none => ("    ", "    ")
  head ++ ("\n" ++ margin).intercalate (cause.splitOn "\n")

def causesText (causes : List String) : String :=
  match causes with
  | [] => ""
  | [cause] => "\n\nCaused by:\n" ++ causeText none cause
  | causes =>
    "\n\nCaused by:\n" ++
      "\n".intercalate (causes.zipIdx.map fun (cause, n) => causeText (some n) cause)

def report (f : Failure) : String := s!"Error: {f.message}{causesText f.causes}\n"

end Failure

end CloudInventory
