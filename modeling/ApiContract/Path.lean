import ApiContract.Text.Digits

/-!
# Paths

Where in a document a check stands, and through which branches it came: a root
marker and the steps from it.  Key and index steps lead into the document;
branch and selection steps note a combinator and stay where they are.
-/

namespace ApiContract

/-- A step of a path. -/
inductive Step where
  | key (name : String)
  | index (position : Nat)
  | branch (position : Nat)
  | selection (property selector : String)
  deriving DecidableEq

/-- A place in a document. -/
structure Path where
  root : String
  steps : List Step
  deriving DecidableEq

/-- The step as it is written in a path. -/
def Step.write : Step → List Char
  | key name => '[' :: name.toList ++ [']']
  | index position => '[' :: natText position ++ [']']
  | branch position => '{' :: 's' :: 'u' :: 'b' :: ':' :: natText position ++ ['}']
  | selection property selector => '{' :: property.toList ++ '=' :: selector.toList ++ ['}']

namespace Path

/-- The path of a root marker alone. -/
def ofRoot (root : String) : Path := ⟨root, []⟩

/-- The path with one more step. -/
def child (path : Path) (step : Step) : Path := ⟨path.root, path.steps ++ [step]⟩

/-- The path's characters. -/
def write (path : Path) : List Char := path.root.toList ++ path.steps.flatMap Step.write

/-- The path as a string. -/
def text (path : Path) : String := String.ofList path.write

theorem write_child (path : Path) (step : Step) :
    (path.child step).write = path.write ++ step.write := by
  simp [write, child]

end Path
end ApiContract
