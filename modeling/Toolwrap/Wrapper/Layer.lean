import Toolwrap.Argument.Basic
import Toolwrap.Text.Blank
/-!
Layers of an environment. A layer puts text into four places of a wrapper and adds arguments of its
own. Layers are combined in order, the empty one changing nothing.
-/
namespace Toolwrap.Wrapper

structure Layer where
  /-- before the command line is read -/
  preParse : String := ""
  /-- further branches of the loop over the command line -/
  parsers : String := ""
  /-- after all checks, before the component is run -/
  postParse : String := ""
  /-- the end of the command that starts the environment, as it stands -/
  extraParams : String := ""
  inputs : List Argument := []
deriving Repr

/-- The texts that are not empty, one after the other on lines of their own. -/
def joinSections (parts : List String) : String :=
  Text.unlines (parts.filter fun s => !s.isEmpty)

namespace Layer

def empty : Layer := {}

def combine (a b : Layer) : Layer where
  preParse := joinSections [a.preParse, b.preParse]
  parsers := joinSections [a.parsers, b.parsers]
  postParse := joinSections [a.postParse, b.postParse]
  extraParams := a.extraParams ++ b.extraParams
  inputs := a.inputs ++ b.inputs

def combineAll (layers : List Layer) : Layer := layers.foldl combine empty

end Layer

end Toolwrap.Wrapper
