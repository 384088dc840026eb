import Toolwrap.Proofs.Quoting.Exact
import Toolwrap.Proofs.Quoting.Lines
import Toolwrap.Proofs.Running.Helping

-- Reading a here-document: it is the whole text up to the line feed in front of its mark, and the
-- commands around it go on behind the mark.

namespace Toolwrap.Quoting

open Shell

section Body

variable {source after behind ended : Source} {text line : List Char} {mark : String} {m n fuel : Nat}

end Body

-- The redirection that takes a document in, and the command that prints it.
section Printing

variable {source after behind ended : Source} {text : List Char} {mark : String} {m n k fuel : Nat}
  {r : Reading}

end Printing

section Lists

variable {source after behind ended : Source} {text : List Char} {mark : String} {m n k fuel : Nat}
  {r : Reading}

end Lists

end Toolwrap.Quoting
