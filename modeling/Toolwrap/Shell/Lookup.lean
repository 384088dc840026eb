import Toolwrap.Shell.Program
/-!
What the name of a command stands for: another text, a word of the language, a function, a command of
the shell or a program.
-/
namespace Toolwrap.Shell

inductive Meaning where
  | alias_ (value : String)
  | keyword
  | function
  | builtin
  | file (path : String) (hashed : Bool)
deriving DecidableEq, Repr

namespace Session

/-- Where programs of a name are found. -/
def programPaths (s : Session) (name : String) : List String :=
  if name.toList.contains '/' then (if (s.programAt name).toOption.isSome then [name] else [])
  else if name.isEmpty then []
  else (s.searchPath.map fun d => d ++ "/" ++ name).filter fun p => (s.programAt p).toOption.isSome

/-- All that a name means, what counts first. -/
def meanings (s : Session) (name : String) : List Meaning :=
  let expanding := s.isPlain || s.has .expandAliases
  let other := match s.aliases.lookup name with
    | some value => if expanding then [Meaning.alias_ value] else []
    | none => []
  other ++ (if (Builtin.keywords s.isPlain).contains name then [.keyword] else []) ++
    (if (s.functions.lookup name).isSome then [.function] else []) ++
    (if Builtin.isKnown s.isPlain name && !s.disabled.contains name then [.builtin] else []) ++
    (match s.hashed.lookup name with
      | some (path, _) => if (s.programAt path).toOption.isSome then [.file path true] else []
      | none => []) ++
    (s.programPaths name).map (.file · false)

end Session

namespace Meaning

/-- The kind of a command in one word. -/
def kind : Meaning → String
  | alias_ _ => "alias"
  | keyword => "keyword"
  | function => "function"
  | builtin => "builtin"
  | file _ _ => "file"

/-- A sentence about a name. -/
def sentence (plain : Bool) (name : String) : Meaning → String
  | alias_ value =>
    if plain then name ++ " is an alias for " ++ value else name ++ " is aliased to \x60" ++ value ++ "'"
  | keyword => name ++ " is a shell keyword"
  | function => if plain then name ++ " is a shell function" else name ++ " is a function"
  | builtin =>
    if plain && Builtin.special.contains name then name ++ " is a special shell builtin"
    else name ++ " is a shell builtin"
  | file path hashed =>
    if !hashed then name ++ " is " ++ path
    else if plain then name ++ " is a tracked alias for " ++ path
    else name ++ " is hashed (" ++ path ++ ")"

/-- A word under which the meaning can be called again. -/
def callable (name : String) : Meaning → String
  | alias_ value => "alias " ++ name ++ "=" ++ Requoted.single value
  | file path _ => path
  | _ => name

def path? : Meaning → Option String
  | file path _ => some path
  | _ => none

end Meaning

namespace Builtin

/-- A line about a meaning, and the text of a function. -/
def describe (name : String) (m : Meaning) : Run Unit := do
  let s ← get
  Run.print 1 (m.sentence s.isPlain name ++ "\n")
  match m, s.functions.lookup name with
  | .function, some f => if !s.isPlain then Run.print 1 (spelledFunction name f.body)
  | _, _ => pure ()

/-- Says what names mean. -/
def type : Builtin := fun _ args =>
  withOptions "type" "afptP" "" args fun options words => do
    let mut code := 0
    for word in words do
      let s ← get
      let all := (s.meanings word).filter fun m => !(has options 'f' && m == .function)
      let all := if has options 'P' then all.filter fun m => m.path?.isSome else all
      let all := if has options 'a' then all.filter (fun m => match m with | .file _ hashed => !hashed | _ => true) else all.take 1
      if all.isEmpty then
        if s.isPlain then Run.print 1 (word ++ ": not found\n")
        else if !(has options 't' || has options 'p' || has options 'P') then
          Run.complain ("type: " ++ word ++ ": not found")
        code := if s.isPlain then 127 else 1
      for m in all do
        if has options 't' then Run.print 1 (m.kind ++ "\n")
        else if has options 'p' || has options 'P' then
          match m.path? with
          | some path => Run.print 1 (path ++ "\n")
          | none => pure ()
        else describe word m
    Run.setStatus code

/-- Shows what names mean, in a sentence or as a word that can be called. -/
def showMeanings (inSentences : Bool) (words : List String) : Run Unit := do
  let mut found := words.isEmpty
  -- the plain shell looks at one word alone
  let isPlain := (← get).isPlain
  for word in (if isPlain then words.take 1 else words) do
    let s ← get
    match s.meanings word with
    | m :: _ =>
      found := true
      if inSentences then describe word m else Run.print 1 (m.callable word ++ "\n")
    | [] =>
      if inSentences then
        if s.isPlain then Run.print 1 (word ++ ": not found\n")
        else Run.complain ("command: " ++ word ++ ": not found")
  let s ← get
  Run.setStatus (if found then 0 else if s.isPlain then 127 else 1)

/-- The number of buckets of the table of programs. -/
def programBuckets : Nat := 256

/-- Shows, looks up and forgets where programs are. -/
def hash : Builtin := fun _ args =>
  withOptions "hash" "lrdt" "p" args fun options words => do
    let s ← get
    if has options 'r' && words.isEmpty then
      set { s with hashed := [] }
      Run.setStatus 0
    else if words.isEmpty then
      if s.hashed.isEmpty then
        if !s.isPlain then Run.print 1 "hash: hash table empty\n"
      else if s.isPlain then
        Run.print 1 (String.join (s.hashed.reverse.map fun h => h.2.1 ++ "\n"))
      else
        let rows := (inBuckets programBuckets s.hashed).map fun (_, path, runs) =>
          let n := toString runs
          String.ofList (List.replicate (4 - n.length) ' ') ++ n ++ "\t" ++ path ++ "\n"
        Run.print 1 ("hits\tcommand\n" ++ String.join rows)
      Run.setStatus 0
    else
      let mut code := 0
      for word in words do
        let s ← get
        if has options 'd' then
          if (s.hashed.lookup word).isSome then set { s with hashed := s.hashed.filter fun h => h.1 != word }
          else
            Run.complain ("hash: " ++ word ++ ": not found")
            code := 1
        else if has options 't' then
          match s.hashed.lookup word with
          | some (path, _) => Run.print 1 ((if words.length == 1 then "" else word ++ "\t") ++ path ++ "\n")
          | none =>
            Run.complain ("hash: " ++ word ++ ": not found")
            code := 1
        else
          match value? options 'p' with
          | some path => set (s.remember word path 0)
          | none =>
            if !(word.toList.contains '/' || (s.functions.lookup word).isSome || isKnown s.isPlain word) then
              match s.programPaths word with
              | path :: _ => set (s.remember word path 0)
              | [] =>
                Run.complain ("hash: " ++ word ++ ": not found")
                code := 1
      Run.setStatus code

/-- Shows which commands of the shell are found, and says which are to be. -/
def enable : Builtin := fun _ args =>
  withOptions "enable" "adnps" "f" args fun options words => do
    if has options 'f' || has options 'd' then throw (.unsupported "enable")
    let s ← get
    let chosen := fun (name : String) => !has options 's' || special.contains name
    if words.isEmpty then
      let shown := names.filter fun name =>
        chosen name && (has options 'a' || s.disabled.contains name == has options 'n')
      Run.print 1 (String.join (shown.map fun name =>
        (if s.disabled.contains name then "enable -n " else "enable ") ++ name ++ "\n"))
      Run.setStatus 0
    else
      Run.setStatus 0
      for word in words do
        if !names.contains word then refuse 1 ("enable: " ++ word ++ ": not a shell builtin")
        else
          modify fun s =>
            let others := s.disabled.filter (· != word)
            { s with disabled := if has options 'n' then word :: others else others }

end Builtin

end Toolwrap.Shell
