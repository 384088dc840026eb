import Toolwrap.Proofs.Layering.Combining
import Toolwrap.Proofs.Parsing.Branches

-- What stands between the branches of a wrapper's arguments and its last ones when it runs a
-- container: the branches of all layers, as if they had been written there with the others.

namespace Toolwrap.Parsing

open Shell Wrapper Docker Layering

section Clauses

variable {clauses others : List Clause}

theorem joinLines_nested {before behind lines : List Line} (filled : lines ≠ []) :
    joinLines (before ++ .flush (joinLines lines) :: behind) = joinLines (before ++ (lines ++ behind)) := by
  have nested := @unlines_nested (before.map Line.text) (behind.map Line.text) (lines.map Line.text)
    (by simpa using filled)
  unfold Text.unlines at nested
  unfold joinLines
  simp only [List.map_append, List.map_cons, Line.text]
  exact nested

theorem clause_filled (c : Clause) : c.lines ≠ [] := by
  cases c <;> rw [Clause.lines] <;> exact List.cons_ne_nil _ _

theorem clausesLines_append : clausesLines (clauses ++ others) = clausesLines clauses ++ clausesLines others := by
  induction clauses with
  | nil => rw [List.nil_append, clausesLines, List.nil_append]
  | cons c clauses more => rw [List.cons_append, clausesLines, clausesLines, more, List.append_assoc]

theorem indent_append {lines more : List Line} : indent (lines ++ more) = indent lines ++ indent more :=
  List.map_append

theorem clausesLines_filled (filled : clauses ≠ []) : clausesLines clauses ≠ [] := by
  cases clauses with
  | nil => exact absurd rfl filled
  | cons c clauses =>
    rw [clausesLines]
    exact List.append_ne_nil_of_left_ne_nil (clause_filled c) _

theorem clausesText_lines (filled : clauses ≠ []) :
    clausesText clauses = joinLines (indent (clausesLines clauses)) := by
  induction clauses with
  | nil => exact absurd rfl filled
  | cons c clauses more =>
    have first : c.render = Text.unlines ((indent c.lines).map Line.text) := rfl
    unfold clausesText at more ⊢
    rw [List.map_cons, first, clausesLines, indent_append, joinLines, List.map_append]
    have lines : (indent c.lines).map Line.text ≠ [] := by
      simpa [indent] using clause_filled c
    refine (@unlines_nested [] _ _ lines).trans ?_
    rw [List.nil_append]
    by_cases last : clauses = []
    · rw [last, clausesLines]
      rfl
    · refine unlines_front (by simpa using last) ?_ (more last)
      simpa [indent] using clausesLines_filled last

-- The lines of the loop over the command line in front of the branches that are put in, and
-- those behind them.
def linesAhead (line : String) (clauses : List Clause) : List Line :=
  .nested "# parse arguments" :: .nested ("while " ++ inlineScript [hasArguments] ++ "; do") ::
    indent (.nested ("case " ++ inlineParts (quotedRef "1") ++ " in") ::
      clausesLines (firstClauses line ++ clauses))

def linesBehind : List Line :=
  indent (clausesLines lastClauses ++ [.nested "esac"]) ++ [.nested "done"]

theorem loop_lines (line : String) : scriptLines (parserLoop line clauses others) =
    linesAhead line clauses ++ (indent (clausesLines others) ++ linesBehind) := by
  have comment : (Command.comment "parse arguments").lines = [.nested "# parse arguments"] := by
    rw [Command.lines]
    rfl
  have case_ : (Command.caseOf (quotedRef "1") (firstClauses line ++ clauses ++ others ++ lastClauses)).lines =
      .nested ("case " ++ inlineParts (quotedRef "1") ++ " in") ::
        clausesLines (firstClauses line ++ clauses ++ others ++ lastClauses) ++ [.nested "esac"] := by
    rw [Command.lines]
  unfold parserLoop linesAhead linesBehind
  rw [scriptLines, scriptLines, scriptLines, comment, Command.lines, scriptLines, scriptLines, case_,
    clausesLines_append, clausesLines_append]
  simp [Layout.block, indent]

-- The loop of a wrapper with branches that are put in as text is the loop with these branches.
theorem loop_spliced (line : String) (filled : others ≠ []) :
    (parserLoop line clauses [.spliced (clausesText others)]).render =
      (parserLoop line clauses others).render := by
  have spliced : indent (clausesLines [.spliced (clausesText others)]) = [.flush (clausesText others)] := by
    rw [clausesLines, clausesLines, Clause.lines]
    rfl
  unfold Script.render
  rw [loop_lines, loop_lines, spliced, clausesText_lines filled]
  exact joinLines_nested (by simpa [indent] using clausesLines_filled filled)

theorem clausesText_flatten {lists : List (List Clause)} (filled : ∀ l ∈ lists, l ≠ []) :
    clausesText lists.flatten = Text.unlines (lists.map clausesText) := by
  induction lists with
  | nil => rfl
  | cons first lists more =>
    have lines : first.map Clause.render ≠ [] := by simpa using filled first (List.mem_cons_self ..)
    rw [List.map_cons, List.flatten_cons]
    refine Eq.trans ?_ (@unlines_nested [] _ _ lines).symm
    rw [List.nil_append, clausesText, List.map_append]
    cases lists with
    | nil => rfl
    | cons second lists =>
      refine unlines_front ?_ (List.cons_ne_nil _ _) (more fun l later => filled l (List.mem_cons_of_mem _ later))
      have also := filled second (List.mem_cons_of_mem _ (List.mem_cons_self ..))
      simp [also]

theorem branch_filled (patterns : List String) (body : Script) :
    clausesText (branch patterns body :: clauses) ≠ "" := by
  refine unlines_filled ?_
  have rendered : (branch patterns body).render = Text.unlines
      ((indent (branch patterns body).lines).map Line.text) := rfl
  rw [rendered, branch, Clause.lines]
  simp only [Layout.clause, indent, List.map_cons, List.cons_append]
  refine unlines_filled ?_
  simp [Line.indent, Line.text]

end Clauses

-- What the layers of a container put there is the text of their branches.
theorem layer_parsers {d : Docker} {c : Component} {layer : Layer} (built : d.layer c = .ok layer) :
    layer.parsers = clausesText containerClauses := by
  unfold Docker.layer at built
  obtain ⟨image, _, built⟩ := Checked.bind_ok built
  obtain ⟨text, _, built⟩ := Checked.bind_ok built
  obtain ⟨inputs, _, built⟩ := Checked.bind_ok built
  obtain rfl := Except.ok.inj built
  have silent : (d.chownLayer c text).parsers = "" := by
    unfold Docker.chownLayer
    dsimp only
    split <;> rfl
  have volumes : clausesText volumeClauses ≠ "" := branch_filled _ _
  have setup : clausesText setupClauses ≠ "" := branch_filled _ _
  have debug : clausesText debugClauses ≠ "" := branch_filled _ _
  have dockerfile : clausesText dockerfileClauses ≠ "" := branch_filled _ _
  refine (combined_text .parsers _).trans ?_
  simp only [List.map_cons, List.map_nil, Slot.text, silent]
  change joinSections [clausesText volumeClauses, clausesText setupClauses, "", "",
    clausesText debugClauses, "", clausesText dockerfileClauses, ""] = _
  rw [containerClauses, clausesText_flatten (by simp [volumeClauses, setupClauses, debugClauses,
    dockerfileClauses])]
  simp [joinSections, volumes, setup, debug, dockerfile]

-- So the loop of a wrapper that runs a container has these branches as if they were its own.
theorem layer_loop {d : Docker} {c : Component} {layer : Layer} (built : d.layer c = .ok layer)
    (line : String) (clauses : List Clause) :
    (parserLoop line clauses [.spliced layer.parsers]).render =
      (parserLoop line clauses containerClauses).render := by
  rw [layer_parsers built]
  exact loop_spliced line (List.cons_ne_nil _ _)

end Toolwrap.Parsing
