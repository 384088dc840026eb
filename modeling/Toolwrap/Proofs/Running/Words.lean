import Toolwrap.Proofs.Running.Steps
import Toolwrap.Shell.Phrases

-- What words come to: plain words stand for themselves, and quoted text is kept in
-- one field whatever it holds.

namespace Toolwrap.Running

open Shell

theorem plainText_marked (text : List Char) (quoted : Bool) :
    plainText (text.map fun c => (c, quoted)) = String.ofList text := by
  simp [plainText, Function.comp_def]

section Fields

variable {E : Engine} {s t : Session} {w : Word} {fragments : List Fragment}
  {fields : List (List Marked)}

theorem fields_globbed {found : List String} (whole : w.unfolded = [w])
    (globbed : Word.cutAndGlobbed E w s = .ok found t) : Word.fields E w s = .ok found t := by
  unfold Word.fields
  rw [bind_ok get_ok]
  split
  · rw [whole]
    have once : [w].mapM (Word.cutAndGlobbed E) s = .ok [found] t := by
      rw [List.mapM_cons, bind_ok globbed]
      rfl
    rw [map_ok once, List.flatten_cons, List.flatten_nil, List.append_nil]
  · exact globbed

-- The fields of a word without braces, none of which is a pattern of file names.
theorem fields_of (whole : w.unfolded = [w])
    (expanded : expandWord E false .word true w s = .ok fragments t)
    (cut : cutFields t.separators fragments = fields)
    (plain : ∀ field ∈ fields, t.matches? field = none) :
    Word.fields E w s = .ok (fields.map plainText) t := by
  refine fields_globbed whole ?_
  unfold Word.cutAndGlobbed
  rw [bind_ok expanded, bind_ok get_ok, cut]
  refine (map_ok (mapM_ok (f := fun field => [plainText field]) ?_)).trans ?_
  · intro field member
    simp only [plain field member]
    rfl
  · rw [← List.flatMap_def, ← List.map_eq_flatMap]

end Fields

-- Characters that begin nothing in a word without quotes.
def isTame (c : Char) : Bool := c ∉ ['~', '\x7b', '*', '?', '[', '+', '@', '!']

theorem tame_ne {c d : Char} (tame : isTame c = true) (other : isTame d = false) : c ≠ d := by
  rintro rfl
  rw [tame] at other
  cases other

theorem tame_no_group {c : Char} (tame : isTame c = true) : Pattern.groupKind? c = none := by
  unfold Pattern.groupKind?
  split <;> first | cases tame | rfl

section Expanded

variable {word : String} (free : '~' ∉ word.toList)

include free

theorem bare_pieces (s : Session) (closed : Bool) :
    Tilde.pieces s .word true closed word.toList = [(false, word.toList)] := by
  have front : Tilde.front s closed false word.toList = [(false, word.toList)] := by
    unfold Tilde.front
    split
    · rename_i rest shape
      rw [shape] at free
      exact absurd (List.mem_cons_self ..) free
    · rfl
  simp only [Tilde.pieces, if_true, Tilde.wordText]
  split
  · rename_i after shape
    refine absurd (List.mem_of_mem_drop (i := (word.toList.takeWhile isNameChar).length) ?_) free
    rw [shape]
    simp
  · exact front

-- Without a tilde, text of the program stands for itself.
theorem bare_expand (E : Engine) (s : Session) :
    expandWord E false .word true (bare word) s = .ok [.plain word.toList] s := by
  unfold bare
  rw [expandWord]
  simp only
  rw [bind_ok get_ok, List.isEmpty_nil, bare_pieces free, bind_ok pure_ok, expandWord,
    bind_ok pure_ok]
  rfl

end Expanded

-- A word without quotes, where nothing is unfolded and no file is looked for.
theorem bare_alone {word : String} (filled : word.toList ≠ []) (free : '~' ∉ word.toList) (whole : '\x7b' ∉ word.toList)
    (unlooked : ∀ groups, isGlob groups (word.toList.map fun c => (c, false)) = false) (E : Engine) (s : Session) :
    Word.fields E (bare word) s = .ok [word] s := by
  have unfolded : (bare word).unfolded = [bare word] := by
    have plain : (Atom.ofWord (bare word)).any (Atom.isChar '\x7b') = false := by
      simp only [bare, Atom.ofWord, List.flatMap_cons, List.flatMap_nil, List.append_nil,
        List.any_map, List.any_eq_false]
      intro c member
      have brace : '\x7b' ≠ c := fun same => whole (same ▸ member)
      simp [Atom.isChar, brace]
    unfold Word.unfolded
    simp only [plain, Bool.false_eq_true, if_false]
  have cut : cutFields s.separators [.plain word.toList] =
      [word.toList.map fun c => (c, false)] := by
    simp [cutFields, Cutting.fragment, Cutting.add, Cutting.fields, filled]
  rw [fields_of unfolded (bare_expand free E s) cut]
  · simp [plainText_marked]
  · intro field member
    obtain rfl := List.mem_singleton.mp member
    simp [Session.matches?, unlooked]

section Bare

variable {word : String} (tame : ∀ c ∈ word.toList, isTame c = true)

include tame

theorem tame_free : '~' ∉ word.toList := by
  intro listed
  have tilde := tame _ listed
  cases tilde

theorem tame_not_glob (groups : Bool) :
    isGlob groups (word.toList.map fun c => (c, false)) = false := by
  generalize word.toList = text at tame
  induction text with
  | nil => rfl
  | cons c text plain =>
    have first := tame c (by simp)
    have star : c ≠ '*' := tame_ne first rfl
    have one : c ≠ '?' := tame_ne first rfl
    have bracket : c ≠ '[' := tame_ne first rfl
    have group := tame_no_group first
    rw [List.map_cons, isGlob, plain (fun d member => tame d (List.mem_cons_of_mem _ member))]
    simp [isGlobMark, star, one, bracket, group]

theorem bare_fields (filled : word.toList ≠ []) (E : Engine) (s : Session) :
    Word.fields E (bare word) s = .ok [word] s := by
  have whole : '\x7b' ∉ word.toList := fun listed => tame_ne (tame _ listed) rfl rfl
  exact bare_alone filled (tame_free tame) whole (tame_not_glob tame) E s

end Bare

section Kept

variable {pieces : List (List Char)}

theorem cutFields_kept (ifs : Separators) (filled : pieces ≠ []) :
    cutFields ifs (pieces.map .kept) = [pieces.flatten.map fun c => (c, true)] := by
  have folded : ∀ (rest : List (List Char)) (field : List Marked) (after : Bool),
      (rest.map Fragment.kept).foldl (Cutting.fragment ifs) ⟨[], some field, after⟩ =
        ⟨[], some (field ++ rest.flatten.map fun c => (c, true)), after && rest.isEmpty⟩ := by
    intro rest
    induction rest with
    | nil => intro field after; simp
    | cons piece rest more =>
      intro field after
      simp only [List.map_cons, List.foldl_cons]
      rw [show Cutting.fragment ifs ⟨[], some field, after⟩ (.kept piece) =
        ⟨[], some (field ++ piece.map fun c => (c, true)), false⟩ from rfl, more]
      simp
  obtain ⟨piece, rest, rfl⟩ := List.exists_cons_of_ne_nil filled
  unfold cutFields
  simp only [List.map_cons, List.foldl_cons]
  rw [show Cutting.fragment ifs {} (.kept piece) =
    ⟨[], some (piece.map fun c => (c, true)), false⟩ from rfl, folded]
  simp [Cutting.fields]

theorem isGlob_kept (groups : Bool) (text : List Char) :
    isGlob groups (text.map fun c => (c, true)) = false := by
  induction text with
  | nil => rfl
  | cons c text plain => simp [isGlob, isGlobMark, plain]

theorem joinedText_kept (pieces : List (List Char)) :
    joinedText (pieces.map .kept) = pieces.flatten := by
  induction pieces with
  | nil => rfl
  | cons piece pieces joined =>
    rw [List.flatten_cons, ← joined]
    rfl

variable {E : Engine} {s t : Session} {parts : List Part} {text : String}

theorem double_unfolded : Word.unfolded [.double parts] = [[.double parts]] := by
  simp [Word.unfolded, Atom.ofWord, Atom.isChar]

-- The pieces between a pair of double quotes: an empty pair leaves an empty piece.
def piecesBetween (parts : List Part) (pieces : List (List Char)) : List (List Char) :=
  if parts.isEmpty then [[]] else pieces

theorem double_alone {fragments : List Fragment} (mode : Tilde.Mode)
    (inner : Part.expand E false (.double parts) s = .ok fragments t) :
    expandWord E false mode true [.double parts] s = .ok fragments t := by
  rw [expandWord]
  · rw [bind_ok inner, expandWord]
    change (pure [] >>= fun rest => (pure (fragments ++ rest) : Run _)) t = _
    rw [bind_ok pure_ok, pure_ok, List.append_nil]
  · intro text same
    cases same

theorem double_expand (mode : Tilde.Mode)
    (ran : expandParts E true parts s = .ok (pieces.map .kept) t) :
    expandWord E false mode true [.double parts] s =
      .ok ((piecesBetween parts pieces).map .kept) t := by
  refine double_alone mode ?_
  cases parts with
  | nil =>
    obtain ⟨-, rfl⟩ := EStateM.Result.ok.inj ran
    rfl
  | cons part others =>
    rw [Part.expand]
    exact ran

theorem piecesBetween_filled (filled : pieces = [] → parts = []) :
    piecesBetween parts pieces ≠ [] := by
  unfold piecesBetween
  cases parts with
  | nil => simp
  | cons part others => exact fun none_ => List.cons_ne_nil _ _ (filled none_)

theorem piecesBetween_flatten (none_ : parts = [] → pieces = []) :
    (piecesBetween parts pieces).flatten = pieces.flatten := by
  unfold piecesBetween
  cases parts with
  | nil => rw [none_ rfl]; rfl
  | cons part others => rfl

theorem kept_fields {w : Word} (whole : w.unfolded = [w]) (filled : pieces ≠ [])
    (expanded : expandWord E false .word true w s = .ok (pieces.map .kept) t)
    (joined : pieces.flatten = text.toList) : Word.fields E w s = .ok [text] t := by
  rw [fields_of whole expanded (cutFields_kept _ filled), joined]
  · simp [plainText, Function.comp_def]
  · intro field member
    obtain rfl := List.mem_singleton.mp member
    unfold Session.matches?
    rw [joined, isGlob_kept, Bool.not_false, Bool.or_true, if_pos rfl]

end Kept

end Toolwrap.Running
