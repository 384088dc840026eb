import Toolwrap.Proofs.Running.Invoking
import Toolwrap.Proofs.Running.Locals
import Toolwrap.Proofs.Running.Quoted

-- Words that bind a name: the name as it stands, and a value behind it that is quoted.

namespace Toolwrap.Running

open Shell

section Bare

variable {E : Engine} {s : Session}

-- A word without quotes that is no pattern stands for itself.
theorem plain_fields (word : String) (whole : (bare word).unfolded = [bare word]) (free : '~' ∉ word.toList)
    (filled : word.toList ≠ []) (plain : ∀ groups, isGlob groups (word.toList.map fun c => (c, false)) = false) :
    Yields (Word.fields E (bare word)) s [word] := by
  intro m
  have cut : cutFields (leaving s m).separators [.plain word.toList] =
      [word.toList.map fun c => (c, false)] := by
    simp [cutFields, Cutting.fragment, Cutting.add, Cutting.fields, filled]
  rw [fields_of whole (bare_expand free E (leaving s m)) cut]
  · simp [plainText_marked]
  · intro field member
    obtain rfl := List.mem_singleton.mp member
    simp [Session.matches?, plain]

end Bare

section Bound

variable {E : Engine} {s : Session} {front text : String} {part : Part} {pieces : List (List Char)}

theorem cutFields_led (ifs : Separators) (filled : front.toList ≠ []) :
    cutFields ifs (.plain front.toList :: pieces.map .kept) =
      [(front.toList.map fun c => (c, false)) ++ pieces.flatten.map fun c => (c, true)] := by
  have folded : ∀ (rest : List (List Char)) (field : List Marked) (after : Bool),
      ((rest.map Fragment.kept).foldl (Cutting.fragment ifs) ⟨[], some field, after⟩).fields =
        [field ++ rest.flatten.map fun c => (c, true)] := by
    intro rest
    induction rest with
    | nil => intro field after; simp [Cutting.fields]
    | cons piece rest more =>
      intro field after
      rw [List.map_cons, List.foldl_cons]
      refine (more (field ++ piece.map fun c => (c, true)) false).trans ?_
      simp
  have first : Cutting.fragment ifs {} (.plain front.toList) =
      ⟨[], some (front.toList.map fun c => (c, false)), false⟩ := by
    simp [Cutting.fragment, Cutting.add, filled]
  rw [cutFields, List.foldl_cons, first]
  exact folded pieces _ false

theorem led_not_glob (groups : Bool) (tame : ∀ c ∈ front.toList, isTame c = true) (text : List Char) :
    isGlob groups ((front.toList.map fun c => (c, false)) ++ text.map fun c => (c, true)) = false := by
  generalize front.toList = leading at tame
  induction leading with
  | nil => exact isGlob_kept groups text
  | cons c leading plain =>
    have first := tame c (List.mem_cons_self ..)
    have star : c ≠ '*' := tame_ne first rfl
    have one : c ≠ '?' := tame_ne first rfl
    have bracket : c ≠ '[' := tame_ne first rfl
    rw [List.map_cons, List.cons_append, isGlob, plain fun d member => tame d (List.mem_cons_of_mem _ member)]
    simp [isGlobMark, star, one, bracket, tame_no_group first]

-- Text of the program with quoted text behind it.
theorem led_fields (tame : ∀ c ∈ front.toList, isTame c = true) (led : front.toList ≠ [])
    (other : ∀ t, part ≠ .text t) (whole : Word.unfolded [.text front, part] = [[.text front, part]])
    (expanded : Yields (part.expand E false) s (pieces.map .kept)) (joined : pieces.flatten = text.toList) :
    Yields (Word.fields E [.text front, part]) s [front ++ text] := by
  intro m
  have behind : expandWord E false .word false [part] (leaving s m) = .ok (pieces.map .kept) (leaving s m) := by
    rw [expandWord]
    · rw [bind_ok (expanded m), expandWord]
      change (pure [] >>= fun rest => (pure (pieces.map Fragment.kept ++ rest) : Run _)) (leaving s m) = _
      rw [bind_ok pure_ok, pure_ok, List.append_nil]
    · intro t same
      exact absurd same (other t)
  have ran : expandWord E false .word true [.text front, part] (leaving s m) =
      .ok (.plain front.toList :: pieces.map .kept) (leaving s m) := by
    rw [expandWord]
    simp only
    rw [bind_ok get_ok, List.isEmpty_cons, bare_pieces (tame_free tame), bind_ok pure_ok, bind_ok behind,
      pure_ok]
    rfl
  rw [fields_of whole ran (cutFields_led _ led), joined]
  · simp [plainText, Function.comp_def]
  · intro field member
    obtain rfl := List.mem_singleton.mp member
    unfold Session.matches?
    rw [joined, led_not_glob _ tame, Bool.not_false, Bool.or_true, if_pos rfl]

theorem led_unfolded (tame : ∀ c ∈ front.toList, isTame c = true)
    (atoms : Atom.ofWord [.text front, part] = front.toList.map .char ++ [.part part]) :
    Word.unfolded [.text front, part] = [[.text front, part]] := by
  have plain : (Atom.ofWord [.text front, part]).any (Atom.isChar '\x7b') = false := by
    rw [atoms, List.any_append, List.any_map, Bool.or_eq_false_iff]
    refine ⟨List.any_eq_false.mpr fun c member => ?_, rfl⟩
    have brace : c ≠ '\x7b' := tame_ne (tame c member) rfl
    simp [Atom.isChar, brace.symm]
  unfold Word.unfolded
  simp only [plain, Bool.false_eq_true, if_false]

variable {words : List Word} {fields : List String} (tame : front.toList.all isTame = true) (led : front ≠ "")
  (rest : Reads E s words fields)

include tame led rest

theorem reads_led_double {parts : List Part} (spelled : Spells E s parts text) :
    Reads E s ([.text front, .double parts] :: words) ((front ++ text) :: fields) := by
  have plain := List.all_eq_true.mp tame
  obtain ⟨pieces, ran, filled, joined⟩ := spelled
  have expanded : Yields (Part.expand E false (.double parts)) s ((piecesBetween parts pieces).map .kept) := by
    intro m
    rw [Part.expand]
    cases parts with
    | nil => rfl
    | cons part others => exact ran m
  exact reads_cons [front ++ text] (by rintro a ⟨⟩)
    (led_fields plain (by simpa using led) (by rintro t ⟨⟩) (led_unfolded plain rfl) expanded
      (by rw [piecesBetween_flatten filled.mpr, joined])) rest

theorem reads_led_single :
    Reads E s ([.text front, .single text] :: words) ((front ++ text) :: fields) := by
  have plain := List.all_eq_true.mp tame
  have expanded : Yields (Part.expand E false (.single text)) s ([text.toList].map .kept) := by
    intro m
    rw [Part.expand]
    rfl
  exact reads_cons [front ++ text] (by rintro a ⟨⟩)
    (led_fields plain (by simpa using led) (by rintro t ⟨⟩) (led_unfolded plain rfl) expanded
      (List.append_nil _)) rest

end Bound

end Toolwrap.Running
