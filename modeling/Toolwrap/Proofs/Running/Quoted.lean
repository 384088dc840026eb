import Toolwrap.Proofs.Quoting.Commands
import Toolwrap.Proofs.Running.Variables
import Toolwrap.Proofs.Running.Words

-- What double quotes come to in a quiet session: a text and the values of parameters,
-- one behind the other, in one field.

namespace Toolwrap.Running

open Shell

-- Literal parts hold nothing but quoted text, whatever the session is.
theorem literalParts_expand (text : List Char) :
    ∃ pieces : List (List Char),
      (∀ E s, expandParts E true (literalParts text) s = .ok (pieces.map .kept) s) ∧
        (pieces = [] ↔ literalParts text = []) ∧ pieces.flatten = text := by
  induction text using Quoting.runs_induction with
  | nil => exact ⟨[], fun E s => by rw [show literalParts [] = [] from rfl, expandParts]; rfl,
      by simp [show literalParts [] = [] from rfl], rfl⟩
  | escaped c rest special expanded =>
    obtain ⟨pieces, ran, _, joined⟩ := expanded
    refine ⟨[c] :: pieces, fun E s => ?_, by simp [Quoting.literalParts_escaped special], ?_⟩
    · have first : Part.expand E true (.escaped c) s = .ok [.kept [c]] s := by
        simp only [Part.expand, pure_ok]
      rw [Quoting.literalParts_escaped special, expandParts, bind_ok first, bind_ok (ran E s), pure_ok]
      rfl
    · rw [List.flatten_cons, joined]
      rfl
  | plain c run rest plain ends expanded =>
    obtain ⟨pieces, ran, _, joined⟩ := expanded
    refine ⟨(c :: run) :: pieces, fun E s => ?_, ?_, ?_⟩
    · have first : Part.expand E true (.text (String.ofList (c :: run))) s =
          .ok [.kept (c :: run)] s := by
        simp only [Part.expand, Fragment.ofText, if_true, String.toList_ofList, pure_ok]
      rw [Quoting.literalParts_plain (by simp) plain ends, expandParts, bind_ok first, bind_ok (ran E s),
        pure_ok]
      rfl
    · rw [Quoting.literalParts_plain (by simp) plain ends]
      simp
    · rw [List.flatten_cons, joined]

-- Neither braces nor separators nor patterns of file names reach into a quoted text.
theorem quotedWord_fields (E : Engine) (s : Session) (text : String) :
    Word.fields E (quotedWord text) s = .ok [text] s := by
  obtain ⟨pieces, ran, filled, joined⟩ := literalParts_expand text.toList
  refine kept_fields double_unfolded (piecesBetween_filled filled.mp)
    (double_expand .word (ran E s)) ?_
  rw [piecesBetween_flatten filled.mpr, joined]

-- Parts between double quotes that come to a text, in pieces that are kept.
def Spells (E : Engine) (s : Session) (parts : List Part) (text : String) : Prop :=
  ∃ pieces : List (List Char), Yields (expandParts E true parts) s (pieces.map .kept) ∧
    (pieces = [] ↔ parts = []) ∧ pieces.flatten = text.toList

section Spells

variable {E : Engine} {s : Session} {part : Part} {parts more : List Part} {text behind : String}

theorem spells_nil : Spells E s [] "" := by
  refine ⟨[], fun m => ?_, by simp, rfl⟩
  rw [expandParts]
  rfl

theorem spells_pieces {pieces : List (List Char)}
    (some_ : Yields (part.expand E true) s (pieces.map .kept)) (filled : pieces ≠ [])
    (joined : pieces.flatten = text.toList) : Spells E s [part] text := by
  refine ⟨pieces, fun m => ?_, by simp [filled], joined⟩
  rw [expandParts, bind_ok (some_ m), expandParts, bind_ok pure_ok, List.append_nil]
  rfl

theorem spells_part (one : Yields (part.expand E true) s [.kept text.toList]) :
    Spells E s [part] text :=
  @spells_pieces E s part text [text.toList] one (by simp) (by simp)

theorem expandParts_append (E : Engine) (quoted : Bool) (parts more : List Part) :
    expandParts E quoted (parts ++ more) = (do
      let first ← expandParts E quoted parts
      let second ← expandParts E quoted more
      return first ++ second) := by
  induction parts with
  | nil =>
    rw [List.nil_append, expandParts]
    simp
  | cons part parts appended =>
    rw [List.cons_append, expandParts, expandParts, appended]
    simp only [bind_assoc, pure_bind, List.append_assoc]

theorem spells_append (first : Spells E s parts text) (second : Spells E s more behind) :
    Spells E s (parts ++ more) (text ++ behind) := by
  obtain ⟨pieces, ran, filled, joined⟩ := first
  obtain ⟨others, went, also, linked⟩ := second
  refine ⟨pieces ++ others, fun m => ?_, ?_, ?_⟩
  · rw [expandParts_append, bind_ok (ran m), bind_ok (went m), List.map_append]
    rfl
  · rw [List.append_eq_nil_iff, List.append_eq_nil_iff, filled, also]
  · rw [List.flatten_append, joined, linked, String.toList_append]

theorem spells_cons (one : Spells E s [part] text) (rest : Spells E s more behind) :
    Spells E s (part :: more) (text ++ behind) := spells_append one rest

theorem spells_text (text : String) : Spells E s [.text text] text := by
  refine spells_part fun m => ?_
  simp only [Part.expand, Fragment.ofText, if_true, pure_ok]

theorem spells_escaped (c : Char) : Spells E s [.escaped c] (String.singleton c) := by
  refine spells_part fun m => ?_
  simp only [Part.expand, String.toList_singleton, pure_ok]

theorem spells_literal (text : String) : Spells E s (literal text) text := by
  obtain ⟨pieces, ran, filled, joined⟩ := literalParts_expand text.toList
  exact ⟨pieces, fun m => ran E (leaving s m), filled, joined⟩

theorem fragmentText_kept {pieces : List (List Char)} (joined : pieces.flatten = text.toList) :
    fragmentText (pieces.map .kept) = text := by
  rw [fragmentText, joinedText_kept, joined, String.ofList_toList]

-- Text between single quotes stands for itself, in one field.
theorem single_yields (text : String) (mode : Tilde.Mode) :
    Yields (expandWord E false mode true [.single text]) s [.kept text.toList] := by
  intro m
  rw [expandWord, Part.expand]
  · rw [bind_ok pure_ok, expandWord]
    rfl
  · rintro _ ⟨⟩

theorem single_fields (text : String) : Yields (Word.fields E [.single text]) s [text] := by
  intro m
  have ran : expandWord E false .word true [.single text] (leaving s m) = .ok ([text.toList].map .kept) (leaving s m) :=
    single_yields text .word m
  exact kept_fields rfl (List.cons_ne_nil _ _) ran (List.append_nil _)

variable (spelled : Spells E s parts text)

include spelled

theorem double_yields (mode : Tilde.Mode) : ∃ pieces : List (List Char), pieces ≠ [] ∧
    pieces.flatten = text.toList ∧
      Yields (expandWord E false mode true [.double parts]) s (pieces.map .kept) := by
  obtain ⟨pieces, ran, filled, joined⟩ := spelled
  refine ⟨piecesBetween parts pieces, piecesBetween_filled filled.mp, ?_,
    fun m => double_expand mode (ran m)⟩
  rw [piecesBetween_flatten filled.mpr, joined]

theorem double_fields : Yields (Word.fields E [.double parts]) s [text] := by
  obtain ⟨pieces, filled, joined, ran⟩ := double_yields spelled .word
  exact fun m => kept_fields double_unfolded filled (ran m) joined

theorem double_text : Yields (Word.text E [.double parts]) s text := by
  obtain ⟨pieces, _, joined, ran⟩ := double_yields spelled .word
  intro m
  unfold Word.text
  rw [bind_ok (ran m), fragmentText_kept joined, pure_ok]

theorem double_valueText : Yields (Word.valueText E [.double parts]) s text := by
  obtain ⟨pieces, _, joined, ran⟩ := double_yields spelled .value
  intro m
  unfold Word.valueText
  rw [bind_ok (ran m), fragmentText_kept joined, pure_ok]

end Spells

section Parameters

variable {E : Engine} {s : Session} {name : String} {value : Option String}

-- A parameter that is neither of the two lists, and what stands for it.
structure Stands (s : Session) (name : String) (value : Option String) : Prop where
  single : name ≠ "@" ∧ name ≠ "*"
  found : ∀ m, (leaving s m).special? name = value

theorem subject_one (stands : Stands s name value) (label : String) (m : Traces) :
    (leaving s m).subject ⟨name, .whole, label⟩ = .one value := by
  obtain ⟨⟨items, joined⟩, found⟩ := stands
  unfold Session.subject
  split
  · rename_i named
    exact absurd named items
  · rename_i named
    exact absurd named joined
  · rw [found m]

theorem stands_own (own : isOwn name = true) (plain : Ordinarily s name) :
    Stands s name (s.value? name) :=
  ⟨⟨own_ne own (by decide), own_ne own (by decide)⟩,
    fun m => special_value (s := leaving s m) own plain⟩

theorem needSet_yields (quiet : Quiet s) (label : String) (subject : Subject) :
    Yields (needSet label subject) s () := by
  intro m
  have lenient : (leaving s m).has .nounset = false := quiet.off (by decide)
  unfold needSet
  split
  · rw [bind_ok get_ok, lenient]
    rfl
  · rfl

-- A parameter as it is, with braces or without them.
theorem plain_expand (quoted : Bool) (r : Referent) : Op.expand E quoted r .plain = (do
    let subject := (← get).subject r
    needSet r.label subject
    return subject.fragments quoted (← get).joint) := rfl

theorem braced_expand (quoted : Bool) (r : Referent) : Op.expand E quoted r .braced = (do
    let subject := (← get).subject r
    needSet r.label subject
    return subject.fragments quoted (← get).joint) := rfl

theorem param_whole (op : Op) (quoted : Bool) :
    Part.expand E quoted (.param name [] op) =
      Op.expand E quoted ⟨name, .whole, name ++ inlineIndex []⟩ op := by
  rw [Part.expand]
  rfl

-- A part that comes to one text, which is cut only without quotes.
def Values (E : Engine) (s : Session) (part : Part) (text : String) : Prop :=
  ∀ quoted, Yields (part.expand E quoted) s [.ofValue quoted text]

theorem values_spells {part : Part} {text : String} (values : Values E s part text) :
    Spells E s [part] text := spells_part (values true)

theorem plain_values (quiet : Quiet s) (stands : Stands s name value) :
    Values E s (.param name [] .plain) (value.getD "") := by
  intro quoted m
  rw [param_whole, plain_expand, bind_ok get_ok, subject_one stands,
    bind_ok (needSet_yields quiet _ _ m)]
  rfl

theorem braced_values (quiet : Quiet s) (stands : Stands s name value) :
    Values E s (.param name [] .braced) (value.getD "") := by
  intro quoted m
  rw [param_whole, braced_expand, bind_ok get_ok, subject_one stands,
    bind_ok (needSet_yields quiet _ _ m)]
  rfl

theorem plain_spells (quiet : Quiet s) (stands : Stands s name value) :
    Spells E s [.param name [] .plain] (value.getD "") := values_spells (plain_values quiet stands)

theorem value_spells {text : String} (quiet : Quiet s) (stands : Stands s name (some text)) :
    Spells E s [.param name [] .plain] text := @plain_spells E s name (some text) quiet stands

theorem braced_spells (quiet : Quiet s) (stands : Stands s name value) :
    Spells E s [.param name [] .braced] (value.getD "") := values_spells (braced_values quiet stands)

-- Whether a parameter has a value, as a text that is empty or not.
theorem presence_spells (stands : Stands s name value) :
    Spells E s [presence name] (if value.isSome then "x" else "") := by
  have there : ∀ m, Op.expand E true ⟨name, .whole, name ++ inlineIndex []⟩
      (.default .alternative false [.text "x"]) (leaving s m) =
        .ok ((if value.isSome then [[], ['x']] else [[]]).map .kept) (leaving s m) := by
    intro m
    rw [Op.expand, bind_ok get_ok, subject_one stands]
    cases value with
    | none => rfl
    | some v =>
      have alternative : expandWord E true .word true [.text "x"] (leaving s m) =
          .ok [.kept ['x']] (leaving s m) := by
        rw [expandWord, Part.expand]
        · rw [expandWord]
          rfl
        · intro text _ same
          cases same
      simp only [Subject.isMissing, Bool.false_and, Option.isSome_some, if_true]
      exact bind_ok alternative
  cases value with
  | none => exact spells_pieces (fun m => there m) (by simp) (by simp)
  | some v => exact spells_pieces (fun m => there m) (by simp) (by simp)

-- A held, or a text in the place of an empty one.
theorem default_spells {held : String} (stands : Stands s name (some held)) (text : String) :
    Spells E s [.param name [] (.default .use true [.text text])] (if held.isEmpty then text else held) := by
  have there : ∀ m, Op.expand E true ⟨name, .whole, name ++ inlineIndex []⟩ (.default .use true [.text text])
      (leaving s m) = .ok ((if held.isEmpty then [[], text.toList] else [held.toList]).map .kept) (leaving s m) := by
    intro m
    rw [Op.expand, bind_ok get_ok, subject_one stands]
    by_cases empty : held.isEmpty = true
    · have alternative : expandWord E true .word true [.text text] (leaving s m) =
          .ok [.kept text.toList] (leaving s m) := by
        rw [expandWord, Part.expand]
        · rw [expandWord]
          rfl
        · intro text _ same
          cases same
      simp only [Subject.isMissing, empty, if_true]
      exact bind_ok alternative
    · have full : held.isEmpty = false := by simpa using empty
      simp only [Subject.isMissing, full]
      rfl
  by_cases empty : held.isEmpty = true
  · exact spells_pieces (fun m => there m) (by simp [empty]) (by simp [empty])
  · exact spells_pieces (fun m => there m) (by simp [empty]) (by simp [empty])

-- All arguments in one text.
theorem star_spells : Spells E s [ref "*"] (s.joint.intercalate s.args) := by
  refine spells_part fun m => ?_
  rw [ref, param_whole, plain_expand, bind_ok get_ok]
  rfl

-- A digit alone is a numeral.
theorem toNat?_digit {c : Char} (digit : c.isDigit = true) :
    (String.singleton c).toNat? = some (c.toNat - '0'.toNat) := by
  have mark : c ≠ '_' := by
    rintro rfl
    cases digit
  have whole : (String.singleton c).toSlice.isNat = true := by
    delta String.Slice.isNat
    simp [digit, mark]
  change (if (String.singleton c).toSlice.isNat then some ((String.singleton c).toSlice.foldl
      (fun n c => if c = '_' then n else n * 10 + (c.toNat - '0'.toNat)) 0) else none) = _
  simp [whole, mark]

theorem stands_argument {n : Nat} (named : name.toNat? = some (n + 1))
    (digits : name.toList.all Char.isDigit = true) :
    Stands s name s.args[n]? := by
  have other : ∀ mark : String, mark.toList.all Char.isDigit = false → name ≠ mark := by
    rintro mark plain rfl
    rw [digits] at plain
    cases plain
  refine ⟨⟨other _ (by decide), other _ (by decide)⟩, fun m => ?_⟩
  unfold Session.special?
  split
  · exact absurd rfl (other _ (by decide))
  · exact absurd rfl (other _ (by decide))
  · exact absurd rfl (other _ (by decide))
  · exact absurd rfl (other _ (by decide))
  · exact absurd rfl (other _ (by decide))
  · exact absurd rfl (other _ (by decide))
  · rw [digits, named]
    rfl

theorem stands_first {first : String} {others : List String} (args : s.args = first :: others) :
    Stands s "1" (some first) := by
  have stands := @stands_argument s "1" 0 (@toNat?_digit '1' rfl) (by decide)
  rwa [args] at stands

theorem stands_count : Stands s "#" (some (toString s.args.length)) :=
  ⟨⟨by decide, by decide⟩, fun m => rfl⟩

end Parameters

section Lists

variable {E : Engine} {s : Session} {part : Part} {values : List String}

theorem cutFields_listed (ifs : Separators) (joint : List Char) (values : List String) :
    cutFields ifs ((values.map (Fragment.ofValue true)).intersperse (.cut joint)) =
      values.map fun v => v.toList.map fun c => (c, true) := by
  have folded : ∀ (values : List String) (done : List (List Marked)) (after : Bool),
      (((values.map (Fragment.ofValue true)).intersperse (.cut joint)).foldl
        (Cutting.fragment ifs) ⟨done, none, after⟩).fields =
          done.reverse ++ values.map fun v => v.toList.map fun c => (c, true) := by
    intro values
    induction values with
    | nil => intro done after; simp [Cutting.fields]
    | cons v values more =>
      intro done after
      cases values with
      | nil => simp [Cutting.fragment, Fragment.ofValue, Cutting.add, Cutting.fields]
      | cons w values =>
        rw [List.map_cons, List.map_cons, List.intersperse_cons_cons, List.foldl_cons, List.foldl_cons,
          ← List.map_cons]
        rw [show Cutting.fragment ifs (Cutting.fragment ifs ⟨done, none, after⟩
            (Fragment.ofValue true v)) (.cut joint) =
          ⟨(v.toList.map fun c => (c, true)) :: done, none, false⟩ from rfl, more]
        simp
  exact folded values [] false

-- A list between quotes makes a field of each of its values, and none if there are none.
theorem listed_fields (expanded : Yields (part.expand E true) s
      ((values.map (Fragment.ofValue true)).intersperse (.cut [' ']))) :
    Yields (Word.fields E [.double [part]]) s values := by
  intro m
  have ran : expandWord E false .word true [.double [part]] (leaving s m) =
      .ok ((values.map (Fragment.ofValue true)).intersperse (.cut [' '])) (leaving s m) := by
    refine double_alone .word ?_
    rw [Part.expand]
    simp only [List.isEmpty_cons, Bool.false_eq_true, if_false]
    rw [expandParts, bind_ok (expanded m), expandParts, bind_ok pure_ok, List.append_nil]
    rfl
  rw [fields_of double_unfolded ran (cutFields_listed _ _ _)]
  · simp [plainText_marked, Function.comp_def]
  · intro field member
    obtain ⟨v, _, rfl⟩ := List.mem_map.mp member
    unfold Session.matches?
    rw [isGlob_kept, Bool.not_false, Bool.or_true, if_pos rfl]

theorem arguments_fields : Yields (Word.fields E [.double [ref "@"]]) s s.args := by
  refine listed_fields fun m => ?_
  rw [ref, param_whole, plain_expand, bind_ok get_ok]
  rfl

end Lists

end Toolwrap.Running
