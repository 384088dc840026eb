import Toolwrap.Proofs.Injection.Marks
import Toolwrap.Proofs.Quoting.Lines

-- What becomes of the rest of a script. A text is cut into lines at every line end, and the lines are
-- written with line feeds: but for that, no character outside of the block changes.

namespace Toolwrap.Injection

-- Every line end, of one character or two, as a line feed.
def levelled : List Char → List Char
  | [] => []
  | '\r' :: '\n' :: rest => '\n' :: levelled rest
  | c :: rest => (if Text.isLineEnd c then '\n' else c) :: levelled rest

-- A text with an end to its last line.
def closed (text : List Char) : List Char := if text = [] ∨ text.getLast? = some '\n' then text else text ++ ['\n']

-- Lines as they are written.
def fed (lines : List String) : List Char := lines.flatMap fun line => line.toList ++ ['\n']

section Lines

variable {c : Char} {text : List Char} {lines : List String}

theorem closed_cons (filled : text ≠ []) : closed (c :: text) = c :: closed text := by
  unfold closed
  have same : (c :: text).getLast? = text.getLast? := List.getLast?_cons_of_ne_nil filled
  rw [same]
  by_cases ended : text.getLast? = some '\n'
  · rw [if_pos (Or.inr ended), if_pos (Or.inr ended)]
  · rw [if_neg (not_or.mpr ⟨List.cons_ne_nil _ _, ended⟩), if_neg (not_or.mpr ⟨filled, ended⟩), List.cons_append]

theorem closed_feed : closed ('\n' :: text) = '\n' :: closed text := by
  cases text with
  | nil => rfl
  | cons c text => exact closed_cons (List.cons_ne_nil _ _)

theorem levelled_ended (ends : Text.isLineEnd c = true) (other : ∀ rest, c = '\r' → text = '\n' :: rest → False) :
    levelled (c :: text) = '\n' :: levelled text := by
  rw [levelled, if_pos ends]
  exact fun rest first second => other rest first second

theorem levelled_other (goes : ¬ Text.isLineEnd c = true) : levelled (c :: text) = c :: levelled text := by
  rw [levelled, if_neg goes]
  rintro rest rfl -
  exact goes (by decide)

theorem levelled_plain (plain : ∀ c ∈ text, Text.isLineEnd c = true → c = '\n') : levelled text = text := by
  induction text with
  | nil => rfl
  | cons c text more =>
    have rest := more fun d member => plain d (List.mem_cons_of_mem _ member)
    by_cases ends : Text.isLineEnd c = true
    · obtain rfl := plain c (List.mem_cons_self ..) ends
      rw [levelled_ended ends nofun, rest]
    · rw [levelled_other ends, rest]

theorem levelled_filled (filled : text ≠ []) : levelled text ≠ [] := by
  unfold levelled
  split
  · exact absurd rfl filled
  · exact List.cons_ne_nil _ _
  · exact List.cons_ne_nil _ _

-- The lines of a text, written again, are the text with one kind of line end.
theorem lines_fed (text : List Char) : fed ((Text.Chars.lines text).map String.ofList) = closed (levelled text) := by
  fun_induction Text.Chars.lines text with
  | case1 => rfl
  | case2 rest more =>
    rw [List.map_cons, levelled, closed_feed, ← more]
    rfl
  | case3 c rest other ends more =>
    rw [List.map_cons, levelled_ended ends other, closed_feed, ← more]
    rfl
  | case4 c rest other goes none_ more =>
    rw [none_] at more
    have empty : rest = [] := by
      by_contra filled
      have some_ := levelled_filled filled
      unfold closed at more
      split at more
      · exact some_ more.symm
      · exact List.append_ne_nil_of_right_ne_nil _ (List.cons_ne_nil _ _) more.symm
    rw [empty, levelled_other goes]
    unfold closed
    rw [if_neg]
    · simp [fed, levelled]
    · rintro (none_ | feed)
      · cases none_
      · obtain rfl := Option.some.inj feed
        exact goes (by decide)
  | case5 c rest other goes line later shape more =>
    have filled : rest ≠ [] := by
      rintro rfl
      cases shape
    rw [shape, List.map_cons] at more
    rw [List.map_cons, levelled_other goes, closed_cons (levelled_filled filled), ← more]
    unfold fed
    rw [List.flatMap_cons, List.flatMap_cons, String.toList_ofList, String.toList_ofList]
    rfl

theorem unlines_fed (filled : lines ≠ []) : (Text.unlines lines ++ "\n").toList = fed lines := by
  induction lines with
  | nil => exact absurd rfl filled
  | cons line lines more =>
    cases lines with
    | nil => simp [Text.unlines, fed]
    | cons other lines =>
      have rest := more (List.cons_ne_nil _ _)
      unfold fed Text.unlines at rest ⊢
      rw [List.flatMap_cons, ← rest, String.intercalate_cons_cons]
      simp

theorem fed_append (front behind : List String) : fed (front ++ behind) = fed front ++ fed behind :=
  List.flatMap_append

end Lines

-- The lines that make room for the code: those of the block, or none at the top.
def Room (lines front room : List String) : Prop :=
  (∃ first last, Block lines first last ∧ front = lines.take first ∧ room = (lines.drop first).take (last + 1 - first)) ∨
    (¬ ∃ first last, Block lines first last) ∧ front = lines.take (topOf lines) ∧ room = []

theorem inject_room (block lines : List String) :
    ∃ front room behind, Room lines front room ∧ lines = front ++ room ++ behind ∧
      inject block lines = front ++ block ++ behind := by
  by_cases found : ∃ first last, Block lines first last
  · obtain ⟨first, last, found⟩ := found
    refine ⟨_, _, _, Or.inl ⟨first, last, found, rfl, rfl⟩, ?_, inject_block found⟩
    have later : first + (last + 1 - first) = last + 1 := by
      have after := found.ends.behind
      omega
    have parted := List.take_append_drop (last + 1 - first) (lines.drop first)
    rw [List.drop_drop, later] at parted
    rw [List.append_assoc, parted, List.take_append_drop]
  · refine ⟨_, _, _, Or.inr ⟨found, rfl, rfl⟩, ?_, inject_top found⟩
    rw [List.append_nil, List.take_append_drop]

section Framed

variable (r : Resource) (language : Language) (arguments : List Argument) (t : FileTree) (here : Place) {text : String}
  (read : r.content t here >>= Value.needText = .ok text)

include read

-- What is in front of the room and what is behind it is written as it was, but for its line ends.
theorem rest_levelled :
    ∃ front room behind, Room (Text.lines text) front room ∧
      closed (levelled text.toList) = fed front ++ fed room ++ fed behind ∧
      r.render language arguments t here =
        .ok (String.ofList (fed front ++ fed (language.parameterBlock arguments) ++ fed behind)) := by
  obtain ⟨front, room, behind, made, shape, injected⟩ :=
    inject_room (language.parameterBlock arguments) (Text.lines text)
  refine ⟨front, room, behind, made, ?_, ?_⟩
  · rw [← fed_append, ← fed_append, ← shape, ← lines_fed]
    rfl
  · have filled : front ++ language.parameterBlock arguments ++ behind ≠ [] :=
      List.append_ne_nil_of_left_ne_nil (List.append_ne_nil_of_right_ne_nil _ (List.cons_ne_nil _ _)) _
    rw [Resource.render, ← bind_assoc, read, ← fed_append, ← fed_append, ← unlines_fed filled, String.ofList_toList,
      ← injected]
    rfl

-- In a text whose lines all end in line feeds nothing else changes at all.
theorem rest_untouched (plain : ∀ c ∈ text.toList, Text.isLineEnd c = true → c = '\n') :
    ∃ front room behind, Room (Text.lines text) front room ∧
      closed text.toList = fed front ++ fed room ++ fed behind ∧
      r.render language arguments t here =
        .ok (String.ofList (fed front ++ fed (language.parameterBlock arguments) ++ fed behind)) := by
  have kept := rest_levelled r language arguments t here read
  rwa [levelled_plain plain] at kept

end Framed

end Toolwrap.Injection
