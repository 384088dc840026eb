import Toolwrap.Proofs.Mounting.Pointing

-- The function for absolute paths as one on texts: what it prints has no parts left that could be dropped,
-- so that it prints the same text again when it is given that text.

namespace Toolwrap.Mounting

open Shell Running Text.Chars

-- A path from the root in which every part is a step to a name.
structure Normal (text : String) : Prop where
  absolute : text.toList.head? = some '/'
  steps : text = "/" ∨ ∀ part ∈ (Text.splitAt '/' text).tail, part ≠ "" ∧ part ≠ "." ∧ part ≠ ".."
  closed : text.toList.getLast? = some '/' → text = "/"

section Normal

variable {place : Place}

theorem placeText_normal (settled : Settled place) : Normal (Utility.placeText place) := by
  obtain ⟨rest, led⟩ := @placeText_led place
  refine ⟨by rw [led]; rfl, ?_, ?_⟩
  · cases place with
    | nil => exact Or.inl rfl
    | cons name place =>
      refine Or.inr fun part member => ?_
      unfold Text.splitAt at member
      rw [placeText_filled (List.cons_ne_nil _ _), slashed_split settled, List.map_cons, List.tail_cons,
        List.map_map] at member
      obtain ⟨other, listed, rfl⟩ := List.mem_map.mp member
      rw [Function.comp_apply, String.ofList_toList]
      exact ⟨(settled other listed).filled, (settled other listed).dot, (settled other listed).dots⟩
  · induction place using List.reverseRecOn with
    | nil => exact fun _ => rfl
    | append_singleton place name _ =>
      have step := settled name (List.mem_append_right _ (List.mem_singleton_self _))
      have filled : name.toList ≠ [] := mt String.toList_eq_nil_iff.mp step.filled
      intro last
      rw [placeText_snoc, List.append_cons, List.getLast?_append_of_ne_nil _ filled] at last
      exact absurd (List.mem_of_getLast? last) step.whole

end Normal

section Lengths

variable {place start : Place} {piece : String} {pieces : List String} {here p : String}

-- Each part of a text with a slash in front of it.
theorem slashed_splitAt (text : List Char) : slashed ((splitAt '/' text).map String.ofList) = '/' :: text := by
  induction text using @pieces_induction '/' with
  | last piece free =>
    rw [splitAt_absent free, List.map_singleton, slashed_cons, String.toList_ofList]
    exact List.append_nil _
  | next piece rest free more =>
    rw [splitAt_append, splitAt_absent free, List.singleton_append, List.map_cons, slashed_cons, String.toList_ofList, more]
    rfl

theorem stepped_short : (slashed (stepped place piece)).length ≤ (slashed place).length + (piece.length + 1) := by
  unfold stepped
  split
  · exact Nat.le_add_right _ _
  · split
    · rcases List.eq_nil_or_concat place with rfl | ⟨before, name, rfl⟩
      · exact Nat.le_add_right _ _
      · rw [List.concat_eq_append, List.dropLast_concat, slashed_snoc, List.length_append]
        omega
    · rw [slashed_snoc, List.length_append, List.length_cons, String.length_toList]

theorem steps_short : (slashed (pieces.foldl stepped start)).length ≤ (slashed start).length + (slashed pieces).length := by
  induction pieces generalizing start with
  | nil => exact Nat.le_refl _
  | cons piece pieces more =>
    have later := @more (stepped start piece)
    have first := @stepped_short start piece
    rw [List.foldl_cons, slashed_cons, List.length_append, List.length_cons, String.length_toList]
    omega

theorem placeOf_pieces (whole : '\n' ∉ (fullText here p).toList) :
    placeOf here p = (Text.splitAt '/' (fullText here p)).foldl stepped [] := by
  unfold placeOf
  rw [firstLine_whole whole, settle_pieces]

-- A path from the root does not get longer, since what is dropped takes its slash with it.
theorem absolutePath_short (led : (fullText here p).toList.head? = some '/') (whole : '\n' ∉ (fullText here p).toList) :
    (absolutePath here p).length ≤ (fullText here p).length := by
  obtain ⟨rest, shape⟩ := List.head?_eq_some_iff.mp led
  have size : (fullText here p).length = rest.length + 1 := by rw [← String.length_toList, shape, List.length_cons]
  have short : (slashed (placeOf here p)).length ≤ rest.length + 1 := by
    rw [placeOf_pieces whole]
    unfold Text.splitAt
    rw [shape, splitAt_mark, List.map_cons, List.foldl_cons, stepped_empty]
    have steps := @steps_short [] ((splitAt '/' rest).map String.ofList)
    rw [slashed_splitAt, List.length_cons] at steps
    exact Nat.le_trans steps (Nat.le_of_eq (Nat.zero_add _))
  rw [size, ← String.length_toList]
  unfold absolutePath
  cases place : placeOf here p with
  | nil => exact Nat.le_add_left 1 _
  | cons name names =>
    rw [placeText_filled (List.cons_ne_nil _ _), ← place]
    exact short

end Lengths

section Printing

variable {here p : String} {s : Session} {front : List String} {rounds depth : Nat}

-- A session with the function of the program, in a directory, that writes into an empty text.
structure Locating (s : Session) (here : String) (front : List String) : Prop where
  quiet : Quiet s
  filled : s.scopes ≠ []
  place : s.value? "PWD" = some here
  led : here.toList.head? = some '/'
  whole : '\n' ∉ here.toList
  sound : Sound here
  plain : ∀ x ∈ pathNames, Ordinarily s x
  flat : ∀ x ∈ ["IFS", "len", "i"], Flat s x
  paths : Provides s Wrapper.Functions.absolutePath
  draws : Draws s front []

theorem fullText_led (led : here.toList.head? = some '/') : (fullText here p).toList.head? = some '/' := by
  unfold fullText
  split
  · assumption
  · obtain ⟨rest, shape⟩ := List.head?_eq_some_iff.mp led
    rw [String.toList_append, String.toList_append, shape]
    rfl

theorem fullText_whole (first : '\n' ∉ here.toList) (second : '\n' ∉ p.toList) : '\n' ∉ (fullText here p).toList := by
  unfold fullText
  split
  · exact second
  · simp [first, second]

theorem leftBehind_whole (whole : '\n' ∉ (fullText here p).toList) : leftBehind here p = "" := by
  have line : (fullText here p).toList.dropWhile (· != '\n') = [] :=
    List.dropWhile_eq_nil_iff.mpr fun c member => bne_iff_ne.mpr fun feed => whole (feed ▸ member)
  unfold leftBehind behindLine
  rw [String.toList_append, List.dropWhile_append, line]
  rfl

theorem Locating.prints (locating : Locating s here front) (workable : Workable here p) (whole : '\n' ∉ p.toList) :
    Prints (invoke (engine rounds (depth + 1)) { fields := ["bw_absolute_path", p] }) s
      (front ++ (absolutePath here p ++ "\n") :: [""]) := by
  have pathing : Pathing s here := ⟨locating.quiet, locating.place, locating.plain, locating.flat, locating.filled,
    absolute_provided locating.paths⟩
  have printed := @absolute_prints (engine rounds (depth + 1)) (engine rounds depth) s here p front rfl pathing
    locating.draws locating.led locating.sound workable.sound workable.small
  rwa [leftBehind_whole (fullText_whole locating.whole whole)] at printed

theorem fullText_absolute {text : String} (led : text.toList.head? = some '/') : fullText here text = text := if_pos led

-- What leads to a place is the same from every directory.
theorem absolutePath_again {here' : String} : absolutePath here' (absolutePath here p) = absolutePath here p := by
  obtain ⟨rest, led⟩ := @placeText_led (placeOf here p)
  have given : fullText here' (absolutePath here p) = absolutePath here p := fullText_absolute (by
    unfold absolutePath
    rw [led]
    rfl)
  have line : '\n' ∉ (fullText here' (absolutePath here p)).toList := by
    rw [given]
    exact absolutePath_whole
  calc absolutePath here' (absolutePath here p)
      = Utility.placeText (leads (absolutePath here' (absolutePath here p))) := written_absolute
    _ = Utility.placeText (leads (absolutePath here p)) := by rw [leads_given line, given]
    _ = absolutePath here p := written_absolute.symm

-- What is printed is the names that are left of the path, and nothing of it can be dropped any more: it is
-- printed again if it is given to the function, in whatever directory.
theorem path_normalised (locating : Locating s here front) (workable : Workable here p) (whole : '\n' ∉ p.toList)
    (rounds depth : Nat) : ∃ names text,
    names = (Text.splitAt '/' (fullText here p)).foldl stepped [] ∧ text = "/" ++ "/".intercalate names ∧
      Prints (invoke (engine rounds (depth + 1)) { fields := ["bw_absolute_path", p] }) s
        (front ++ (text ++ "\n") :: [""]) ∧
      Normal text ∧
      ∀ s' here' front', Locating s' here' front' →
        Prints (invoke (engine rounds (depth + 1)) { fields := ["bw_absolute_path", text] }) s'
          (front' ++ (text ++ "\n") :: [""]) := by
  have line := fullText_whole locating.whole whole
  have led := @fullText_led here p locating.led
  have normal : Normal (absolutePath here p) := placeText_normal (placeOf_settled here p)
  have given : ∀ here', fullText here' (absolutePath here p) = absolutePath here p := fun _ =>
    fullText_absolute normal.absolute
  refine ⟨_, absolutePath here p, rfl, ?_, locating.prints workable whole, normal, fun s' here' front' again => ?_⟩
  · unfold absolutePath
    rw [placeOf_pieces line]
    rfl
  · have small : (fullText here' (absolutePath here p)).length + 1 < 2 ^ 63 := by
      rw [given]
      exact Nat.lt_of_le_of_lt (Nat.succ_le_succ (absolutePath_short led line)) workable.small
    have printed := @Locating.prints here' (absolutePath here p) s' front' rounds depth again
      ⟨absolutePath_sound locating.sound workable.sound, small⟩ absolutePath_whole
    rwa [absolutePath_again] at printed

end Printing

-- A program in a directory that writes into its first text.
def desk : Session where
  tree := ⟨[(["data"], .directory)]⟩
  here := ["data"]
  texts := [""]
  descriptors := [(1, .text 0)]
  scopes := [[("PWD", { content := .text "/data" })]]
  functions := [("bw_absolute_path", { body := absoluteBody 5, file := "wrapper" })]

theorem desk_locating : Locating desk "/data" [] where
  quiet := ⟨rfl, by decide, rfl, rfl, rfl, rfl, rfl, by decide, by decide⟩
  filled := List.cons_ne_nil _ _
  place := by decide
  led := by decide
  whole := by decide
  sound := plain_sound (by decide)
  plain x _ := ordinarily_all (by decide) x
  flat x member v found := by
    have free : ∀ x ∈ ["IFS", "len", "i"], desk.find? x = none := by decide
    rw [free x member] at found
    cases found
  paths := by
    refine provides_listed [(5, "bw_absolute_path", absoluteBody 5)] absolute_read fun f listed => ?_
    obtain rfl := List.mem_singleton.mp listed
    exact ⟨_, rfl, rfl⟩
  draws := ⟨rfl, rfl, Nat.le_refl _⟩

theorem path_normalised_at_desk :
    Prints (invoke (engine 0 1) { fields := ["bw_absolute_path", "a/../.././/b c/"] }) desk ["/b c\n", ""] ∧
      Prints (invoke (engine 0 1) { fields := ["bw_absolute_path", "/b c"] }) desk ["/b c\n", ""] := by
  have workable : Workable "/data" "a/../.././/b c/" := ⟨plain_sound (by decide), by decide⟩
  obtain ⟨names, text, rfl, rfl, printed, -, again⟩ := path_normalised desk_locating workable (by decide) 0 0
  exact ⟨printed, again _ _ _ desk_locating⟩

end Toolwrap.Mounting
