import Toolwrap.Memory
import Toolwrap.Proofs.Memory.Apart
import Toolwrap.Proofs.Memory.Units
import Toolwrap.Proofs.Running.Filters
import Toolwrap.Proofs.Running.Outputs
import Toolwrap.Proofs.Running.Translating

-- The first lines of the function. What is matched is what is printed of an amount, in small letters and
-- without blanks; of the first 128 characters it is the text that the amount is read from. An amount is
-- refused where it is malformed; otherwise its number is kept, and the bytes of its unit.

namespace Toolwrap.Memory

open Shell Running

section Printed

variable {x : String}

-- A word of options is read as such; any other word is left to be printed.
theorem options_alone (x : String) : Builtin.echoOptions true false [x] = (true, false, [x]) ∨
    (∃ cs, x.toList = '-' :: cs) ∧ ∃ lineFeed escapes, Builtin.echoOptions true false [x] = (lineFeed, escapes, []) := by
  rw [Builtin.echoOptions]
  split
  · rename_i c cs shape
    by_cases options : (c :: cs).all (· ∈ ['n', 'e', 'E']) = true
    · refine Or.inr ⟨⟨_, shape⟩, ?_⟩
      dsimp only
      rw [if_pos options]
      exact ⟨_, _, rfl⟩
    · exact Or.inl (if_neg options)
  · exact Or.inl rfl

-- What is printed of a text: a line, or nothing of it if it is a word of options.
theorem echo_cases (x : String) : echoText [x] = x ++ "\n" ∨
    (∃ cs, x.toList = '-' :: cs) ∧ (echoText [x] = "" ∨ echoText [x] = "\n") := by
  rcases options_alone x with read | ⟨dashed, lineFeed, escapes, read⟩
  · refine Or.inl ?_
    rw [echoText, read]
    simp
  · refine Or.inr ⟨dashed, ?_⟩
    rw [echoText, read]
    cases lineFeed <;> cases escapes <;> decide

end Printed

-- What is matched of what is stated.
def matchedText (x : String) : String :=
  String.ofList (((echoText [x]).toList.map small).filter (!isSpace ·))

-- The characters that both readings take alike: the first 128, without the zero and without the
-- separators of information.
def isPlain (c : Char) : Bool := isAscii c && c != '\x00' && !(28 ≤ c.toNat && c.toNat ≤ 31)

section Normal

variable {x : String} {c : Char} {cs : List Char}

theorem plain_ascii (plain : isPlain c = true) : isAscii c = true := by
  simp only [isPlain, Bool.and_eq_true] at plain
  exact plain.1.1

theorem small_space (ascii : isAscii c = true) : isSpace (small c) = isSpace c :=
  ascii_all (P := fun c => isSpace (small c) = isSpace c) (by decide) ascii

theorem blank_space (plain : isPlain c = true) : Text.isBlank c = isSpace c :=
  ascii_all (P := fun c => isPlain c = true → Text.isBlank c = isSpace c) (by decide) (plain_ascii plain) plain

theorem small_filled (plain : isPlain c = true) : small c ≠ '\x00' :=
  ascii_all (P := fun c => isPlain c = true → small c ≠ '\x00') (by decide) (plain_ascii plain) plain

theorem lower_ascii (ascii : ∀ c ∈ cs, isAscii c = true) (inWord : Bool) :
    Text.lowerFrom inWord cs = cs.map small := by
  have each : ∀ c, isAscii c = true → c ≠ 'Σ' ∧ Text.lowerChar c = [small c] := by
    intro c first
    exact ascii_all (P := fun c => c ≠ 'Σ' ∧ Text.lowerChar c = [small c]) (by decide +kernel) first
  induction cs generalizing inWord with
  | nil => rfl
  | cons c cs same =>
    obtain ⟨other, letter⟩ := each c (ascii c (List.mem_cons_self ..))
    have plain : (c == 'Σ') = false := beq_eq_false_iff_ne.mpr other
    rw [Text.lowerFrom, plain, same fun d member => ascii d (List.mem_cons_of_mem _ member), letter]
    rfl

theorem filter_small (ascii : ∀ c ∈ cs, isAscii c = true) :
    (cs.map small).filter (!isSpace ·) = (cs.filter (!isSpace ·)).map small := by
  rw [List.filter_map]
  congr 1
  refine List.filter_congr fun c member => ?_
  rw [Function.comp_apply, small_space (ascii c member)]

variable (plain : ∀ c ∈ x.toList, isPlain c = true)

include plain

theorem normalised_plain : (normalised x).toList = (x.toList.filter (!isSpace ·)).map small := by
  have same : x.toList.filter (fun c => !Text.isBlank c) = x.toList.filter (!isSpace ·) :=
    List.filter_congr fun c member => by rw [blank_space (plain c member)]
  have ascii : ∀ c ∈ x.toList.filter (!isSpace ·), isAscii c = true := fun c member =>
    plain_ascii (plain c (List.mem_filter.mp member).1)
  rw [normalised, Text.lower, Text.withoutBlanks, String.toList_ofList, String.toList_ofList, same, lower_ascii ascii]

theorem printed_plain : ∀ c ∈ (echoText [x]).toList, isPlain c = true := by
  intro c member
  rcases echo_cases x with line | ⟨-, none_ | feed⟩
  · rw [line, String.toList_append] at member
    rcases List.mem_append.mp member with own | feed
    · exact plain c own
    · obtain rfl := List.mem_singleton.mp feed
      rfl
  · rw [none_] at member
    cases member
  · rw [feed] at member
    obtain rfl := List.mem_singleton.mp member
    rfl

-- A line comes to the text that the amount is read from; a word of options is no amount.
theorem matched_cases : (matchedText x).toList = (normalised x).toList ∨
    matchedText x = "" ∧ ∃ cs, (normalised x).toList = '-' :: cs := by
  rw [normalised_plain plain, matchedText]
  have ascii : ∀ c ∈ x.toList, isAscii c = true := fun c member => plain_ascii (plain c member)
  rcases echo_cases x with line | ⟨⟨cs, dashed⟩, none_ | feed⟩
  · refine Or.inl ?_
    rw [line, String.toList_ofList, String.toList_append, List.map_append, List.filter_append, filter_small ascii]
    exact List.append_nil _
  · refine Or.inr ⟨by rw [none_]; rfl, ?_⟩
    rw [dashed]
    exact ⟨_, rfl⟩
  · refine Or.inr ⟨by rw [feed]; rfl, ?_⟩
    rw [dashed]
    exact ⟨_, rfl⟩

theorem matched_amount : Amount.ofChars? (matchedText x).toList = Amount.ofChars? (normalised x).toList := by
  rcases matched_cases plain with same | ⟨empty, cs, dashed⟩
  · rw [same]
  · rw [empty, dashed]
    rfl

theorem matched_sound : ∀ c ∈ (matchedText x).toList, isAscii c = true ∧ c ≠ '\x00' ∧ c ≠ '\n' := by
  intro c member
  rw [matchedText, String.toList_ofList] at member
  obtain ⟨inside, solid⟩ := List.mem_filter.mp member
  obtain ⟨d, printed, rfl⟩ := List.mem_map.mp inside
  have first := printed_plain plain d printed
  refine ⟨small_ascii (plain_ascii first), small_filled first, fun feed => ?_⟩
  rw [feed] at solid
  cases solid

end Normal

section Refusing

variable {E deeper : Engine} {s : Session} {message : List Part} {text : String}

theorem refusal_comesTo (runs : E.script = runScript deeper) (quiet : Quiet s) (inside : s.isInFunction = true)
    (plain : Ordinarily s "BW_META_FUNCTIONALITY_NAME") (opened : s.channel 2 ≠ .closed)
    (defined : Defines s "bw_error" errorEcho) (spelled : Spells E s message text) (line : Nat) :
    ∃ u, ComesTo (runScript E (refusal message line)) s (.error (.returned 1) u) ∧ Quiet u := by
  obtain ⟨u, told, quietly, frames⟩ := error_comesTo runs quiet plain opened defined spelled
  have running : u.isInFunction = true := by
    rw [Session.isInFunction, frames]
    exact inside
  have reads : Reads E u [bare "return", bare "1"] ["return", "1"] := reads_counted "return" (by decide) (by decide) 1
  have returned := return_comesTo quietly running reads (@codeOf_numeral u "return" 1 (by decide))
  exact ⟨u, script_cons quiet (located_comesTo _ told) (script_one quietly (located_comesTo _ returned)), quietly⟩

end Refusing

section Rematched

variable {c : Session} {marks : String → Bool} {held : Held} {status : Nat} {x : String}
  {found : Option (List (List Char))}

theorem rematch_declarable (declarable : Declarable c marks) : Declarable (rematch c found) marks := by
  have others : ∀ x ∈ memoryNames, x ≠ "BASH_REMATCH" := by decide
  refine ⟨fun x listed v there => ?_, fun x listed => ?_⟩
  · rw [rematch_other (others x listed)] at there
    exact declarable.plain x listed v there
  · rw [rematch_other (others x listed)]
    exact declarable.inherits x listed

-- What a group matched, below the variables of the function.
theorem group_spells {E : Engine} {texts : List (List Char)} {n : Nat} {text : List Char} {i : String} (quiet : Quiet c)
    (plain : Ordinarily c "BASH_REMATCH") (absent : held.lookup "BASH_REMATCH" = none)
    (listed : texts[n]? = some text) (small : n < 2 ^ 63) (index : i = toString n) (one : i ≠ "@") (other : i ≠ "*") :
    Spells E (within (rematch c (some texts)) marks held status) [matched i] (String.ofList text) := by
  have calm : Quiet (within (rematch c (some texts)) marks held status) := quiet
  let v : Variable := { c.variableD "BASH_REMATCH" with content := numberedItems (texts.map String.ofList) }
  have ordinary : Ordinary v := { variableD_ordinary plain with }
  have there : (within (rematch c (some texts)) marks held status).find? "BASH_REMATCH" = some v := by
    rw [within_absent absent, rematch, Session.setContent, find_put, if_pos rfl]
    rfl
  have kept_ : ((List.range (texts.map String.ofList).length).zip (texts.map String.ofList)).lookup n =
      some (String.ofList text) := by
    rw [numbered_lookup, List.getElem?_map, listed]
    rfl
  exact values_spells (matched_values calm there ordinary rfl kept_ small index one other)

end Rematched

-- A session in which the function runs, with a text as its argument.
structure Serves (c : Session) (marks : String → Bool) (x : String) : Prop where
  quiet : Quiet c
  inside : c.isInFunction = true
  args : c.args = [x]
  declarable : Declarable c marks
  filled : c.scopes ≠ []
  room : c.shared ≤ c.texts.length
  hosts : Hosts c "tr"
  matchable : Ordinarily c "BASH_REMATCH"
  named : Ordinarily c "BW_META_FUNCTIONALITY_NAME"
  heard : c.channel 2 ≠ .closed
  reports : Defines c "bw_error" errorEcho
  uncut : ∀ d ∈ c.separators.chars, d.isDigit = false
  comparable : ∀ z ∈ Integers.lessNames, Ordinarily c z
  compares : ∃ f n, c.functions.lookup "bw_integer_less" = some f ∧ f.body = Integers.lessBody n

-- The session once a text is normalised, which is kept in a text of its own, and once it is
-- matched.
def beside (c : Session) (m : String) : Session := { c with texts := c.texts ++ [m, "", ""] }

def searched (c : Session) (m : String) : Session := rematch (beside c m) (shape.matched? false m.toList)

def matching (m : String) : Held := [("memory", .text m), ("regex", .text shapeText)]

-- Nothing that the function needs is lost when a text is matched.
theorem Serves.searched {c : Session} {marks : String → Bool} {x : String} (serves : Serves c marks x) (m : String) :
    Serves (Memory.searched c m) marks x := by
  have same : ∀ {y : String}, y ≠ "BASH_REMATCH" → (Memory.searched c m).find? y = c.find? y := fun other =>
    rematch_other other
  have kept_ : ∀ {y : String}, y ≠ "BASH_REMATCH" → Ordinarily c y → Ordinarily (Memory.searched c m) y := by
    intro y other plain v there
    rw [same other] at there
    exact plain v there
  have others : ∀ z ∈ Integers.lessNames, z ≠ "BASH_REMATCH" := by decide
  refine { serves with
    declarable := rematch_declarable ⟨serves.declarable.plain, serves.declarable.inherits⟩
    filled := ?_, room := ?_, hosts := ?_, matchable := ?_, named := kept_ (by decide) serves.named
    uncut := ?_, comparable := fun z listed => kept_ (others z listed) (serves.comparable z listed) }
  · exact putIn_filled
  · change c.shared ≤ (c.texts ++ [m, "", ""]).length
    rw [List.length_append]
    exact Nat.le_add_right_of_le serves.room
  · exact hosts_like serves.hosts rfl rfl (by unfold Session.value?; rw [same (by decide)])
  · exact rematch_ordinarily (c := beside c m) serves.matchable
  · have alike : (Memory.searched c m).separators = c.separators :=
      separators_like (by unfold Session.value?; rw [same (by decide)])
    rw [alike]
    exact serves.uncut

section Matching

variable {E deeper : Engine} {c : Session} {marks : String → Bool} {status n : Nat} {x : String}
  {suffix : List Char} {a : Amount}

theorem argument_spells (E : Engine) {s : Session} (quiet : Quiet s) (args : s.args = [x]) : Spells E s [ref "1"] x := by
  have stands := @stands_argument s "1" 0 (@toNat?_digit '1' rfl) (by decide)
  rw [args] at stands
  exact @plain_spells E s "1" (some x) quiet stands

variable (runs : E.script = runScript deeper) (serves : Serves c marks x) (plain : ∀ d ∈ x.toList, isPlain d = true)

include runs serves plain

theorem normal_comesTo :
    ComesTo (runScript E ((memoryLines n).take 3)) (within c marks [] status)
      (.ok () (within (beside c (matchedText x)) marks (matching (matchedText x)) 0)) := by
  have quiet := serves.quiet
  have calm : ∀ held status, Quiet (within c marks held status) := fun _ _ => quiet
  have later : ∀ held status, Quiet (within (beside c (matchedText x)) marks held status) := fun _ _ => quiet
  have declarable : Declarable (beside c (matchedText x)) marks := ⟨serves.declarable.plain, serves.declarable.inherits⟩
  let middle := String.ofList ((echoText [x]).toList.map small)
  have printed : ∀ d ∈ (echoText [x]).toList, isAscii d = true := fun d member =>
    plain_ascii (printed_plain plain d member)
  have lowered : ∀ d ∈ middle.toList, isAscii d = true := by
    intro d member
    rw [String.toList_ofList] at member
    obtain ⟨e, inside, rfl⟩ := List.mem_map.mp member
    exact small_ascii (printed e inside)
  have sound := matched_sound plain
  have unspaced : Filters deeper ["-d", "[:space:]"] middle (matchedText x) := by
    have filters := @unspaced_filters deeper middle lowered
    rwa [String.toList_ofList] at filters
  have declared : ComesTo ((say ["local", "memory"]).run E) (within c marks [] status)
      (.ok () (within c marks [("memory", .declared)] 0)) :=
    one_comesTo serves.declarable quiet serves.inside "memory" none (by decide) rfl
      (reads_bare "memory" (by decide) (by decide) reads_nil)
  have filtered : ComesTo ((assign "memory" normalising).run E) (within c marks [("memory", .declared)] 0)
      (.ok () (within (beside c (matchedText x)) marks [("memory", .text (matchedText x))] 0)) :=
    filtered_assigned runs quiet serves.hosts rfl serves.room (by decide) rfl rfl
      (fun t calm args => reads_bare "echo" (by decide) (by decide)
        (reads_double [x] (double_fields (argument_spells deeper calm (args.trans serves.args))) reads_nil))
      (fun t calm => reads_bare "tr" (by decide) (by decide)
        (reads_cons ["[:upper:]"] nofun (single_fields _) (reads_cons ["[:lower:]"] nofun (single_fields _) reads_nil)))
      (fun t calm => reads_bare "tr" (by decide) (by decide) (reads_bare "-d" (by decide) (by decide)
        (reads_cons ["[:space:]"] nofun (single_fields _) reads_nil)))
      (small_filters printed) unspaced (ascii_not_loose printed) (ascii_not_loose lowered)
      (ascii_not_loose fun d member => (sound d member).1) (fun member => (sound _ member).2.1 rfl)
      (fun member => (sound _ member).2.2 rfl)
  have shaped : ComesTo ((run [bare "local", [.text "regex=", .single shapeText]]).run E)
      (within (beside c (matchedText x)) marks [("memory", .text (matchedText x))] 0)
      (.ok () (within (beside c (matchedText x)) marks (matching (matchedText x)) 0)) :=
    one_comesTo declarable quiet serves.inside "regex" (some shapeText) (by decide) rfl
      (reads_led_single (by decide) (by decide) reads_nil)
  exact script_cons (calm _ _) (located_comesTo _ declared) (script_cons (calm _ _) (located_comesTo _ filtered)
    (script_one (later _ _) (located_comesTo _ shaped)))

omit runs plain in
-- Whether the text is an amount is asked below the variables of the function.
theorem asked_match (m : String) :
    ComesTo (runScript E [.located n (.test (.not (.binary (quotedRef "memory") "=~" [ref "regex"])))])
      { within (beside c m) marks (matching m) 0 with shielded := true }
      (.ok () { within (searched c m) marks (matching m)
          (if (shape.matched? false m.toList).isSome then 1 else 0) with shielded := true }) := by
  let sheltered : Session := { beside c m with shielded := true }
  let s := within sheltered marks (matching m) 0
  have calm : Quiet s := serves.quiet
  have held : Stands s "memory" (some m) := within_stands (by decide) rfl
  have expression : Stands s "regex" (some shapeText) := within_stands (by decide) rfl
  have subject : Spells E s [ref "memory"] m := @plain_spells E s "memory" (some m) calm held
  have below : rematch s (shape.matched? false m.toList) = within (rematch sheltered (shape.matched? false m.toList)) marks (matching m) 0 :=
    rematch_within rfl serves.filled
  have asked := misses_comesTo calm rfl subject (value_marked calm expression) shape_read
  rw [below] at asked
  exact script_one calm (located_comesTo n asked)

-- A text that is no amount is refused.
theorem malformed_comesTo (none_ : Amount.ofChars? (normalised x).toList = none) :
    ∃ u, ComesTo (runScript E (memoryLines n)) (within c marks [] status) (.error (.returned 1) u) ∧ Quiet u := by
  let m := matchedText x
  let t := within (searched c m) marks (matching m) 0
  have calm : Quiet t := serves.quiet
  have missed : shape.matched? false m.toList = none := by
    rw [← matched_amount plain] at none_
    exact shape_misses none_
  have missing := @asked_match E c marks (n + 4) x serves m
  rw [missed] at missing
  have stood : Ordinarily t "BW_META_FUNCTIONALITY_NAME" := by
    refine within_outside rfl fun v there => ?_
    rw [searched, rematch_other (by decide)] at there
    exact serves.named v there
  have message : Spells E t malformed ("Invalid memory value '" ++ (x ++ "': expected e.g. 512MB, 2GB or 1.5TB.")) :=
    spells_cons (spells_text _) (spells_cons (argument_spells E calm serves.args) (spells_text _))
  obtain ⟨u, refused, quietly⟩ := refusal_comesTo runs calm serves.inside stood serves.heard serves.reports message (n + 5)
  have conditional : ComesTo ((Command.ifThen _ (refusal malformed (n + 5)) []).run E)
      (within (beside c m) marks (matching m) 0) (.error (.returned 1) u) := if_holds missing rfl refused
  have before := @normal_comesTo E deeper c marks status n x runs serves plain
  exact ⟨u, script_append before (script_stops serves.quiet (located_comesTo _ conditional)), quietly⟩

-- Of an amount its number is kept, and the bytes of its unit.
theorem amount_comesTo (stated : States (matchedText x).toList a suffix) :
    ComesTo (runScript E ((memoryLines n).take 7)) (within c marks [] status)
      (.ok () (within (searched c (matchedText x)) marks (known (matchedText x) a) 0)) := by
  let m := matchedText x
  obtain ⟨inner, found⟩ := shape_matches stated
  let texts := [m.toList, a.numberText, inner, suffix]
  let d := searched c m
  have rematched : d = rematch (beside c m) (some texts) := congrArg (rematch (beside c m)) found
  have quiet : Quiet d := serves.quiet
  have calm : ∀ held status, Quiet (within d marks held status) := fun _ _ => quiet
  have declarable : Declarable d marks :=
    rematch_declarable ⟨serves.declarable.plain, serves.declarable.inherits⟩
  have met := @asked_match E c marks (n + 4) x serves m
  rw [found] at met
  have conditional : ComesTo ((Command.ifThen _ (refusal malformed (n + 5)) []).run E)
      (within (beside c m) marks (matching m) 0) (.ok () (within d marks (matching m) 0)) :=
    if_skips met Nat.one_ne_zero
  have number : Spells E (within d marks (matching m) 0) [matched "1"] (String.ofList a.numberText) :=
    rematched ▸ group_spells (n := 1) serves.quiet serves.matchable rfl rfl (by decide) rfl (by decide) (by decide)
  have kept_ : ComesTo ((run [bare "local", [.text "number=", .double [matched "1"]]]).run E)
      (within d marks (matching m) 0)
      (.ok () (within d marks (matching m ++ [("number", .text (String.ofList a.numberText))]) 0)) :=
    given_comesTo declarable quiet serves.inside "number" rfl (by decide) rfl number
  have declared : ComesTo ((say ["local", "multiplier"]).run E)
      (within d marks (matching m ++ [("number", .text (String.ofList a.numberText))]) 0)
      (.ok () (within d marks (matching m ++ [("number", .text (String.ofList a.numberText)), ("multiplier", .declared)]) 0)) :=
    one_comesTo declarable quiet serves.inside "multiplier" none (by decide) rfl
      (reads_bare "multiplier" (by decide) (by decide) reads_nil)
  have unit : Spells E (within d marks (matching m ++ [("number", .text (String.ofList a.numberText)), ("multiplier", .declared)]) 0)
      [matched "3"] (String.ofList suffix) :=
    rematched ▸ group_spells (n := 3) serves.quiet serves.matchable rfl rfl (by decide) rfl (by decide) (by decide)
  have named : ByteUnit.ofSuffix? (String.ofList suffix).toList = some a.unit := by
    rw [String.toList_ofList]
    exact stated.unit
  have chosen : ComesTo ((unitCase (n + 11)).run E)
      (within d marks (matching m ++ [("number", .text (String.ofList a.numberText)), ("multiplier", .declared)]) 0)
      (.ok () (within d marks (known m a) 0)) := unitCase_comesTo quiet rfl rfl unit named
  have before := @normal_comesTo E deeper c marks status n x runs serves plain
  exact script_append before
    (script_cons serves.quiet (located_comesTo _ conditional) (script_cons (calm _ _) (located_comesTo _ kept_)
      (script_cons (calm _ _) (located_comesTo _ declared) (script_one (calm _ _) (located_comesTo _ chosen)))))

end Matching

end Toolwrap.Memory
