import Toolwrap.Proofs.Mounting.Settling
import Toolwrap.Proofs.Running.Bindings
import Toolwrap.Proofs.Running.Groups
import Toolwrap.Proofs.Running.Matching
import Toolwrap.Proofs.Running.Printed

-- The absolute path of a path: the text that the function for it prints.

namespace Toolwrap.Mounting

open Shell Running

-- The text of a place is made of the characters of its names and of slashes.
section Written

variable {place start : Place} {name : String} {pieces : List String}

theorem stepped_listed (member : name ∈ pieces.foldl stepped start) : name ∈ start ∨ name ∈ pieces := by
  induction pieces generalizing start with
  | nil => exact Or.inl member
  | cons piece pieces more =>
    rcases more member with before | later
    · unfold stepped at before
      split at before
      · exact Or.inl before
      · split at before
        · exact Or.inl (List.dropLast_subset _ before)
        · rcases List.mem_append.mp before with old | new
          · exact Or.inl old
          · exact Or.inr (List.mem_singleton.mp new ▸ List.mem_cons_self ..)
    · exact Or.inr (List.mem_cons_of_mem _ later)

theorem placeText_led : ∃ rest, (Utility.placeText place).toList = '/' :: rest := by
  unfold Utility.placeText
  rw [String.toList_append]
  exact ⟨_, rfl⟩

theorem placeText_mem {c : Char} (member : c ∈ (Utility.placeText place).toList) : c = '/' ∨ ∃ name ∈ place, c ∈ name.toList := by
  cases place with
  | nil => exact Or.inl (List.mem_singleton.mp member)
  | cons first place =>
    rw [placeText_filled (List.cons_ne_nil _ _)] at member
    obtain ⟨name, listed, inside⟩ := List.mem_flatMap.mp member
    exact (List.mem_cons.mp inside).imp id fun later => ⟨name, listed, later⟩

theorem slashed_firm (firm : ∀ name ∈ place, Firm name.toList) : Firm (slashed place) := by
  induction place using List.reverseRecOn with
  | nil => exact firm_ascii nofun
  | append_singleton place name more =>
    rw [slashed_snoc]
    exact firm_join (more fun other member => firm other (List.mem_append_left _ member)) rfl
      (firm name (List.mem_append_right _ (List.mem_singleton_self _)))

theorem placeText_firm (firm : ∀ name ∈ place, Firm name.toList) : Firm (Utility.placeText place).toList := by
  cases place with
  | nil => exact firm_ascii (List.all_iff_forall_prop.mp (by decide))
  | cons first place =>
    rw [placeText_filled (List.cons_ne_nil _ _)]
    exact slashed_firm firm

end Written

section Sound

variable {here p : String}

theorem line_sub {text : List Char} : ∀ c ∈ lineOf text, c ∈ text ∧ c ≠ '\n' := by
  intro c member
  exact ⟨(List.takeWhile_sublist _).subset member, by simpa using List.mem_takeWhile_imp member⟩

theorem line_parted {text : List Char} (fed : '\n' ∈ text) : lineOf text ++ '\n' :: behindLine text = text := by
  induction text with
  | nil => cases fed
  | cons c text more =>
    unfold lineOf behindLine at more ⊢
    by_cases feed : c = '\n'
    · subst feed
      rfl
    · have goes : (c != '\n') = true := bne_iff_ne.mpr feed
      rw [List.takeWhile_cons_of_pos (p := (· != '\n')) goes, List.dropWhile_cons_of_pos (p := (· != '\n')) goes,
        List.cons_append, more ((List.mem_cons.mp fed).resolve_left (Ne.symm feed))]

theorem lineOf_firm {text : List Char} (firm : Firm text) : Firm (lineOf text) := by
  by_cases fed : '\n' ∈ text
  · rw [← line_parted fed] at firm
    exact (firm_first rfl (by decide) (fun member => (line_sub _ member).2 rfl) firm).1
  · have whole : lineOf text = text :=
      List.takeWhile_eq_self_iff.mpr fun c member => bne_iff_ne.mpr fun same => fed (same ▸ member)
    rwa [whole]

theorem fullText_sound (first : Sound here) (second : Sound p) : Sound (fullText here p) := by
  unfold fullText
  split
  · exact second
  · constructor
    · rw [String.toList_append, String.toList_append, List.append_assoc]
      exact firm_join first.firm rfl second.firm
    · rw [String.toList_append, String.toList_append]
      simp [first.solid, second.solid]

-- The names of a place are pieces of the line.
theorem placeOf_listed {name : String} (member : name ∈ placeOf here p) :
    name ∈ Text.splitAt '/' (firstLine (fullText here p)) := by
  unfold placeOf at member
  rw [settle_pieces] at member
  exact (stepped_listed member).resolve_left nofun

theorem placeOf_chars {name : String} (member : name ∈ placeOf here p) : ∀ c ∈ name.toList, c ∈ (fullText here p).toList ∧ c ≠ '\n' := by
  obtain ⟨piece, listed, rfl⟩ := List.mem_map.mp (placeOf_listed member)
  rw [String.toList_ofList]
  unfold firstLine at listed
  rw [String.toList_ofList] at listed
  exact fun c inside => line_sub c (pieces_sub listed c inside)

theorem placeOf_firm (first : Sound here) (second : Sound p) {name : String} (member : name ∈ placeOf here p) :
    Firm name.toList := by
  obtain ⟨piece, listed, rfl⟩ := List.mem_map.mp (placeOf_listed member)
  rw [String.toList_ofList]
  unfold firstLine at listed
  rw [String.toList_ofList] at listed
  exact firm_pieces rfl (by decide) (lineOf_firm (fullText_sound first second).firm) listed

theorem placeText_sound {place : Place} (firm : ∀ name ∈ place, Firm name.toList)
    (solid : ∀ name ∈ place, '\x00' ∉ name.toList) : Sound (Utility.placeText place) := by
  refine ⟨placeText_firm firm, fun member => ?_⟩
  rcases placeText_mem member with slash | ⟨name, listed, inside⟩
  · cases slash
  · exact solid name listed inside

theorem absolutePath_sound (first : Sound here) (second : Sound p) : Sound (absolutePath here p) :=
  placeText_sound (fun _ member => placeOf_firm first second member)
    (fun _ member inside => (fullText_sound first second).solid (placeOf_chars member _ inside).1)

theorem absolutePath_whole : '\n' ∉ (absolutePath here p).toList := by
  intro member
  rcases placeText_mem member with slash | ⟨name, listed, inside⟩
  · cases slash
  · exact (placeOf_chars listed _ inside).2 rfl

end Sound

-- A running function that reads a text and writes into an empty one, and the names of the variables that
-- are used on the way.
structure Settles (s : Session) (front behind : List String) (text : String) : Prop where
  quiet : Quiet s
  draws : Draws s front (behind ++ [text])
  reads : s.channel 0 = .text (front.length + 1 + behind.length)
  inside : s.isInFunction = true
  fresh : (s.scopes.headD []).lookup "outp" = none
  plain : ∀ x ∈ ["IFS", "parr", "outp", "len", "i"], Ordinarily s x
  flat : ∀ x ∈ ["IFS", "len", "i"], Flat s x

section Settling

variable {E : Engine} {s : Session} {front behind : List String} {text : String} {n : Nat}

theorem Settles.input (settles : Settles s front behind text) : s.textOf (front.length + 1 + behind.length) = text := by
  unfold Session.textOf
  rw [settles.draws.texts, Nat.add_assoc]
  simp [Nat.add_comm 1]

-- The session once the line has been read into an array, and another has been declared.
def fetched (s : Session) (k : Nat) (text : String) : Session :=
  { arrayed (listing ((given s "IFS" "/").setTextOf k (String.ofList (behindLine text.toList))) "parr" (fieldsOf text.toList))
      "outp" with status := 0 }

theorem fetched_comesTo (settles : Settles s front behind text) (solid : '\x00' ∉ text.toList) (fed : '\n' ∈ text.toList)
    {rest : Script} {r : Ending Unit}
    (ran : ComesTo (runScript E rest) (fetched s (front.length + 1 + behind.length) text) r) :
    ComesTo (runScript E (.located (n + 1) (assign "IFS" (bare "/")) :: .located (n + 2) (say ["read", "-r", "-a", "parr"]) ::
      .located (n + 3) (say ["declare", "-a", "outp"]) :: rest)) s r := by
  have input := settles.input
  obtain ⟨quiet, draws, reads, inside, fresh, plain, flat⟩ := settles
  let k := front.length + 1 + behind.length
  let parted : Session := { given s "IFS" "/" with status := 0 }
  let taken : Session := { listing (parted.setTextOf k (String.ofList (behindLine text.toList))) "parr" (fieldsOf text.toList) with status := 0 }
  have calm : Quiet parted := quiet
  have still : Quiet taken := quiet
  have ends : Quiet (fetched s k text) := quiet
  have assigned : ComesTo ((assign "IFS" (bare "/")).run E) s (.ok () parted) :=
    assign_comesTo quiet (by decide) (plain _ (by decide)) (flat _ (by decide)) (plain_valueText (by decide) (by decide))
  have apart : parted.separators = slashes := by
    have held : parted.value? "IFS" = some "/" := by
      change (given s "IFS" "/").value? "IFS" = _
      rw [given_value, if_pos rfl]
    unfold Session.separators
    rw [held]
    rfl
  have fetched_ := readItems_comesTo (E := E) calm (by decide) (by decide) (given_ordinarily (plain "parr" (by decide)))
    apart reads input solid fed
  have alone : (taken.scopes.headD []).lookup "outp" = none := by
    change ((listing _ "parr" _).scopes.headD []).lookup "outp" = none
    unfold listing Session.setContent
    rw [head_put (by decide)]
    change ((given s "IFS" "/").scopes.headD []).lookup "outp" = none
    unfold given
    rw [head_put (by decide), fresh]
  have ordinary : Ordinarily taken "outp" := listing_ordinarily (given_ordinarily (plain "outp" (by decide)))
  have declared := declareItems_comesTo (E := E) still (by decide) (by decide) ordinary inside alone
  exact script_cons quiet (located_comesTo _ assigned) (script_cons calm (located_comesTo _ fetched_)
    (script_cons still (located_comesTo _ declared) ran))

-- The array of names is empty before the pieces are looked at.
theorem fetched_stage (settles : Settles s front behind text) {k : Nat} :
    Stage (entered (fetched s k text) (fieldsOf text.toList)) (entered (fetched s k text) (fieldsOf text.toList)) [] := by
  obtain ⟨quiet, draws, reads, inside, fresh, plain, flat⟩ := settles
  have known : ∀ x ∈ ["IFS", "outp", "len", "i"], x ∈ ["IFS", "parr", "outp", "len", "i"] := by decide
  have counters : ∀ x ∈ ["len", "i"], x ∈ ["IFS", "len", "i"] ∧ x ≠ "outp" ∧ x ≠ "parr" := by decide
  refine ⟨⟨_, _, rfl⟩, ?_, arrayed_lists, fun x member => ?_, fun x member v found => ?_⟩
  · change (arrayed (listing ((given s "IFS" "/").setTextOf k _) "parr" _) "outp").value? "IFS" = some "/"
    unfold Session.value?
    rw [arrayed_find, if_neg (by decide), listing_find, if_neg (by decide)]
    change (given s "IFS" "/").value? "IFS" = some "/"
    rw [given_value, if_pos rfl]
  · exact arrayed_ordinarily (listing_ordinarily (given_ordinarily (plain x (known x member))))
  · obtain ⟨free, other, apart⟩ := counters x member
    change (arrayed (listing ((given s "IFS" "/").setTextOf k _) "parr" _) "outp").find? x = some v at found
    rw [arrayed_find, if_neg other, listing_find, if_neg apart] at found
    exact given_flat (flat x free) v found

-- The names to which a line leads.
def namesOf (text : List Char) : Place := (fieldsOf text).foldl stepped []

theorem loop_comesTo (settles : Settles s front behind text) {k : Nat} (small : (fieldsOf text.toList).length < 2 ^ 63) :
    ∃ t, Stage (fetched s k text) t (namesOf text.toList) ∧
      ComesTo ((piecesLoop n).run E) (fetched s k text) (.ok () t) := by
  have quiet : Quiet (fetched s k text) := settles.quiet
  have items : Yields (Word.fields E (quotedItems "parr")) (fetched s k text) (fieldsOf text.toList) := by
    refine items_fields quiet (by decide) ?_ ?_
    · exact arrayed_ordinarily (listing_ordinarily (given_ordinarily (settles.plain "parr" (by decide))))
    · obtain ⟨v, found, content⟩ := @listing_lists ((given s "IFS" "/").setTextOf k (String.ofList (behindLine text.toList)))
        "parr" (fieldsOf text.toList)
      refine ⟨v, ?_, content⟩
      change (arrayed _ "outp").find? "parr" = some v
      rw [arrayed_find, if_neg (by decide)]
      exact found
  have begun : Quiet (entered (fetched s k text) (fieldsOf text.toList)) := settles.quiet
  have enough : ([] : Place).length + (fieldsOf text.toList).length < 2 ^ 63 := by
    rwa [List.length_nil, Nat.zero_add]
  obtain ⟨r, ran, staged⟩ := @pieces_rounds E _ _ [] (n + 1) begun (Nat.succ_ne_zero _) (fetched_stage settles (k := k)) _ enough
  obtain ⟨⟨scopes, status, rfl⟩, parted, lists, plain, flat⟩ := staged
  exact ⟨_, ⟨⟨scopes, status, rfl⟩, parted, lists, plain, flat⟩, forIn_comesTo (x := "i") (by decide) items ran⟩

-- Everything that reads a line prints where it leads.
theorem settling_prints (settles : Settles s front behind text) (sound : Sound text) (fed : '\n' ∈ text.toList)
    (small : (fieldsOf text.toList).length < 2 ^ 63) (firm : Firm (Utility.placeText (namesOf text.toList)).toList) :
    Prints (runScript E (settling n)) s (front ++ (Utility.placeText (namesOf text.toList) ++ "\n") ::
      (behind ++ [String.ofList (behindLine text.toList)])) := by
  let k := front.length + 1 + behind.length
  obtain ⟨t, staged, looped⟩ := @loop_comesTo E s front behind text (n + 4) settles k small
  have quiet : Quiet (fetched s k text) := settles.quiet
  have calm : Quiet t := staged.quiet quiet
  have joined : t.joint = "/" := by
    unfold Session.joint
    rw [staged.parted]
    rfl
  have spelled := joined_spells (E := E) calm (by decide) (staged.plain "outp" (by decide)) staged.lists
  rw [joined] at spelled
  have reads : Reads E t [bare "echo", [.text "/", .double [.param "outp" [.text "*"] .braced]]]
      ["echo", Utility.placeText (namesOf text.toList)] :=
    reads_bare "echo" (by decide) (by decide) (reads_led_double (by decide) (by decide) reads_nil spelled)
  have draws : Draws t front (behind ++ [String.ofList (behindLine text.toList)]) := by
    obtain ⟨⟨scopes, status, rfl⟩, _⟩ := staged
    obtain ⟨leads, texts, own⟩ := settles.draws
    refine ⟨leads, ?_, own⟩
    change s.texts.set k _ = _
    have place : k - front.length = behind.length + 1 := by omega
    rw [texts, List.set_append_right _ _ (by omega), place, List.set_cons_succ, List.set_append_right _ _ (Nat.le_refl _),
      Nat.sub_self, List.set_cons_zero]
  have plain : (Utility.placeText (namesOf text.toList)).toList.head? ≠ some '-' := by
    obtain ⟨rest, led⟩ := @placeText_led (namesOf text.toList)
    rw [led]
    nofun
  have echoed := said_comesTo calm calm reads.comesTo rfl draws plain firm
  have ran := @fetched_comesTo E s front behind text n settles sound.solid fed _ _
    (script_cons quiet (located_comesTo (n + 4) looped) (script_one calm (located_comesTo (n + 19) echoed)))
  obtain ⟨⟨scopes, status, rfl⟩, _⟩ := staged
  exact ⟨_, _, _, ran⟩

end Settling

-- The names of the variables that the function uses.
def pathNames : List String := ["PWD", "BASH_REMATCH", "the_path", "IFS", "parr", "outp", "len", "i"]

-- A session in which the function is at hand, in a directory.
structure Pathing (s : Session) (here : String) : Prop where
  quiet : Quiet s
  place : s.value? "PWD" = some here
  plain : ∀ x ∈ pathNames, Ordinarily s x
  flat : ∀ x ∈ ["IFS", "len", "i"], Flat s x
  filled : s.scopes ≠ []
  defined : ∃ f n, s.functions.lookup "bw_absolute_path" = some f ∧ f.body = absoluteBody n

-- Another session in which the variables hold the same, but for what was matched last.
theorem Pathing.alike {s t : Session} {here : String} (pathing : Pathing s here) (quiet : Quiet t)
    (same : ∀ x ∈ pathNames, x ≠ "BASH_REMATCH" → t.find? x = s.find? x) (matchable : Ordinarily t "BASH_REMATCH")
    (filled : t.scopes ≠ []) (functions : t.functions = s.functions) : Pathing t here := by
  have counters : ∀ x ∈ ["IFS", "len", "i"], x ∈ pathNames ∧ x ≠ "BASH_REMATCH" := by decide
  refine ⟨quiet, ?_, fun x member => ?_, fun x member v found => ?_, filled, ?_⟩
  · unfold Session.value?
    rw [same "PWD" (by decide) (by decide)]
    exact pathing.place
  · by_cases matched : x = "BASH_REMATCH"
    · rw [matched]
      exact matchable
    · intro v found
      rw [same x member matched] at found
      exact pathing.plain x member v found
  · obtain ⟨listed, other⟩ := counters x member
    rw [same x listed other] at found
    exact pathing.flat x member v found
  · rw [functions]
    exact pathing.defined

section Rooted

-- What asks whether a path begins at the root.
def rooted : Expression := ⟨.seq (.seq .empty .start) (.char '/'), 0⟩

theorem rooted_read : Regex.ofMarked? ("^/".toList.map fun c => (c, false)) = some rooted := by decide

theorem rooted_found (p : String) : (rooted.matched? false p.toList).isSome = decide (p.toList.head? = some '/') := by
  have begins : Begins rooted.regex (1 * letters (· == '/')) := begins_seq begins_start (matches_char '/')
  have found := @begins_found p.toList _ _ begins
  unfold Expression.matched?
  rw [Option.isSome_map, Bool.eq_iff_iff, found, one_mul, decide_eq_true_eq]
  constructor
  · rintro ⟨m, ⟨c, same, rfl⟩, rest, parted⟩
    rw [← parted, beq_iff_eq.mp same]
    rfl
  · intro led
    obtain ⟨rest, shape⟩ := List.head?_eq_some_iff.mp led
    exact ⟨['/'], ⟨'/', rfl, rfl⟩, rest, shape.symm⟩

end Rooted

section Body

variable {E : Engine} {c : Session} {here p : String} {marks : String → Bool} {status n : Nat}

-- A session in which the function runs, with a path as its argument.
structure Runs (c : Session) (marks : String → Bool) (here p : String) : Prop where
  pathing : Pathing c here
  inside : c.isInFunction = true
  args : c.args = [p]
  inherits : ∀ x, marks x = ((c.find? x).map (·.exported)).getD false

-- The session once the path has been matched.
def asked (c : Session) (p : String) : Session := rematch c (rooted.matched? false p.toList)

theorem asked_pathing {s : Session} (pathing : Pathing s here) : Pathing (asked s p) here :=
  pathing.alike pathing.quiet (fun _ _ other => rematch_other other) (rematch_ordinarily (pathing.plain _ (by decide)))
    putIn_filled rfl

-- The path is made whole.
theorem whole_comesTo (runs : Runs c marks here p) :
    ComesTo (runScript E ((absoluteLines n).take 2)) (within c marks [] status)
      (.ok () (within (asked c p) marks [("the_path", .text (fullText here p))] 0)) := by
  have quiet := runs.pathing.quiet
  have calm : ∀ held status, Quiet (within c marks held status) := fun _ _ => quiet
  have still : ∀ held status, Quiet (within (asked c p) marks held status) := fun _ _ => quiet
  let held : Held := [("the_path", .declared)]
  have reads : Reads E (within c marks [] status) (["local", "the_path"].map bare)
      ("local" :: [("the_path", none)].map Declared.text) :=
    reads_bare "local" (by decide) (by decide) (reads_bare "the_path" (by decide) (by decide) reads_nil)
  have declared := local_comesTo quiet runs.inside (List.cons_ne_nil _ _) reads (by
    intro d member
    rw [List.mem_singleton.mp member]
    exact ⟨by decide, rfl, runs.pathing.plain "the_path" (by decide), runs.inherits _⟩) (List.nodup_singleton _)
  have argument : ∀ held status, Stands (within (asked c p) marks held status) "1" (some p) :=
    fun held status => stands_first runs.args
  let w : Session := within c marks held 0
  let sheltered : Session := { w with shielded := true }
  let found := rooted.matched? false p.toList
  have missed : ComesTo (runScript E [.located (n + 2) (.test relative)]) sheltered
      (.ok () { rematch sheltered found with status := if found.isSome then 1 else 0 }) :=
    script_one (s := sheltered) quiet (located_comesTo _ (misses_comesTo (s := sheltered) quiet rfl
      (value_spells (s := sheltered) quiet (stands_first runs.args)) (bare_marked (by decide)) rooted_read))
  have left : ∀ k, { rematch sheltered found with status := k, shielded := w.shielded } =
      within (asked c p) marks held k := by
    intro k
    have same : rematch w found = within (asked c p) marks held 0 := rematch_within rfl runs.pathing.filled
    change { rematch w found with status := k } = _
    rw [same]
    rfl
  refine script_cons (calm _ _) (located_comesTo _ declared) (script_one (calm _ _) (located_comesTo _ ?_))
  unfold fullText
  by_cases led : p.toList.head? = some '/'
  · have some_ : found.isSome = true := by rw [rooted_found, decide_eq_true led]
    have assigned : ComesTo (runScript E [.located (n + 5) (assignQuoted "the_path" [ref "1"])])
        (within (asked c p) marks held (if found.isSome then 1 else 0))
        (.ok () (within (asked c p) marks [("the_path", .text p)] 0)) :=
      script_one (still _ _) (located_comesTo _ (assign_within quiet (by decide) rfl rfl
        (double_valueText (value_spells (still _ _) (argument _ _)))))
    rw [← left] at assigned
    rw [if_pos led]
    exact if_fails missed (by rw [some_]; exact Nat.one_ne_zero) assigned
  · have none_ : found.isSome = false := by rw [rooted_found, decide_eq_false led]
    have directory : ∀ status, Stands (within (asked c p) marks held status) "PWD" (some here) := by
      intro status
      have pathing := asked_pathing (p := p) runs.pathing
      have stands := @stands_own _ "PWD" (by decide)
        (@within_outside (asked c p) marks held status "PWD" rfl (pathing.plain "PWD" (by decide)))
      rw [Session.value?, within_absent rfl] at stands
      rwa [← pathing.place]
    have spelled : Spells E (within (asked c p) marks held (if found.isSome then 1 else 0)) [ref "PWD", .text "/", ref "1"]
        (here ++ "/" ++ p) := by
      rw [String.append_assoc]
      exact spells_cons (value_spells (still _ _) (directory _)) (spells_cons (spells_text _)
        (value_spells (still _ _) (argument _ _)))
    have assigned : ComesTo (runScript E [.located (n + 3) (assignQuoted "the_path" [ref "PWD", .text "/", ref "1"])])
        (within (asked c p) marks held (if found.isSome then 1 else 0))
        (.ok () (within (asked c p) marks [("the_path", .text (here ++ "/" ++ p))] 0)) :=
      script_one (still _ _) (located_comesTo _ (assign_within quiet (by decide) rfl rfl (double_valueText spelled)))
    rw [← left] at assigned
    rw [if_neg led]
    exact if_holds missed (by rw [none_]; rfl) assigned

end Body

section Named

variable {here p : String}

theorem lineOf_fed (text : String) : lineOf (text ++ "\n").toList = lineOf text.toList := by
  unfold lineOf
  rw [String.toList_append]
  induction text.toList with
  | nil => rfl
  | cons c text more =>
    by_cases goes : (c != '\n') = true
    · rw [List.cons_append, List.takeWhile_cons_of_pos (p := (· != '\n')) goes,
        List.takeWhile_cons_of_pos (p := (· != '\n')) goes, more]
    · rw [List.cons_append, List.takeWhile_cons_of_neg (p := (· != '\n')) goes,
        List.takeWhile_cons_of_neg (p := (· != '\n')) goes]

theorem namesOf_full : namesOf (fullText here p ++ "\n").toList = placeOf here p := by
  obtain ⟨last, shape, pieces⟩ := @fields_pieces (lineOf (fullText here p).toList) _ (Nat.lt_succ_self _)
  unfold placeOf namesOf fieldsOf
  rw [settle_pieces, lineOf_fed]
  unfold firstLine Text.splitAt
  rw [String.toList_ofList]
  change _ = ((Text.Chars.splitAt '/' (lineOf (fullText here p).toList)).map String.ofList).foldl stepped []
  rw [pieces, List.foldl_append]
  rcases shape with rfl | rfl
  · rw [List.foldl_nil]
  · rw [List.foldl_cons, List.foldl_nil, stepped_empty]

theorem fieldsOf_few (small : (fullText here p).length + 1 < 2 ^ 63) :
    (fieldsOf (fullText here p ++ "\n").toList).length < 2 ^ 63 := by
  obtain ⟨last, -, pieces⟩ := @fields_pieces (lineOf (fullText here p).toList)
    ((lineOf (fullText here p).toList).length + 1) (Nat.lt_succ_self _)
  have few := pieces_few '/' (lineOf (fullText here p).toList)
  have shorter : (lineOf (fullText here p).toList).length ≤ (fullText here p).length :=
    Nat.le_trans (List.takeWhile_sublist _).length_le (Nat.le_of_eq String.length_toList)
  have count := congrArg List.length pieces
  rw [List.length_map, List.length_append] at count
  unfold fieldsOf
  rw [lineOf_fed]
  omega

theorem fullText_plain (led : here.toList.head? = some '/') : (fullText here p).toList.head? ≠ some '-' := by
  unfold fullText
  split
  · rename_i slash
    rw [slash]
    decide
  · obtain ⟨rest, shape⟩ := List.head?_eq_some_iff.mp led
    rw [String.toList_append, String.toList_append, shape]
    nofun

end Named

-- What is behind the first line of a path stays in the text that the path was printed into.
def leftBehind (here p : String) : String := String.ofList (behindLine (fullText here p ++ "\n").toList)

section Printed

variable {E deeper : Engine} {c d : Session} {here p : String} {marks : String → Bool} {front : List String} {status n : Nat}

-- What the copy that settles the path finds.
theorem fed_settles (runs : Runs c marks here p) (draws : Draws c front []) :
    Settles (fedBy (within (asked c p) marks [("the_path", .text (fullText here p))] 0) (fullText here p ++ "\n")) front []
      (fullText here p ++ "\n") := by
  have pathing := asked_pathing (p := p) runs.pathing
  have quiet : Quiet (within (asked c p) marks [("the_path", .text (fullText here p))] 0) := pathing.quiet
  have texts : (within (asked c p) marks [("the_path", .text (fullText here p))] 0).texts = front ++ [""] := draws.texts
  have known : ∀ x ∈ ["IFS", "parr", "outp", "len", "i"], x ∈ pathNames ∧ x ≠ "the_path" := by decide
  have counters : ∀ x ∈ ["IFS", "len", "i"], x ≠ "the_path" := by decide
  have absent : ∀ x, x ≠ "the_path" → List.lookup x [("the_path", Content.text (fullText here p))] = none := by
    intro x other
    rw [lookup_first, if_neg other]
    rfl
  refine ⟨fedBy_quiet quiet, ⟨?_, ?_, draws.own⟩, ?_, runs.inside, ?_, fun x member => ?_, fun x member v found => ?_⟩
  · exact (redirect_other _ (by decide) _).trans draws.leads
  · change _ ++ [_] = _
    rw [texts, List.append_assoc]
    rfl
  · refine (redirect_channel _ 0 _).trans ?_
    rw [texts, List.length_append]
    rfl
  · exact locals_lookup.trans (by rw [absent _ (by decide)]; rfl)
  · obtain ⟨listed, other⟩ := known x member
    exact @within_outside (asked c p) marks _ 0 x (absent x other) (pathing.plain x listed)
  · have same := @within_absent (asked c p) marks _ 0 x (absent x (counters x member))
    exact pathing.flat x member v (same.symm.trans found)

theorem body_prints (runs : Runs c marks here p) (draws : Draws c front []) (led : here.toList.head? = some '/') (first : Sound here)
    (second : Sound p) (small : (fullText here p).length + 1 < 2 ^ 63) :
    ComesTo (runScript E (absoluteLines n)) (within c marks [] status)
      (.ok () { within (asked c p) marks [("the_path", .text (fullText here p))] 0 with
        texts := front ++ (absolutePath here p ++ "\n") :: [leftBehind here p] }) := by
  let s : Session := within (asked c p) marks [("the_path", .text (fullText here p))] 0
  have quiet : Quiet s := runs.pathing.quiet
  have up : Quiet (upstream s) := copy_quiet (s := (s.addText "").1) quiet
  have full := fullText_sound first second
  have stands : Stands (upstream s) "the_path" (some (fullText here p)) := by
    have plain : Ordinarily s "the_path" := within_ordinarily rfl
    have held : s.value? "the_path" = some (fullText here p) := by
      unfold Session.value?
      rw [within_held rfl]
      rfl
    have stands := stands_own (s := upstream s) (by decide) plain
    rwa [show (upstream s).value? "the_path" = _ from held] at stands
  have spelled : Spells E (upstream s) [ref "the_path"] (fullText here p) := value_spells up stands
  have reads : Reads E (upstream s) [bare "echo", quotedRef "the_path"] ["echo", fullText here p] :=
    reads_bare "echo" (by decide) (by decide) (reads_double [fullText here p] (double_fields spelled) reads_nil)
  have line : Sound (fullText here p ++ "\n") := by
    refine ⟨line_firm full.firm, ?_⟩
    rw [String.toList_append]
    simp [full.solid]
  have ends : Utility.placeText (namesOf (fullText here p ++ "\n").toList) = absolutePath here p := by
    rw [namesOf_full]
    rfl
  have room : s.shared ≤ s.texts.length := by
    change c.shared ≤ c.texts.length
    rw [draws.texts, List.length_append]
    exact Nat.le_trans draws.own (Nat.le_add_right _ _)
  have prints := settling_prints (E := E) (n := n + 7) (fed_settles runs draws) line (by rw [String.toList_append]; simp)
    (fieldsOf_few small) (by rw [ends]; exact (absolutePath_sound first second).firm)
  rw [ends] at prints
  have whole : ComesTo (runScript E ((absoluteLines n).take 2)) (within c marks [] status) (.ok () s) := whole_comesTo runs
  have piped := @piped_comesTo E s _ _ (settling (n + 7)) _ (n + 7) (n + 7) quiet room (fullText_plain led) full.firm reads prints
  exact script_append whole (script_one quiet piped)

theorem absolute_prints (runs : E.script = runScript deeper) (pathing : Pathing d here) (draws : Draws d front [])
    (led : here.toList.head? = some '/') (first : Sound here) (second : Sound p) (small : (fullText here p).length + 1 < 2 ^ 63) :
    Prints (invoke E { fields := ["bw_absolute_path", p] }) d (front ++ (absolutePath here p ++ "\n") :: [leftBehind here p]) := by
  obtain ⟨f, n, found, body⟩ := pathing.defined
  have serves : ∀ line, Runs (opened d "bw_absolute_path" f [p] line) (marksOf d) here p := by
    intro line
    exact ⟨⟨pathing.quiet, pathing.place, pathing.plain, pathing.flat, pathing.filled, pathing.defined⟩, rfl, rfl, fun _ => rfl⟩
  have drawing_ : ∀ line, Draws (opened d "bw_absolute_path" f [p] line) front [] := fun _ => ⟨draws.leads, draws.texts, draws.own⟩
  refine @called_prints E deeper d _ f [p] _ _ n (localsOf (marksOf d) [("the_path", .text (fullText here p))]) (asked d p).scopes
    runs pathing.quiet found body fun line => ?_
  exact body_prints (serves line) (drawing_ line) led first second small

end Printed

end Toolwrap.Mounting
