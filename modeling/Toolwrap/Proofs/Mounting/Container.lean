import Toolwrap.Proofs.Mounting.Absolute

-- Where the paths of the host are found in a container, as the functions for it print them.

namespace Toolwrap.Mounting

open Shell Running

-- The programs that take the text of a place apart.
section Taking

variable {E : Engine} {path : String} {rest : List Char}

theorem operand_read (o : Utility.Options) (led : path.toList = '/' :: rest) : o.read [path] = .ok { operands := [path] } := by
  have operand : o.classify path = .ok .operand := by
    unfold Utility.Options.classify
    rw [led]
    rfl
  unfold Utility.Options.read
  rw [operand, Utility.Options.read]
  cases o.inFront <;> rfl

theorem printed_each (text : String) : Utility.outEach false [text] = Utility.out (text ++ "\n") :=
  congrArg Utility.out String.empty_append

theorem dirname_prints (led : path.toList = '/' :: rest) :
    Utility.dirname E [path] = (do Utility.out (Utility.directoryOf path ++ "\n"); return 0) := by
  unfold Utility.dirname
  rw [operand_read _ led, ← printed_each]
  rfl

theorem basename_prints (led : path.toList = '/' :: rest) :
    Utility.basename E [path] = (do Utility.out (Utility.lastOf path "" ++ "\n"); return 0) := by
  unfold Utility.basename Utility.withCall
  simp only [operand_read _ led, ← printed_each]
  rfl

end Taking

section Asking

variable {E : Engine} {d : Session} {name x path out : String} {front behind : List String} {utility : Utility}

-- A program of the host that prints a line.
theorem host_prints (quiet : Quiet d) (hosts : Hosts d name) (used : isStarted name = true)
    (known : Utility.named? name = some utility) (prints : utility E [x] = (do Utility.out (out ++ "\n"); return 0))
    (draws : Draws d front behind) (firm : Firm out.toList) :
    Prints (invoke E { fields := [name, x] }) d (front ++ (out ++ "\n") :: behind) := by
  obtain ⟨path, started⟩ := hosts [x]
  obtain ⟨hashed, same⟩ := remember_parts d name path 1
  let u : Session := { d with hashed }
  let p := hosted name (u.environmentFor path) (Run.copyOf u)
  have drawing_ : Draws p front behind := ⟨draws.leads, draws.texts, draws.own⟩
  have printed : Gives (do Run.setStatus (← utility E [x])) p () { p with texts := front ++ (out ++ "\n") :: behind, status := 0 } := by
    intro m
    have wrote : Utility.out (out ++ "\n") (leaving p m) = .ok () (leaving { p with texts := front ++ (out ++ "\n") :: behind } m) := by
      unfold Utility.out Run.print
      rw [modify_ok, write_leaving, ← drawn_write drawing_ (line_firm firm)]
      rfl
    have worked : utility E [x] (leaving p m) = .ok 0 (leaving { p with texts := front ++ (out ++ "\n") :: behind } m) := by
      rw [prints, bind_ok wrote]
      rfl
    exact (bind_ok worked).trans rfl
  exact ⟨d.scopes, hashed, d.givesWay,
    invoke_program quiet used (host_comesTo used known started same (Or.inl ⟨printed.comesTo, rfl⟩) rfl rfl)⟩

-- What is called on the value of one variable.
theorem asked_of {v : String} {texts : List String} (quiet : Quiet d) (tame : name.toList.all isTame = true) (filled : name ≠ "")
    (other : name ∉ ["command", "builtin", "exec"]) (stands : Stands d x (some v))
    (prints : Prints (invoke E { fields := [name, v] }) d texts) : ∃ scopes hashed givesWay,
      ComesTo ((run [bare name, quotedRef x]).run E) d (.ok () { d with scopes, hashed, givesWay, texts, status := 0 }) := by
  obtain ⟨scopes, hashed, givesWay, ran⟩ := prints
  have reads : Reads E d [bare name, quotedRef x] [name, v] :=
    reads_bare name tame filled (reads_double [v] (double_fields (value_spells quiet stands)) reads_nil)
  exact ⟨scopes, hashed, givesWay, simple_ok quiet reads (List.cons_ne_nil _ _) (not_exec other) ran quiet rfl (Or.inl rfl)⟩

theorem made_prints {v : String} {texts : List String} (quiet : Quiet d) (tame : name.toList.all isTame = true) (filled : name ≠ "")
    (other : name ∉ ["command", "builtin", "exec"]) (stands : Stands d x (some v))
    (prints : Prints (invoke E { fields := [name, v] }) d texts) :
    Prints (runScript E (outputBody [.located 0 (run [bare name, quotedRef x])])) d texts := by
  obtain ⟨scopes, hashed, givesWay, called⟩ := asked_of quiet tame filled other stands prints
  exact ⟨scopes, hashed, givesWay, script_one quiet (located_comesTo 0 called)⟩

end Asking

section Made

variable {E deeper : Engine} {c : Session} {marks : String → Bool} {held : Held} {k : Content} {name x own value : String}
  {more : List String} {status : Nat}

-- A variable of a function is given what is made of another one.
theorem made_assigned (runs : E.script = runScript deeper) (quiet : Quiet c) (mine : isOwn own = true)
    (there : held.lookup own = some k) (flat : k.isArray = false) (sound : Sound value) (whole : '\n' ∉ value.toList)
    (prints : ∀ line, Prints (runScript deeper (outputBody [.located 0 (run [bare name, quotedRef x])]))
      (drawing (within c marks held status) line) (c.texts ++ (value ++ "\n") :: more)) :
    ComesTo ((assign own [madeOf name x]).run E) (within c marks held status)
      (.ok () (within { c with texts := c.texts ++ (value ++ "\n") :: more } marks (kept held own (.text value)) 0)) := by
  let s := within c marks held status
  have calm : Quiet s := quiet
  rw [← runs] at prints
  have captured := captured_prints (s := s) calm prints sound.solid whole
  refine output_assigned calm captured calm (t := within { c with texts := c.texts ++ (value ++ "\n") :: more } marks
    (kept held own (.text value)) 0) ?_ quiet rfl
  exact @within_store { c with texts := c.texts ++ (value ++ "\n") :: more } marks held 0 own value k mine there flat

end Made

-- The text of a place without a slash at its end.
theorem shortened {place : Place} (settled : Settled place) :
    bareTrim true false "/" (Utility.placeText place) = String.ofList (slashed place) := by
  have read : Pattern.ofMarked true ("/".toList.map fun c => (c, false)) = [.char '/'] := rfl
  unfold bareTrim Pattern.trim
  rw [read, if_pos rfl]
  cases place using List.reverseRecOn with
  | nil => exact congrArg String.ofList (@trim_last [] '/')
  | append_singleton place name =>
    have step := settled name (List.mem_append_right _ (List.mem_singleton_self _))
    have filled : name.toList ≠ [] := mt String.toList_eq_nil_iff.mp step.filled
    have other : (slashed place ++ '/' :: name.toList).getLast? ≠ some '/' := by
      intro last
      rw [List.append_cons, List.getLast?_append_of_ne_nil _ filled] at last
      exact step.whole (List.mem_of_getLast? last)
    rw [placeText_snoc, trim_other_last other, slashed_snoc]

-- The directory above a path, and the name of the path in it.
def upper (here p : String) : String := Utility.placeText (placeOf here p).dropLast

def lastName (here p : String) : String := ((placeOf here p).getLast?).getD ""

section Parted

variable {here p : String}

theorem upper_sound (first : Sound here) (second : Sound p) : Sound (upper here p) :=
  placeText_sound (fun _ member => placeOf_firm first second (List.dropLast_subset _ member))
    (fun _ member inside => (fullText_sound first second).solid (placeOf_chars (List.dropLast_subset _ member) _ inside).1)

theorem upper_whole : '\n' ∉ (upper here p).toList := by
  intro member
  rcases placeText_mem member with slash | ⟨name, listed, inside⟩
  · cases slash
  · exact (placeOf_chars (List.dropLast_subset _ listed) _ inside).2 rfl

variable (filled : placeOf here p ≠ [])
include filled

theorem place_parted : placeOf here p = (placeOf here p).dropLast ++ [lastName here p] := by
  unfold lastName
  rw [List.getLast?_eq_getLast_of_ne_nil filled, Option.getD_some, List.dropLast_append_getLast]

theorem parted_settled : Settled ((placeOf here p).dropLast ++ [lastName here p]) := by
  rw [← place_parted filled]
  exact placeOf_settled here p

theorem lastName_listed : lastName here p ∈ placeOf here p := by
  rw [place_parted filled]
  exact List.mem_append_right _ (List.mem_singleton_self _)

theorem lastName_sound (first : Sound here) (second : Sound p) : Sound (lastName here p) :=
  ⟨placeOf_firm first second (lastName_listed filled),
    fun inside => (fullText_sound first second).solid (placeOf_chars (lastName_listed filled) _ inside).1⟩

theorem lastName_whole : '\n' ∉ (lastName here p).toList :=
  fun inside => (placeOf_chars (lastName_listed filled) _ inside).2 rfl

theorem absolutePath_parted : absolutePath here p = Utility.placeText ((placeOf here p).dropLast ++ [lastName here p]) := by
  rw [← place_parted filled]
  rfl

theorem directoryOf_path : Utility.directoryOf (absolutePath here p) = upper here p := by
  rw [absolutePath_parted filled]
  exact directoryOf_snoc (parted_settled filled)

theorem lastOf_path : Utility.lastOf (absolutePath here p) "" = lastName here p := by
  rw [absolutePath_parted filled]
  exact lastOf_snoc (parted_settled filled)

-- The two make the path again.
theorem shortened_joined : bareTrim true false "/" (upper here p) ++ ("/" ++ lastName here p) = absolutePath here p := by
  unfold upper
  rw [shortened fun name member => placeOf_settled here p name (List.dropLast_subset _ member), ← String.toList_inj,
    absolutePath_parted filled, placeText_snoc, String.toList_append, String.toList_append, String.toList_ofList]
  rfl

end Parted

-- The names of the variables that the functions use, beside those of the one for paths.
def hostNames : List String := "PATH" :: "abs_path" :: "source_dir" :: pathNames

-- A session in which the functions are at hand, and the programs that they start.
structure Hosting (s : Session) (here : String) : Prop where
  pathing : Pathing s here
  plain : ∀ x ∈ ["abs_path", "source_dir"], Ordinarily s x
  directories : Hosts s "dirname"
  names : Hosts s "basename"
  room : s.shared ≤ s.texts.length
  automount : ∃ f n, s.functions.lookup "bw_automount" = some f ∧ f.body = automountBody n
  volume : ∃ f n, s.functions.lookup "bw_automount_arg" = some f ∧ f.body = volumeBody n

-- A session in which the body of one of them runs.
structure Serves (c : Session) (marks : String → Bool) (here p : String) (front : List String) : Prop where
  hosting : Hosting c here
  inside : c.isInFunction = true
  args : c.args = [p]
  inherits : ∀ x, marks x = ((c.find? x).map (·.exported)).getD false
  draws : Draws c front []
  led : here.toList.head? = some '/'
  first : Sound here
  second : Sound p
  small : (fullText here p).length + 1 < 2 ^ 63

section Serving

variable {E deeper deepest : Engine} {c : Session} {marks : String → Bool} {held : Held} {k : Content} {here p : String}
  {front : List String} {status n : Nat}

-- A variable of the function is given the absolute path of the argument.
theorem path_taken (serves : Serves c marks here p front) (runs : E.script = runScript deeper)
    (deeply : deeper.script = runScript deepest) (there : held.lookup "abs_path" = some k) (flat : k.isArray = false)
    (free : ∀ x ∈ pathNames, held.lookup x = none) :
    ComesTo ((assign "abs_path" [madeOf "bw_absolute_path" "1"]).run E) (within c marks held status)
      (.ok () (within { c with texts := c.texts ++ (absolutePath here p ++ "\n") :: [leftBehind here p] } marks
        (kept held "abs_path" (.text (absolutePath here p))) 0)) := by
  have quiet := serves.hosting.pathing.quiet
  let s := within c marks held status
  have calm : Quiet s := quiet
  have room : s.shared ≤ s.texts.length := serves.hosting.room
  have sound := absolutePath_sound serves.first serves.second
  refine made_assigned runs quiet (by decide) there flat sound absolutePath_whole fun line => ?_
  obtain ⟨still, draws⟩ := draws_line calm room line
  have pathing : Pathing (drawing s line) here := by
    refine serves.hosting.pathing.alike still (fun x member _ => @within_absent c marks held status x (free x member)) ?_ (List.cons_ne_nil _ _) rfl
    exact @within_outside c marks held status _ (free _ (by decide)) (serves.hosting.pathing.plain _ (by decide))
  have stands : Stands (drawing s line) "1" (some p) := stands_first serves.args
  exact made_prints still (by decide) (by decide) (by decide) stands
    (absolute_prints deeply pathing draws serves.led serves.first serves.second serves.small)

-- A question for a directory.
theorem directory_asked {s : Session} {v : String} (quiet : Quiet s) (stands : Stands s "abs_path" (some v)) (sheltered : s.shielded = true) :
    ComesTo (isDirectory.run E) s (.ok () { s with status := if s.entryAt? v == some .directory then 0 else 1 }) := by
  have reads : Reads E s ([bare "-d", quotedRef "abs_path"] ++ [bare "]"]) (["-d", v] ++ ["]"]) :=
    reads_bare "-d" (by decide) (by decide) (reads_double [v] (double_fields (value_spells quiet stands))
      (reads_bare "]" (by decide) (by decide) reads_nil))
  exact bracket_comesTo (s.entryAt? v == some .directory) quiet reads (fun _ => rfl) (Or.inr (Or.inl sheltered))

-- What the variables hold, where an output is taken.
theorem drawn_stands {x v : String} {line : Nat} (own : isOwn x = true) (there : held.lookup x = some (.text v)) :
    Stands (drawing (within c marks held status) line) x (some v) := by
  have value : (drawing (within c marks held status) line).value? x = some v :=
    congrArg (·.bind fun v => v.content.value?) (@within_held c marks _ status x _ there)
  rw [← value]
  exact stands_own (s := drawing (within c marks held status) line) own (@within_ordinarily c marks held status _ _ there)

theorem drawn_paths {line : Nat} (free : held.lookup "PATH" = none) :
    (drawing (within c marks held status) line).value? "PATH" = c.value? "PATH" :=
  congrArg (·.bind fun v => v.content.value?) (@within_absent c marks held status "PATH" free)

theorem directory_taken (runs : E.script = runScript deeper) (quiet : Quiet c) (hosts : Hosts c "dirname")
    (room : c.shared ≤ c.texts.length) (filled : placeOf here p ≠ []) (first : Sound here) (second : Sound p)
    (path : held.lookup "abs_path" = some (.text (absolutePath here p))) (there : held.lookup "source_dir" = some k)
    (flat : k.isArray = false) (free : held.lookup "PATH" = none) :
    ComesTo ((assign "source_dir" [madeOf "dirname" "abs_path"]).run E) (within c marks held status)
      (.ok () (within { c with texts := c.texts ++ (upper here p ++ "\n") :: [] } marks
        (kept held "source_dir" (.text (upper here p))) 0)) := by
  let s := within c marks held status
  have calm : Quiet s := quiet
  have sound := upper_sound first second
  refine made_assigned runs quiet (by decide) there flat sound upper_whole fun line => ?_
  obtain ⟨still, draws⟩ := draws_line (s := s) calm room line
  obtain ⟨rest, led⟩ : ∃ rest, (absolutePath here p).toList = '/' :: rest := placeText_led
  have prints : Utility.dirname deeper [absolutePath here p] = (do Utility.out (upper here p ++ "\n"); return 0) := by
    rw [dirname_prints led, directoryOf_path filled]
  exact made_prints still (by decide) (by decide) (by decide) (drawn_stands (by decide) path)
    (host_prints still (hosts_like hosts rfl rfl (drawn_paths free)) (by decide) rfl prints draws sound.firm)

theorem path_stands {path : String} (quiet : Quiet c) (there : held.lookup "abs_path" = some (.text path)) :
    Spells E (within c marks held status) [ref "abs_path"] path :=
  value_spells (s := within c marks held status) quiet (within_stands (by decide) there)

theorem within_draws {behind : List String} (draws : Draws c front behind) : Draws (within c marks held status) front behind :=
  ⟨draws.leads, draws.texts, draws.own⟩

theorem grown_draws {behind more : List String} (draws : Draws c front behind) :
    Draws { c with texts := c.texts ++ more } front (behind ++ more) := by
  refine ⟨draws.leads, ?_, draws.own⟩
  change c.texts ++ more = _
  rw [draws.texts, List.append_assoc]
  rfl

theorem grown_room {more : List String} (room : c.shared ≤ c.texts.length) : c.shared ≤ (c.texts ++ more).length := by
  rw [List.length_append]
  omega

-- What is asked of the path leads to one of two scripts.
theorem branches {yes no : Script} {r : Ending Unit} {path : String} (quiet : Quiet c)
    (there : held.lookup "abs_path" = some (.text path)) (some_ : no ≠ [])
    (holds : c.entryAt? path = some .directory → ComesTo (runScript E yes) (within c marks held 0) r)
    (fails : c.entryAt? path ≠ some .directory → ComesTo (runScript E no) (within c marks held 1) r) :
    ComesTo ((Command.ifThen [.located n isDirectory] yes no).run E) (within c marks held status) r := by
  let s := within c marks held status
  let sheltered : Session := { s with shielded := true }
  have stands : Stands sheltered "abs_path" (some path) := within_stands (c := { c with shielded := true }) (by decide) there
  have asked := script_one (s := sheltered) quiet (located_comesTo n (directory_asked (E := E) quiet stands rfl))
  by_cases same : c.entryAt? path = some .directory
  · have answer : (sheltered.entryAt? path == some .directory) = true := beq_iff_eq.mpr same
    rw [answer] at asked
    exact if_holds asked rfl (holds same)
  · have answer : (sheltered.entryAt? path == some .directory) = false := beq_eq_false_iff_ne.mpr same
    have filled : no.isEmpty = false := List.isEmpty_eq_false_iff.mpr some_
    rw [answer] at asked
    refine if_fails asked Nat.one_ne_zero ?_
    rw [filled]
    exact fails same

end Serving

-- The directory that is mounted for a path, and the volume that mounts it.
def hostDirectory (here p : String) (isDirectory : Bool) : String := if isDirectory then absolutePath here p else upper here p

def volumeText (host : String) : String := host ++ (":/bw_automount" ++ host)

-- What stays in the texts on the way to it.
def volumeLeft (here p : String) (isDirectory : Bool) : List String :=
  (absolutePath here p ++ "\n") :: [leftBehind here p] ++ if isDirectory then [] else [upper here p ++ "\n"]

def isDirectoryIn (s : Session) (path : String) : Bool := s.entryAt? path == some .directory

theorem directory_like (t s : Session) (tree : t.tree = s.tree) (here : t.here = s.here) (path : String) :
    isDirectoryIn t path = isDirectoryIn s path := by
  unfold isDirectoryIn
  rw [entryAt_like tree here]

theorem root_directory (s : Session) : s.entryAt? "/" = some .directory := by
  have walked : s.tree.walk s.here (Path.parse "/") = .ok [] := rfl
  have root : s.tree.entryAt? [] = some .directory := rfl
  unfold Session.entryAt? Session.place
  rw [walked]
  cases "/".endsWith "/" <;> rfl

section Volume

variable {E deeper deepest : Engine} {c : Session} {marks : String → Bool} {here p : String}
  {front : List String} {status n : Nat}

theorem place_filled {s : Session} (other : s.entryAt? (absolutePath here p) ≠ some .directory) : placeOf here p ≠ [] := by
  intro empty
  refine other ?_
  unfold absolutePath
  rw [empty]
  exact root_directory s

-- The variable for the directory is given what is mounted for the path.
theorem host_taken (runs : E.script = runScript deeper) (quiet : Quiet c) (hosts : Hosts c "dirname") (room : c.shared ≤ c.texts.length)
    (first : Sound here) (second : Sound p) :
    ComesTo ((Command.ifThen [.located (n + 3) isDirectory] [.located (n + 4) (assignQuoted "source_dir" [ref "abs_path"])]
      [.located (n + 6) (assign "source_dir" [madeOf "dirname" "abs_path"])]).run E)
      (within c marks [("abs_path", .text (absolutePath here p)), ("source_dir", .declared)] status)
      (.ok () (within { c with texts := c.texts ++ if isDirectoryIn c (absolutePath here p) then [] else [upper here p ++ "\n"] } marks
        [("abs_path", .text (absolutePath here p)),
          ("source_dir", .text (hostDirectory here p (isDirectoryIn c (absolutePath here p))))] 0)) := by
  let held : Held := [("abs_path", .text (absolutePath here p)), ("source_dir", .declared)]
  have calm : ∀ status, Quiet (within c marks held status) := fun _ => quiet
  refine branches quiet rfl (List.cons_ne_nil _ _) (fun holds => ?_) fun fails => ?_
  · have answer : isDirectoryIn c (absolutePath here p) = true := beq_iff_eq.mpr holds
    have taken : ComesTo ((assignQuoted "source_dir" [ref "abs_path"]).run E) (within c marks held 0)
        (.ok () (within c marks [("abs_path", .text (absolutePath here p)), ("source_dir", .text (absolutePath here p))] 0)) :=
      assign_within quiet (by decide) rfl rfl (double_valueText (path_stands quiet rfl))
    rw [answer, if_pos rfl, List.append_nil]
    exact script_one (calm 0) (located_comesTo _ taken)
  · have answer : isDirectoryIn c (absolutePath here p) = false := beq_eq_false_iff_ne.mpr fails
    have taken := @directory_taken E deeper c marks held .declared here p 1 runs quiet hosts room (place_filled fails) first second
      rfl rfl rfl rfl
    rw [answer, if_neg Bool.false_ne_true]
    exact script_one (calm 1) (located_comesTo _ taken)

theorem hostDirectory_led (isDirectory : Bool) : (hostDirectory here p isDirectory).toList.head? = some '/' := by
  obtain ⟨rest, led⟩ : ∃ rest, (hostDirectory here p isDirectory).toList = '/' :: rest := by
    cases isDirectory <;> exact placeText_led
  rw [led]
  rfl

theorem hostDirectory_sound (first : Sound here) (second : Sound p) (isDirectory : Bool) : Sound (hostDirectory here p isDirectory) := by
  cases isDirectory
  · exact upper_sound first second
  · exact absolutePath_sound first second

theorem mounted_firm {path : String} (led : path.toList.head? = some '/') (firm : Firm path.toList) :
    Firm ("/bw_automount" ++ path).toList := by
  obtain ⟨rest, shape⟩ := List.head?_eq_some_iff.mp led
  have behind : Firm rest := by
    rw [shape] at firm
    exact (firm_first (a := []) rfl (by decide) List.not_mem_nil firm).2
  rw [String.toList_append, shape]
  exact firm_join (firm_ascii (List.all_iff_forall_prop.mp (by decide))) rfl behind

theorem volume_firm {host : String} (led : host.toList.head? = some '/') (firm : Firm host.toList) : Firm (volumeText host).toList := by
  have mounted := mounted_firm led firm
  unfold volumeText
  rw [String.toList_append, String.toList_append]
  rw [String.toList_append] at mounted
  exact firm_join firm rfl mounted

-- The volume is printed.
theorem volume_said {held : Held} {host : String} {behind : List String} (quiet : Quiet c)
    (there : held.lookup "source_dir" = some (.text host)) (draws : Draws (within c marks held status) front behind)
    (led : host.toList.head? = some '/') (firm : Firm host.toList) :
    ComesTo ((run [bare "echo", [.double [ref "source_dir", .text ":/bw_automount", ref "source_dir"]]]).run E)
      (within c marks held status)
      (.ok () { within c marks held 0 with texts := front ++ (volumeText host ++ "\n") :: behind }) := by
  let s := within c marks held status
  have calm : Quiet s := quiet
  have stands : Stands s "source_dir" (some host) := within_stands (by decide) there
  have spelled : Spells E s [ref "source_dir", .text ":/bw_automount", ref "source_dir"] (volumeText host) :=
    spells_cons (value_spells calm stands) (spells_cons (spells_text _) (value_spells calm stands))
  have reads : Reads E s [bare "echo", [.double [ref "source_dir", .text ":/bw_automount", ref "source_dir"]]]
      ["echo", volumeText host] :=
    reads_bare "echo" (by decide) (by decide) (reads_double [volumeText host] (double_fields spelled) reads_nil)
  have first : (volumeText host).toList.head? ≠ some '-' := by
    unfold volumeText
    rw [String.toList_append, List.head?_append, led]
    nofun
  have said := said_comesTo calm calm reads.comesTo rfl draws first (volume_firm led firm)
  exact said

-- What is held behind the three commands that find the directory.
def volumeHeld (here p : String) (isDirectory : Bool) : Held :=
  [("abs_path", .text (absolutePath here p)), ("source_dir", .text (hostDirectory here p isDirectory))]

theorem volume_found (serves : Serves c marks here p front) (runs : E.script = runScript deeper)
    (deeply : deeper.script = runScript deepest) :
    ComesTo (runScript E ((volumeLines n).take 3)) (within c marks [] status)
      (.ok () (within { c with texts := c.texts ++ volumeLeft here p (isDirectoryIn c (absolutePath here p)) } marks
        (volumeHeld here p (isDirectoryIn c (absolutePath here p))) 0)) := by
  have quiet := serves.hosting.pathing.quiet
  have calm : ∀ held status, Quiet (within c marks held status) := fun _ _ => quiet
  let c₁ : Session := { c with texts := c.texts ++ (absolutePath here p ++ "\n") :: [leftBehind here p] }
  have still : ∀ held status, Quiet (within c₁ marks held status) := fun _ _ => quiet
  have reads : Reads E (within c marks [] status) (["local", "abs_path", "source_dir"].map bare)
      ("local" :: [("abs_path", none), ("source_dir", none)].map Declared.text) :=
    reads_bare "local" (by decide) (by decide) (reads_bare "abs_path" (by decide) (by decide)
      (reads_bare "source_dir" (by decide) (by decide) reads_nil))
  have declared := local_comesTo quiet serves.inside (List.cons_ne_nil _ _) reads (by
    intro d member
    rcases List.mem_cons.mp member with rfl | last
    · exact ⟨by decide, rfl, serves.hosting.plain _ (by decide), serves.inherits _⟩
    · rw [List.mem_singleton.mp last]
      exact ⟨by decide, rfl, serves.hosting.plain _ (by decide), serves.inherits _⟩) (by decide)
  have path := @path_taken E deeper deepest c marks [("abs_path", .declared), ("source_dir", .declared)] .declared here p front 0
    serves runs deeply rfl rfl (List.all_iff_forall_prop.mp (by decide))
  have room : c₁.shared ≤ c₁.texts.length :=
    grown_room (c := c) serves.hosting.room
  have host := @host_taken E deeper c₁ marks here p 0 n runs quiet (hosts_like serves.hosting.directories rfl rfl rfl) room
    serves.first serves.second
  have alike := directory_like c₁ c rfl rfl (absolutePath here p)
  have same : c₁.texts ++ (if isDirectoryIn c (absolutePath here p) then [] else [upper here p ++ "\n"]) =
      c.texts ++ volumeLeft here p (isDirectoryIn c (absolutePath here p)) := by
    unfold volumeLeft
    rw [← List.append_assoc]
  rw [alike, same] at host
  exact script_cons (calm _ _) (located_comesTo _ declared) (script_cons (calm _ _) (located_comesTo _ path)
    (script_one (still _ _) (located_comesTo _ host)))

-- The texts behind the first one are those that the directory and the path were printed into.
theorem volume_body (serves : Serves c marks here p front) (runs : E.script = runScript deeper)
    (deeply : deeper.script = runScript deepest) :
    ComesTo (runScript E (volumeLines n)) (within c marks [] status)
      (.ok () { within c marks (volumeHeld here p (isDirectoryIn c (absolutePath here p))) 0 with
        texts := front ++ (volumeText (hostDirectory here p (isDirectoryIn c (absolutePath here p))) ++ "\n") ::
          volumeLeft here p (isDirectoryIn c (absolutePath here p)) }) := by
  let isDirectory := isDirectoryIn c (absolutePath here p)
  let c₁ : Session := { c with texts := c.texts ++ volumeLeft here p isDirectory }
  have quiet : Quiet c₁ := serves.hosting.pathing.quiet
  have grown : Draws c₁ front (volumeLeft here p isDirectory) := @grown_draws c front [] (volumeLeft here p isDirectory) serves.draws
  have said := @volume_said E c₁ marks front 0 (volumeHeld here p isDirectory) (hostDirectory here p isDirectory)
    (volumeLeft here p isDirectory) quiet rfl (within_draws grown) (hostDirectory_led isDirectory)
    (hostDirectory_sound serves.first serves.second isDirectory).firm
  exact script_append (volume_found serves runs deeply)
    (script_one (s := within c₁ marks (volumeHeld here p isDirectory) 0) quiet (located_comesTo (n + 8) said))

end Volume

-- What is held, and what stays in the texts, where a path in the container is printed.
def automountHeld (here p : String) (isDirectory : Bool) : Held :=
  ("abs_path", .text (absolutePath here p)) :: if isDirectory then [] else [("source_dir", .text (upper here p))]

def automountLeft (here p : String) (isDirectory : Bool) : List String :=
  (absolutePath here p ++ "\n") :: [leftBehind here p] ++
    if isDirectory then [] else [upper here p ++ "\n", lastName here p ++ "\n"]

def inside (path : String) : String := "/bw_automount" ++ path

section Automount

variable {E deeper deepest : Engine} {c : Session} {marks : String → Bool} {held : Held} {here p path : String}
  {front behind : List String} {status n : Nat}

theorem inside_plain : (inside path).toList.head? ≠ some '-' := by
  unfold inside
  rw [String.toList_append]
  nofun

theorem whole_said (quiet : Quiet c) (there : held.lookup "abs_path" = some (.text path))
    (draws : Draws c front behind) (led : path.toList.head? = some '/') (firm : Firm path.toList) :
    ComesTo ((run [bare "echo", [.double [inContainer, ref "abs_path"]]]).run E) (within c marks held status)
      (.ok () { within c marks held 0 with texts := front ++ (inside path ++ "\n") :: behind }) := by
  let s := within c marks held status
  have calm : Quiet s := quiet
  have spelled : Spells E s [inContainer, ref "abs_path"] (inside path) := spells_cons (spells_text _) (path_stands quiet there)
  have reads : Reads E s [bare "echo", [.double [inContainer, ref "abs_path"]]] ["echo", inside path] :=
    reads_bare "echo" (by decide) (by decide) (reads_double [inside path] (double_fields spelled) reads_nil)
  have said := said_comesTo calm calm reads.comesTo rfl (within_draws draws) inside_plain (mounted_firm led firm)
  exact said

-- The name is taken while the line is made, and stays in the texts behind it.
theorem parted_said (runs : E.script = runScript deeper) (quiet : Quiet c) (hosts : Hosts c "basename")
    (room : c.shared ≤ c.texts.length) (filled : placeOf here p ≠ []) (first : Sound here) (second : Sound p)
    (there : held.lookup "abs_path" = some (.text (absolutePath here p)))
    (above : held.lookup "source_dir" = some (.text (upper here p))) (free : held.lookup "PATH" = none)
    (draws : Draws c front behind) :
    ComesTo ((run [bare "echo", [.double [inContainer, .param "source_dir" [] (.trim true false (bare "/")), .text "/",
        madeOf "basename" "abs_path"]]]).run E) (within c marks held status)
      (.ok () { within c marks held 0 with
        texts := front ++ (inside (absolutePath here p) ++ "\n") :: (behind ++ [lastName here p ++ "\n"]) }) := by
  let s := within c marks held status
  have calm : Quiet s := quiet
  let t : Session := { s with texts := s.texts ++ (lastName here p ++ "\n") :: [], status := 0 }
  have still : Quiet t := quiet
  have sound := lastName_sound filled first second
  obtain ⟨rest, led⟩ : ∃ rest, (absolutePath here p).toList = '/' :: rest := placeText_led
  have prints : Utility.basename deeper [absolutePath here p] = (do Utility.out (lastName here p ++ "\n"); return 0) := by
    rw [basename_prints led, lastOf_path filled]
  have named : ComesTo (Part.expand E true (madeOf "basename" "abs_path")) s (.ok [.ofValue true (lastName here p)] t) := by
    refine output_expands calm (fun line => ?_) sound.solid (lastName_whole filled) true
    obtain ⟨quietly, drawn⟩ := draws_line (s := s) calm room line
    rw [runs]
    exact made_prints quietly (by decide) (by decide) (by decide) (drawn_stands (by decide) there)
      (host_prints quietly (hosts_like hosts rfl rfl (drawn_paths free)) (by decide) rfl prints drawn sound.firm)
  have trimmed : Spells E s [inContainer, .param "source_dir" [] (.trim true false (bare "/")), .text "/"]
      ("/bw_automount" ++ (bareTrim true false "/" (upper here p) ++ "/")) :=
    spells_cons (spells_text _) (spells_cons (trim_spells calm (within_stands (by decide) above) (by decide) true false)
      (spells_text _))
  have spelled := spellsTo_append trimmed.to (spellsTo_output named)
  rw [String.append_assoc, String.append_assoc, shortened_joined filled] at spelled
  have fields : ComesTo (commandFields E [bare "echo", [.double [inContainer, .param "source_dir" [] (.trim true false (bare "/")),
      .text "/", madeOf "basename" "abs_path"]]]) s (.ok { fields := ["echo", inside (absolutePath here p)] } t) :=
    named_reads (by decide) (by decide) spelled
  have grown : Draws t front (behind ++ [lastName here p ++ "\n"]) := @within_draws _ marks held front 0 _ (grown_draws (c := c) draws)
  have whole : (absolutePath here p).toList.head? = some '/' := by
    rw [led]
    rfl
  have said := said_comesTo calm still fields rfl grown inside_plain (mounted_firm whole (absolutePath_sound first second).firm)
  exact said

-- What is done where the path is no directory.
theorem parted_comesTo (runs : E.script = runScript deeper) (quiet : Quiet c) (running : c.isInFunction = true)
    (inherits : ∀ x, marks x = ((c.find? x).map (·.exported)).getD false) (plain : Ordinarily c "source_dir")
    (directories : Hosts c "dirname") (names : Hosts c "basename") (room : c.shared ≤ c.texts.length)
    (filled : placeOf here p ≠ []) (first : Sound here) (second : Sound p) (draws : Draws c front behind) :
    ComesTo (runScript E [.located (n + 6) (say ["local", "source_dir"]),
        .located (n + 7) (assign "source_dir" [madeOf "dirname" "abs_path"]),
        .located (n + 8) (run [bare "echo", [.double [inContainer, .param "source_dir" [] (.trim true false (bare "/")), .text "/",
          madeOf "basename" "abs_path"]]])]) (within c marks [("abs_path", .text (absolutePath here p))] status)
      (.ok () { within c marks [("abs_path", .text (absolutePath here p)), ("source_dir", .text (upper here p))] 0 with
        texts := front ++ (inside (absolutePath here p) ++ "\n") ::
          (behind ++ [upper here p ++ "\n"] ++ [lastName here p ++ "\n"]) }) := by
  let held : Held := [("abs_path", .text (absolutePath here p))]
  let c₁ : Session := { c with texts := c.texts ++ (upper here p ++ "\n") :: [] }
  have calm : ∀ held status, Quiet (within c marks held status) := fun _ _ => quiet
  have still : ∀ held status, Quiet (within c₁ marks held status) := fun _ _ => quiet
  have reads : Reads E (within c marks held status) (["local", "source_dir"].map bare)
      ("local" :: [("source_dir", none)].map Declared.text) :=
    reads_bare "local" (by decide) (by decide) (reads_bare "source_dir" (by decide) (by decide) reads_nil)
  have declared := local_comesTo quiet running (List.cons_ne_nil _ _) reads (by
    intro d member
    rw [List.mem_singleton.mp member]
    exact ⟨by decide, rfl, plain, inherits _⟩) (List.nodup_singleton _)
  have taken := @directory_taken E deeper c marks (held ++ [("source_dir", .declared)]) .declared here p 0
    runs quiet directories room filled first second rfl rfl rfl rfl
  have said := @parted_said E deeper c₁ marks (held ++ [("source_dir", .text (upper here p))]) here p front
    (behind ++ [upper here p ++ "\n"]) 0 runs quiet (hosts_like names rfl rfl rfl) (grown_room (c := c) room) filled first second rfl rfl rfl
    (grown_draws (c := c) draws)
  exact script_cons (calm _ _) (located_comesTo _ declared) (script_cons (calm _ _) (located_comesTo _ taken)
    (script_one (still _ _) (located_comesTo _ said)))

theorem automount_body (serves : Serves c marks here p front) (runs : E.script = runScript deeper)
    (deeply : deeper.script = runScript deepest) :
    ComesTo (runScript E (automountLines n)) (within c marks [] status)
      (.ok () { within c marks (automountHeld here p (isDirectoryIn c (absolutePath here p))) 0 with
        texts := front ++ (inside (absolutePath here p) ++ "\n") ::
          automountLeft here p (isDirectoryIn c (absolutePath here p)) }) := by
  have quiet := serves.hosting.pathing.quiet
  let c₁ : Session := { c with texts := c.texts ++ (absolutePath here p ++ "\n") :: [leftBehind here p] }
  have calm : ∀ held status, Quiet (within c marks held status) := fun _ _ => quiet
  have still : ∀ held status, Quiet (within c₁ marks held status) := fun _ _ => quiet
  have alike : c₁.entryAt? (absolutePath here p) = c.entryAt? (absolutePath here p) := @entryAt_like c c₁ rfl rfl _
  have reads : Reads E (within c marks [] status) (["local", "abs_path"].map bare)
      ("local" :: [("abs_path", none)].map Declared.text) :=
    reads_bare "local" (by decide) (by decide) (reads_bare "abs_path" (by decide) (by decide) reads_nil)
  have declared := local_comesTo quiet serves.inside (List.cons_ne_nil _ _) reads (by
    intro d member
    rw [List.mem_singleton.mp member]
    exact ⟨by decide, rfl, serves.hosting.plain _ (by decide), serves.inherits _⟩) (List.nodup_singleton _)
  have path := @path_taken E deeper deepest c marks [("abs_path", .declared)] .declared here p front 0
    serves runs deeply rfl rfl (List.all_iff_forall_prop.mp (by decide))
  refine script_cons (calm _ _) (located_comesTo _ declared) (script_cons (calm _ _) (located_comesTo _ path)
    (script_one (still _ _) (located_comesTo _ ?_)))
  have grown : Draws c₁ front ((absolutePath here p ++ "\n") :: [leftBehind here p]) :=
    @grown_draws c front [] ((absolutePath here p ++ "\n") :: [leftBehind here p]) serves.draws
  refine branches (c := c₁) quiet rfl (List.cons_ne_nil _ _) (fun holds => ?_) fun fails => ?_
  · have answer : isDirectoryIn c (absolutePath here p) = true := beq_iff_eq.mpr (alike ▸ holds)
    have said := @whole_said E c₁ marks [("abs_path", .text (absolutePath here p))] (absolutePath here p) front _ 0 quiet rfl grown
      (hostDirectory_led (p := p) true) (absolutePath_sound serves.first serves.second).firm
    rw [answer]
    exact script_one (still _ _) (located_comesTo _ said)
  · have answer : isDirectoryIn c (absolutePath here p) = false := beq_eq_false_iff_ne.mpr (alike ▸ fails)
    have parted := @parted_comesTo E deeper c₁ marks here p front _ 1 n runs quiet serves.inside serves.inherits
      (serves.hosting.plain _ (by decide)) (hosts_like serves.hosting.directories rfl rfl rfl)
      (hosts_like serves.hosting.names rfl rfl rfl) (grown_room (c := c) serves.hosting.room) (place_filled (s := c₁) fails) serves.first
      serves.second grown
    rw [answer]
    exact parted

end Automount

section Printing

variable {E deeper deepest last : Engine} {d : Session} {here p : String} {front : List String}
  (hosting : Hosting d here) (draws : Draws d front []) (led : here.toList.head? = some '/') (first : Sound here)
  (second : Sound p) (small : (fullText here p).length + 1 < 2 ^ 63)

include hosting draws led first second small

theorem opened_serves (name : String) (f : Function) (line : Nat) : Serves (opened d name f [p] line) (marksOf d) here p front where
  hosting := {
    pathing := ⟨hosting.pathing.quiet, hosting.pathing.place, hosting.pathing.plain, hosting.pathing.flat, hosting.pathing.filled,
      hosting.pathing.defined⟩
    plain := hosting.plain
    directories := hosts_like hosting.directories rfl rfl rfl
    names := hosts_like hosting.names rfl rfl rfl
    room := hosting.room
    automount := hosting.automount
    volume := hosting.volume }
  inside := rfl
  args := rfl
  inherits _ := rfl
  draws := ⟨draws.leads, draws.texts, draws.own⟩
  led := led
  first := first
  second := second
  small := small

variable (runs : E.script = runScript deeper) (deeply : deeper.script = runScript deepest) (deep : deepest.script = runScript last)

include runs deeply deep

theorem volume_prints : Prints (invoke E { fields := ["bw_automount_arg", p] }) d
    (front ++ (volumeText (hostDirectory here p (isDirectoryIn d (absolutePath here p))) ++ "\n") ::
      volumeLeft here p (isDirectoryIn d (absolutePath here p))) := by
  obtain ⟨f, n, found, body⟩ := hosting.volume
  have serves := opened_serves hosting draws led first second small "bw_automount_arg" f
  refine @called_prints E deeper d _ f [p] _ _ n (localsOf (marksOf d)
    (volumeHeld here p (isDirectoryIn d (absolutePath here p)))) d.scopes runs hosting.pathing.quiet found body fun line => ?_
  have ran := @volume_body deeper deepest last _ _ here p front d.status n (serves line) deeply deep
  rw [directory_like (opened d _ f [p] line) d rfl rfl] at ran
  exact ran

theorem automount_prints : Prints (invoke E { fields := ["bw_automount", p] }) d
    (front ++ (inside (absolutePath here p) ++ "\n") :: automountLeft here p (isDirectoryIn d (absolutePath here p))) := by
  obtain ⟨f, n, found, body⟩ := hosting.automount
  have serves := opened_serves hosting draws led first second small "bw_automount" f
  refine @called_prints E deeper d _ f [p] _ _ n (localsOf (marksOf d)
    (automountHeld here p (isDirectoryIn d (absolutePath here p)))) d.scopes runs hosting.pathing.quiet found body fun line => ?_
  have ran := @automount_body deeper deepest last _ _ here p front d.status n (serves line) deeply deep
  rw [directory_like (opened d _ f [p] line) d rfl rfl] at ran
  exact ran

end Printing

end Toolwrap.Mounting
