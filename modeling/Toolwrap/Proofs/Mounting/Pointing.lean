import Toolwrap.Proofs.Mounting.Values

-- Paths that were mounted lead to the same files: what a rewritten path is in the container, the volume that
-- was added for it makes the absolute path on the host.

namespace Toolwrap.Mounting

open Shell Running Text.Chars
section Standing

variable {s : Session} {place : Place} {name : String}

-- The text of a place has the names of the place as its parts.
theorem slashed_split (settled : Settled place) : splitAt '/' (slashed place) = [] :: place.map String.toList := by
  induction place using List.reverseRecOn with
  | nil => rfl
  | append_singleton place name more =>
    have step := settled name (List.mem_append_right _ (List.mem_singleton_self _))
    rw [slashed_snoc, splitAt_append, splitAt_absent step.whole, more fun other member => settled other (List.mem_append_left _ member)]
    simp

theorem placeText_parts (settled : Settled place) : (Path.parse (Utility.placeText place)).parts = place := by
  have kept : ∀ name ∈ place, (name != "" && name != ".") = true := by
    intro name member
    simp [(settled name member).filled, (settled name member).dot]
  cases place with
  | nil => rfl
  | cons first place =>
    unfold Path.parse Text.splitAt
    rw [placeText_filled (List.cons_ne_nil _ _), slashed_split settled, List.map_cons, List.map_map]
    have same : (first :: place).map (String.ofList ∘ String.toList) = first :: place := by simp
    rw [same, List.filter_cons_of_neg (by decide), List.filter_eq_self.mpr kept]

theorem placeText_absolute : (Path.parse (Utility.placeText place)).isAbsolute = true := by
  obtain ⟨rest, led⟩ := @placeText_led place
  unfold Path.parse Path.isAbsolute
  rw [led]
  unfold Path.anchorOf
  split
  · rfl
  · rfl
  · rfl
  · rename_i other
    exact (other rest rfl).elim

theorem walk_step {t : FileTree} {start last : Place} {front : List String} {name : String}
    (walked : (front ++ [name]).foldlM t.step start = .ok last) : ∃ above, front.foldlM t.step start = .ok above ∧
      t.entryAt? above = some .directory := by
  rw [List.foldlM_append] at walked
  cases reached : front.foldlM t.step start with
  | error fault =>
    rw [reached] at walked
    cases walked
  | ok above =>
    refine ⟨above, rfl, ?_⟩
    rw [reached] at walked
    have stepped : t.step above name >>= (fun p => pure p) = .ok last := walked
    unfold FileTree.step at stepped
    cases standing : t.entryAt? above with
    | none =>
      rw [standing] at stepped
      cases stepped
    | some entry =>
      cases entry with
      | directory => rfl
      | file text executable =>
        rw [standing] at stepped
        cases stepped

-- The way from the root through the names of a place.
def wayTo (t : FileTree) (place : Place) : Except FileFault Place :=
  if place.any FileTree.isBadName then .error .badName else place.foldlM t.step []

theorem placed (settled : Settled place) : s.place (Utility.placeText place) = (do
    let reached ← wayTo s.tree place
    match (Utility.placeText place).endsWith "/", s.tree.entryAt? reached with
    | true, some (.file _ _) => .error .notDirectory
    | _, _ => .ok reached) := by
  obtain ⟨rest, led⟩ := @placeText_led place
  have filled : (Utility.placeText place).isEmpty = false := by
    rw [Bool.eq_false_iff, ne_eq, String.isEmpty_iff]
    intro empty
    rw [empty] at led
    cases led
  unfold Session.place FileTree.walk
  rw [filled, placeText_parts settled, placeText_absolute]
  simp only [Bool.false_eq_true, if_false, if_true]
  rfl

-- Where something stands, there is a directory above it.
theorem above_directory (settled : Settled (place ++ [name])) (there : s.entryAt? (Utility.placeText (place ++ [name])) ≠ none) :
    isDirectoryIn s (Utility.placeText place) = true := by
  have before : Settled place := fun other member => settled other (List.mem_append_left _ member)
  obtain ⟨last, walked⟩ : ∃ last, wayTo s.tree (place ++ [name]) = .ok last := by
    unfold Session.entryAt? at there
    rw [placed settled] at there
    cases walked : wayTo s.tree (place ++ [name]) with
    | error fault =>
      rw [walked] at there
      exact absurd rfl there
    | ok last => exact ⟨last, rfl⟩
  unfold wayTo at walked
  by_cases bad : (place ++ [name]).any FileTree.isBadName = true
  · rw [if_pos bad] at walked
    cases walked
  · rw [if_neg bad] at walked
    obtain ⟨above, goes, standing⟩ := walk_step walked
    have good : ¬ place.any FileTree.isBadName = true := by
      rw [List.any_append, Bool.or_eq_true] at bad
      exact fun some_ => bad (Or.inl some_)
    have way : wayTo s.tree place = .ok above := by
      unfold wayTo
      rw [if_neg good, goes]
    have found : s.place (Utility.placeText place) = .ok above := by
      rw [placed before, way]
      simp only [bind, Except.bind, standing]
      cases (Utility.placeText place).endsWith "/" <;> rfl
    unfold isDirectoryIn Session.entryAt?
    rw [found]
    exact beq_iff_eq.mpr standing

end Standing
-- Where a text leads as a path from the root.
def leads (text : String) : Place := (Path.parse text).settle []

-- What a path in the container is on the host, under a volume that mounts a directory.
def seenAs (host path : String) : Option Place :=
  ((leads ("/bw_automount" ++ host)).isPrefixOf? (leads path)).map (leads host ++ ·)

section Leading

variable {here p : String}

theorem leads_absolute : leads (absolutePath here p) = placeOf here p := placeText_settles (placeOf_settled here p)

-- Without a line feed, it is the path as it was given, from the directory in which it was given.
theorem leads_given (whole : '\n' ∉ (fullText here p).toList) : leads (absolutePath here p) = leads (fullText here p) := by
  rw [leads_absolute]
  unfold placeOf
  rw [firstLine_whole whole]
  rfl

theorem upper_settled : Settled (placeOf here p).dropLast :=
  fun name member => placeOf_settled here p name (List.dropLast_subset _ member)

theorem leads_upper : leads (upper here p) = (placeOf here p).dropLast := placeText_settles upper_settled

theorem leads_inside {place : Place} (settled : Settled place) :
    leads ("/bw_automount" ++ Utility.placeText place) = "bw_automount" :: place := automount_settles settled

-- The names below the mounted directory are the same on both sides.
theorem seenAs_home {above rest : Place} (settled : Settled (above ++ rest)) :
    seenAs (Utility.placeText above) ("/bw_automount" ++ Utility.placeText (above ++ rest)) = some (above ++ rest) := by
  have before : Settled above := fun name member => settled name (List.mem_append_left _ member)
  unfold seenAs
  rw [leads_inside before, leads_inside settled]
  have found : ("bw_automount" :: above).isPrefixOf? ("bw_automount" :: (above ++ rest)) = some rest :=
    List.isPrefixOf?_eq_some_iff_append_eq.mpr rfl
  rw [found, Option.map_some]
  exact congrArg (fun place => some (place ++ rest)) (placeText_settles before)

end Leading

-- The volumes that were added one after the other, each once.
def collected (specs : List String) : List String := specs.foldl extended []

-- What has been mounted for a path of the host: the path that the function for it prints, and the directory
-- of the host that is seen in the container.
structure Mounted (rounds : Nat) (s : Session) (here : String) (mounts : List String) (p text path host : String) : Prop where
  absolute : ∀ depth line, ∃ more, Prints (invoke (engine rounds (depth + 1)) { fields := ["bw_absolute_path", p] }) (drawing s line)
    (s.texts ++ (path ++ "\n") :: more)
  settled : '\n' ∉ (fullText here p).toList → leads path = leads (fullText here p)
  rewritten : text = "/bw_automount" ++ path
  written : path = Utility.placeText (leads path) ∧ host = Utility.placeText (leads host)
  above : isDirectoryIn s path = true ∧ host = path ∨
    isDirectoryIn s path = false ∧ leads path ≠ [] ∧ leads host = (leads path).dropLast
  there : s.entryAt? path ≠ none → isDirectoryIn s host = true
  flagged : ["-v", host ++ (":/bw_automount" ++ host)] <:+: mounts
  single : mounts.count (host ++ (":/bw_automount" ++ host)) = 1
  home : seenAs host text = some (leads path)

section Mounted

variable {rounds : Nat} {s : Session} {here p : String} {mounts : List String}

theorem volumeText_other {host : String} (led : host.toList.head? = some '/') : volumeText host ≠ "-v" := by
  intro same
  unfold volumeText at same
  have front := congrArg (fun text : String => text.toList.head?) same
  simp only [String.toList_append, List.head?_append, led] at front
  cases front

theorem written_absolute : absolutePath here p = Utility.placeText (leads (absolutePath here p)) := by
  rw [leads_absolute]
  rfl

theorem host_written (isDirectory : Bool) :
    hostDirectory here p isDirectory = Utility.placeText (leads (hostDirectory here p isDirectory)) := by
  cases isDirectory with
  | true => exact written_absolute
  | false =>
    have led : leads (hostDirectory here p false) = (placeOf here p).dropLast := leads_upper
    rw [led]
    rfl

theorem host_above (isDirectory : Bool) (answer : isDirectoryIn s (absolutePath here p) = isDirectory) :
    isDirectoryIn s (absolutePath here p) = true ∧ hostDirectory here p isDirectory = absolutePath here p ∨
      isDirectoryIn s (absolutePath here p) = false ∧ leads (absolutePath here p) ≠ [] ∧
        leads (hostDirectory here p isDirectory) = (leads (absolutePath here p)).dropLast := by
  cases isDirectory with
  | true => exact Or.inl ⟨answer, rfl⟩
  | false =>
    rw [leads_absolute]
    exact Or.inr ⟨answer, place_filled fun found => Bool.false_ne_true (answer.symm.trans (beq_iff_eq.mpr found)), leads_upper⟩

theorem host_there (isDirectory : Bool) (answer : isDirectoryIn s (absolutePath here p) = isDirectory)
    (there : s.entryAt? (absolutePath here p) ≠ none) : isDirectoryIn s (hostDirectory here p isDirectory) = true := by
  cases isDirectory with
  | true => exact answer
  | false =>
    have filled : placeOf here p ≠ [] := place_filled fun found => Bool.false_ne_true (answer.symm.trans (beq_iff_eq.mpr found))
    rw [absolutePath_parted filled] at there
    exact above_directory (parted_settled filled) there

theorem host_home (isDirectory : Bool) (answer : isDirectoryIn s (absolutePath here p) = isDirectory) :
    seenAs (hostDirectory here p isDirectory) ("/bw_automount" ++ absolutePath here p) = some (leads (absolutePath here p)) := by
  rw [leads_absolute]
  cases isDirectory with
  | true =>
    have home := @seenAs_home (placeOf here p) [] (by rw [List.append_nil]; exact placeOf_settled here p)
    rwa [List.append_nil] at home
  | false =>
    have filled : placeOf here p ≠ [] := place_filled fun found => Bool.false_ne_true (answer.symm.trans (beq_iff_eq.mpr found))
    have home := seenAs_home (parted_settled filled)
    rwa [← place_parted filled] at home

theorem path_mounted (hosting : Hosting s here) (led : here.toList.head? = some '/') (first : Sound here)
    (workable : Workable here p) (orderly : Orderly mounts) (listed : volumeOf s here p ∈ mounts) :
    Mounted rounds s here mounts p (inside (absolutePath here p)) (absolutePath here p)
      (hostDirectory here p (isDirectoryIn s (absolutePath here p))) where
  absolute depth line := by
    obtain ⟨-, draws⟩ := draws_line hosting.pathing.quiet hosting.room line
    have keeps := drawing_keeps hosting.pathing.quiet hosting.pathing.filled hosting.room line
    have begun := hosting.keeps keeps fun _ _ => List.not_mem_nil
    exact ⟨_, @absolute_prints (engine rounds (depth + 1)) (engine rounds depth) (drawing s line) here p s.texts rfl begun.pathing draws
      led first workable.sound workable.small⟩
  settled := leads_given
  rewritten := rfl
  written := ⟨written_absolute, host_written _⟩
  above := host_above _ rfl
  there := host_there _ rfl
  flagged := orderly.flagged listed (volumeText_other (hostDirectory_led _))
  single := orderly.single listed (volumeText_other (hostDirectory_led _))
  home := host_home _ rfl

-- The text of the path in the container, for a path without a line feed.
theorem Mounted.text {text path host : String} (mounted : Mounted rounds s here mounts p text path host)
    (whole : '\n' ∉ (fullText here p).toList) : text = "/bw_automount" ++ Utility.placeText (leads (fullText here p)) := by
  rw [mounted.rewritten, mounted.written.1, mounted.settled whole]

end Mounted

-- A session in which the layer runs: the functions are those of their texts, and no volume has been added.
structure Callable (s : Session) (here : String) : Prop where
  quiet : Quiet s
  filled : s.scopes ≠ []
  room : s.shared ≤ s.texts.length
  place : s.value? "PWD" = some here
  led : here.toList.head? = some '/'
  sound : Sound here
  plain : ∀ x ∈ "BW_EXTRA_MOUNTS" :: "spec" :: "existing" :: hostNames, Ordinarily s x
  flat : ∀ x ∈ ["IFS", "len", "i"], Flat s x
  directories : Hosts s "dirname"
  names : Hosts s "basename"
  paths : Provides s Wrapper.Functions.absolutePath
  mounts : Provides s Wrapper.Functions.automount
  empty : Lists s "BW_EXTRA_MOUNTS" []

theorem Callable.collects {s : Session} {here : String} (callable : Callable s here) : Collects s here [] := by
  have path : ∀ x ∈ pathNames, x ∈ "BW_EXTRA_MOUNTS" :: "spec" :: "existing" :: hostNames := by decide
  have host : ∀ x ∈ ["abs_path", "source_dir"], x ∈ "BW_EXTRA_MOUNTS" :: "spec" :: "existing" :: hostNames := by decide
  have own : ∀ x ∈ ["BW_EXTRA_MOUNTS", "spec", "existing"], x ∈ "BW_EXTRA_MOUNTS" :: "spec" :: "existing" :: hostNames := by decide
  exact {
    hosting := {
      pathing := ⟨callable.quiet, callable.place, fun x member => callable.plain x (path x member), callable.flat, callable.filled,
        absolute_provided callable.paths⟩
      plain := fun x member => callable.plain x (host x member)
      directories := callable.directories
      names := callable.names
      room := callable.room
      automount := automount_provided callable.mounts
      volume := volume_provided callable.mounts }
    plain := fun x member => callable.plain x (own x member)
    defined := add_provided callable.mounts
    lists := callable.empty }

-- Volumes are added, by a flag or for a declared volume, before other work is done.
def addedFirst (E : Engine) (added : List String) (work : Run Unit) : Run Unit := do
  added.forM fun spec => invoke E { fields := ["bw_add_mount", spec] }
  work

-- Every volume is collected where it was added.
structure Gathers (t : Session) (specs : List String) : Prop where
  lists : Lists t "BW_EXTRA_MOUNTS" (collected specs)
  stays : ∀ earlier, earlier <+: specs → collected earlier <+: collected specs

section Pointing

variable {rounds : Nat} {s t : Session} {here : String} {added volumes : List String}

theorem gathered (collects : Collects t here (volumes.foldl extended (collected added))) : Gathers t (added ++ volumes) := by
  refine ⟨?_, fun earlier front => ?_⟩
  · unfold collected
    rw [List.foldl_append]
    exact collects.lists
  · obtain ⟨later, same⟩ := front
    rw [← same]
    unfold collected
    rw [List.foldl_append]
    exact collected_front

theorem gathered_mounted {p : String} (callable : Callable s here) (workable : Workable here p) (listed : volumeOf s here p ∈ volumes) :
    ∃ path host, Mounted rounds s here (collected (added ++ volumes)) p (inside (absolutePath here p)) path host :=
  ⟨_, _, path_mounted callable.collects.hosting callable.led callable.sound workable (collected_orderly empty_orderly)
    (collected_listed (List.mem_append_right _ listed))⟩

-- Whatever volumes were added before, and whatever the paths are: each path becomes one in the container,
-- and the volume that is added for it, once and behind a flag, makes that path the one on the host.
theorem mounted_paths_same (callable : Callable s here) (added : List String) (rounds depth : Nat) :
    (∀ work : List (String × String), (∀ w ∈ work, Carries s here w.1 w.2) → (work.map Prod.fst).Nodup → ∃ t volumes,
      ComesTo (addedFirst (engine rounds (depth + 4)) added
          (runScript (engine rounds (depth + 4)) (work.flatMap fun w => Docker.mountOwn w.1))) s (.ok () t) ∧
        Gathers t (added ++ volumes) ∧
        ∀ w ∈ work, ∃ text, t.value? w.1 = some text ∧
          ∃ path host, Mounted rounds s here (collected (added ++ volumes)) w.2 text path host) ∧
    (∀ (values : List String) (separator : String), Joins s none → Ordinarily s "BW_VALUES" → Lists s "BW_VALUES" values →
      values ≠ [] → (∀ p ∈ values, Workable here p) → ∃ t volumes,
      ComesTo (addedFirst (engine rounds (depth + 4)) added ((valuesLoop separator).run (engine rounds (depth + 4)))) s (.ok () t) ∧
        Gathers t (added ++ volumes) ∧
        ∃ texts, t.value? "BW_MOUNTED" = some (separator.intercalate texts) ∧ List.Forall₂ (fun p text =>
          ∃ path host, Mounted rounds s here (collected (added ++ volumes)) p text path host) values texts) := by
  obtain ⟨u, first, keeps, between⟩ := @specs_added rounds (depth + 3) s here [] added callable.collects
  have alike : ∀ p, volumeOf u here p = volumeOf s here p := volumeOf_like keeps.tree keeps.here
  refine ⟨fun work carries distinct => ?_, fun values separator joins plain lists filled workable => ?_⟩
  · have later : ∀ w ∈ work, Carries u here w.1 w.2 := by
      intro w member
      have carried := carries w member
      exact carried.later keeps fun same => carried.free (List.mem_cons.mpr (Or.inl (List.mem_singleton.mp same)))
    obtain ⟨t, ran, -, after, held⟩ := @paths_mounted rounds depth u here _ work between callable.led callable.sound later distinct
    refine ⟨t, _, first.bind ran, gathered after, fun w member => ⟨_, held w member, ?_⟩⟩
    refine gathered_mounted callable ⟨(carries w member).sound, (carries w member).small⟩ ?_
    rw [← alike]
    exact List.mem_map.mpr ⟨w, member, rfl⟩
  · obtain ⟨t, ran, -, after, held⟩ := @values_mounted rounds depth u here separator _ values between callable.led callable.sound
      (joins.later keeps (by decide)) (keeps.ordinarily (by decide) plain) (keeps.lists (by decide) lists) filled workable
    refine ⟨t, _, first.bind ran, gathered after, _, held, ?_⟩
    rw [List.forall₂_map_right_iff, List.forall₂_same]
    intro p member
    refine gathered_mounted callable (workable p member) ?_
    rw [← alike]
    exact List.mem_map.mpr ⟨p, member, rfl⟩

end Pointing

-- A program in a directory with one file, with two paths at hand and the values of a third argument.
def dock : Session where
  tree := ⟨[(["bin"], .directory), (["data"], .directory), (["data", "in"], .file "" false)]⟩
  here := ["data"]
  texts := ["", "", ""]
  descriptors := [(0, .text 0), (1, .text 1), (2, .text 2)]
  scopes := [[("PWD", { content := .text "/data" }), ("BW_EXTRA_MOUNTS", { content := numberedItems [] }),
    ("BW_PAR_INPUT", { content := .text "in" }), ("BW_TEMP", { content := .text "/bin/../data/" }),
    ("BW_VALUES", { content := numberedItems ["in", "../new"] })]]
  functions := [
    ("bw_absolute_path", { body := absoluteBody 5, file := "wrapper" }),
    ("bw_automount", { body := automountBody 4, file := "wrapper" }),
    ("bw_automount_arg", { body := volumeBody 19, file := "wrapper" }),
    ("bw_add_mount", { body := addBody 31, file := "wrapper" })]

theorem dock_hosts : Hosts dock "dirname" ∧ Hosts dock "basename" := by
  have first : dock.program "dirname" = .ok ("/bin/dirname", .host "dirname") := ok_of_toOption (by decide +kernel)
  have second : dock.program "basename" = .ok ("/bin/basename", .host "basename") := ok_of_toOption (by decide +kernel)
  exact ⟨hosts_found first, hosts_found second⟩

-- All that is in the scope is ordinary.
theorem dock_ordinarily (x : String) : Ordinarily dock x := ordinarily_all (by decide) x

theorem plain_sound {text : String} (plain : text.toList.all (fun c => isAscii c && c != '\x00') = true) : Sound text := by
  have each := List.all_eq_true.mp plain
  refine ⟨firm_ascii fun c member => (Bool.and_eq_true_iff.mp (each c member)).1, fun member => ?_⟩
  have other := (Bool.and_eq_true_iff.mp (each _ member)).2
  exact bne_iff_ne.mp other rfl

theorem dock_callable : Callable dock "/data" where
  quiet := ⟨rfl, by decide, rfl, rfl, rfl, rfl, rfl, by decide, by decide⟩
  filled := List.cons_ne_nil _ _
  room := by decide
  place := by decide
  led := by decide
  sound := plain_sound (by decide)
  plain x _ := dock_ordinarily x
  flat x member v found := by
    have free : ∀ x ∈ ["IFS", "len", "i"], dock.find? x = none := by decide
    rw [free x member] at found
    cases found
  directories := dock_hosts.1
  names := dock_hosts.2
  paths := by
    refine provides_listed [(5, "bw_absolute_path", absoluteBody 5)] absolute_read fun f listed => ?_
    obtain rfl := List.mem_singleton.mp listed
    exact ⟨_, rfl, rfl⟩
  mounts := by
    refine provides_listed [(4, "bw_automount", automountBody 4), (19, "bw_automount_arg", volumeBody 19),
      (31, "bw_add_mount", addBody 31)] automount_read fun f listed => ?_
    simp only [List.mem_cons, List.not_mem_nil, or_false] at listed
    rcases listed with rfl | rfl | rfl <;> exact ⟨_, rfl, rfl⟩
  empty := ⟨{ content := numberedItems [] }, by decide, rfl⟩

theorem dock_carries {x p : String} (own : isOwn x = true) (free : x ∉ "BW_EXTRA_MOUNTS" :: "spec" :: "existing" :: hostNames)
    (held : dock.find? x = some { content := .text p }) (plain : p.toList.all (fun c => isAscii c && c != '\x00') = true)
    (few : (fullText "/data" p).length < 64) : Carries dock "/data" x p where
  own := own
  free := free
  plain := dock_ordinarily x
  flat v found := by
    obtain rfl := Option.some.inj (held.symm.trans found)
    rfl
  held := by
    unfold Session.value?
    rw [held]
    rfl
  sound := plain_sound plain
  small := Nat.lt_of_lt_of_le (Nat.succ_lt_succ few) (by decide)

theorem mounted_paths_same_at_dock :
    (∃ t mounts, ComesTo (addedFirst (engine 0 4) ["/bin:/tools"]
        (runScript (engine 0 4) (["BW_PAR_INPUT", "BW_TEMP"].flatMap Docker.mountOwn))) dock (.ok () t) ∧
      Lists t "BW_EXTRA_MOUNTS" mounts ∧ ["-v", "/bin:/tools"] <+: mounts ∧
      t.value? "BW_PAR_INPUT" = some "/bw_automount/data/in" ∧ t.value? "BW_TEMP" = some "/bw_automount/data") ∧
    ∃ t, ComesTo (addedFirst (engine 0 4) [] ((valuesLoop ":").run (engine 0 4))) dock (.ok () t) ∧
      t.value? "BW_MOUNTED" = some "/bw_automount/data/in:/bw_automount/new" := by
  have input := @dock_carries "BW_PAR_INPUT" "in" (by decide) (by decide) (by decide) (by decide) (by decide)
  have temp := @dock_carries "BW_TEMP" "/bin/../data/" (by decide) (by decide) (by decide) (by decide) (by decide)
  constructor
  · obtain ⟨t, volumes, ran, gathers, each⟩ := (mounted_paths_same dock_callable ["/bin:/tools"] 0 0).1
      [("BW_PAR_INPUT", "in"), ("BW_TEMP", "/bin/../data/")] (by simpa using ⟨input, temp⟩) (by decide)
    obtain ⟨text, held, path, host, mounted⟩ := each _ (List.mem_cons_self ..)
    obtain ⟨other, kept, _, _, also⟩ := each ("BW_TEMP", "/bin/../data/") (by decide)
    rw [mounted.text (by decide)] at held
    rw [also.text (by decide)] at kept
    exact ⟨t, _, ran, gathers.lists, gathers.stays ["/bin:/tools"] (List.prefix_append _ _), held, kept⟩
  · have workable : ∀ p ∈ ["in", "../new"], Workable "/data" p := by
      intro p member
      have plain : ∀ p ∈ ["in", "../new"], p.toList.all (fun c => isAscii c && c != '\x00') = true ∧
          (fullText "/data" p).length < 64 := by decide
      obtain ⟨ascii, few⟩ := plain p member
      exact ⟨plain_sound ascii, Nat.lt_of_lt_of_le (Nat.succ_lt_succ few) (by decide)⟩
    have joins : Joins dock none := by
      have free : ∀ x ∈ ["BW_VAL", "BW_MOUNTED"], dock.find? x = none := by decide
      refine ⟨fun x _ => dock_ordinarily x, fun x member v found => ?_, by decide⟩
      rw [free x member] at found
      cases found
    obtain ⟨t, volumes, ran, -, texts, held, each⟩ := (mounted_paths_same dock_callable [] 0 0).2 ["in", "../new"] ":" joins
      (dock_ordinarily _) ⟨{ content := numberedItems ["in", "../new"] }, by decide, rfl⟩ (List.cons_ne_nil _ _) workable
    obtain ⟨_, _, ⟨_, _, first⟩, more, rfl⟩ := List.forall₂_cons_left_iff.mp each
    obtain ⟨_, _, ⟨_, _, second⟩, rest, rfl⟩ := List.forall₂_cons_left_iff.mp more
    obtain rfl := List.forall₂_nil_left_iff.mp rest
    rw [first.text (by decide), second.text (by decide)] at held
    exact ⟨t, ran, held⟩

end Toolwrap.Mounting
