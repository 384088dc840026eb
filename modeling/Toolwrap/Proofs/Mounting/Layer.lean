import Toolwrap.Proofs.Mounting.Adding
import Toolwrap.Proofs.Mounting.Container

-- The layer that mounts paths of the host: for each path a volume is added, and the variable that held the
-- path holds the one in the container.

namespace Toolwrap.Mounting

open Shell Running

-- A later session: what is around the variables is the same, and so are the variables, but for some.
structure Keeps (names : List String) (s t : Session) : Prop where
  quiet : Quiet t
  find : ∀ y, y ∉ names → t.find? y = s.find? y
  filled : t.scopes ≠ []
  functions : t.functions = s.functions
  tree : t.tree = s.tree
  here : t.here = s.here
  room : t.shared ≤ t.texts.length

section Keeping

variable {s t u : Session} {names others : List String} {here y : String}

theorem Keeps.trans (first : Keeps names s t) (second : Keeps others t u) : Keeps (names ++ others) s u where
  quiet := second.quiet
  find y free := (second.find y fun member => free (List.mem_append_right _ member)).trans
    (first.find y fun member => free (List.mem_append_left _ member))
  filled := second.filled
  functions := second.functions.trans first.functions
  tree := second.tree.trans first.tree
  here := second.here.trans first.here
  room := second.room

theorem Keeps.mono (keeps : Keeps names s t) (sub : ∀ y ∈ names, y ∈ others) : Keeps others s t :=
  { keeps with find := fun y free => keeps.find y fun member => free (sub y member) }

theorem Keeps.value (keeps : Keeps names s t) (free : y ∉ names) : t.value? y = s.value? y := by
  unfold Session.value?
  rw [keeps.find y free]

theorem Keeps.ordinarily (keeps : Keeps names s t) (free : y ∉ names) (plain : Ordinarily s y) : Ordinarily t y :=
  fun v found => plain v ((keeps.find y free).symm.trans found)

theorem Keeps.flat (keeps : Keeps names s t) (free : y ∉ names) (flat : Flat s y) : Flat t y :=
  fun v found => flat v ((keeps.find y free).symm.trans found)

theorem drawing_keeps (quiet : Quiet s) (filled : s.scopes ≠ []) (room : s.shared ≤ s.texts.length) (line : Nat) :
    Keeps [] s (drawing s line) := by
  obtain ⟨scopes, functions, tree, here⟩ := @drawing_alike s line
  refine ⟨drawing_quiet quiet line, fun y _ => ?_, ?_, functions, tree, here, ?_⟩
  · unfold Session.find?
    rw [scopes]
  · rw [scopes]
    exact filled
  · obtain ⟨-, draws⟩ := draws_line quiet room line
    rw [draws.texts, List.length_append]
    exact Nat.le_trans draws.own (Nat.le_add_right _ _)

theorem Hosting.keeps (hosting : Hosting s here) (keeps : Keeps names s t) (apart : ∀ y ∈ hostNames, y ∉ names) :
    Hosting t here := by
  have path : ∀ y ∈ pathNames, y ∉ names := fun y member => apart y (by unfold hostNames; simp [member])
  have counters : ∀ y ∈ ["IFS", "len", "i"], y ∈ pathNames := by decide
  have searched : t.value? "PATH" = s.value? "PATH" := keeps.value (apart "PATH" (by decide))
  refine {
    pathing := {
      quiet := keeps.quiet
      place := (keeps.value (path "PWD" (by decide))).trans hosting.pathing.place
      plain := fun y member => keeps.ordinarily (path y member) (hosting.pathing.plain y member)
      flat := fun y member => keeps.flat (path y (counters y member)) (hosting.pathing.flat y member)
      filled := keeps.filled
      defined := ?_ }
    plain := fun y member => keeps.ordinarily (apart y ?_) (hosting.plain y member)
    directories := hosts_like hosting.directories keeps.tree keeps.here searched
    names := hosts_like hosting.names keeps.tree keeps.here searched
    room := keeps.room
    automount := ?_
    volume := ?_ }
  · rw [keeps.functions]
    exact hosting.pathing.defined
  · revert y
    decide
  · rw [keeps.functions]
    exact hosting.automount
  · rw [keeps.functions]
    exact hosting.volume

end Keeping

section Collecting

variable {s : Session} {mounts : List String} {spec : String}

theorem collecting_scopes : collecting s mounts spec = { s with scopes := (collecting s mounts spec).scopes } := by
  unfold collecting
  split <;> rfl

theorem collecting_lists (lists : Lists s "BW_EXTRA_MOUNTS" mounts) :
    Lists (collecting s mounts spec) "BW_EXTRA_MOUNTS" (extended mounts spec) := by
  unfold collecting extended
  by_cases known : spec ∈ mounts
  · rw [if_pos known, if_pos known]
    exact lists
  · rw [if_neg known, if_neg known]
    exact listing_lists

theorem collecting_keeps (quiet : Quiet s) (filled : s.scopes ≠ []) (room : s.shared ≤ s.texts.length) :
    Keeps ["BW_EXTRA_MOUNTS"] s { collecting s mounts spec with status := 0, givesWay := false } := by
  have find : ∀ y, y ∉ ["BW_EXTRA_MOUNTS"] → (collecting s mounts spec).find? y = s.find? y := by
    intro y free
    unfold collecting
    split
    · rfl
    · rw [listing_find, if_neg fun same => free (List.mem_singleton.mpr same)]
  have some_ : (collecting s mounts spec).scopes ≠ [] := by
    unfold collecting
    split
    · exact filled
    · exact putIn_filled
  rw [collecting_scopes] at find ⊢
  exact ⟨quiet, find, some_, rfl, rfl, rfl, room⟩

theorem collecting_ordinarily (plain : Ordinarily s "BW_EXTRA_MOUNTS") : Ordinarily (collecting s mounts spec) "BW_EXTRA_MOUNTS" := by
  unfold collecting
  split
  · exact plain
  · exact listing_ordinarily plain

end Collecting

-- A session in which volumes are collected.
structure Collects (s : Session) (here : String) (mounts : List String) : Prop where
  hosting : Hosting s here
  plain : ∀ x ∈ ["BW_EXTRA_MOUNTS", "spec", "existing"], Ordinarily s x
  defined : ∃ f n, s.functions.lookup "bw_add_mount" = some f ∧ f.body = addBody n
  lists : Lists s "BW_EXTRA_MOUNTS" mounts

-- A variable that holds a path of the host.
structure Carries (s : Session) (here x p : String) : Prop where
  own : isOwn x = true
  free : x ∉ "BW_EXTRA_MOUNTS" :: "spec" :: "existing" :: hostNames
  plain : Ordinarily s x
  flat : Flat s x
  held : s.value? x = some p
  sound : Sound p
  small : (fullText here p).length + 1 < 2 ^ 63

section Later

variable {s t : Session} {names : List String} {here x p : String} {mounts others : List String}

theorem Keeps.lists (keeps : Keeps names s t) (free : x ∉ names) (lists : Lists s x mounts) : Lists t x mounts := by
  obtain ⟨v, found, content⟩ := lists
  exact ⟨v, (keeps.find x free).trans found, content⟩

theorem Collects.later (collects : Collects s here mounts) (keeps : Keeps names s t)
    (apart : ∀ y ∈ "spec" :: "existing" :: hostNames, y ∉ names) (plain : Ordinarily t "BW_EXTRA_MOUNTS")
    (lists : Lists t "BW_EXTRA_MOUNTS" others) : Collects t here others where
  hosting := collects.hosting.keeps keeps fun y member => apart y (List.mem_cons_of_mem _ (List.mem_cons_of_mem _ member))
  plain y member := by
    rcases List.mem_cons.mp member with rfl | inside
    · exact plain
    · refine keeps.ordinarily (apart y ?_) (collects.plain y member)
      revert y
      decide
  defined := by
    rw [keeps.functions]
    exact collects.defined
  lists := lists

theorem Carries.later (carries : Carries s here x p) (keeps : Keeps names s t) (free : x ∉ names) : Carries t here x p :=
  { carries with
    plain := keeps.ordinarily free carries.plain
    flat := keeps.flat free carries.flat
    held := (keeps.value free).trans carries.held }

theorem given_keeps {value : String} {texts : List String} (quiet : Quiet s) (room : s.shared ≤ texts.length) :
    Keeps [x] s { given { s with texts, status := 0 } x value with status := 0 } where
  quiet := quiet
  find y free := by
    change (given s x value).find? y = _
    rw [given, find_put, if_neg fun same => free (List.mem_singleton.mpr same)]
  filled := putIn_filled
  functions := rfl
  tree := rfl
  here := rfl
  room := room

end Later

section Taken

variable {E : Engine} {s d : Session} {here x p name : String} {texts : List String}

-- What a function prints of the path in a variable, as the output of a command.
theorem carried_prints (keeps : Keeps [] s d) (tame : name.toList.all isTame = true) (filled : name ≠ "")
    (other : name ∉ ["command", "builtin", "exec"]) (carries : Carries s here x p)
    (prints : Prints (invoke E { fields := [name, p] }) d texts) :
    Prints (runScript E (outputBody [run [bare name, quotedRef x]])) d texts := by
  have carried := carries.later keeps List.not_mem_nil
  have stands : Stands d x (some p) := by
    have stood := stands_own carried.own carried.plain
    rwa [carried.held] at stood
  obtain ⟨scopes, hashed, givesWay, called⟩ := asked_of keeps.quiet tame filled other stands prints
  exact ⟨scopes, hashed, givesWay, script_one keeps.quiet called⟩

end Taken

-- The volume that is added for a path, as a session sees it.
def volumeOf (s : Session) (here p : String) : String :=
  volumeText (hostDirectory here p (isDirectoryIn s (absolutePath here p)))

section Texts

variable {s : Session} {here p : String}

theorem inside_mem {path : String} {c : Char} (member : c ∈ (inside path).toList) :
    c ∈ "/bw_automount".toList ∨ c ∈ path.toList := by
  unfold inside at member
  rw [String.toList_append] at member
  exact List.mem_append.mp member

theorem inside_solid (first : Sound here) (second : Sound p) : '\x00' ∉ (inside (absolutePath here p)).toList := by
  intro member
  rcases inside_mem member with front | behind
  · exact absurd front (by decide)
  · exact (absolutePath_sound first second).solid behind

theorem inside_whole : '\n' ∉ (inside (absolutePath here p)).toList := by
  intro member
  rcases inside_mem member with front | behind
  · exact absurd front (by decide)
  · exact absolutePath_whole behind

theorem hostDirectory_whole (isDirectory : Bool) : '\n' ∉ (hostDirectory here p isDirectory).toList := by
  cases isDirectory
  · exact upper_whole
  · exact absolutePath_whole

theorem volumeText_mem {host : String} {c : Char} (member : c ∈ (volumeText host).toList) :
    c ∈ host.toList ∨ c ∈ ":/bw_automount".toList := by
  unfold volumeText at member
  rw [String.toList_append, String.toList_append, List.mem_append, List.mem_append] at member
  rcases member with front | colon | behind
  · exact Or.inl front
  · exact Or.inr colon
  · exact Or.inl behind

theorem volumeOf_solid (first : Sound here) (second : Sound p) : '\x00' ∉ (volumeOf s here p).toList := by
  intro member
  rcases volumeText_mem member with host | colon
  · exact (hostDirectory_sound first second _).solid host
  · exact absurd colon (by decide)

theorem volumeOf_whole : '\n' ∉ (volumeOf s here p).toList := by
  intro member
  rcases volumeText_mem member with host | colon
  · exact hostDirectory_whole _ host
  · exact absurd colon (by decide)

end Texts

section Mounted

variable {rounds depth : Nat} {s : Session} {here x p : String} {mounts : List String} (collects : Collects s here mounts)
  (led : here.toList.head? = some '/') (first : Sound here) (carries : Carries s here x p)

include collects led first carries

theorem volume_shown (line : Nat) :
    Prints (runScript (engine rounds (depth + 3)) (outputBody [run [bare "bw_automount_arg", quotedRef x]])) (drawing s line)
      (s.texts ++ (volumeOf s here p ++ "\n") :: volumeLeft here p (isDirectoryIn s (absolutePath here p))) := by
  have quiet := collects.hosting.pathing.quiet
  have keeps := drawing_keeps quiet collects.hosting.pathing.filled collects.hosting.room line
  obtain ⟨-, draws⟩ := draws_line quiet collects.hosting.room line
  have hosting := collects.hosting.keeps keeps fun _ _ => List.not_mem_nil
  have prints := @volume_prints (engine rounds (depth + 3)) (engine rounds (depth + 2)) (engine rounds (depth + 1)) (engine rounds depth)
    (drawing s line) here p s.texts hosting draws led first carries.sound carries.small rfl rfl rfl
  rw [directory_like (drawing s line) s keeps.tree keeps.here] at prints
  exact carried_prints keeps (by decide) (by decide) (by decide) carries prints

theorem inside_shown (line : Nat) :
    Prints (runScript (engine rounds (depth + 3)) (outputBody [run [bare "bw_automount", quotedRef x]])) (drawing s line)
      (s.texts ++ (inside (absolutePath here p) ++ "\n") :: automountLeft here p (isDirectoryIn s (absolutePath here p))) := by
  have quiet := collects.hosting.pathing.quiet
  have keeps := drawing_keeps quiet collects.hosting.pathing.filled collects.hosting.room line
  obtain ⟨-, draws⟩ := draws_line quiet collects.hosting.room line
  have hosting := collects.hosting.keeps keeps fun _ _ => List.not_mem_nil
  have prints := @automount_prints (engine rounds (depth + 3)) (engine rounds (depth + 2)) (engine rounds (depth + 1)) (engine rounds depth)
    (drawing s line) here p s.texts hosting draws led first carries.sound carries.small rfl rfl rfl
  rw [directory_like (drawing s line) s keeps.tree keeps.here] at prints
  exact carried_prints keeps (by decide) (by decide) (by decide) carries prints

-- A volume is added for the path.
theorem volume_collected : ∃ t, ComesTo ((Docker.addMount (Docker.quotedOutput "bw_automount_arg" [ref x])).run (engine rounds (depth + 4)))
      s (.ok () t) ∧ t.processes = s.processes ∧ Keeps ["BW_EXTRA_MOUNTS"] s t ∧ Ordinarily t "BW_EXTRA_MOUNTS" ∧
      Lists t "BW_EXTRA_MOUNTS" (extended mounts (volumeOf s here p)) := by
  obtain ⟨hosting, plain, defined, lists⟩ := collects
  have quiet := hosting.pathing.quiet
  let s₁ : Session := { s with
    texts := s.texts ++ (volumeOf s here p ++ "\n") :: volumeLeft here p (isDirectoryIn s (absolutePath here p)), status := 0 }
  have calm : Quiet s₁ := quiet
  have room : s₁.shared ≤ s₁.texts.length := grown_room (c := s) hosting.room
  have expanded := output_expands (E := engine rounds (depth + 4)) quiet
    (fun line => @volume_shown rounds depth s here x p mounts ⟨hosting, plain, defined, lists⟩ led first carries line)
    (volumeOf_solid first carries.sound) volumeOf_whole true
  have fields := named_reads (show "bw_add_mount".toList.all isTame = true by decide) (by decide) (spellsTo_output expanded)
  have added := @add_comesTo (engine rounds (depth + 4)) (engine rounds (depth + 3)) s₁ (volumeOf s here p) mounts rfl calm
    hosting.pathing.filled plain lists defined
  have keeps := @collecting_keeps s₁ mounts (volumeOf s here p) calm hosting.pathing.filled room
  have same : (collecting s₁ mounts (volumeOf s here p)).processes = s.processes := by
    rw [collecting_scopes]
  refine ⟨_, simple_comesTo quiet calm fields (List.cons_ne_nil _ _) (not_exec (by decide)) added keeps.quiet same (Or.inl rfl), same,
    { keeps with }, collecting_ordinarily (s := s₁) (plain _ (by decide)), collecting_lists (s := s₁) lists⟩

-- The variable holds the path in the container from then on.
theorem own_mounted : ∃ t, ComesTo (runScript (engine rounds (depth + 4)) (Docker.mountOwn x)) s (.ok () t) ∧
      Keeps ["BW_EXTRA_MOUNTS", x] s t ∧ Collects t here (extended mounts (volumeOf s here p)) ∧
      t.value? x = some (inside (absolutePath here p)) := by
  obtain ⟨u, added, -, keeps, plain, lists⟩ := @volume_collected rounds depth s here x p mounts collects led first carries
  have mine : x ∉ ["BW_EXTRA_MOUNTS"] := fun member => carries.free (List.mem_cons.mpr (Or.inl (List.mem_singleton.mp member)))
  have between : Collects u here (extended mounts (volumeOf s here p)) := collects.later keeps (by decide) plain lists
  have holds : Carries u here x p := carries.later keeps mine
  have captured := captured_prints (E := engine rounds (depth + 4)) keeps.quiet
    (fun line => @inside_shown rounds depth u here x p _ between led first holds line) (inside_solid first carries.sound) inside_whole
  let v : Session := { u with
    texts := u.texts ++ (inside (absolutePath here p) ++ "\n") :: automountLeft here p (isDirectoryIn u (absolutePath here p)), status := 0 }
  have stored : Gives (Assign.store (.whole x) false (inside (absolutePath here p))) v () (given v x (inside (absolutePath here p))) :=
    store_gives (s := v) holds.own holds.plain holds.flat
  have assigned := output_assigned keeps.quiet captured (keeps.quiet : Quiet v) stored keeps.quiet rfl
  have last : Keeps [x] u { given v x (inside (absolutePath here p)) with status := 0 } :=
    given_keeps keeps.quiet (grown_room (c := u) keeps.room)
  have apart : "BW_EXTRA_MOUNTS" ∉ [x] := fun member => mine (List.mem_singleton.mpr (List.mem_singleton.mp member).symm)
  have others : ∀ y ∈ "spec" :: "existing" :: hostNames, y ∉ [x] := by
    intro y member same
    rw [List.mem_singleton.mp same] at member
    exact carries.free (List.mem_cons_of_mem _ member)
  refine ⟨_, script_cons collects.hosting.pathing.quiet added (script_one keeps.quiet assigned), keeps.trans last,
    between.later last others (last.ordinarily apart plain) (last.lists apart lists), ?_⟩
  change (given v x (inside (absolutePath here p))).value? x = _
  rw [given_value, if_pos rfl]

end Mounted

section Sequences

variable {rounds depth : Nat} {s t : Session} {here : String} {mounts names : List String}

theorem volumeOf_like (tree : t.tree = s.tree) (place : t.here = s.here) (p : String) : volumeOf t here p = volumeOf s here p := by
  unfold volumeOf
  rw [directory_like t s tree place]

-- How deep the loops are nested and how the last command ended says nothing about the variables.
theorem Collects.passing (collects : Collects s here mounts) (loops status : Nat) : Keeps [] s { s with loops, status } where
  quiet := collects.hosting.pathing.quiet
  find _ _ := rfl
  filled := collects.hosting.pathing.filled
  functions := rfl
  tree := rfl
  here := rfl
  room := collects.hosting.room

theorem Collects.same (collects : Collects s here mounts) : Keeps names s s :=
  (collects.passing s.loops s.status).mono fun _ member => absurd member List.not_mem_nil

-- Volumes that are added one after the other.
theorem specs_added (specs : List String) (collects : Collects s here mounts) : ∃ t,
    ComesTo (specs.forM fun spec => invoke (engine rounds (depth + 1)) { fields := ["bw_add_mount", spec] }) s (.ok () t) ∧
      Keeps ["BW_EXTRA_MOUNTS"] s t ∧ Collects t here (specs.foldl extended mounts) := by
  induction specs generalizing s mounts with
  | nil => exact ⟨s, comesTo_pure, collects.same, collects⟩
  | cons spec specs more =>
    obtain ⟨hosting, plain, defined, lists⟩ := id collects
    have quiet := hosting.pathing.quiet
    have added := @add_comesTo (engine rounds (depth + 1)) (engine rounds depth) s spec mounts rfl quiet hosting.pathing.filled plain
      lists defined
    have keeps := @collecting_keeps s mounts spec quiet hosting.pathing.filled hosting.room
    obtain ⟨t, ran, kept, after⟩ := more (collects.later keeps (by decide) (collecting_ordinarily (plain _ (by decide))) (collecting_lists lists))
    exact ⟨t, added.bind ran, (keeps.trans kept).mono (by simp), after⟩

-- Paths in variables of their own, one after the other.
theorem paths_mounted {work : List (String × String)} (collects : Collects s here mounts) (led : here.toList.head? = some '/')
    (first : Sound here) (carries : ∀ w ∈ work, Carries s here w.1 w.2) (distinct : (work.map Prod.fst).Nodup) : ∃ t,
    ComesTo (runScript (engine rounds (depth + 4)) (work.flatMap fun w => Docker.mountOwn w.1)) s (.ok () t) ∧
      Keeps ("BW_EXTRA_MOUNTS" :: work.map Prod.fst) s t ∧
      Collects t here ((work.map fun w => volumeOf s here w.2).foldl extended mounts) ∧
      ∀ w ∈ work, t.value? w.1 = some (inside (absolutePath here w.2)) := by
  induction work generalizing s mounts with
  | nil => exact ⟨s, script_nil, collects.same, collects, nofun⟩
  | cons w work more =>
    obtain ⟨x, p⟩ := w
    obtain ⟨apart, distinct⟩ := List.nodup_cons.mp distinct
    have here_ := carries (x, p) (List.mem_cons_self ..)
    obtain ⟨u, mounted, keeps, between, held⟩ := @own_mounted rounds depth s here x p mounts collects led first here_
    have later : ∀ w ∈ work, Carries u here w.1 w.2 := by
      intro w member
      have carried := carries w (List.mem_cons_of_mem _ member)
      refine carried.later keeps ?_
      rw [List.mem_cons, List.mem_singleton, not_or]
      exact ⟨fun same => carried.free (same ▸ List.mem_cons_self ..), fun same => apart (List.mem_map.mpr ⟨w, member, same⟩)⟩
    obtain ⟨t, ran, kept, after, values⟩ := more between later distinct
    have same : (work.map fun w => volumeOf u here w.2) = work.map fun w => volumeOf s here w.2 :=
      List.map_congr_left fun w _ => volumeOf_like keeps.tree keeps.here w.2
    rw [same] at after
    refine ⟨t, script_append mounted ran, (keeps.trans kept).mono (by simp +contextual [or_imp]), after, fun w member => ?_⟩
    rcases List.mem_cons.mp member with rfl | inside_
    · refine (kept.value ?_).trans held
      rw [List.mem_cons, not_or]
      exact ⟨fun same => here_.free (same ▸ List.mem_cons_self ..), apart⟩
    · exact values w inside_

end Sequences

end Toolwrap.Mounting
