import Toolwrap.Proofs.Mounting.Layer

-- The values of an argument that is given several times: each is mounted in a round of a loop, and the
-- paths in the container are joined again.

namespace Toolwrap.Mounting

open Shell Running

section Assigned

variable {E : Engine} {s t u : Session} {x text value : String} {front : List Part} {body : Script}

-- A variable is given what commands print, behind a text.
theorem behind_assigned (quiet : Quiet s) (spelled : Spells E s front text)
    (captured : ∀ m, ∃ n : Traces, n.substituted = some 0 ∧
      Run.captured E (E.script (outputBody body)) (leaving s m) = .ok value (leaving u n))
    (calm : Quiet u) (stored : Gives (Assign.store (.whole x) false (text ++ value)) u () t) (quietly : Quiet t)
    (same : t.processes = s.processes) :
    ComesTo ((assignQuoted x (front ++ [.output body])).run E) s (.ok () { t with status := 0 }) := by
  obtain ⟨pieces, ran, filled, joined⟩ := spelled
  refine assigns_comesTo (t := t) 0 quiet ?_ quietly same (Or.inl rfl)
  intro m _
  obtain ⟨n, status, taken⟩ := captured m
  refine ⟨n, by rw [status]; rfl, ?_⟩
  have part : Part.expand E true (.output body) (leaving s m) = .ok [.kept value.toList] (leaving u n) := by
    rw [Part.expand]
    exact (bind_ok taken).trans pure_ok
  have last : expandParts E true [.output body] (leaving s m) = .ok [.kept value.toList] (leaving u n) := by
    rw [expandParts, bind_ok part, expandParts]
    rfl
  have parts : expandParts E true (front ++ [.output body]) (leaving s m) =
      .ok ((pieces ++ [value.toList]).map .kept) (leaving u n) := by
    rw [expandParts_append, bind_ok (ran m), bind_ok last, List.map_append]
    rfl
  have whole : (pieces ++ [value.toList]).flatten = (text ++ value).toList := by
    rw [List.flatten_append, joined, String.toList_append]
    simp
  have read : Word.valueText E [.double (front ++ [.output body])] (leaving s m) = .ok (text ++ value) (leaving u n) := by
    have between : (piecesBetween (front ++ [.output body]) (pieces ++ [value.toList])).flatten = (pieces ++ [value.toList]).flatten :=
      piecesBetween_flatten (by simp)
    unfold Word.valueText
    rw [bind_ok (double_expand .value parts), fragmentText_kept (between.trans whole), pure_ok]
  have applied : Assign.apply E (.value x [] false [.double (front ++ [.output body])]) (leaving s m) = .ok () (leaving t n) := by
    unfold Assign.apply
    exact (bind_ok read).trans ((bind_ok (calm.trace E _ n)).trans (stored n))
  exact bind_ok applied

end Assigned

-- A text behind those that are joined already.
def behindThose (separator : String) (old : Option String) (text : String) : Option String :=
  some (((old.map (· ++ separator)).getD "") ++ text)

theorem behindThose_joined (separator first : String) (texts : List String) :
    texts.foldl (behindThose separator) (some first) = some (separator.intercalate (first :: texts)) := by
  induction texts generalizing first with
  | nil => simp [String.intercalate_singleton]
  | cons text texts more =>
    have taken : behindThose separator (some first) text = some (first ++ separator ++ text) := rfl
    rw [List.foldl_cons, taken, more, joined_behind]

-- What is done with each value.
def valueBody (separator : String) : Script := [
  Docker.addMount (Docker.quotedOutput "bw_automount_arg" [ref "BW_VAL"]),
  Wrapper.appendValue "BW_MOUNTED" separator [outputOf [bare "bw_automount", quotedRef "BW_VAL"]]]

-- The variables of the loop: the values, the one at hand, and what they are joined in.
structure Joins (s : Session) (old : Option String) : Prop where
  plain : ∀ x ∈ ["BW_VAL", "BW_MOUNTED"], Ordinarily s x
  flat : ∀ x ∈ ["BW_VAL", "BW_MOUNTED"], Flat s x
  held : s.value? "BW_MOUNTED" = old

-- A path as the program can be given it: a value of a variable, and no longer than the indices of an array go.
structure Workable (here p : String) : Prop where
  sound : Sound p
  small : (fullText here p).length + 1 < 2 ^ 63

section Rounds

variable {rounds depth : Nat} {s : Session} {here p separator : String} {mounts : List String} {old : Option String}
  (collects : Collects s here mounts) (led : here.toList.head? = some '/') (first : Sound here)

include collects led first

-- The path in the container is put behind those before it.
theorem inside_joined (joins : Joins s old) (carries : Carries s here "BW_VAL" p) {front : List Part} {text : String}
    (spelled : Spells (engine rounds (depth + 4)) s front text) : ∃ t,
    ComesTo ((assignQuoted "BW_MOUNTED" (front ++ [outputOf [bare "bw_automount", quotedRef "BW_VAL"]])).run (engine rounds (depth + 4)))
        s (.ok () t) ∧ Keeps ["BW_MOUNTED"] s t ∧ Joins t (some (text ++ inside (absolutePath here p))) := by
  have quiet := collects.hosting.pathing.quiet
  let out := inside (absolutePath here p)
  let left := automountLeft here p (isDirectoryIn s (absolutePath here p))
  let v : Session := { s with texts := s.texts ++ (out ++ "\n") :: left, status := 0 }
  have captured := captured_prints (E := engine rounds (depth + 4)) quiet
    (fun line => @inside_shown rounds depth s here "BW_VAL" p mounts collects led first carries line)
    (inside_solid first carries.sound) inside_whole
  have plain := joins.plain "BW_MOUNTED" (by decide)
  have stored : Gives (Assign.store (.whole "BW_MOUNTED") false (text ++ out)) v () (given v "BW_MOUNTED" (text ++ out)) :=
    store_gives (s := v) (by decide) plain (joins.flat "BW_MOUNTED" (by decide))
  have assigned := behind_assigned quiet spelled captured (quiet : Quiet v) stored quiet rfl
  refine ⟨_, assigned, given_keeps quiet (grown_room (c := s) collects.hosting.room), fun x member => ?_, fun x member => ?_, ?_⟩
  · exact given_ordinarily (s := v) (joins.plain x member)
  · exact given_flat (s := v) (joins.flat x member)
  · change (given v "BW_MOUNTED" (text ++ out)).value? "BW_MOUNTED" = _
    rw [given_value, if_pos rfl]

theorem appended_comesTo (joins : Joins s old) (carries : Carries s here "BW_VAL" p) : ∃ t,
    ComesTo ((Wrapper.appendValue "BW_MOUNTED" separator [outputOf [bare "bw_automount", quotedRef "BW_VAL"]]).run
        (engine rounds (depth + 4))) s (.ok () t) ∧ Keeps ["BW_MOUNTED"] s t ∧
      Joins t (behindThose separator old (inside (absolutePath here p))) := by
  have quiet := collects.hosting.pathing.quiet
  have calm : ∀ status, Quiet { s with status } := fun _ => quiet
  have sheltered : Quiet { s with shielded := true } := quiet
  have asked := script_one (E := engine rounds (depth + 4)) sheltered
    (isUnset_comesTo sheltered (by decide) (joins.plain "BW_MOUNTED" (by decide)) rfl)
  rw [show ({ s with shielded := true } : Session).value? "BW_MOUNTED" = old from joins.held] at asked
  have passed : ∀ status, Collects { s with status } here mounts := fun status =>
    collects.later (collects.passing s.loops status) (fun _ _ => List.not_mem_nil) (collects.plain "BW_EXTRA_MOUNTS" (by decide))
      collects.lists
  have still : ∀ status, Carries { s with status } here "BW_VAL" p := fun status =>
    carries.later (collects.passing s.loops status) List.not_mem_nil
  have joined : ∀ status, Joins { s with status } old := fun _ => ⟨joins.plain, joins.flat, joins.held⟩
  cases old with
  | none =>
    obtain ⟨t, ran, keeps, after⟩ := @inside_joined rounds depth { s with status := 0 } here p mounts none (passed 0) led first
      (joined 0) (still 0) [] "" spells_nil
    exact ⟨t, if_holds asked rfl (script_one (calm 0) ran), ((collects.passing s.loops 0).trans keeps).mono (fun _ => id), after⟩
  | some before =>
    have stands : Stands { s with status := 1 } "BW_MOUNTED" (some before) := by
      have stood := @stands_own { s with status := 1 } "BW_MOUNTED" (by decide) (joins.plain "BW_MOUNTED" (by decide))
      rwa [show ({ s with status := 1 } : Session).value? "BW_MOUNTED" = some before from joins.held] at stood
    have spelled : Spells (engine rounds (depth + 4)) { s with status := 1 } (.param "BW_MOUNTED" [] .braced :: literal separator)
        (before ++ separator) := spells_cons (braced_spells (calm 1) stands) (spells_literal separator)
    obtain ⟨t, ran, keeps, after⟩ := @inside_joined rounds depth { s with status := 1 } here p mounts _ (passed 1) led first
      (joined 1) (still 1) _ _ spelled
    exact ⟨t, if_fails asked Nat.one_ne_zero (script_one (calm 1) ran), ((collects.passing s.loops 1).trans keeps).mono (fun _ => id), after⟩

end Rounds

section Later

variable {s t : Session} {names values : List String} {here x value : String} {mounts : List String} {old : Option String}

theorem value_keeps (quiet : Quiet s) (room : s.shared ≤ s.texts.length) : Keeps [x] s (given s x value) where
  quiet := quiet
  find y free := by rw [given, find_put, if_neg fun same => free (List.mem_singleton.mpr same)]
  filled := putIn_filled
  functions := rfl
  tree := rfl
  here := rfl
  room := room

theorem Joins.later (joins : Joins s old) (keeps : Keeps names s t) (apart : ∀ x ∈ ["BW_VAL", "BW_MOUNTED"], x ∉ names) : Joins t old where
  plain x member := keeps.ordinarily (apart x member) (joins.plain x member)
  flat x member := keeps.flat (apart x member) (joins.flat x member)
  held := (keeps.value (apart _ (by decide))).trans joins.held

-- Where nothing but other variables changed, the same volumes are collected.
theorem Collects.still (collects : Collects s here mounts) (keeps : Keeps names s t)
    (apart : ∀ y ∈ "BW_EXTRA_MOUNTS" :: "spec" :: "existing" :: hostNames, y ∉ names) : Collects t here mounts :=
  collects.later keeps (fun y member => apart y (List.mem_cons_of_mem _ member))
    (keeps.ordinarily (apart _ (List.mem_cons_self ..)) (collects.plain _ (List.mem_cons_self ..)))
    (keeps.lists (apart _ (List.mem_cons_self ..)) collects.lists)

end Later

-- The names of the variables that the loop writes.
def loopNames : List String := ["BW_VAL", "BW_EXTRA_MOUNTS", "BW_MOUNTED"]

section Values

variable {rounds depth : Nat} {s : Session} {here p separator : String} {mounts values : List String} {old : Option String}
  (led : here.toList.head? = some '/') (first : Sound here)

include led first

-- One round of the loop.
theorem value_mounted (collects : Collects s here mounts) (joins : Joins s old) (workable : Workable here p) : ∃ t,
    (∀ line, ComesTo (forRound (engine rounds (depth + 4)) "BW_VAL" (quotedItems "BW_VALUES") (valueBody separator) line p) s (.ok true t)) ∧
      Keeps loopNames s t ∧ Collects t here (extended mounts (volumeOf s here p)) ∧
      Joins t (behindThose separator old (inside (absolutePath here p))) := by
  have quiet := collects.hosting.pathing.quiet
  let s₁ := given s "BW_VAL" p
  have keeps : Keeps ["BW_VAL"] s s₁ := value_keeps quiet collects.hosting.room
  have began : Collects s₁ here mounts := collects.still keeps (by decide)
  have carries : Carries s₁ here "BW_VAL" p := {
    own := by decide
    free := by decide
    plain := given_ordinarily (joins.plain _ (by decide))
    flat := given_flat (joins.flat _ (by decide))
    held := by rw [given_value, if_pos rfl]
    sound := workable.sound
    small := workable.small }
  have joined : Joins s₁ old := {
    plain := fun x member => given_ordinarily (joins.plain x member)
    flat := fun x member => given_flat (joins.flat x member)
    held := (keeps.value (by decide)).trans joins.held }
  obtain ⟨u, added, -, further, plain, lists⟩ := @volume_collected rounds depth s₁ here "BW_VAL" p mounts began led first carries
  have between : Collects u here (extended mounts (volumeOf s₁ here p)) := began.later further (by decide) plain lists
  obtain ⟨t, appended, last, after⟩ := @appended_comesTo rounds depth u here p separator _ old between led first
    (joined.later further (by decide)) (carries.later further (by decide))
  have stored : Gives (Assign.store (.whole "BW_VAL") false p) s () s₁ :=
    store_gives (by decide) (joins.plain _ (by decide)) (joins.flat _ (by decide))
  refine ⟨t, fun line => ?_, (keeps.trans (further.trans last)).mono (by decide), ?_, after⟩
  · refine round_comesTo quiet stored (loopRound_ok ?_)
    exact script_cons keeps.quiet added (script_one further.quiet appended)
  · rw [volumeOf_like keeps.tree keeps.here] at between
    exact between.still last (by decide)

-- All rounds.
theorem values_rounds (collects : Collects s here mounts) (joins : Joins s old) (workable : ∀ p ∈ values, Workable here p) : ∃ t,
    (∀ line, ComesTo (loopOver (forRound (engine rounds (depth + 4)) "BW_VAL" (quotedItems "BW_VALUES") (valueBody separator) line) values)
        s (.ok () t)) ∧
      Keeps loopNames s t ∧ Collects t here ((values.map (volumeOf s here)).foldl extended mounts) ∧
      Joins t ((values.map fun p => inside (absolutePath here p)).foldl (behindThose separator) old) := by
  induction values generalizing s mounts old with
  | nil => exact ⟨s, fun _ => over_nil, collects.same, collects, joins⟩
  | cons p values more =>
    obtain ⟨u, ran, keeps, between, joined⟩ := @value_mounted rounds depth s here p separator mounts old led first collects joins
      (workable p (List.mem_cons_self ..))
    obtain ⟨t, went, last, after, rest⟩ := more between joined fun q member => workable q (List.mem_cons_of_mem _ member)
    have same : values.map (volumeOf u here) = values.map (volumeOf s here) :=
      List.map_congr_left fun q _ => volumeOf_like keeps.tree keeps.here q
    rw [same] at after
    exact ⟨t, fun line => over_goes (ran line) (went line), (keeps.trans last).mono (by decide), after, rest⟩

end Values

def valuesLoop (separator : String) : Command := .forIn "BW_VAL" (some [quotedItems "BW_VALUES"]) (valueBody separator)

-- The loop that the layer runs for an argument with several values.
theorem mountArgument_multiple {a : Argument} (multiple : a.multiple = true) :
    ∃ before, Docker.mountArgument a = when (isNonempty a.envName)
      (before ++ valuesLoop a.separatorText :: [assignQuoted a.envName [ref "BW_MOUNTED"]]) := by
  unfold Docker.mountArgument
  rw [if_pos multiple]
  exact ⟨[_, _], rfl⟩

theorem mountArgument_single {a : Argument} (single : a.multiple = false) :
    Docker.mountArgument a = when (isNonempty a.envName) (Docker.mountOwn a.envName) := by
  unfold Docker.mountArgument
  rw [single]
  rfl

-- The values of an argument, one after the other.
theorem values_mounted {rounds depth : Nat} {s : Session} {here separator : String} {mounts values : List String}
    (collects : Collects s here mounts) (led : here.toList.head? = some '/') (first : Sound here) (joins : Joins s none)
    (plain : Ordinarily s "BW_VALUES") (lists : Lists s "BW_VALUES" values) (filled : values ≠ [])
    (workable : ∀ p ∈ values, Workable here p) : ∃ t,
    ComesTo ((valuesLoop separator).run (engine rounds (depth + 4))) s (.ok () t) ∧ Keeps loopNames s t ∧
      Collects t here ((values.map (volumeOf s here)).foldl extended mounts) ∧
      t.value? "BW_MOUNTED" = some (separator.intercalate (values.map fun p => inside (absolutePath here p))) := by
  have quiet := collects.hosting.pathing.quiet
  have items : Yields (Word.fields (engine rounds (depth + 4)) (quotedItems "BW_VALUES")) s values :=
    items_fields quiet (by decide) plain lists
  have enters : Keeps [] s (entered s values) := collects.passing _ _
  obtain ⟨t, ran, keeps, after, joined⟩ := @values_rounds rounds depth (entered s values) here separator mounts values none led first
    (collects.still enters fun _ _ => List.not_mem_nil) (joins.later enters fun _ _ => List.not_mem_nil) workable
  have looped : ComesTo ((valuesLoop separator).run (engine rounds (depth + 4))) s (.ok () { t with loops := t.loops - 1 }) :=
    forIn_comesTo (x := "BW_VAL") (by decide) items ran
  have leaves : Keeps [] t { t with loops := t.loops - 1 } := after.passing _ t.status
  have same : values.map (volumeOf (entered s values) here) = values.map (volumeOf s here) :=
    List.map_congr_left fun q _ => volumeOf_like enters.tree enters.here q
  rw [same] at after
  refine ⟨_, looped, ((enters.trans keeps).trans leaves).mono (by decide), after.still leaves fun _ _ => List.not_mem_nil, ?_⟩
  refine joined.held.trans ?_
  obtain ⟨p, others, rfl⟩ := List.exists_cons_of_ne_nil filled
  rw [List.map_cons, List.foldl_cons]
  exact behindThose_joined separator _ _

end Toolwrap.Mounting
