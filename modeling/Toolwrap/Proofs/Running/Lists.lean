import Mathlib.Data.List.Forall2
import Mathlib.Data.List.TakeWhile
import Toolwrap.Proofs.Running.Variables

-- Arrays that hold values one behind the other, and what assignments make of them.

namespace Toolwrap.Running

open Shell

-- A session in which an array holds values.
def listing (s : Session) (x : String) (values : List String) : Session :=
  s.setContent x (numberedItems values)

def Lists (s : Session) (x : String) (values : List String) : Prop :=
  ∃ v, s.find? x = some v ∧ v.content = numberedItems values

-- What stands under a name that is no fact.
def heldIn (s : Session) (x : String) : Content := ((s.find? x).map (·.content)).getD .declared

def Untabled (s : Session) (x : String) : Prop := ∀ entries, heldIn s x ≠ .table entries

section Items

variable (values : List String)

theorem nextIndex_numbered :
    Content.nextIndex ((List.range values.length).zip values) = values.length := by
  unfold Content.nextIndex
  rw [List.getLast?_eq_getElem?, List.length_zip, List.length_range, Nat.min_self]
  cases values with
  | nil => rfl
  | cons v rest => simp

theorem insert_numbered (value : String) :
    Content.insert ((List.range values.length).zip values) values.length value =
      (List.range (values ++ [value]).length).zip (values ++ [value]) := by
  have below : ∀ item ∈ (List.range values.length).zip values, item.1 < values.length := by
    intro item member
    exact List.mem_range.mp (List.of_mem_zip member).1
  unfold Content.insert
  rw [List.takeWhile_eq_self_iff.mpr (fun item member => decide_eq_true (below item member)),
    List.dropWhile_eq_nil_iff.mpr (fun item member => decide_eq_true (Nat.le_of_lt (below item member))),
    List.length_append, List.length_singleton, List.range_succ, List.zip_append (by simp)]
  rfl

end Items

section Listing

variable {s : Session} {x y : String} {values : List String}

theorem setContent_twice (first second : Content) :
    (s.setContent x first).setContent x second = s.setContent x second := by
  unfold Session.setContent
  rw [put_put]
  congr 1
  unfold Session.variableD
  rw [find_put, if_pos rfl]
  rfl

theorem listing_find :
    (listing s x values).find? y =
      if y = x then some { s.variableD x with content := numberedItems values } else s.find? y := by
  rw [listing, Session.setContent, find_put]

theorem listing_lists : Lists (listing s x values) x values :=
  ⟨_, by rw [listing_find, if_pos rfl], rfl⟩

theorem listing_ordinarily (plain : Ordinarily s y) : Ordinarily (listing s x values) y := by
  intro v found
  rw [listing_find] at found
  split at found
  · rename_i same
    subst same
    obtain rfl := Option.some.inj found
    obtain ⟨free, literal, uncased, direct⟩ := variableD_ordinary plain
    exact ⟨free, literal, uncased, direct⟩
  · exact plain v found

end Listing

section Filling

variable {E : Engine} {s : Session} {x : String} {values more : List String}

-- A value that is put behind the last one.
theorem item_stored (own : isOwn x = true) (plain : Ordinarily s x) (lists : Lists s x values) (value : String) :
    Gives (Assign.store (.item x values.length) false value) s () (listing s x (values ++ [value])) := by
  obtain ⟨v, found, content⟩ := lists
  refine store_spot (.item x values.length) own plain ?_
  intro m
  have held : (s.variableD x).content = numberedItems values := by
    unfold Session.variableD
    rw [found]
    exact content
  have same : (leaving s m).resolved x = x := resolved_self (s := leaving s m) plain
  change Session.setItem _ _ _ _ = _
  rw [same]
  change leaving (s.setItem x values.length value) m = _
  unfold Session.setItem
  rw [held, numberedItems, Content.list, insert_numbered]
  rfl

theorem item_gives (own : isOwn x = true) (plain : Ordinarily s x) (value : String) :
    Gives (Assign.store (.item x values.length) false value) (listing s x values) ()
      (listing s x (values ++ [value])) := by
  have stored := @item_stored (listing s x values) x values own (listing_ordinarily plain) listing_lists value
  rwa [listing, listing, setContent_twice] at stored

theorem fill_gives (own : isOwn x = true) (plain : Ordinarily s x) :
    Gives (Assign.fill E x values.length (more.map fun v => (none, false, v))) (listing s x values) ()
      (listing s x (values ++ more)) := by
  induction more generalizing values with
  | nil =>
    rw [List.append_nil]
    exact fun _ => rfl
  | cons v more filled =>
    rw [List.map_cons, Assign.fill]
    refine (item_gives own plain v).bind ?_
    have rest := @filled (values ++ [v])
    rw [List.length_append, List.length_singleton, List.append_assoc] at rest
    exact rest

theorem storeItems_of {append : Bool} {old : List String} (own : isOwn x = true)
    (plain : Ordinarily s x) (untabled : Untabled s x)
    (before : (if append then (heldIn s x).list else []) = (List.range old.length).zip old) :
    Gives (Assign.storeItems E x append (more.map fun v => (none, false, v))) s ()
      (listing s x (old ++ more)) := by
  intro m
  have same : (leaving s m).resolved x = x := resolved_self (s := leaving s m) plain
  have held : (leaving s m).contentOf x = heldIn s x :=
    contentOf_own (s := leaving s m) own plain
  unfold Assign.storeItems
  rw [bind_ok (needFree_yields own plain m), bind_ok get_ok]
  simp only [same]
  rw [bind_ok get_ok, held]
  have kept := @fill_gives E s x old more own plain m
  unfold Untabled at untabled
  generalize heldIn s x = content at untabled before
  cases content with
  | table entries => exact absurd rfl (untabled entries)
  | _ =>
    simp only [before, nextIndex_numbered]
    rw [bind_ok (modify_ok _)]
    exact kept

theorem storeItems_anew (own : isOwn x = true) (plain : Ordinarily s x) (untabled : Untabled s x) :
    Gives (Assign.storeItems E x false (more.map fun v => (none, false, v))) s () (listing s x more) :=
  @storeItems_of E s x more false [] own plain untabled rfl

theorem storeItems_behind (own : isOwn x = true) (plain : Ordinarily s x) (lists : Lists s x values) :
    Gives (Assign.storeItems E x true (more.map fun v => (none, false, v))) s ()
      (listing s x (values ++ more)) := by
  obtain ⟨v, found, content⟩ := lists
  refine storeItems_of own plain ?_ ?_
  · intro entries
    rw [heldIn, found, Option.map_some, Option.getD_some, content]
    exact nofun
  · rw [heldIn, found, Option.map_some, Option.getD_some, content]
    rfl

end Filling

section Assigning

variable {E : Engine} {s : Session} {x : String} {values fields : List String} {word : Word} {words : List Word}
  {each : List (List String)}

theorem emptied_comesTo (quiet : Quiet s) (own : isOwn x = true) (plain : Ordinarily s x)
    (untabled : Untabled s x) :
    ComesTo ((assignItems x []).run E) s (.ok () { listing s x [] with status := 0 }) := by
  refine alone_comesTo quiet ?_ quiet rfl
  change Gives (Assign.apply E (.array x false [])) s () (listing s x [])
  unfold Assign.apply
  have stored : Gives (Assign.storeItems E x false []) s () (listing s x []) :=
    @storeItems_anew E s x [] own plain untabled
  exact Gives.bind yields_pure ((quiet.trace E _).bind stored)

-- The fields of words are put behind the values of an array, one word behind the other.
theorem items_read (read : List.Forall₂ (fun w fields => Yields (Word.fields E w) s fields) words each) :
    Yields (Assign.itemValues E (words.map .plain)) s (each.flatten.map fun v => (none, false, v)) := by
  induction read with
  | nil => exact fun _ => rfl
  | cons one _ more =>
    intro m
    rw [List.map_cons, Assign.itemValues, bind_ok (one m), bind_ok (more m), List.flatten_cons, List.map_append]
    rfl

theorem extended_comesTo (quiet : Quiet s) (own : isOwn x = true) (plain : Ordinarily s x) (lists : Lists s x values)
    (read : List.Forall₂ (fun w fields => Yields (Word.fields E w) s fields) words each) :
    ComesTo ((addItems x words).run E) s (.ok () { listing s x (values ++ each.flatten) with status := 0 }) := by
  refine alone_comesTo quiet ?_ quiet rfl
  unfold Assign.apply
  exact Gives.bind (items_read read) ((quiet.trace E _).bind (storeItems_behind own plain lists))

theorem added_comesTo (quiet : Quiet s) (own : isOwn x = true) (plain : Ordinarily s x)
    (lists : Lists s x values) (read : Yields (Word.fields E word) s fields) :
    ComesTo ((addItems x [word]).run E) s
      (.ok () { listing s x (values ++ fields) with status := 0 }) := by
  have added := extended_comesTo quiet own plain lists (.cons read .nil)
  rwa [List.flatten_cons, List.flatten_nil, List.append_nil] at added

end Assigning

end Toolwrap.Running
