/-
  RecordSearch.Proofs.Builder.SortSteps
  ─────────────────────────────────────
  **A sort holds each path once.**

  Keys are added to a sort one after the other, all at once from a list or one by one by the words
  of the builder.  A path that is there already keeps its place and takes the new direction, so what
  the additions come to can be said without adding anything:

      KeysOf                — every path in its first place, with its last direction
      SortStep              — the ways to add one key
      KeysOf.concat         — one addition keeps this up
      keysOf_ofItems        — and so do all of them in turn
      addAll_holdsPathsOnce — the keys of a sort, however it was built

  Keys without a path twice are their own additions (`ofItems_of_nodup`), so a sort that was built
  is built once more from its own keys.
-/
import Mathlib.Data.List.Induction
import RecordSearch.Builder

namespace RecordSearch

/-! ## §1. What additions come to. -/

/-- **The keys that additions come to.** -/
structure KeysOf (additions keys : List SortCriterion) : Prop where
  nodup : (keys.map (·.field)).Nodup
  /-- The paths stand in the order of their first additions. -/
  fields : keys.map (·.field) = (additions.map (·.field)).eraseDups
  /-- Each key is as its path was added last. -/
  last : ∀ key ∈ keys, ∃ before after, additions = before ++ key :: after ∧
    ∀ item ∈ after, item.field ≠ key.field

/-- A way to add a key to a sort. -/
inductive SortStep where
  | push (path : String) (direction : Direction)
  | sortBy (field : Field) (direction : Direction)
  | ascending (field : Field)
  | descending (field : Field)

/-- The key that a step adds. -/
def SortStep.item : SortStep → SortCriterion
  | .push path direction => ⟨path, direction⟩
  | .sortBy field direction => ⟨field.path, direction⟩
  | .ascending field => ⟨field.path, .ascending⟩
  | .descending field => ⟨field.path, .descending⟩

namespace SortCriteria

def add (s : SortCriteria) : SortStep → SortCriteria
  | .push path direction => s.push path direction
  | .sortBy field direction => s.sortBy field direction
  | .ascending field => s.ascending field
  | .descending field => s.descending field

/-- The sort behind all steps, one after the other. -/
def addAll (s : SortCriteria) (steps : List SortStep) : SortCriteria := steps.foldl add s

end SortCriteria

/-! ## §2. One addition. -/

theorem eraseDups_concat (paths : List String) (path : String) :
    (paths ++ [path]).eraseDups =
      if path ∈ paths then paths.eraseDups else paths.eraseDups ++ [path] := by
  rw [List.eraseDups_append]
  by_cases h : path ∈ paths <;> simp [List.removeAll, List.eraseDups_cons, h]

theorem nodup_eraseDups (paths : List String) : paths.eraseDups.Nodup := by
  induction paths using List.reverseRecOn with
  | nil => exact .nil
  | append_singleton paths path ih =>
      rw [eraseDups_concat]
      by_cases h : path ∈ paths
      · rw [if_pos h]
        exact ih
      · rw [if_neg h]
        refine List.nodup_append.mpr ⟨ih, List.pairwise_singleton _ _, fun a ha b hb => ?_⟩
        rintro rfl
        exact h (List.mem_eraseDups.mp (List.mem_singleton.mp hb ▸ ha))

variable {field : String} {direction : Direction} {items additions keys : List SortCriterion}

theorem pushItem_of_not_mem (h : field ∉ items.map (·.field)) :
    SortCriteria.pushItem field direction items = items ++ [⟨field, direction⟩] := by
  induction items with
  | nil => rfl
  | cons item items ih =>
      rw [List.map_cons, List.mem_cons, not_or] at h
      rw [SortCriteria.pushItem, if_neg (Ne.symm h.1), ih h.2]
      rfl

/-- A path that is there keeps its place. -/
theorem map_field_pushItem (h : field ∈ items.map (·.field)) :
    (SortCriteria.pushItem field direction items).map (·.field) = items.map (·.field) := by
  induction items with
  | nil => cases h
  | cons item items ih =>
      unfold SortCriteria.pushItem
      by_cases hitem : item.field = field
      · rw [if_pos hitem]
        exact congrArg (· :: items.map (·.field)) hitem.symm
      · rw [if_neg hitem, List.map_cons,
          ih ((List.mem_cons.mp h).resolve_left (Ne.symm hitem)), List.map_cons]

/-- Of a path that is there once, no other key is left. -/
theorem mem_pushItem (h : (items.map (·.field)).Nodup) {key : SortCriterion}
    (hkey : key ∈ SortCriteria.pushItem field direction items) :
    key = ⟨field, direction⟩ ∨ key ∈ items ∧ key.field ≠ field := by
  induction items with
  | nil => exact .inl (List.mem_singleton.mp hkey)
  | cons item items ih =>
      obtain ⟨hitem, hitems⟩ := List.nodup_cons.mp h
      unfold SortCriteria.pushItem at hkey
      by_cases hfield : item.field = field
      -- The path stands here, so it does not stand behind.
      · rw [if_pos hfield] at hkey
        refine (List.mem_cons.mp hkey).imp_right fun hmem => ⟨.tail _ hmem, fun heq => hitem ?_⟩
        exact List.mem_map.mpr ⟨key, hmem, heq.trans hfield.symm⟩
      · rw [if_neg hfield] at hkey
        rcases List.mem_cons.mp hkey with rfl | hmem
        · exact .inr ⟨.head _, hfield⟩
        · exact (ih hitems hmem).imp_right fun ⟨hmem, hne⟩ => ⟨.tail _ hmem, hne⟩

/-- **One more addition.**  Its path was added last by it, and every other path as before. -/
theorem KeysOf.concat (h : KeysOf additions keys) (item : SortCriterion) :
    KeysOf (additions ++ [item]) (SortCriteria.pushItem item.field item.direction keys) := by
  have hlast : ∀ key ∈ SortCriteria.pushItem item.field item.direction keys,
      ∃ before after, additions ++ [item] = before ++ key :: after ∧
        ∀ x ∈ after, x.field ≠ key.field := by
    intro key hkey
    rcases mem_pushItem h.nodup hkey with rfl | ⟨hkey, hne⟩
    · exact ⟨additions, [], rfl, by simp⟩
    · obtain ⟨before, after, rfl, hafter⟩ := h.last key hkey
      refine ⟨before, after ++ [item], by simp, List.forall_mem_append.mpr ⟨hafter, ?_⟩⟩
      exact List.forall_mem_singleton.mpr hne.symm
  have hadded : item.field ∈ keys.map (·.field) ↔ item.field ∈ additions.map (·.field) := by
    rw [h.fields, List.mem_eraseDups]
  have hfields : (SortCriteria.pushItem item.field item.direction keys).map (·.field) =
      ((additions ++ [item]).map (·.field)).eraseDups := by
    rw [List.map_append, List.map_singleton, eraseDups_concat, ← h.fields]
    -- A path that is there leaves the paths as they are; any other goes behind them.
    by_cases hitem : item.field ∈ keys.map (·.field)
    · rw [map_field_pushItem hitem, if_pos (hadded.mp hitem)]
    · rw [pushItem_of_not_mem hitem, if_neg (mt hadded.mpr hitem), List.map_append,
        List.map_singleton]
  refine ⟨?_, hfields, hlast⟩
  rw [hfields]
  exact nodup_eraseDups _

/-! ## §3. All additions. -/

namespace SortCriteria

theorem ofItems_concat (items : List SortCriterion) (item : SortCriterion) :
    ofItems (items ++ [item]) = (ofItems items).push item.field item.direction := by
  unfold ofItems
  rw [List.foldl_append]
  rfl

/-- **Each path once, in its first place and with its last direction.** -/
theorem keysOf_ofItems (additions : List SortCriterion) :
    KeysOf additions (ofItems additions).items := by
  induction additions using List.reverseRecOn with
  | nil => exact ⟨.nil, rfl, by simp [ofItems]⟩
  | append_singleton additions item ih =>
      rw [ofItems_concat]
      exact ih.concat item

/-- Keys without a path twice are added as they are. -/
theorem ofItems_of_nodup (h : (items.map (·.field)).Nodup) : ofItems items = ⟨items⟩ := by
  induction items using List.reverseRecOn with
  | nil => rfl
  | append_singleton items item ih =>
      rw [List.map_append, List.map_singleton, List.nodup_append] at h
      obtain ⟨hitems, -, hne⟩ := h
      have hitem : item.field ∉ items.map (·.field) :=
        fun hmem => hne _ hmem _ (List.mem_singleton_self _) rfl
      rw [ofItems_concat, ih hitems, push, pushItem_of_not_mem hitem]

theorem add_eq_push (s : SortCriteria) (step : SortStep) :
    s.add step = s.push step.item.field step.item.direction := by
  cases step <;> rfl

/-- Building step by step is adding the keys of the steps. -/
theorem addAll_ofItems (items : List SortCriterion) (steps : List SortStep) :
    (ofItems items).addAll steps = ofItems (items ++ steps.map SortStep.item) := by
  induction steps generalizing items with
  | nil => rw [List.map_nil, List.append_nil]; rfl
  | cons step steps ih =>
      calc (ofItems items).addAll (step :: steps)
          = ((ofItems items).add step).addAll steps := rfl
        _ = (ofItems (items ++ [step.item])).addAll steps := by
            rw [add_eq_push, ofItems_concat]
        _ = ofItems (items ++ (step :: steps).map SortStep.item) := by
            rw [ih, List.append_assoc]
            rfl

/-- **A sort holds each path once**, however it was built: from a list, one by one, or both.  The
paths stand in the order of their first additions, each with the direction of its last.  So a sort
is built once more from its own keys, and further keys can be added to it, or to its keys, in place
of all that it was built from. -/
theorem addAll_holdsPathsOnce (items : List SortCriterion) (steps more : List SortStep) :
    let built := (ofItems items).addAll steps
    KeysOf (items ++ steps.map SortStep.item) built.items ∧
      ofItems built.items = built ∧
      (ofItems items).addAll (steps ++ more) = built.addAll more ∧
      built.addAll more = ofItems (built.items ++ more.map SortStep.item) := by
  intro built
  have hkeys : KeysOf (items ++ steps.map SortStep.item) built.items := by
    rw [show built = ofItems _ from addAll_ofItems items steps]
    exact keysOf_ofItems _
  have hagain : ofItems built.items = built := ofItems_of_nodup hkeys.nodup
  refine ⟨hkeys, hagain, List.foldl_append, ?_⟩
  rw [← addAll_ofItems, hagain]

/-- The path that is added twice stays in front and takes the later direction. -/
example :
    addAll {} [.push "b" .ascending, .ascending ⟨"n", .skipped⟩, .descending ⟨"b", .skipped⟩] =
      ⟨[⟨"b", .descending⟩, ⟨"n", .ascending⟩]⟩ := by
  rfl

end SortCriteria

end RecordSearch
