import Mathlib
import PettyFlow.Foundation.Dict

/-! Windows of recent items. Items expire at the front only, so that a late item stays behind a
younger one. What a reading at the latest time leaves does not depend on the readings before.
Windows under keys may lack some items that other ones still hold at the front.
-/

namespace Foundation

section Expire

variable {α : Type} (time : α → Int) (width : Int)

/-- Drop the items at the front that are older than the width before a time. -/
def expire (reference : Int) (window : List α) : List α :=
  window.dropWhile (fun item => time item < reference - width)

/-- Drop what is too old for a new item, and append it. -/
def slide (window : List α) (item : α) : List α :=
  expire time width (time item) window ++ [item]

/-- Append an item, and drop what is too old for it. -/
def push (window : List α) (item : α) : List α :=
  expire time width (time item) (window ++ [item])

variable {time width} {reference last : Int} {window : List α}

theorem expire_sublist : (expire time width reference window).Sublist window :=
  List.dropWhile_sublist _

/-- Dropping by an earlier time first makes no difference. -/
theorem expire_append_expire (earlier : reference ≤ last) (items : List α)
    : expire time width last (expire time width reference window ++ items)
      = expire time width last (window ++ items) := by
  induction window with
  | nil => rfl
  | cons item rest ih =>
      simp only [expire, List.dropWhile_cons, List.cons_append] at ih ⊢
      by_cases old : time item < reference - width
      · have older : time item < last - width := by omega
        simp only [old, older, decide_true, if_true]
        exact ih
      · simp only [old, decide_false, Bool.false_eq_true, if_false, List.cons_append,
          List.dropWhile_cons]

/-- A window before the latest item, as if nothing had been dropped, by induction over the
items.
-/
theorem expire_foldl_slide {items : List α} (earlier : ∀ item ∈ items, time item ≤ last)
    : expire time width last (items.foldl (slide time width) window)
      = expire time width last (window ++ items) := by
  induction items generalizing window with
  | nil => simp
  | cons item rest ih =>
      rw [List.foldl_cons, ih (fun other member => earlier other (List.mem_cons_of_mem _ member)),
        slide, List.append_assoc, expire_append_expire (earlier item List.mem_cons_self)]
      rfl

theorem expire_foldl_push {items : List α} (earlier : ∀ item ∈ items, time item ≤ last)
    : expire time width last (items.foldl (push time width) window)
      = expire time width last (window ++ items) := by
  induction items generalizing window with
  | nil => simp
  | cons item rest ih =>
      rw [List.foldl_cons, ih (fun other member => earlier other (List.mem_cons_of_mem _ member)),
        push, expire_append_expire (earlier item List.mem_cons_self), List.append_assoc]
      rfl

/-- After the latest item a window holds what is young enough at its front, and the item. -/
theorem foldl_slide_last {items : List α} {item : α}
    (earlier : ∀ other ∈ items, time other ≤ time item)
    : (items ++ [item]).foldl (slide time width) window
      = expire time width (time item) (window ++ items) ++ [item] := by
  rw [List.foldl_append, List.foldl_cons, List.foldl_nil, slide, expire_foldl_slide earlier]

theorem foldl_push_last {items : List α} {item : α}
    (earlier : ∀ other ∈ items, time other ≤ time item)
    : (items ++ [item]).foldl (push time width) window
      = expire time width (time item) (window ++ items ++ [item]) := by
  rw [List.foldl_append, List.foldl_cons, List.foldl_nil, push,
    ← expire_append_expire (le_refl (time item)), expire_foldl_push earlier,
    expire_append_expire le_rfl]

/-- Reading a window once more at the same time drops nothing that it would not drop at once. -/
theorem expire_slide (item : α)
    : expire time width (time item) (slide time width window item)
      = push time width window item :=
  expire_append_expire le_rfl [item]

/-- With items in order, what is left is what is young enough. -/
theorem expire_of_sorted (sorted : window.Pairwise (fun a b => time a ≤ time b))
    : expire time width reference window
      = window.filter (fun item => reference - width ≤ time item) := by
  induction window with
  | nil => rfl
  | cons item rest ih =>
      obtain ⟨first, later⟩ := List.pairwise_cons.mp sorted
      by_cases old : time item < reference - width
      · have dropped : ¬ reference - width ≤ time item := not_le.mpr old
        rw [List.filter_cons_of_neg (by simpa using dropped), ← ih later]
        simp [expire, old]
      · have young : ∀ other ∈ item :: rest, reference - width ≤ time other := by
          intro other member
          rcases List.mem_cons.mp member with rfl | behind
          · exact not_lt.mp old
          · exact (not_lt.mp old).trans (first other behind)
        rw [List.filter_eq_self.mpr (fun other member => decide_eq_true (young other member))]
        simp [expire, old]

/-- A young item at the front keeps everything behind it. -/
theorem expire_cons {item : α} (young : reference - width ≤ time item)
    : expire time width reference (item :: window) = item :: window := by
  simp [expire, not_lt.mpr young]

/-- Old items alone are dropped, and so are those in front of young ones. -/
theorem expire_old_append {old items : List α}
    (isOld : ∀ item ∈ old, time item < reference - width)
    : expire time width reference (old ++ items) = expire time width reference items := by
  simp only [expire]
  exact List.dropWhile_append_of_pos (fun item member => decide_eq_true (isOld item member))

/-- What expires is old: the young items stay. -/
theorem mem_expire {item : α} (member : item ∈ window) (young : reference - width ≤ time item)
    : item ∈ expire time width reference window := by
  induction window with
  | nil => cases member
  | cons first rest ih =>
      by_cases old : time first < reference - width
      · rcases List.mem_cons.mp member with rfl | behind
        · exact absurd young (not_le.mpr old)
        · simpa [expire, old] using ih behind
      · simpa [expire, old] using member

/-- The front of a window that was read at a time is young. -/
theorem head_expire {first : α} {rest : List α}
    (left : expire time width reference window = first :: rest)
    : reference - width ≤ time first := by
  have found := List.head?_dropWhile_not (fun item => decide (time item < reference - width)) window
  unfold expire at left
  rw [left] at found
  simpa using found

/-- An item at the front that no later one makes too old keeps the window whole. -/
theorem foldl_push_of_head {first : α} {rest items : List α}
    (young : ∀ item ∈ items, time item - width ≤ time first)
    : items.foldl (push time width) (first :: rest) = first :: rest ++ items := by
  induction items generalizing rest with
  | nil => simp
  | cons item later ih =>
      rw [List.foldl_cons, push, List.cons_append, expire_cons (young item List.mem_cons_self),
        ih (fun other member => young other (List.mem_cons_of_mem _ member))]
      simp

/-- A window holds items that entered it, each as often as it did. -/
theorem foldl_push_sublist (items : List α)
    : (items.foldl (push time width) window).Sublist (window ++ items) := by
  induction items generalizing window with
  | nil => simp
  | cons item rest ih =>
      apply ih.trans
      have kept : (push time width window item ++ rest).Sublist (window ++ [item] ++ rest) :=
        expire_sublist.append_right rest
      simpa only [List.append_assoc, List.singleton_append] using kept

/-- The items at the front that are dropped by reading a window at a time. -/
def expired (time : α → Int) (width reference : Int) (window : List α) : List α :=
  window.takeWhile (fun item => time item < reference - width)

theorem expired_append_expire (window : List α)
    : expired time width reference window ++ expire time width reference window = window :=
  List.takeWhile_append_dropWhile

end Expire

/-- Each window lacks some items at the front of the other one, all of them noted under its
key.
-/
def Lags {κ α : Type} [DecidableEq κ] (noted : List (κ × α)) (windows others : Dict κ (List α))
    : Prop :=
  ∀ key,
    ∃ lost,
      others.getD key [] = lost ++ windows.getD key [] ∧ ∀ item ∈ lost, (key, item) ∈ noted

namespace Lags

variable {κ α : Type} [DecidableEq κ] {time : α → Int} {width reference : Int}
  {noted : List (κ × α)} {windows others : Dict κ (List α)}

theorem refl (windows : Dict κ (List α)) : Lags noted windows windows :=
  fun _ => ⟨[], rfl, nofun⟩

theorem note_more (lags : Lags noted windows others) (more : List (κ × α))
    : Lags (noted ++ more) windows others := by
  intro key
  obtain ⟨lost, split, all⟩ := lags key
  exact ⟨lost, split, fun item member => List.mem_append_left _ (all item member)⟩

/-- Reading one of the windows at a time loses what has expired, which is noted. -/
theorem expire (lags : Lags noted windows others) (time : α → Int) (width reference : Int)
    (key : κ)
    : Lags (noted ++ (expired time width reference (windows.getD key [])).map (key, ·))
        (windows.set key (Foundation.expire time width reference (windows.getD key []))) others := by
  intro other
  obtain ⟨lost, split, all⟩ := lags other
  by_cases same : key = other
  · subst same
    refine ⟨lost ++ expired time width reference (windows.getD key []), ?_, ?_⟩
    · rw [Dict.getD_set_self, List.append_assoc, expired_append_expire, split]
    · intro item member
      rcases List.mem_append.mp member with before | now
      · exact List.mem_append_left _ (all item before)
      · exact List.mem_append_right _ (List.mem_map_of_mem now)
  · rw [Dict.getD_set_ne _ _ _ same]
    exact ⟨lost, split, fun item member => List.mem_append_left _ (all item member)⟩

/-- Two windows are alike for a time that is too late for all the lost items. -/
theorem expire_eq (lags : Lags noted windows others) {key : κ}
    (old : ∀ item, (key, item) ∈ noted → time item < reference - width)
    : Foundation.expire time width reference (windows.getD key [])
      = Foundation.expire time width reference (others.getD key []) := by
  obtain ⟨lost, split, all⟩ := lags key
  rw [split, expire_old_append (fun item member => old item (all item member))]

/-- A window that is set in the same way lacks nothing. -/
theorem set (lags : Lags noted windows others) (key : κ) (window : List α)
    : Lags noted (windows.set key window) (others.set key window) := by
  intro other
  by_cases same : key = other
  · subst same
    rw [Dict.getD_set_self, Dict.getD_set_self]
    exact ⟨[], rfl, nofun⟩
  · rw [Dict.getD_set_ne _ _ _ same, Dict.getD_set_ne _ _ _ same]
    exact lags other

/-- A window that is set to itself, or made where it is missing, is as before. -/
theorem getD_set_getD (windows : Dict κ (List α)) (key other : κ)
    : (windows.set key (windows.getD key [])).getD other [] = windows.getD other [] := by
  by_cases same : key = other
  · subst same
    exact Dict.getD_set_self _ _ _ _
  · exact Dict.getD_set_ne _ _ _ same

theorem reset (lags : Lags noted windows others) (key : κ)
    : Lags noted (windows.set key (windows.getD key [])) others := by
  intro other
  rw [getD_set_getD]
  exact lags other

theorem reset_both (lags : Lags noted windows others) (key : κ)
    : Lags noted (windows.set key (windows.getD key [])) (others.set key (others.getD key [])) := by
  intro other
  rw [getD_set_getD, getD_set_getD]
  exact lags other

end Lags

end Foundation
