import Mathlib

/-! Chains of numbered entries, each sealed together with the seal of the entry before it.
Where seals do not collide, a chain is determined by its last seal.
-/

namespace Foundation

/-- How entries are numbered, linked and sealed. -/
structure SealedChain (ε μ η : Type) where
  number : ε → Int
  link : ε → η
  stamp : ε → η
  body : ε → μ
  hash : μ → η

namespace SealedChain

variable {ε μ η : Type} (c : SealedChain ε μ η)

/-- The entries follow each other from a first link and a number on, and their seals are
right.
-/
def Chained : η → Int → List ε → Prop
  | _, _, [] => True
  | link, count, e :: rest =>
      c.number e = count + 1 ∧ c.link e = link ∧ c.stamp e = c.hash (c.body e)
      ∧ Chained (c.stamp e) (count + 1) rest

/-- The seal that the next entry links to. -/
def lastStamp (link : η) (entries : List ε) : η := (entries.getLast?.map c.stamp).getD link

/-- Two entries with the same place, the same seal and the same sealed body. -/
structure Agrees (e other : ε) : Prop where
  number : c.number e = c.number other
  link : c.link e = c.link other
  stamp : c.stamp e = c.stamp other
  body : c.body e = c.body other

variable {c}

theorem Agrees.refl (e : ε) : c.Agrees e e := ⟨rfl, rfl, rfl, rfl⟩

theorem lastStamp_cons (link : η) (e : ε) (rest : List ε)
    : c.lastStamp link (e :: rest) = c.lastStamp (c.stamp e) rest := by
  cases rest with
  | nil => rfl
  | cons next rest => simp [lastStamp, List.getLast?_cons]

/-- A chain is prolonged by an entry with the next number that links to the last seal, by
induction over the chain.
-/
theorem chained_append {link : η} {count : Int} {entries : List ε} {e : ε}
    : c.Chained link count (entries ++ [e])
      ↔ c.Chained link count entries
        ∧ c.number e = count + entries.length + 1
        ∧ c.link e = c.lastStamp link entries
        ∧ c.stamp e = c.hash (c.body e) := by
  induction entries generalizing link count with
  | nil => simp [Chained, lastStamp]
  | cons head rest ih =>
      simp only [List.cons_append, Chained, ih, lastStamp_cons, List.length_cons, and_assoc]
      push_cast
      have regroup : count + 1 + (rest.length : Int) + 1 = count + (rest.length + 1) + 1 := by
        ring
      rw [regroup]

/-- The beginning of a chain is a chain. -/
theorem Chained.take {link : η} {count : Int} {entries : List ε}
    (chained : c.Chained link count entries) (n : Nat)
    : c.Chained link count (entries.take n) := by
  induction entries generalizing link count n with
  | nil => simpa using chained
  | cons e rest ih =>
      cases n with
      | zero => trivial
      | succ n =>
          obtain ⟨numbered, linked, sealed_, later⟩ := chained
          exact ⟨numbered, linked, sealed_, ih later n⟩

/-- Entries that agree with a chain are a chain, by induction over both. -/
theorem Chained.of_agrees {link : η} {count : Int} {entries others : List ε}
    (chained : c.Chained link count others) (agree : List.Forall₂ c.Agrees entries others)
    : c.Chained link count entries := by
  induction agree generalizing link count with
  | nil => trivial
  | cons head _ ih =>
      obtain ⟨numbered, linked, sealed_, later⟩ := chained
      refine ⟨head.number.trans numbered, head.link.trans linked, ?_, ?_⟩
      · rw [head.stamp, head.body, sealed_]
      · rw [head.stamp]
        exact ih later

/-- The entry at a place of a chain has the number of its place. -/
theorem Chained.number_eq {link : η} {count : Int} {entries : List ε} {i : Nat} {e : ε}
    (chained : c.Chained link count entries) (listed : entries[i]? = some e)
    : c.number e = count + i + 1 := by
  induction entries generalizing link count i with
  | nil => simp at listed
  | cons head rest ih =>
      obtain ⟨numbered, _, _, later⟩ := chained
      cases i with
      | zero =>
          simp only [List.getElem?_cons_zero, Option.some.injEq] at listed
          simp [← listed, numbered]
      | succ i =>
          have next := ih later listed
          push_cast
          omega

/-- The numbers of a chain are all different, since each is given by its place. -/
theorem Chained.numbers_nodup {link : η} {count : Int} {entries : List ε}
    (chained : c.Chained link count entries)
    : (entries.map c.number).Nodup := by
  apply List.nodup_iff_getElem?_ne_getElem?.mpr
  intro i j before inside same
  rw [List.length_map] at inside
  rw [List.getElem?_map, List.getElem?_map, List.getElem?_eq_getElem (by omega),
    List.getElem?_eq_getElem inside] at same
  have first := chained.number_eq (List.getElem?_eq_getElem (by omega : i < entries.length))
  have second := chained.number_eq (List.getElem?_eq_getElem inside)
  have equal := Option.some.inj same
  omega

/-- Every entry of a chain is sealed. -/
theorem Chained.stamped {link : η} {count : Int} {entries : List ε}
    (chained : c.Chained link count entries) {e : ε} (member : e ∈ entries)
    : c.stamp e = c.hash (c.body e) := by
  induction entries generalizing link count with
  | nil => cases member
  | cons head rest ih =>
      obtain ⟨_, _, sealed_, later⟩ := chained
      rcases List.mem_cons.mp member with rfl | tail
      · exact sealed_
      · exact ih later tail

/-- An entry links to the first link or to the seal of another entry. -/
theorem Chained.link_eq {link : η} {count : Int} {entries : List ε}
    (chained : c.Chained link count entries) {e : ε} (member : e ∈ entries)
    : c.link e = link ∨ ∃ other ∈ entries, c.link e = c.stamp other := by
  induction entries generalizing link count with
  | nil => cases member
  | cons head rest ih =>
      obtain ⟨_, linked, _, later⟩ := chained
      rcases List.mem_cons.mp member with rfl | tail
      · exact Or.inl linked
      · rcases ih later tail with first | ⟨other, listed, same⟩
        · exact Or.inr ⟨head, List.mem_cons_self, first⟩
        · exact Or.inr ⟨other, List.mem_cons_of_mem _ listed, same⟩

/-- A chain whose last seal stands at the same place of another chain agrees with it up to
there. The argument goes back from the last entry: equal seals make entries agree, and the
links of entries that agree are the seals before them.
-/
theorem Chained.agrees_of_stamp {link : η} {count : Int} {entries others : List ε} {last : ε}
    (chained : c.Chained link count entries) (chainedOthers : c.Chained link count others)
    (same : ∀ e ∈ entries, ∀ other ∈ others, c.stamp e = c.stamp other → c.Agrees e other)
    (nonempty : entries ≠ []) (listed : others[entries.length - 1]? = some last)
    (stamps : c.lastStamp link entries = c.stamp last)
    : List.Forall₂ c.Agrees entries (others.take entries.length) := by
  induction entries using List.reverseRecOn generalizing last with
  | nil => exact absurd rfl nonempty
  | append_singleton init e ih =>
      -- Agreeing entries have the same link, which is the stamp of the entry before each
      obtain ⟨chainedInit, _, linked, _⟩ := chained_append.mp chained
      simp only [List.length_append, List.length_singleton, Nat.add_sub_cancel] at listed ⊢
      have cut : others.take (init.length + 1) = others.take init.length ++ [last] := by
        rw [List.take_add_one, listed]
        rfl
      have stamps : c.stamp e = c.stamp last := by simpa [lastStamp] using stamps
      have agree : c.Agrees e last :=
        same e (by simp) last (List.mem_of_getElem? listed) stamps
      rw [cut]
      refine List.rel_append ?_ (List.Forall₂.cons agree List.Forall₂.nil)
      rcases List.eq_nil_or_concat init with rfl | ⟨_, _, split⟩
      · simp
      · have initSome : init ≠ [] := by simp [split]
        have place : init.length ≠ 0 := by simpa using initSome
        have inside : init.length < others.length := (List.getElem?_eq_some_iff.mp listed).1
        obtain ⟨before, listedBefore⟩ : ∃ before, others[init.length - 1]? = some before :=
          ⟨_, List.getElem?_eq_getElem (by omega)⟩
        have prolonged := chainedOthers.take (init.length + 1)
        rw [cut] at prolonged
        obtain ⟨_, _, linkedLast, _⟩ := chained_append.mp prolonged
        have lastOfTake : (others.take init.length).getLast? = some before := by
          rw [List.getLast?_eq_getElem?, List.length_take_of_le (le_of_lt inside),
            List.getElem?_take_of_lt (by omega), listedBefore]
        apply ih chainedInit _ initSome listedBefore
        · calc
            c.lastStamp link init = c.link e := linked.symm
            _ = c.link last := agree.link
            _ = c.lastStamp link (others.take init.length) := linkedLast
            _ = c.stamp before := by simp [lastStamp, lastOfTake]
        · exact fun e member => same e (List.mem_append_left _ member)

end SealedChain

end Foundation
