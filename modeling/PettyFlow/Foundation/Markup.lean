import Mathlib

/-! Texts with marks in them: replacements that take the marks out, and templates whose holes are
filled with escaped or with plain texts.
-/

namespace Foundation.Markup

/-! ### Replacements and entities -/

section Characters

variable {α : Type} [DecidableEq α]

/-- Put a text in the place of every occurrence of a character. -/
def replaceAll (c : α) (other : List α) (text : List α) : List α :=
  text.flatMap (fun x => if x = c then other else [x])

/-- Replacements one after the other. -/
def replaceEach (rules : List (α × List α)) (text : List α) : List α :=
  rules.foldl (fun text rule => replaceAll rule.1 rule.2 text) text

/-- Several replacements are made character by character. -/
theorem replaceEach_eq (rules : List (α × List α)) (text : List α)
    : replaceEach rules text = text.flatMap (fun x => replaceEach rules [x]) := by
  induction rules generalizing text with
  | nil =>
      change text = text.flatMap (fun x => [x])
      rw [List.flatMap_singleton']
  | cons rule rules ih =>
      have first (text : List α)
          : replaceEach (rule :: rules) text = replaceEach rules (replaceAll rule.1 rule.2 text) :=
        rfl
      rw [first, ih, replaceAll, List.flatMap_assoc]
      refine List.flatMap_congr (fun x _ => ?_)
      rw [first, ih (replaceAll _ _ [x]), replaceAll, List.flatMap_singleton]

/-- A character without a rule stays. -/
theorem replaceEach_other {rules : List (α × List α)} {x : α}
    (other : ∀ rule ∈ rules, x ≠ rule.1)
    : replaceEach rules [x] = [x] := by
  induction rules with
  | nil => rfl
  | cons rule rules ih =>
      obtain ⟨here, later⟩ := List.forall_mem_cons.mp other
      have first : replaceAll rule.1 rule.2 [x] = [x] := by
        rw [replaceAll, List.flatMap_singleton, if_neg here]
      rw [replaceEach, List.foldl_cons, first]
      exact ih later

/-- The entity that a text starts with. -/
def entityAt (entities : List (List α × α)) (text : List α) : Option (List α × α) :=
  entities.find? (fun entity => entity.1.isPrefixOf text)

/-- Read a text with entities, after some characters that belong to the last one. -/
def decodeAfter (entities : List (List α × α)) : Nat → List α → List α
  | _, [] => []
  | skipped + 1, _ :: rest => decodeAfter entities skipped rest
  | 0, x :: rest =>
      match entityAt entities (x :: rest) with
      | some (name, c) => c :: decodeAfter entities (name.length - 1) rest
      | none => x :: decodeAfter entities 0 rest

def decode (entities : List (List α × α)) (text : List α) : List α := decodeAfter entities 0 text

theorem decodeAfter_append (entities : List (List α × α)) (name rest : List α)
    : decodeAfter entities name.length (name ++ rest) = decodeAfter entities 0 rest := by
  induction name with
  | nil => rfl
  | cons x name ih => exact ih

/-- Where every character is written as it is or as its entity, the text is read back. -/
theorem decode_flatMap {entities : List (List α × α)} {written : α → List α}
    (reads
      : ∀ x rest,
          (written x = [x] ∧ entityAt entities (x :: rest) = none)
          ∨ (written x ≠ [] ∧ entityAt entities (written x ++ rest) = some (written x, x)))
    (text : List α)
    : decode entities (text.flatMap written) = text := by
  induction text with
  | nil => rfl
  | cons x text ih =>
      rw [List.flatMap_cons]
      rcases reads x (text.flatMap written) with ⟨same, none⟩ | ⟨some, found⟩
      · rw [same, List.singleton_append, decode, decodeAfter, none]
        exact congrArg _ ih
      · obtain ⟨first, name, spelt⟩ := List.exists_cons_of_ne_nil some
        rw [spelt] at found ⊢
        rw [List.cons_append] at found ⊢
        rw [decode, decodeAfter, found]
        have later
            : decodeAfter entities ((first :: name).length - 1)
                (name ++ text.flatMap written)
              = text := by
          rw [List.length_cons, Nat.add_sub_cancel, decodeAfter_append]
          exact ih
        exact congrArg (List.cons x) later

end Characters

/-! ### Templates -/

section Templates

variable {α : Type} {escape : List α → List α} {isMark : α → Bool}

/-- A piece of a filled template. -/
inductive Piece (α : Type) where
  | literal (text : List α)
  | escaped (text : List α)
  | plain (text : List α)

def Piece.render (escape : List α → List α) : Piece α → List α
  | .literal text => text
  | .escaped text => escape text
  | .plain text => text

/-- The template's own text of a piece. -/
def Piece.own : Piece α → List α
  | .literal text => text
  | _ => []

/-- The text of a piece that is neither the template's nor escaped. -/
def Piece.filled : Piece α → List α
  | .plain text => text
  | _ => []

def render (escape : List α → List α) (pieces : List (Piece α)) : List α :=
  pieces.flatMap (Piece.render escape)

/-- A filled template has the marks of its own and those of its plain texts. -/
theorem length_marks_render (clean : ∀ text, (escape text).filter isMark = [])
    (pieces : List (Piece α))
    : ((render escape pieces).filter isMark).length
      = ((pieces.flatMap Piece.own).filter isMark).length
        + ((pieces.flatMap Piece.filled).filter isMark).length := by
  induction pieces with
  | nil => rfl
  | cons piece pieces ih =>
      rw [render, List.flatMap_cons, List.flatMap_cons, List.flatMap_cons, List.filter_append,
        List.filter_append, List.filter_append, List.length_append, List.length_append,
        List.length_append, ← render, ih]
      cases piece with
      | literal text => simp [Piece.render, Piece.own, Piece.filled]; omega
      | escaped text => simp [Piece.render, Piece.own, Piece.filled, clean]
      | plain text => simp [Piece.render, Piece.own, Piece.filled]; omega

/-- A filled template has just its own marks exactly if no plain text has any. -/
theorem marks_render_iff (clean : ∀ text, (escape text).filter isMark = [])
    (pieces : List (Piece α))
    : (render escape pieces).filter isMark = (pieces.flatMap Piece.own).filter isMark
      ↔ ∀ piece ∈ pieces, piece.filled.filter isMark = [] := by
  constructor
  · intro same piece member
    have none : (pieces.flatMap Piece.filled).filter isMark = [] := by
      have length := length_marks_render clean pieces
      rw [same] at length
      exact List.eq_nil_of_length_eq_zero (by omega)
    rw [List.filter_flatMap, List.flatMap_eq_nil_iff] at none
    exact none piece member
  · intro none
    induction pieces with
    | nil => rfl
    | cons piece pieces ih =>
        obtain ⟨here, later⟩ := List.forall_mem_cons.mp none
        rw [render, List.flatMap_cons, List.flatMap_cons, List.filter_append, List.filter_append,
          ← render, ih later]
        refine congrArg (· ++ _) ?_
        cases piece with
        | literal text => rfl
        | escaped text => exact clean text
        | plain text => exact here

end Templates

end Foundation.Markup
