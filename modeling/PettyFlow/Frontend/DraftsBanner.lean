import PettyFlow.Foundation.FloatValue
import PettyFlow.Frontend.Drafts
import PettyFlow.Frontend.ServedTexts

/-! The banner with the drafts that wait for the network, as the app writes it into its page. -/

namespace PettyFlow.Frontend

open Foundation Foundation.Markup PettyFlow.Workflow

/-! ### The banner -/

/-- A number with two decimals; of two that are equally near, the larger one is taken. -/
def toFixed (value : ℚ) : String :=
  let units := ⌊|value| * 100 + 1 / 2⌋
  (if value < 0 then "-" else "") ++ (toString (units / 100) ++ "." ++ zeroPadded 2 (units % 100))

/-- An amount in currency units, as a double. -/
def draftAmount (amountScaled : Int) : String :=
  match FloatValue.nearest (amountScaled / 10000) with
  | .finite value => toFixed value
  | .infinite negative => if negative then "-Infinity" else "Infinity"
  | .nan => "NaN"

section Banner

variable (toLocaleTimeString : Draft → List Nat) (isOnline : Bool)

/-- The button that syncs a draft, which is there while the app is online. -/
def syncButton (d : Draft) : List (Piece Nat) :=
  if isOnline then
    [
      lit ["<button onclick=\"syncSingleDraft('"],
      .plain (units d.id),
      lit [
        "')\" style=\"background:var(--tier-auto); color:#000; border:none; "
          ++ "padding:0.25rem 0.5rem; font-size:0.75rem; font-weight:700; "
          ++ "border-radius:var(--radius-sm); cursor:pointer;\">Sync</button>"
      ]
    ]
  else
    []

def draftItem (d : Draft) : List (Piece Nat) :=
  [
    lit [
      "",
      "        <div style=\"background:var(--bg-input); padding:0.6rem 0.8rem; "
        ++ "border-radius:var(--radius-sm); margin-bottom:0.5rem; display:flex; "
        ++ "justify-content:space-between; align-items:center;\">",
      "          <div>",
      "            <div style=\"font-weight:700; font-size:0.875rem;\">"
    ],
    .plain (units (orText (some d.payload.description) "Expense Draft")),
    lit [
      "</div>",
      "            <div style=\"font-size:0.75rem; color:var(--text-secondary);\">$"
    ],
    .plain (units (draftAmount d.payload.amountScaled)),
    lit [" "],
    .plain (units d.payload.currency),
    lit [" &bull; "],
    .plain (toLocaleTimeString d),
    lit ["</div>", "          </div>", "          <div style=\"display:flex; gap:0.4rem;\">",
      "            "]
  ]
  ++ syncButton isOnline d
  ++ [
    lit ["", "            <button onclick=\"discardDraft('"],
    .plain (units d.id),
    lit [
      "')\" style=\"background:transparent; color:var(--text-muted); "
        ++ "border:1px solid var(--border-subtle); padding:0.25rem 0.5rem; font-size:0.75rem; "
        ++ "border-radius:var(--radius-sm); cursor:pointer;\">Discard</button>",
      "          </div>",
      "        </div>",
      "      "
    ]
  ]

def bannerPieces (offlineDrafts : List Draft) : List (Piece Nat) :=
  if offlineDrafts = [] then
    [
      lit ["<p style=\"font-size:0.813rem; color:var(--text-muted);\">"
        ++ "No offline drafts pending sync.</p>"]
    ]
  else
    offlineDrafts.flatMap (draftItem toLocaleTimeString isOnline)

/-- What is written into the page for the drafts that the app has loaded. -/
def renderOfflineDraftsBanner (offlineDrafts : List Draft) : List Nat :=
  render escapeHtml (bannerPieces toLocaleTimeString isOnline offlineDrafts)

end Banner

/-! ### What it is made of -/

section Runs

variable {toLocaleTimeString : Draft → List Nat} {isOnline : Bool}

theorem plain_draftAmount (amountScaled : Int) : Plain (draftAmount amountScaled) := by
  unfold draftAmount
  split
  · refine Plain.append ?_ (Plain.append (Plain.append (plain_toString _) (by decide))
      (plain_zeroPadded _ _))
    split <;> decide
  · split <;> decide
  · decide

/-- The texts of a draft that come from its user. -/
def typedTexts (d : Draft) : List (List Nat) :=
  [units d.payload.description, units d.payload.currency, units d.id]

theorem marks_description (description : String)
    : (units (orText (some description) "Expense Draft")).filter isMark = []
      ↔ (units description).filter isMark = [] := by
  by_cases empty : description = ""
  · rw [empty]
    decide
  · have kept : orText (some description) "Expense Draft" = description := by
      unfold orText
      split
      · rename_i none
        exact absurd (Option.some.inj none) empty
      · rename_i same
        exact (Option.some.inj same).symm
      · rename_i none
        cases none
    rw [kept]

theorem filled_draftItem (clock : ∀ d, (toLocaleTimeString d).filter isMark = []) (d : Draft)
    : (∀ piece ∈ draftItem toLocaleTimeString isOnline d, piece.filled.filter isMark = [])
      ↔ ∀ text ∈ typedTexts d, text.filter isMark = [] := by
  have amount := marks_units (plain_draftAmount d.payload.amountScaled)
  have description := marks_description d.payload.description
  cases isOnline with
  | true =>
      simp only [draftItem, syncButton, lit, typedTexts, List.forall_mem_append,
        List.forall_mem_cons, List.not_mem_nil, false_imp_iff, implies_true, Piece.filled,
        List.filter_nil, clock, amount, description, if_true, true_and, and_true]
      tauto
  | false =>
      simp only [draftItem, syncButton, lit, typedTexts, List.forall_mem_append,
        List.forall_mem_cons, List.not_mem_nil, false_imp_iff, implies_true, Piece.filled,
        List.filter_nil, clock, amount, description, Bool.false_eq_true, if_false, true_and,
        and_true]
      tauto

/-- The banner has exactly the delimiters of its templates if and only if no draft that it shows has
one in its description, its currency or its identifier; nothing is escaped there.
-/
theorem drafts_banner_iff (clock : ∀ d, (toLocaleTimeString d).filter isMark = [])
    (isOnline : Bool) (offlineDrafts : List Draft)
    : (renderOfflineDraftsBanner toLocaleTimeString isOnline offlineDrafts).filter isMark
        = ((bannerPieces toLocaleTimeString isOnline offlineDrafts).flatMap Piece.own).filter isMark
      ↔ ∀ d ∈ offlineDrafts, ∀ text ∈ typedTexts d, text.filter isMark = [] := by
  rw [renderOfflineDraftsBanner, marks_render_iff escapeHtml_clean, bannerPieces]
  split
  · rename_i empty
    simp [empty, lit, Piece.filled]
  · exact List.forall_mem_flatMap.trans (forall₂_congr (fun d _ => filled_draftItem clock d))

end Runs

section Sample

/-- A lunch whose description was typed with a tag. -/
def taggedDraft : Draft where
  id := "draft_1767225600000_k3x9qa"
  form := 0
  payload := ⟨"acme", "dana", 125000, "USD", "Lunch <b>", "Cafe", false⟩

theorem drafts_banner_iff_sample
    : (renderOfflineDraftsBanner (fun _ => units "14:30:00") true [taggedDraft]).filter isMark
        = ((bannerPieces (fun _ => units "14:30:00") true [taggedDraft]).flatMap
            Piece.own).filter isMark
      ↔ ∀ d ∈ [taggedDraft], ∀ text ∈ typedTexts d, text.filter isMark = [] :=
  drafts_banner_iff (fun _ => by decide) true [taggedDraft]

end Sample

end PettyFlow.Frontend
