import PettyFlow.Api.ApprovalRouter
import PettyFlow.Foundation.Markup

/-! The queue of approval requests as the dashboard writes it into its page: a card for every
request, with some of its texts escaped.
-/

namespace PettyFlow.Frontend

open Foundation Foundation.Markup PettyFlow.Api PettyFlow.Workflow

/-! ### Texts of the browser -/

/-- A character in UTF-16. -/
def unitsOf (c : Char) : List Nat :=
  if c.toNat < 0x10000 then
    [c.toNat]
  else
    [0xD800 + (c.toNat - 0x10000) / 0x400, 0xDC00 + (c.toNat - 0x10000) % 0x400]

/-- The code units of a text. -/
def units (text : String) : List Nat := text.toList.flatMap unitsOf

/-- The last two code units. -/
def lastTwo (text : List Nat) : List Nat := text.drop (text.length - 2)

/-- The capitals of a code unit by itself. Half of a pair has none. -/
def upperUnit (unit : Nat) : List Nat :=
  if 0xD800 ≤ unit ∧ unit < 0xE000 then
    [unit]
  else
    (capitals (Char.ofNat unit)).flatMap unitsOf

def toUpperCase : List Nat → List Nat
  | [] => []
  | [unit] => upperUnit unit
  | high :: low :: rest =>
      if (0xD800 ≤ high ∧ high < 0xDC00) ∧ 0xDC00 ≤ low ∧ low < 0xE000 then
        (capitals (Char.ofNat (0x10000 + (high - 0xD800) * 0x400 + (low - 0xDC00)))).flatMap unitsOf
          ++ toUpperCase rest
      else
        upperUnit high ++ toUpperCase (low :: rest)

/-! ### Escaping -/

/-- The replacements in their order: ampersands come first. -/
def htmlRules : List (Nat × List Nat) :=
  [
    (0x26, units "&amp;"), (0x3C, units "&lt;"), (0x3E, units "&gt;"), (0x22, units "&quot;"),
    (0x27, units "&#039;")
  ]

def escapeHtml (str : List Nat) : List Nat := if str = [] then [] else replaceEach htmlRules str

/-- The units that delimit tags and attributes. -/
def isMark (unit : Nat) : Bool := unit = 0x3C || unit = 0x3E || unit = 0x22 || unit = 0x27

/-- The entities that a browser reads back. -/
def htmlEntities : List (List Nat × Nat) := htmlRules.map Prod.swap

/-! ### Cards -/

section Cards

variable (toLocaleTimeString : Int → List Nat)

def lit (lines : List String) : Piece Nat := .literal (units ("\n".intercalate lines))

def tierNum (r : ApprovalRequestResponse) : String :=
  if r.requiredApprovalTier = "AUTO_APPROVE" then "1"
  else if r.requiredApprovalTier = "MANAGER" then "2"
  else "3"

def tierLabel (r : ApprovalRequestResponse) : String :=
  if r.requiredApprovalTier = "AUTO_APPROVE" then "Tier 1: Auto"
  else if r.requiredApprovalTier = "MANAGER" then "Tier 2: Manager"
  else "Tier 3: CFO"

/-- The buttons of a card that is pending. -/
def decisionButtons (r : ApprovalRequestResponse) : List (Piece Nat) :=
  [
    lit ["", "              <button class=\"btn-approve\" onclick=\"openActionModal('"],
    .plain (units r.requestId),
    lit [
      "', 'APPROVE')\">",
      "                <span>✓</span> 1-Click Approve",
      "              </button>",
      "              <button class=\"btn-reject\" onclick=\"openActionModal('"
    ],
    .plain (units r.requestId),
    lit [
      "', 'REJECT')\">",
      "                <span>✕</span> Reject",
      "              </button>",
      "            "
    ]
  ]

/-- The card of a request. -/
def card (r : ApprovalRequestResponse) : List (Piece Nat) :=
  [
    lit ["", "      <div class=\"queue-item\" data-id=\""],
    .plain (units r.requestId),
    lit ["\">", "        <div class=\"item-main\">", "          <div class=\"item-avatar\">"],
    .plain (toUpperCase (lastTwo (units r.custodianId))),
    lit ["</div>", "          <div class=\"item-details\">", "            <h4>"],
    .escaped (units r.description),
    lit [
      "</h4>",
      "            <div class=\"item-meta\">",
      "              <span>👤 Custodian: <strong>"
    ],
    .escaped (units r.custodianId),
    lit ["</strong></span>", "              <span>📅 "],
    .plain (toLocaleTimeString r.createdAt),
    lit ["</span>", "              <span class=\"badge-tier tier-" ++ tierNum r ++ "\">"
      ++ tierLabel r ++ "</span>", "              <span class=\"badge-state "],
    .plain (units r.state),
    lit ["\">"],
    .plain (units r.state),
    lit [
      "</span>",
      "            </div>",
      "          </div>",
      "        </div>",
      "",
      "        <div style=\"display:flex; align-items:center; gap:1.25rem; "
        ++ "justify-content:flex-end;\">",
      "          <div class=\"item-amount-col\">",
      "            <div class=\"item-amount\">"
    ],
    .plain (units r.amountFormatted),
    lit ["</div>", "            <div style=\"font-size:0.688rem; color:var(--text-muted);\">"],
    .plain (units r.currency),
    lit [
      "</div>",
      "          </div>",
      "",
      "          <div class=\"action-buttons\">",
      "            "
    ]
  ]
  ++ (if r.state = "PENDING" then decisionButtons r else [])
  ++ [
    lit ["", "            <button class=\"btn-audit\" onclick=\"openAuditModal('"],
    .plain (units r.requestId),
    lit [
      "')\">",
      "              Audit Trail",
      "            </button>",
      "          </div>",
      "        </div>",
      "      </div>",
      "    "
    ]
  ]

/-- The page of an empty queue. -/
def emptyQueue : List (Piece Nat) :=
  [
    lit [
      "",
      "      <div style=\"padding:3rem 1rem; text-align:center; color:var(--text-muted);\">",
      "        <div style=\"font-size:2rem; margin-bottom:0.5rem;\">🎉</div>",
      "        <div style=\"font-weight:700; font-size:1rem; color:var(--text-primary); "
        ++ "margin-bottom:0.25rem;\">No Pending Approvals</div>",
      "        <div style=\"font-size:0.813rem;\">"
        ++ "All petty cash disbursement requests have been reviewed.</div>",
      "      </div>",
      "    "
    ]
  ]

def queuePieces (requests : List ApprovalRequestResponse) : List (Piece Nat) :=
  if requests = [] then emptyQueue else requests.flatMap (card toLocaleTimeString)

/-- What is written into the page. -/
def renderApprovalQueueDOM (requests : List ApprovalRequestResponse) : List Nat :=
  render escapeHtml (queuePieces toLocaleTimeString requests)

/-- The delimiters of the page's own templates. -/
def templateMarks (requests : List ApprovalRequestResponse) : List Nat :=
  ((queuePieces toLocaleTimeString requests).flatMap Piece.own).filter isMark

end Cards

/-! ### What escaping does -/

/-- A unit is one of those with a rule, or it stays and delimits nothing. -/
theorem htmlRules_cases (unit : Nat)
    : unit ∈ htmlRules.map Prod.fst
      ∨ (replaceEach htmlRules [unit] = [unit] ∧ isMark unit = false ∧ unit ≠ 0x26) := by
  by_cases special : unit ∈ htmlRules.map Prod.fst
  · exact Or.inl special
  · refine Or.inr ⟨replaceEach_other (fun rule member same => special ?_), ?_, ?_⟩
    · exact List.mem_map.mpr ⟨rule, member, same.symm⟩
    · have none : unit ≠ 0x26 ∧ unit ≠ 0x3C ∧ unit ≠ 0x3E ∧ unit ≠ 0x22 ∧ unit ≠ 0x27 := by
        simpa [htmlRules] using special
      simp [isMark, none]
    · rintro rfl
      exact special (by decide)

theorem escapeHtml_eq (text : List Nat)
    : escapeHtml text = text.flatMap (fun unit => replaceEach htmlRules [unit]) := by
  unfold escapeHtml
  split
  · rename_i empty
    rw [empty, List.flatMap_nil]
  · exact replaceEach_eq htmlRules text

/-- No delimiter is left in an escaped text. -/
theorem escapeHtml_clean (text : List Nat) : (escapeHtml text).filter isMark = [] := by
  rw [escapeHtml_eq, List.filter_flatMap, List.flatMap_eq_nil_iff]
  intro unit _
  have each
      : ∀ unit ∈ htmlRules.map Prod.fst, (replaceEach htmlRules [unit]).filter isMark = [] := by
    decide
  rcases htmlRules_cases unit with special | ⟨same, plain, _⟩
  · exact each unit special
  · rw [same, List.filter_singleton, plain]
    rfl

/-- A browser shows an escaped text as it was. -/
theorem decode_escapeHtml (text : List Nat) : decode htmlEntities (escapeHtml text) = text := by
  rw [escapeHtml_eq]
  apply decode_flatMap
  intro unit rest
  have each
      : ∀ unit ∈ htmlRules.map Prod.fst,
          replaceEach htmlRules [unit] ≠ []
          ∧ ∀ rest,
              entityAt htmlEntities (replaceEach htmlRules [unit] ++ rest)
              = some (replaceEach htmlRules [unit], unit) := by
    intro unit special
    simp only [htmlRules, List.map_cons, List.map_nil, List.mem_cons, List.not_mem_nil,
      or_false] at special
    rcases special with rfl | rfl | rfl | rfl | rfl <;> exact ⟨by decide, fun rest => rfl⟩
  rcases htmlRules_cases unit with special | ⟨same, _, plain⟩
  · obtain ⟨some, found⟩ := each unit special
    exact Or.inr ⟨some, found rest⟩
  · refine Or.inl ⟨same, List.find?_eq_none.mpr (fun entity member => ?_)⟩
    have starts : ∀ entity ∈ htmlEntities, entity.1.head? = some 0x26 := by decide
    rcases entity with ⟨_ | ⟨first, name⟩, c⟩
    · cases starts _ member
    · obtain rfl := Option.some.inj (starts _ member)
      simp [List.isPrefixOf, Ne.symm plain]

/-! ### Which units delimit -/

theorem isMark_eq_false {unit : Nat} (large : 0x3E < unit) : isMark unit = false := by
  simp only [isMark, Bool.or_eq_false_iff, decide_eq_false_iff_not]
  omega

theorem marks_unitsOf (c : Char) : (unitsOf c).filter isMark = [c.toNat].filter isMark := by
  unfold unitsOf
  split
  · rfl
  · rename_i wide
    rw [List.filter_cons_of_neg, List.filter_cons_of_neg, List.filter_cons_of_neg]
    · simp [isMark_eq_false (show 0x3E < c.toNat by omega)]
    · simp [isMark_eq_false (show 0x3E < 0xDC00 + (c.toNat - 0x10000) % 0x400 by omega)]
    · simp [isMark_eq_false (show 0x3E < 0xD800 + (c.toNat - 0x10000) / 0x400 by omega)]

theorem marks_flatMap_unitsOf (text : List Char)
    : (text.flatMap unitsOf).filter isMark = (text.map Char.toNat).filter isMark := by
  induction text with
  | nil => rfl
  | cons c text ih =>
      rw [List.flatMap_cons, List.filter_append, ih, marks_unitsOf, List.map_cons,
        ← List.filter_append, List.singleton_append]

/-- A text without delimiters. -/
theorem marks_units {text : String} (clean : ∀ c ∈ text.toList, isMark c.toNat = false)
    : (units text).filter isMark = [] := by
  rw [units, marks_flatMap_unitsOf, List.filter_map, List.map_eq_nil_iff, List.filter_eq_nil_iff]
  intro c member
  rw [Function.comp_apply, clean c member]
  exact Bool.false_ne_true

theorem isMark_ofNat {n : Nat} (large : 0x3E < n) : isMark (Char.ofNat n).toNat = false := by
  by_cases valid : n.isValidChar
  · rw [Char.toNat_ofNat, if_pos valid]
    exact isMark_eq_false large
  · rw [Char.toNat_ofNat, if_neg valid]
    rfl

/-- The capitals of a character delimit what the character does. -/
theorem marks_capitals (c : Char)
    : ((capitals c).map Char.toNat).filter isMark = [c.toNat].filter isMark := by
  unfold capitals
  split
  · rename_i ascii
    have each
        : ∀ n < 0x80,
            [(Char.ofNat n).toUpper.toNat].filter isMark
            = [(Char.ofNat n).toNat].filter isMark := by
      decide
    simpa using each c.toNat ascii
  · rename_i wide
    rw [List.filter_cons_of_neg (p := isMark) (a := c.toNat), List.filter_nil]
    swap
    · simp [isMark_eq_false (show 0x3E < c.toNat by omega)]
    have runs : ∀ run ∈ capitalRuns, 0x3E < run.2.2.2 := by decide +kernel
    have expansions
        : ∀ run ∈ capitalExpansions, 0x3E < run.2.2.1 ∧ ∀ n ∈ run.2.2.2, 0x3E < n := by
      decide +kernel
    split
    · rename_i first last step capital found
      have large := runs _ (List.mem_of_find?_eq_some found)
      rw [List.map_singleton, List.filter_singleton, isMark_ofNat (by dsimp only at large; omega)]
      rfl
    · split
      · rename_i first last capital rest found
        obtain ⟨large, others⟩ := expansions _ (List.mem_of_find?_eq_some found)
        rw [List.filter_eq_nil_iff]
        intro unit member
        rw [List.map_cons, List.map_map, List.mem_cons, List.mem_map] at member
        rcases member with rfl | ⟨n, listed, rfl⟩
        · rw [isMark_ofNat (by dsimp only at large; omega)]
          exact Bool.false_ne_true
        · rw [Function.comp_apply, isMark_ofNat (others n listed)]
          exact Bool.false_ne_true
      · rw [List.map_singleton, List.filter_singleton,
          isMark_eq_false (show 0x3E < c.toNat by omega)]
        rfl

theorem marks_large {unit : Nat} (large : 0x3E < unit) : [unit].filter isMark = [] := by
  rw [List.filter_singleton, isMark_eq_false large]
  rfl

theorem marks_capitals_ofNat (unit : Nat)
    : ((capitals (Char.ofNat unit)).flatMap unitsOf).filter isMark = [unit].filter isMark := by
  rw [marks_flatMap_unitsOf, marks_capitals]
  by_cases valid : unit.isValidChar
  · rw [Char.toNat_ofNat, if_pos valid]
  · have large : 0x3E < unit := by
      unfold Nat.isValidChar at valid
      omega
    rw [marks_large large, Char.toNat_ofNat, if_neg valid]
    rfl

theorem marks_upperUnit (unit : Nat) : (upperUnit unit).filter isMark = [unit].filter isMark := by
  unfold upperUnit
  split
  · rfl
  · exact marks_capitals_ofNat unit

/-- Capitals keep the delimiters of a text, by induction over its units and pairs of units. -/
theorem marks_toUpperCase (text : List Nat)
    : (toUpperCase text).filter isMark = text.filter isMark := by
  induction text using toUpperCase.induct with
  | case1 => rfl
  | case2 unit => exact marks_upperUnit unit
  | case3 high low rest pair ih =>
      rw [toUpperCase, if_pos pair, List.filter_append, ih, marks_capitals_ofNat, marks_large,
        List.nil_append, List.filter_cons_of_neg, List.filter_cons_of_neg]
      · simp [isMark_eq_false (show 0x3E < low by omega)]
      · simp [isMark_eq_false (show 0x3E < high by omega)]
      · omega
  | case4 high low rest single ih =>
      rw [toUpperCase, if_neg single, List.filter_append, ih, marks_upperUnit, ← List.filter_append,
        List.singleton_append]

/-! ### What a page is made of -/

section Page

variable {toLocaleTimeString : Int → List Nat}

/-- The texts that a card shows without escaping them. -/
def shownPlain (toLocaleTimeString : Int → List Nat) (r : ApprovalRequestResponse)
    : List (List Nat) :=
  [
    units r.requestId, toUpperCase (lastTwo (units r.custodianId)),
    toLocaleTimeString r.createdAt, units r.state, units r.amountFormatted, units r.currency
  ]

/-- The plain pieces of a card. -/
theorem filled_card (r : ApprovalRequestResponse)
    : (∀ piece ∈ card toLocaleTimeString r, piece.filled.filter isMark = [])
      ↔ ∀ text ∈ shownPlain toLocaleTimeString r, text.filter isMark = [] := by
  by_cases pending : r.state = "PENDING"
  · simp [card, decisionButtons, lit, shownPlain, Piece.filled, pending]
    exact fun shown _ _ _ _ _ => shown
  · simp [card, lit, shownPlain, Piece.filled, pending]
    exact fun shown _ _ _ _ _ => shown

/-- The page has the delimiters of its templates exactly if no card shows others without escaping
them.
-/
theorem renderApprovalQueueDOM_marks (requests : List ApprovalRequestResponse)
    : (renderApprovalQueueDOM toLocaleTimeString requests).filter isMark
        = templateMarks toLocaleTimeString requests
      ↔ ∀ r ∈ requests,
          ∀ text ∈ shownPlain toLocaleTimeString r, text.filter isMark = [] := by
  rw [renderApprovalQueueDOM, templateMarks, marks_render_iff escapeHtml_clean, queuePieces]
  split
  · rename_i empty
    simp [empty, emptyQueue, lit, Piece.filled]
  · exact List.forall_mem_flatMap.trans (forall₂_congr (fun r _ => filled_card r))

end Page

end PettyFlow.Frontend
