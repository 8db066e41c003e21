import PettyFlow.Frontend.QueueMarkup

/-! The audit history of a request as the dashboard writes it into its page, after any run of the
application.
-/

namespace PettyFlow.Frontend

open Foundation Foundation.Markup PettyFlow.Api PettyFlow.Workflow

/-! ### The page -/

section Page

variable (toLocaleString : Int → List Nat)

/-- One transition in the history. -/
def timelineNode (rec : StateTransitionRecordSchema) : List (Piece Nat) :=
  [
    lit [
      "",
      "      <div class=\"timeline-node\">",
      "        <div class=\"timeline-node-time\">"
    ],
    .plain (toLocaleString rec.timestamp),
    lit [" &bull; Actor: <strong>"],
    .escaped (units rec.actorId),
    lit [
      "</strong></div>",
      "        <div class=\"timeline-node-content\">",
      "          <div style=\"font-weight:700; color:var(--text-primary); margin-bottom:0.2rem;\">",
      "            Transition: "
    ],
    .plain (units rec.fromState),
    lit [" &rarr; "],
    .plain (units rec.toState),
    lit [" ["],
    .plain (units rec.event),
    lit [
      "]",
      "          </div>",
      "          <div style=\"color:var(--text-secondary);\">"
    ],
    .escaped (units (orText rec.notes "No notes provided")),
    lit [
      "</div>",
      "          <div style=\"font-family:var(--font-mono); font-size:0.688rem; "
        ++ "color:var(--text-muted); margin-top:0.25rem;\">",
      "            TxID: "
    ],
    .plain (units rec.transitionId),
    lit ["", "          </div>", "        </div>", "      </div>", "    "]
  ]

/-- The history, or a text of its own where there is none. -/
def timelineHtml (trail : List StateTransitionRecordSchema) : List (Piece Nat) :=
  if trail = [] then
    [lit ["<p>No transitions recorded.</p>"]]
  else
    trail.flatMap (timelineNode toLocaleString)

def auditPieces (data : ApprovalRequestResponse) : List (Piece Nat) :=
  [
    lit [
      "",
      "      <div style=\"margin-bottom:1rem; border-bottom:1px solid var(--border-subtle); "
        ++ "padding-bottom:0.75rem;\">",
      "        <div style=\"font-size:1.125rem; font-weight:800; color:var(--text-primary);\">"
    ],
    .plain (units data.amountFormatted),
    lit [" "],
    .plain (units data.currency),
    lit ["</div>", "        <div style=\"font-size:0.875rem; color:var(--text-secondary);\">"],
    .escaped (units data.description),
    lit [
      "</div>",
      "        <div style=\"font-size:0.75rem; color:var(--text-muted); margin-top:0.25rem;\">",
      "          Request ID: <span style=\"font-family:var(--font-mono);\">"
    ],
    .plain (units data.requestId),
    lit ["</span> &bull; Required Tier: <strong>"],
    .plain (units data.requiredApprovalTier),
    lit [
      "</strong>",
      "        </div>",
      "      </div>",
      "      <h5 style=\"font-size:0.813rem; text-transform:uppercase; color:var(--text-muted); "
        ++ "letter-spacing:0.05em; margin-bottom:0.5rem;\">",
      "        Immutable State Transition Chain",
      "      </h5>",
      "      <div class=\"timeline\">",
      "        "
    ]
  ]
  ++ timelineHtml toLocaleString data.auditTrail
  ++ [lit ["", "      </div>", "    "]]

/-- What is written into the page for a request. -/
def openAuditModal (data : ApprovalRequestResponse) : List Nat :=
  render escapeHtml (auditPieces toLocaleString data)

end Page

/-! ### What it is made of -/

section Runs

variable {π : Type} {m : Reconciliation.ReconciliationMatcher}
  {a : Reconciliation.VarianceAnalyzer} {runtime : ReportsRuntime π}
  {toLocaleString : Int → List Nat}

/-- Details are answered with the response for a stored request. -/
theorem getApprovalDetails_ok {s : ApprovalWorkflowService} {requestId tenantId : String}
    {data : ApprovalRequestResponse}
    (answered : ApprovalRouter.getApprovalDetails s requestId tenantId = .ok data)
    : ∃ key request metadata,
        s.requests.get? key = some request ∧ toResponseDto request metadata = some data := by
  unfold ApprovalRouter.getApprovalDetails at answered
  split at answered
  · cases answered
  · cases answered
  · rename_i request metadata found
    obtain ⟨stored, looked, found⟩ := bind_ok found
    obtain ⟨rfl, _⟩ := Prod.mk.inj (Except.ok.inj found)
    exact ⟨_, stored, metadata, storedRequest_ok looked, orRaise_ok answered⟩

/-- The history of a tame request shows nothing that delimits without escaping it. -/
theorem filled_timeline (clock : ∀ time, (toLocaleString time).filter isMark = [])
    {trail : List StateTransitionRecord} (plain : ∀ record ∈ trail, Plain record.transitionId)
    : ∀ piece ∈ timelineHtml toLocaleString (trail.map .ofRecord),
        piece.filled.filter isMark = [] := by
  unfold timelineHtml
  split
  · simp [lit, Piece.filled]
  · simp only [List.mem_flatMap, List.mem_map, forall_exists_index, and_imp]
    rintro piece _ record member rfl
    revert piece
    have states := marks_units (plain_state record.fromState)
    have reached := marks_units (plain_state record.toState)
    have event := marks_units (plain_event record.event)
    have drawn := marks_units (plain record member)
    simp only [timelineNode, lit, StateTransitionRecordSchema.ofRecord, List.forall_mem_cons,
      List.not_mem_nil, false_imp_iff, implies_true, Piece.filled, List.filter_nil, clock, states,
      reached, event, drawn, and_true]

/-- After every run of the application the page with the audit history of a request has exactly the
delimiters of its templates, whatever its actors, notes and description are.
-/
theorem audit_page_intact (clock : ∀ time, (toLocaleString time).filter isMark = [])
    (funds : Funds.FundService) (evaluator : ApprovalPolicyEvaluator) (reports : ReportsRouter)
    (calls : List RestCall) {requestId tenantId : String} {data : ApprovalRequestResponse}
    (answered
      : ApprovalRouter.getApprovalDetails
            ((restMachine m a runtime).exec ⟨⟨funds, .initial evaluator⟩, .new, reports⟩
              calls).services.workflow
            requestId tenantId
          = .ok data)
    : (openAuditModal toLocaleString data).filter isMark
      = ((auditPieces toLocaleString data).flatMap Piece.own).filter isMark := by
  have all
      : AllTame
          ((restMachine m a runtime).exec ⟨⟨funds, .initial evaluator⟩, .new, reports⟩
            calls).services.workflow :=
    AllTame.exec (AllTame.initial evaluator) calls
  obtain ⟨key, request, metadata, stored, made⟩ := getApprovalDetails_ok answered
  have tame := all key request stored
  obtain ⟨amountText, written, rfl⟩ := Option.map_eq_some_iff.mp made
  have amount : Plain s!"${groupThousands amountText}" :=
    Plain.append (by decide) (plain_groupThousands (plain_centsText written))
  refine (marks_render_iff escapeHtml_clean _).mpr ?_
  rw [auditPieces, List.forall_mem_append, List.forall_mem_append]
  refine ⟨⟨?_, filled_timeline clock tame.transitionIds⟩, ?_⟩
  · simp only [lit, List.forall_mem_cons, List.not_mem_nil, false_imp_iff, implies_true,
      Piece.filled, List.filter_nil, marks_units amount, marks_units tame.currency,
      marks_units tame.requestId, marks_units tame.tier, and_true]
  · simp [lit, Piece.filled]

end Runs

section Sample

/-- The date and the time, as some locales write them. -/
def dateAndTime (time : Int) : List Nat :=
  units (Instant.dateText (civilDate (time / 86400000000)) ++ " ") ++ hoursAndMinutes time

theorem dateAndTime_clean (time : Int) : (dateAndTime time).filter isMark = [] := by
  have dash : Plain "-" := by decide
  have date (width : Nat) (n : Int) := plain_zeroPadded width n
  rw [dateAndTime, List.filter_append, hoursAndMinutes_clean, List.append_nil]
  refine marks_units (Plain.append ?_ (by decide))
  exact ((((date _ _).append dash).append (date _ _)).append dash).append (date _ _)

theorem audit_page_intact_sample
    : ∃ data,
        ApprovalRouter.getApprovalDetails angularApi.services.workflow (⟨7⟩ : Uuid).text "acme"
          = .ok data
        ∧ (openAuditModal dateAndTime data).filter isMark
          = ((auditPieces dateAndTime data).flatMap Piece.own).filter isMark := by
  have some
      : (ApprovalRouter.getApprovalDetails angularApi.services.workflow (⟨7⟩ : Uuid).text
          "acme").toOption.isSome = true := by
    decide +kernel
  obtain ⟨data, found⟩ := Option.isSome_iff_exists.mp some
  have answered := ok_of_toOption found
  exact ⟨data, answered,
    audit_page_intact dateAndTime_clean .empty ⟨defaultPettyflowPolicy⟩ ⟨[]⟩ [angularSubmission]
      answered⟩

end Sample

end PettyFlow.Frontend
