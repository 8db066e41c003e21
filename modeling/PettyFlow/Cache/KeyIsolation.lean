import PettyFlow.Cache.RedisBalanceCache

/-! When the keys of two accounts coincide: tenant and account are joined with a colon, which
both may hold themselves.
-/

namespace PettyFlow.Cache

open Foundation

/-- One account is the other with a part of its name moved over the colon. -/
def Shifted (tenantId accountId tenantId' accountId' : String) : Prop :=
  ∃ moved,
    tenantId = tenantId' ++ ":" ++ moved ∧ accountId' = moved ++ ":" ++ accountId

/-- Two ways to cut a text at a colon are the same, or one is shifted against the other. -/
theorem joined_eq_iff (tenantId accountId tenantId' accountId' : String)
    : tenantId ++ ":" ++ accountId = tenantId' ++ ":" ++ accountId'
      ↔ (tenantId = tenantId' ∧ accountId = accountId')
        ∨ Shifted tenantId accountId tenantId' accountId'
        ∨ Shifted tenantId' accountId' tenantId accountId := by
  have shifted {t a t' a' : String} {between : List Char}
      (longer : t.toList = t'.toList ++ ':' :: between)
      (rest : a'.toList = between ++ ':' :: a.toList)
      : Shifted t a t' a' := by
    refine ⟨String.ofList between, ?_, ?_⟩
    · apply String.toList_inj.mp
      simp [longer]
    · apply String.toList_inj.mp
      simp [rest]
  constructor
  · intro same
    have chars
        : tenantId.toList ++ ':' :: accountId.toList
          = tenantId'.toList ++ ':' :: accountId'.toList := by
      simpa using congrArg String.toList same
    -- Of two tenants that begin the same text, one is a prefix of the other
    rcases List.append_eq_append_iff.mp chars with ⟨extra, longer, tail⟩ | ⟨extra, longer, tail⟩
    · cases extra with
      | nil =>
          simp only [List.append_nil] at longer
          have rest := (List.cons.inj tail).2
          exact Or.inl ⟨(String.toList_inj.mp longer).symm, String.toList_inj.mp rest⟩
      | cons head between =>
          obtain ⟨rfl, rest⟩ := List.cons.inj tail
          exact Or.inr (Or.inr (shifted longer rest))
    · cases extra with
      | nil =>
          simp only [List.append_nil] at longer
          have rest := (List.cons.inj tail).2
          exact Or.inl ⟨String.toList_inj.mp longer, (String.toList_inj.mp rest).symm⟩
      | cons head between =>
          obtain ⟨rfl, rest⟩ := List.cons.inj tail
          exact Or.inr (Or.inl (shifted longer rest))
  · rintro (⟨rfl, rfl⟩ | ⟨moved, rfl, rfl⟩ | ⟨moved, rfl, rfl⟩)
    · rfl
    · simp only [String.append_assoc]
    · simp only [String.append_assoc]

/-- The account with this tenant and this account name is another one, but under the same
keys.
-/
theorem accountKeys_eq_iff (tenantId accountId tenantId' accountId' : String)
    : accountKeys tenantId accountId = accountKeys tenantId' accountId'
      ↔ tenantId ++ ":" ++ accountId = tenantId' ++ ":" ++ accountId' := by
  simp only [accountKeys, keyPrefix, AccountKeys.mk.injEq, String.append_assoc,
    String.append_right_inj]
  simp only [← String.append_assoc, String.append_left_inj, and_self]

/-- A balance key is never a version key: they end differently. -/
theorem balance_ne_version (tenantId accountId tenantId' accountId' : String)
    : (accountKeys tenantId accountId).balance ≠ (accountKeys tenantId' accountId').version := by
  intro same
  have ends := congrArg (fun text => text.toList.getLast?) same
  simp [accountKeys] at ends

/-- Accounts whose joined names differ have no key in common. -/
theorem keys_apart {tenantId accountId tenantId' accountId' : String}
    (different : tenantId ++ ":" ++ accountId ≠ tenantId' ++ ":" ++ accountId') {key : String}
    (own
      : key = (accountKeys tenantId' accountId').balance
        ∨ key = (accountKeys tenantId' accountId').version)
    : key ≠ (accountKeys tenantId accountId).balance
      ∧ key ≠ (accountKeys tenantId accountId).version := by
  have prefixes : keyPrefix tenantId accountId ≠ keyPrefix tenantId' accountId' := by
    intro same
    apply different
    apply (accountKeys_eq_iff tenantId accountId tenantId' accountId').mp
    simp only [accountKeys, same]
  rcases own with rfl | rfl
  · refine ⟨fun same => ?_, balance_ne_version _ _ _ _⟩
    simp only [accountKeys, String.append_left_inj] at same
    exact prefixes same.symm
  · refine ⟨fun same => balance_ne_version _ _ _ _ same.symm, fun same => ?_⟩
    simp only [accountKeys, String.append_left_inj] at same
    exact prefixes same.symm

section Frame

variable {tenantId accountId : String}

/-- A call on an account changes the keys of the account only. -/
theorem step_frame (store : RedisStore) (call : AccountCall) {key : String}
    (other
      : key ≠ (accountKeys tenantId accountId).balance
        ∧ key ≠ (accountKeys tenantId accountId).version)
    : ((accountMachine tenantId accountId).step store call).2.get? key = store.get? key := by
  -- All three commands write the two keys of the account only
  have written (balance version : NumberText)
      : (writeBoth store (accountKeys tenantId accountId) balance version).get? key
        = store.get? key := by
    rw [get?_writeBoth (keys_ne _ _), if_neg other.1, if_neg other.2]
  cases call with
  | setBalance amountScaled versionId =>
      simp only [accountMachine, setBalance, Prod.map_snd, id_eq]
      cases checked : checkSet tenantId accountId amountScaled versionId with
      | error error => rfl
      | ok checks =>
          obtain ⟨keys, amount, version⟩ := checks
          obtain rfl := getKeys_ok (checkSet_ok checked).2.2.2
          exact written _ _
  | atomicIncrementBalance deltaScaled expectedVersion =>
      simp only [accountMachine, Prod.map_snd, id_eq]
      cases checked : checkIncrement tenantId accountId deltaScaled expectedVersion with
      | error error => rw [atomicIncrementBalance_error checked]
      | ok checks =>
          obtain ⟨keys, delta, expected⟩ := checks
          obtain rfl := getKeys_ok (checkIncrement_ok checked).2.2
          obtain ⟨passing, failing⟩ := atomicIncrementBalance_spec store checked
          by_cases passes : Passes store (accountKeys tenantId accountId) delta expected
          · rw [passing passes]
            exact written _ _
          · obtain ⟨error, failed⟩ := failing passes
            rw [failed]
  | invalidateCache =>
      simp only [accountMachine, invalidateCache, Prod.map_snd, id_eq]
      cases valid : getKeys tenantId accountId with
      | error error => rfl
      | ok keys =>
          obtain rfl := getKeys_ok valid
          simp only [attempt, Dict.get?_erase, Ne.symm other.1, Ne.symm other.2, if_false]

theorem exec_frame (store : RedisStore) (calls : List AccountCall) {key : String}
    (other
      : key ≠ (accountKeys tenantId accountId).balance
        ∧ key ≠ (accountKeys tenantId accountId).version)
    : ((accountMachine tenantId accountId).exec store calls).get? key = store.get? key := by
  induction calls generalizing store with
  | nil => rfl
  | cons call rest ih => exact (ih _).trans (step_frame store call other)

/-- Two stores that agree on the keys of an account give the same answers about it. -/
theorem answers_congr (tenantId accountId : String) {store store' : RedisStore}
    (balance
      : store.get? (accountKeys tenantId accountId).balance
        = store'.get? (accountKeys tenantId accountId).balance)
    (version
      : store.get? (accountKeys tenantId accountId).version
        = store'.get? (accountKeys tenantId accountId).version)
    : getBalance store tenantId accountId = getBalance store' tenantId accountId
      ∧ ∀ delta expected,
          (atomicIncrementBalance store tenantId accountId delta expected).1
          = (atomicIncrementBalance store' tenantId accountId delta expected).1 := by
  constructor
  · unfold getBalance
    cases valid : getKeys tenantId accountId with
    | error error => rfl
    | ok keys =>
        obtain rfl := getKeys_ok valid
        simp only [bind, Except.bind, balance, version]
  · intro delta expected
    cases checked : checkIncrement tenantId accountId delta expected with
    | error error =>
        rw [atomicIncrementBalance_error checked, atomicIncrementBalance_error checked]
    | ok checks =>
        obtain ⟨keys, delta, expected⟩ := checks
        obtain rfl := getKeys_ok (checkIncrement_ok checked).2.2
        have sameVersion
            : numberAt store (accountKeys tenantId accountId).version
              = numberAt store' (accountKeys tenantId accountId).version := by
          simp only [numberAt, version]
        have sameBalance
            : numberAt store (accountKeys tenantId accountId).balance
              = numberAt store' (accountKeys tenantId accountId).balance := by
          simp only [numberAt, balance]
        -- The script looks at the two stored numbers and at nothing else
        have sameMatch
            : VersionMatches store (accountKeys tenantId accountId) expected
              ↔ VersionMatches store' (accountKeys tenantId accountId) expected := by
          simp only [VersionMatches, sameVersion]
        have sameNew
            : newBalance store (accountKeys tenantId accountId) delta
              = newBalance store' (accountKeys tenantId accountId) delta := by
          simp only [newBalance, sameBalance]
        have answer
            : (atomicBalanceMutation store (accountKeys tenantId accountId) delta expected).1
              = (atomicBalanceMutation store' (accountKeys tenantId accountId) delta
                  expected).1 := by
          unfold atomicBalanceMutation
          by_cases matching : VersionMatches store' (accountKeys tenantId accountId) expected
          · by_cases negative : (newBalance store' (accountKeys tenantId accountId) delta).Negative
            · simp only [sameMatch, matching, not_true, if_false, sameNew, negative, if_true,
                sameBalance]
            · simp only [sameMatch, matching, not_true, if_false, sameNew, negative, newVersion,
                sameVersion]
          · simp only [sameMatch, matching, not_false_iff, if_true, sameVersion]
        simp only [atomicIncrementBalance, checked, answer]

end Frame

/-- No run of calls on the first account changes what is answered about the second one. -/
def Unaffected (tenantId accountId tenantId' accountId' : String) : Prop :=
  ∀ store calls,
    let after := (accountMachine tenantId accountId).exec store calls
    getBalance after tenantId' accountId' = getBalance store tenantId' accountId'
    ∧ ∀ delta expected,
        (atomicIncrementBalance after tenantId' accountId' delta expected).1.isOk
        = (atomicIncrementBalance store tenantId' accountId' delta expected).1.isOk

/-- Two different accounts do not affect each other exactly when neither is the other with a
part of its name moved over the colon.
-/
theorem unaffected_iff (tenantId accountId tenantId' accountId' : String)
    (named : tenantId ≠ "" ∧ accountId ≠ "" ∧ tenantId' ≠ "" ∧ accountId' ≠ "")
    (different : (tenantId, accountId) ≠ (tenantId', accountId'))
    : Unaffected tenantId accountId tenantId' accountId'
      ↔ ¬ Shifted tenantId accountId tenantId' accountId'
        ∧ ¬ Shifted tenantId' accountId' tenantId accountId := by
  obtain ⟨tenant, account, tenant', account'⟩ := named
  have joined := joined_eq_iff tenantId accountId tenantId' accountId'
  have distinct : ¬ (tenantId = tenantId' ∧ accountId = accountId') :=
    fun same => different (Prod.ext same.1 same.2)
  rw [← not_or]
  constructor
  · intro unaffected shifted
    have keys : accountKeys tenantId accountId = accountKeys tenantId' accountId' :=
      (accountKeys_eq_iff _ _ _ _).mpr (joined.mpr (Or.inr shifted))
    -- Where the keys coincide, a balance set for one account is read for the other
    have read := (unaffected .empty [.setBalance (.int 5) (.int 1)]).1
    simp only [Machine.exec, accountMachine,
      setBalance_int 5 (by decide : (0 : Int) ≤ 1) (getKeys_nonempty tenant account), getBalance,
      getKeys_nonempty tenant' account', bind, Except.bind, Prod.map_snd, id_eq, keys] at read
    rw [get?_writeBoth (keys_ne _ _), get?_writeBoth (keys_ne _ _)] at read
    simp [readAccount, (keys_ne tenantId' accountId').symm, coerceInt, NumberText.int?, orRaise,
      readVersion, bind, Except.bind, pure, Except.pure] at read
  · intro apart store calls
    have joinedApart : tenantId ++ ":" ++ accountId ≠ tenantId' ++ ":" ++ accountId' := by
      intro same
      rcases joined.mp same with equal | shifted
      · exact distinct equal
      · exact apart shifted
    have kept := answers_congr tenantId' accountId'
      (exec_frame store calls (keys_apart joinedApart (Or.inl rfl)))
      (exec_frame store calls (keys_apart joinedApart (Or.inr rfl)))
    exact ⟨kept.1, fun delta expected => by rw [kept.2]⟩

theorem unaffected_iff_sample
    : Unaffected "bank:eu" "cash" "bank" "eu:cash"
      ↔ ¬ Shifted "bank:eu" "cash" "bank" "eu:cash"
        ∧ ¬ Shifted "bank" "eu:cash" "bank:eu" "cash" :=
  unaffected_iff "bank:eu" "cash" "bank" "eu:cash" (by decide) (by decide)

/-- Account `cash` of tenant `bank:eu` is cached under the keys of account `eu:cash` of tenant
`bank`.
-/
theorem shifted_account_affected : ¬ Unaffected "bank:eu" "cash" "bank" "eu:cash" := by
  intro unaffected
  have read := (unaffected .empty [.setBalance (.int 5) (.int 1)]).1
  revert read
  decide +kernel

end PettyFlow.Cache
