import PettyFlow.Audit.TamperLog
import PettyFlow.Foundation.SealedChain
import PettyFlow.Foundation.Separators

/-! What a verified audit log says about the entries that were appended. The hashes cover the
fields as one text joined with bars, without the identifier of the entry and without the
tenant that is asked for.
-/

namespace PettyFlow.Audit

open Foundation

structure AppendCall where
  draw : Draw
  tenantId : String
  eventType : String
  actorId : String
  payload : Json

def auditMachine (hmac : Bytes → Bytes → Bytes) : Machine WORMAuditLogger AppendCall AuditEntry where
  step s call := s.appendEvent hmac call.draw call.tenantId call.eventType call.actorId call.payload

/-- The hashed text of an entry. -/
def AuditEntry.material (e : AuditEntry) : String :=
  s!"{e.prevHash}|{e.sequenceNumber}|{e.tenantId}|{e.eventType}|{e.actorId}|{e.payloadJson}|{e.timestamp}"

/-- The part of the hashed text behind link and number. -/
def AuditEntry.fields (e : AuditEntry) : List Char :=
  e.tenantId.toList ++ '|' :: (e.eventType.toList ++ '|' :: (e.actorId.toList
    ++ '|' :: (e.payloadJson.toList ++ '|' :: e.timestamp.toList)))

theorem AuditEntry.material_toList (e : AuditEntry)
    : e.material.toList
      = e.prevHash.toList ++ '|' :: ((toString e.sequenceNumber).toList ++ '|' :: e.fields) := by
  simp [material, fields, ToString.toString]

/-- The hexadecimal text of some bytes. -/
def hexText (bytes : Bytes) : String :=
  String.ofList (bytes.flatMap (fun byte => hexDigits 2 byte.toNat))

/-- How the entries of a log are chained. -/
def auditChain (hmac : Bytes → Bytes → Bytes) (secret : Bytes)
    : SealedChain AuditEntry String String where
  number := AuditEntry.sequenceNumber
  link := AuditEntry.prevHash
  stamp := AuditEntry.currentHash
  body := AuditEntry.material
  hash material := hexText (hmac secret (utf8 material))

theorem hexText_injective {first second : Bytes} (same : hexText first = hexText second)
    : first = second := by
  have digits := String.ofList_injective same
  induction first generalizing second with
  | nil =>
      cases second with
      | nil => rfl
      | cons byte rest => simp [hexDigits] at digits
  | cons byte rest ih =>
      cases second with
      | nil => simp [hexDigits] at digits
      | cons byte' rest' =>
          obtain ⟨head, tail⟩ := List.append_inj digits (by simp)
          have value := hexDigits_injective 2 byte.toNat_lt byte'.toNat_lt head
          have later : hexText rest = hexText rest' := congrArg String.ofList tail
          rw [UInt8.toNat_inj.mp value, ih later tail]

/-- A hexadecimal text holds neither bars nor other than ASCII characters. -/
theorem hexText_clean {bytes : Bytes} {c : Char} (member : c ∈ (hexText bytes).toList)
    : c ≠ '|' ∧ c.toNat < 128 := by
  have digit : ∀ n < 16, hexDigit n ≠ '|' ∧ (hexDigit n).toNat < 128 := by decide
  have digits (width n : Nat) (inside : c ∈ hexDigits width n) : c ≠ '|' ∧ c.toNat < 128 := by
    induction width generalizing n with
    | zero => cases inside
    | succ width ih =>
        rcases List.mem_append.mp inside with front | last
        · exact ih _ front
        · rw [List.mem_singleton.mp last]
          exact digit _ (Nat.mod_lt n (by decide))
  simp only [hexText, String.toList_ofList, List.mem_flatMap] at member
  obtain ⟨byte, _, inside⟩ := member
  exact digits 2 byte.toNat inside

section Verification

variable {hmac : Bytes → Bytes → Bytes}

/-- The verification accepts exactly the chains, by induction over the entries. -/
theorem verifyFrom_ok_iff (s : WORMAuditLogger) (link : String) (i : Int)
    (entries : List AuditEntry)
    : s.verifyFrom hmac link i entries = .ok ()
      ↔ (auditChain hmac s.secret).Chained link i entries := by
  induction entries generalizing link i with
  | nil => exact iff_of_true rfl trivial
  | cons e rest ih =>
      unfold WORMAuditLogger.verifyFrom SealedChain.Chained
      by_cases numbered : e.sequenceNumber = i + 1
      · rw [raiseIf_neg (not_not.mpr numbered)]
        by_cases linked : e.prevHash = link
        · rw [raiseIf_neg (not_not.mpr linked)]
          by_cases sealed_ : e.currentHash = s.entryHash hmac e
          · -- A hash that the log computes itself is ASCII, so that the comparison does not raise
            have ascii : ¬ ∃ c ∈ e.currentHash.toList, 128 ≤ c.toNat := by
              rintro ⟨c, member, wide⟩
              rw [sealed_] at member
              exact absurd (hexText_clean member).2 (not_lt.mpr wide)
            rw [raiseIf_neg ascii, raiseIf_neg (not_not.mpr sealed_), ih]
            exact ⟨fun later => ⟨numbered, linked, sealed_, later⟩,
              fun chained => chained.2.2.2⟩
          · refine iff_of_false ?_ (fun chained => sealed_ chained.2.2.1)
            by_cases ascii : ∃ c ∈ e.currentHash.toList, 128 ≤ c.toNat
            · rw [raiseIf_pos ascii]
              exact fun passed => by cases passed
            · rw [raiseIf_neg ascii, raiseIf_pos sealed_]
              exact fun passed => by cases passed
        · rw [raiseIf_pos linked]
          exact iff_of_false (fun passed => by cases passed) (fun chained => linked chained.2.1)
      · rw [raiseIf_pos numbered]
        exact iff_of_false (fun passed => by cases passed) (fun chained => numbered chained.1)

theorem verifyIntegrity_iff (s : WORMAuditLogger) (tenantId : String)
    : s.verifyIntegrity hmac tenantId = .ok true
      ↔ (auditChain hmac s.secret).Chained genesisHash 0 (s.getEntries tenantId) := by
  rw [← verifyFrom_ok_iff]
  unfold WORMAuditLogger.verifyIntegrity
  cases s.verifyFrom hmac genesisHash 0 (s.getEntries tenantId) with
  | error error => exact iff_of_false (fun passed => by cases passed) (fun passed => by cases passed)
  | ok value => exact iff_of_true rfl rfl

end Verification

/-- The logs that appending builds: each tenant's entries are a chain of its own. -/
structure Appended (hmac : Bytes → Bytes → Bytes) (secret : Bytes) (s : WORMAuditLogger) : Prop where
  keyed : s.secret = secret
  chained
    : ∀ t, (auditChain hmac secret).Chained genesisHash 0 (s.getEntries t)
  own : ∀ t, ∀ e ∈ s.getEntries t, e.tenantId = t

theorem new_appended (hmac : Bytes → Bytes → Bytes) (secret : Bytes)
    : Appended hmac secret (.new secret) where
  keyed := rfl
  chained _ := trivial
  own _ _ member := by cases member

/-- Appending prolongs the chain of one tenant and keeps the others. -/
theorem Appended.step {hmac : Bytes → Bytes → Bytes} {secret : Bytes} {s : WORMAuditLogger}
    (appended : Appended hmac secret s) (call : AppendCall)
    : Appended hmac secret ((auditMachine hmac).step s call).2 := by
  obtain ⟨draw, tenantId, eventType, actorId, payload⟩ := call
  have entries (t : String)
      : ((auditMachine hmac).step s ⟨draw, tenantId, eventType, actorId, payload⟩).2.getEntries t
        = if tenantId = t then
            s.getEntries t
              ++ [(s.appendEvent hmac draw tenantId eventType actorId payload).1]
          else
            s.getEntries t :=
    s.getEntries_appendEvent hmac draw tenantId eventType actorId payload t
  refine ⟨appended.keyed, fun t => ?_, fun t e member => ?_⟩
  · -- The log of the event grows by one entry that continues its chain; all others stay
    rw [entries]
    by_cases same : tenantId = t
    · subst same
      rw [if_pos rfl, SealedChain.chained_append]
      refine ⟨appended.chained tenantId, by simp [WORMAuditLogger.appendEvent, auditChain], ?_, ?_⟩
      · simp only [WORMAuditLogger.appendEvent, auditChain, SealedChain.lastStamp]
        cases (s.getEntries tenantId).getLast? <;> rfl
      · rw [← appended.keyed]
        rfl
    · rw [if_neg same]
      exact appended.chained t
  · rw [entries] at member
    by_cases same : tenantId = t
    · subst same
      rw [if_pos rfl] at member
      rcases List.mem_append.mp member with old | new
      · exact appended.own tenantId e old
      · rw [List.mem_singleton.mp new]
        rfl
    · rw [if_neg same] at member
      exact appended.own t e member

/-- The logger after a run of appends. -/
def appendedLogger (hmac : Bytes → Bytes → Bytes) (secret : Bytes) (calls : List AppendCall)
    : WORMAuditLogger :=
  (auditMachine hmac).exec (.new secret) calls

theorem appendedLogger_appended (hmac : Bytes → Bytes → Bytes) (secret : Bytes)
    (calls : List AppendCall)
    : Appended hmac secret (appendedLogger hmac secret calls) := by
  have anyCall : (auditMachine hmac).Admits (fun _ _ => True) (.new secret) calls :=
    ((auditMachine hmac).admits_iff_history _ _).mpr (fun _ _ => trivial)
  exact (auditMachine hmac).exec_invariant (motive := Appended hmac secret)
    (fun _ call appended _ => appended.step call) (new_appended hmac secret) anyCall

/-- Everything that was appended, for whichever tenant. -/
def WORMAuditLogger.issued (s : WORMAuditLogger) : List AuditEntry :=
  s.store.entries.flatMap Prod.snd

theorem mem_issued {s : WORMAuditLogger} {e : AuditEntry}
    : e ∈ s.issued ↔ ∃ t, e ∈ s.getEntries t := by
  simp only [WORMAuditLogger.issued, List.mem_flatMap, Prod.exists, Dict.mem_entries_iff,
    WORMAuditLogger.getEntries, Dict.getD]
  constructor
  · rintro ⟨t, entries, found, member⟩
    exact ⟨t, by rwa [found]⟩
  · rintro ⟨t, member⟩
    cases found : s.store.get? t with
    | none => simp [found] at member
    | some entries => exact ⟨t, entries, found, by simpa [found] using member⟩

/-- The texts of two lists of entries do not collide under the key. -/
def CollisionFree (hmac : Bytes → Bytes → Bytes) (secret : Bytes) (entries others : List AuditEntry)
    : Prop :=
  ∀ e ∈ entries,
    ∀ other ∈ others,
      hmac secret (utf8 e.material) = hmac secret (utf8 other.material)
      → utf8 e.material = utf8 other.material

/-- Stored entries whose hashes were issued, and whose texts do not collide with issued ones. -/
structure Assumed (hmac : Bytes → Bytes → Bytes) (s : WORMAuditLogger) (stored : List AuditEntry)
    : Prop where
  available : ∀ e ∈ stored, ∃ issued ∈ s.issued, e.currentHash = issued.currentHash
  collisionFree : CollisionFree hmac s.secret stored s.issued

/-- The logger with another store. -/
def WORMAuditLogger.altered (s : WORMAuditLogger) (store : Dict String (List AuditEntry))
    : WORMAuditLogger :=
  { s with store }

/-- If an altered store is verified for a tenant, it holds the beginning of the tenant's log. -/
def Sound (hmac : Bytes → Bytes → Bytes) (s : WORMAuditLogger)
    (store : Dict String (List AuditEntry)) (t : String) : Prop :=
  (s.altered store).verifyIntegrity hmac t = .ok true
  → (s.altered store).getEntries t <+: s.getEntries t

/-- Stored entries that agree, in number, link, hash and hashed text, with the beginning of
some tenant's log.
-/
def Relabelled (s : WORMAuditLogger) (stored : List AuditEntry) : Prop :=
  ∃ u n,
    List.Forall₂
      (fun e issued =>
        e.sequenceNumber = issued.sequenceNumber ∧ e.prevHash = issued.prevHash
        ∧ e.currentHash = issued.currentHash ∧ e.material = issued.material)
      stored ((s.getEntries u).take n)

section Soundness

variable {hmac : Bytes → Bytes → Bytes} {secret : Bytes} {s : WORMAuditLogger}

/-- The links of a log hold no bars: they are hexadecimal texts. -/
theorem prevHash_clean {entries : List AuditEntry}
    (chained : (auditChain hmac secret).Chained genesisHash 0 entries) {e : AuditEntry}
    (member : e ∈ entries)
    : '|' ∉ e.prevHash.toList := by
  have genesis : '|' ∉ genesisHash.toList := by decide
  rcases chained.link_eq member with first | ⟨other, listed, same⟩
  · rw [show e.prevHash = genesisHash from first]
    exact genesis
  · have stamped : e.prevHash = hexText (hmac secret (utf8 other.material)) :=
      same.trans (chained.stamped listed)
    rw [stamped]
    exact fun bar => (hexText_clean bar).1 rfl

theorem sequence_clean (n : Int) : '|' ∉ (toString n).toList := by
  intro bar
  rcases mem_repr bar with digit | sign
  · exact absurd digit (by decide)
  · exact absurd sign (by decide)

/-- In two logs, entries with the same hash agree: the hash determines the text, and the text
determines link and number, which hold no bars.
-/
theorem agrees_of_hash {entries others : List AuditEntry}
    (chained : (auditChain hmac secret).Chained genesisHash 0 entries)
    (chainedOthers : (auditChain hmac secret).Chained genesisHash 0 others)
    (collisionFree : CollisionFree hmac secret entries others) {e other : AuditEntry}
    (member : e ∈ entries) (listed : other ∈ others) (same : e.currentHash = other.currentHash)
    : (auditChain hmac secret).Agrees e other := by
  have hashes
      : hexText (hmac secret (utf8 e.material)) = hexText (hmac secret (utf8 other.material)) :=
    (chained.stamped member).symm.trans (same.trans (chainedOthers.stamped listed))
  have text : e.material = other.material :=
    utf8_injective (collisionFree e member other listed (hexText_injective hashes))
  have chars := congrArg String.toList text
  rw [e.material_toList, other.material_toList] at chars
  obtain ⟨links, rest⟩ :=
    split_first (prevHash_clean chained member) (prevHash_clean chainedOthers listed) chars
  obtain ⟨numbers, _⟩ := split_first (sequence_clean _) (sequence_clean _) rest
  exact ⟨Int.repr_injective (String.toList_inj.mp numbers), String.toList_inj.mp links, same,
    text⟩

theorem relabelled_iff (hmac : Bytes → Bytes → Bytes) (secret : Bytes) {stored : List AuditEntry}
    : Relabelled s stored
      ↔ ∃ u n,
          List.Forall₂ (auditChain hmac secret).Agrees stored ((s.getEntries u).take n) := by
  constructor
  · rintro ⟨u, n, agree⟩
    exact ⟨u, n, agree.imp fun _ _ same => ⟨same.1, same.2.1, same.2.2.1, same.2.2.2⟩⟩
  · rintro ⟨u, n, agree⟩
    exact ⟨u, n, agree.imp fun _ _ same => ⟨same.number, same.link, same.stamp, same.body⟩⟩

/-- Stored entries are verified exactly when they agree with the beginning of some tenant's
log. The last stored hash was issued for an entry with its number, and from there the links
lead back.
-/
theorem verified_iff (appended : Appended hmac secret s) {stored : List AuditEntry}
    (assumed : Assumed hmac s stored)
    : (auditChain hmac secret).Chained genesisHash 0 stored ↔ Relabelled s stored := by
  rw [relabelled_iff hmac secret]
  constructor
  · intro chained
    rcases List.eq_nil_or_concat' stored with rfl | ⟨init, last, rfl⟩
    · exact ⟨"", 0, by simp⟩
    · have member : last ∈ init ++ [last] := by simp
      -- The last stored hash was issued, and from there the chains agree back to the genesis
      obtain ⟨issued, listed, hash⟩ := assumed.available last member
      obtain ⟨u, logged⟩ := mem_issued.mp listed
      have free (others : String)
          : CollisionFree hmac secret (init ++ [last]) (s.getEntries others) := by
        intro e inside other logged
        have := assumed.collisionFree e inside other (mem_issued.mpr ⟨others, logged⟩)
        rwa [appended.keyed] at this
      have chainedIssued := appended.chained u
      have agree := agrees_of_hash chained chainedIssued (free u) member logged hash
      obtain ⟨i, place⟩ := List.mem_iff_getElem?.mp logged
      have number := chainedIssued.number_eq place
      have numberLast := (SealedChain.chained_append.mp chained).2.1
      -- Both chains count their entries, so the issued one stands at the same place
      have samePlace : i = init.length := by
        have := agree.number
        omega
      subst samePlace
      refine ⟨u, (init ++ [last]).length, ?_⟩
      apply chained.agrees_of_stamp chainedIssued _ (by simp) (by simpa using place)
      · simpa [SealedChain.lastStamp] using agree.stamp
      · intro e inside other logged same
        exact agrees_of_hash chained chainedIssued (free u) inside logged same
  · rintro ⟨u, n, agree⟩
    exact ((appended.chained u).take n).of_agrees agree

theorem altered_verified_iff (appended : Appended hmac secret s)
    (store : Dict String (List AuditEntry)) (t : String)
    (assumed : Assumed hmac s ((s.altered store).getEntries t))
    : (s.altered store).verifyIntegrity hmac t = .ok true
      ↔ Relabelled s ((s.altered store).getEntries t) := by
  rw [verifyIntegrity_iff, ← verified_iff appended assumed, ← appended.keyed]
  rfl

/-- Soundness of one altered store, without the verification. -/
theorem sound_iff (appended : Appended hmac secret s) (store : Dict String (List AuditEntry))
    (t : String) (assumed : Assumed hmac s ((s.altered store).getEntries t))
    : Sound hmac s store t
      ↔ (Relabelled s ((s.altered store).getEntries t)
        → (s.altered store).getEntries t <+: s.getEntries t) := by
  rw [Sound, altered_verified_iff appended store t assumed]

/-- An entry whose texts, the payload apart, hold no bars. -/
structure AuditEntry.SeparatorFree (e : AuditEntry) : Prop where
  tenantId : '|' ∉ e.tenantId.toList
  eventType : '|' ∉ e.eventType.toList
  actorId : '|' ∉ e.actorId.toList
  timestamp : '|' ∉ e.timestamp.toList

/-- Without bars outside the payload, the joined fields determine each of them: three are cut
off at the first bar, and the timestamp at the last.
-/
theorem AuditEntry.SeparatorFree.fields_eq {e other : AuditEntry} (free : e.SeparatorFree)
    (freeOther : other.SeparatorFree) (same : e.fields = other.fields)
    : e.tenantId = other.tenantId ∧ e.eventType = other.eventType
      ∧ e.actorId = other.actorId ∧ e.payloadJson = other.payloadJson
      ∧ e.timestamp = other.timestamp := by
  unfold AuditEntry.fields at same
  obtain ⟨tenants, rest⟩ := split_first free.tenantId freeOther.tenantId same
  obtain ⟨events, rest⟩ := split_first free.eventType freeOther.eventType rest
  obtain ⟨actors, rest⟩ := split_first free.actorId freeOther.actorId rest
  have backwards := congrArg List.reverse rest
  simp only [List.reverse_append, List.reverse_cons, List.append_assoc, List.singleton_append]
    at backwards
  obtain ⟨times, payloads⟩ :=
    split_first (fun bar => free.timestamp (List.mem_reverse.mp bar))
      (fun bar => freeOther.timestamp (List.mem_reverse.mp bar)) backwards
  exact ⟨String.toList_inj.mp tenants, String.toList_inj.mp events, String.toList_inj.mp actors,
    String.toList_inj.mp (List.reverse_injective payloads),
    String.toList_inj.mp (List.reverse_injective times)⟩

/-- What makes a relabelling impossible: stored entries name the tenant, carry the identifiers
that were issued with their hashes, and hold no bars outside the payload, as those issued.
-/
structure Unlabelled (s : WORMAuditLogger) (stored : List AuditEntry) (t : String) : Prop where
  tenant : ∀ e ∈ stored, e.tenantId = t
  entryIds
    : ∀ e ∈ stored, ∀ issued ∈ s.issued, e.currentHash = issued.currentHash → e.entryId = issued.entryId
  stored : ∀ e ∈ stored, e.SeparatorFree
  issued : ∀ e ∈ s.issued, e.SeparatorFree

/-- Agreeing entries with the same identifier and without bars are the same. -/
theorem agrees_eq {e issued : AuditEntry} (agree : (auditChain hmac secret).Agrees e issued)
    (linkFree : '|' ∉ issued.prevHash.toList) (entryIds : e.entryId = issued.entryId)
    (free : e.SeparatorFree) (freeIssued : issued.SeparatorFree)
    : e = issued := by
  have link : e.prevHash = issued.prevHash := agree.link
  have text : e.material = issued.material := agree.body
  have chars := congrArg String.toList text
  rw [e.material_toList, issued.material_toList] at chars
  obtain ⟨_, rest⟩ := split_first (link ▸ linkFree) linkFree chars
  obtain ⟨_, fields⟩ := split_first (sequence_clean _) (sequence_clean _) rest
  obtain ⟨tenants, events, actors, payloads, times⟩ := free.fields_eq freeIssued fields
  have numbers : e.sequenceNumber = issued.sequenceNumber := agree.number
  have hashes : e.currentHash = issued.currentHash := agree.stamp
  obtain ⟨_, _, _, _, _, _, _, _, _⟩ := e
  obtain ⟨_, _, _, _, _, _, _, _, _⟩ := issued
  simp only [AuditEntry.mk.injEq]
  exact ⟨entryIds, numbers, tenants, events, actors, payloads, times, link, hashes⟩

theorem sound_of_unlabelled (appended : Appended hmac secret s)
    (store : Dict String (List AuditEntry)) (t : String)
    (assumed : Assumed hmac s ((s.altered store).getEntries t))
    (unlabelled : Unlabelled s ((s.altered store).getEntries t) t)
    : Sound hmac s store t := by
  rw [sound_iff appended store t assumed, relabelled_iff hmac secret]
  rintro ⟨u, n, agree⟩
  generalize (s.altered store).getEntries t = stored at agree unlabelled
  have same : stored = (s.getEntries u).take n := by
    have inside : ∀ e ∈ (s.getEntries u).take n, e ∈ s.getEntries u :=
      fun e member => List.mem_of_mem_take member
    clear assumed
    generalize (s.getEntries u).take n = issued at agree inside
    have equal : List.Forall₂ Eq stored issued := by
      rw [List.forall₂_iff_get] at agree ⊢
      refine ⟨agree.1, fun i bound bound' => ?_⟩
      have member := List.getElem_mem bound
      have logged := inside _ (List.getElem_mem bound')
      have listed := mem_issued.mpr ⟨u, logged⟩
      have agrees := agree.2 i bound bound'
      -- The hash leaves only the labels open, and those are as they were issued
      exact agrees_eq agrees (prevHash_clean (appended.chained u) logged)
        (unlabelled.entryIds _ member _ listed agrees.stamp) (unlabelled.stored _ member)
        (unlabelled.issued _ listed)
    exact List.forall₂_eq_eq_eq ▸ equal
  rcases List.eq_nil_or_concat' stored with empty | ⟨init, last, split⟩
  · rw [empty]
    exact List.nil_prefix
  · have member : last ∈ stored := by simp [split]
    have logged : last ∈ s.getEntries u := List.mem_of_mem_take (same ▸ member)
    -- The last entry names the tenant, so the log it was cut from is the tenant's own
    have owner : u = t :=
      (appended.own u last logged).symm.trans (unlabelled.tenant last member)
    rw [same, owner]
    exact List.take_prefix n _

/-- Whatever was appended first to some log can be stored under another identifier. -/
theorem forgeable (appended : Appended hmac secret s)
    (apart : CollisionFree hmac s.secret s.issued s.issued) {u : String} {first : AuditEntry}
    {rest : List AuditEntry} (log : s.getEntries u = first :: rest)
    : ∃ store,
        Assumed hmac s ((s.altered store).getEntries u) ∧ ¬ Sound hmac s store u := by
  let forged : AuditEntry := { first with entryId := first.entryId ++ "X" }
  have listed : first ∈ s.issued := mem_issued.mpr ⟨u, by simp [log]⟩
  have stored : (s.altered (Dict.empty.set u [forged])).getEntries u = [forged] := by
    simp [WORMAuditLogger.altered, WORMAuditLogger.getEntries, Dict.getD]
  have assumed : Assumed hmac s [forged] := by
    constructor
    · exact List.forall_mem_singleton.mpr ⟨first, listed, rfl⟩
    · exact List.forall_mem_singleton.mpr (apart first listed)
  refine ⟨.set .empty u [forged], by rwa [stored], ?_⟩
  rw [sound_iff appended _ u (by rwa [stored]), stored, log]
  intro sound
  have relabelled : Relabelled s [forged] := by
    refine ⟨u, 1, ?_⟩
    rw [log]
    exact .cons ⟨rfl, rfl, rfl, rfl⟩ .nil
  have same := (List.cons_prefix_cons.mp (sound relabelled)).1
  have ids : (first.entryId ++ "X").length = first.entryId.length := by
    rw [show first.entryId ++ "X" = forged.entryId from rfl, same]
  rw [String.length_append] at ids
  simp at ids

end Soundness

/-- No log gets shorter. -/
theorem getEntries_kept (hmac : Bytes → Bytes → Bytes) (s : WORMAuditLogger) (call : AppendCall)
    (t : String)
    : s.getEntries t <+: ((auditMachine hmac).step s call).2.getEntries t := by
  by_cases same : call.tenantId = t
  · subst same
    simp [auditMachine, WORMAuditLogger.appendEvent, WORMAuditLogger.getEntries, Dict.getD]
  · simp [auditMachine, WORMAuditLogger.appendEvent, WORMAuditLogger.getEntries, Dict.getD,
      Dict.get?_set, same]

/-- Once something was appended, some log has a first entry. -/
theorem appendedLogger_some (hmac : Bytes → Bytes → Bytes) (secret : Bytes)
    {calls : List AppendCall}
    (some : calls ≠ [])
    : ∃ t first rest, (appendedLogger hmac secret calls).getEntries t = first :: rest := by
  obtain ⟨call, later, rfl⟩ := List.exists_cons_of_ne_nil some
  have anyCall (s : WORMAuditLogger) : (auditMachine hmac).Admits (fun _ _ => True) s later :=
    ((auditMachine hmac).admits_iff_history _ _).mpr (fun _ _ => trivial)
  have kept :=
    (auditMachine hmac).exec_relates (motive := fun _ => True)
      (r := fun s s' => s.getEntries call.tenantId <+: s'.getEntries call.tenantId)
      (fun _ => List.prefix_rfl) (fun _ _ _ => List.IsPrefix.trans) (fun _ _ _ _ => trivial)
      (fun s input _ _ => getEntries_kept hmac s input call.tenantId) trivial
      (anyCall ((auditMachine hmac).step (.new secret) call).2)
  have first
      : ((auditMachine hmac).step (.new secret) call).2.getEntries call.tenantId
        = [((auditMachine hmac).step (.new secret) call).1] := by
    simp [auditMachine, WORMAuditLogger.appendEvent, WORMAuditLogger.getEntries, Dict.getD,
      WORMAuditLogger.new]
  rw [first] at kept
  obtain ⟨rest, split⟩ := kept
  exact ⟨call.tenantId, _, rest, split.symm⟩

/-- Verification is sound for every altered store only while nothing was appended. For one
altered store it is sound exactly where the stored entries, if they are a relabelled beginning
of some log, are the beginning of the tenant's own log; entries that cannot be relabelled are
such a store.
-/
theorem audit_log_sound_iff (hmac : Bytes → Bytes → Bytes) (secret : Bytes)
    (calls : List AppendCall)
    (apart
      : CollisionFree hmac (appendedLogger hmac secret calls).secret
          (appendedLogger hmac secret calls).issued (appendedLogger hmac secret calls).issued)
    : let s := appendedLogger hmac secret calls
      ((∀ store t, Assumed hmac s ((s.altered store).getEntries t) → Sound hmac s store t)
        ↔ calls = [])
      ∧ ∀ store t,
          Assumed hmac s ((s.altered store).getEntries t)
          → (Sound hmac s store t
              ↔ (Relabelled s ((s.altered store).getEntries t)
                → (s.altered store).getEntries t <+: s.getEntries t))
            ∧ (Unlabelled s ((s.altered store).getEntries t) t → Sound hmac s store t) := by
  intro s
  have appended : Appended hmac secret s := appendedLogger_appended hmac secret calls
  refine ⟨⟨?_, ?_⟩, ?_⟩
  · intro sound
    by_contra some
    obtain ⟨u, first, rest, log⟩ := appendedLogger_some hmac secret some
    obtain ⟨store, assumed, unsound⟩ := forgeable appended apart log
    exact unsound (sound store u assumed)
  · rintro rfl store t assumed _
    cases stored : (s.altered store).getEntries t with
    | nil => exact List.nil_prefix
    | cons e rest =>
        obtain ⟨issued, listed, _⟩ := assumed.available e (by simp [stored])
        cases listed
  · intro store t assumed
    exact ⟨sound_iff appended store t assumed, sound_of_unlabelled appended store t assumed⟩

section Sample

def auditSecret : Bytes := utf8 "worm-audit-system-secret-key-32b"

/-- The text of the first event of a tenant. -/
def sampleMaterial : String :=
  genesisHash
    ++ "|1|tenant-1|EVENT_1|actor_1|\x7b\"data\": \"orig_1\"\x7d|1970-01-01T00:00:00+00:00"

/-- The HMAC-SHA256 of the text. -/
def auditDigest : Bytes :=
  [
    194, 247, 75, 119, 179, 56, 138, 181, 40, 136, 119, 157, 8, 255, 24, 156,
    225, 243, 174, 172, 249, 88, 20, 140, 223, 149, 0, 76, 88, 39, 46, 181
  ]

/-- A keyed digest without collisions that agrees with HMAC-SHA256 on the event. -/
def auditHmac (key payload : Bytes) : Bytes :=
  if key = auditSecret ∧ payload = utf8 sampleMaterial then
    auditDigest
  else
    List.replicate 33 0 ++ payload

def firstEvent : AppendCall :=
  ⟨⟨⟨0⟩, ⟨0⟩⟩, "tenant-1", "EVENT_1", "actor_1", .obj [("data", .str "orig_1")]⟩

def firstEntry : AuditEntry where
  entryId := "AUD-000000000000"
  sequenceNumber := 1
  tenantId := "tenant-1"
  eventType := "EVENT_1"
  actorId := "actor_1"
  payloadJson := "\x7b\"data\": \"orig_1\"\x7d"
  timestamp := "1970-01-01T00:00:00+00:00"
  prevHash := genesisHash
  currentHash := "c2f74b77b3388ab52888779d08ff189ce1f3aeacf958148cdf95004c58272eb5"

theorem firstEvent_issued
    : (appendedLogger auditHmac auditSecret [firstEvent]).issued = [firstEntry] := by
  decide +kernel

theorem auditHmac_injective (key : Bytes) {payload other : Bytes}
    (same : auditHmac key payload = auditHmac key other)
    : payload = other := by
  unfold auditHmac at same
  split at same
  · split at same
    · rename_i first second
      exact first.2.trans second.2.symm
    · have length := congrArg List.length same
      simp [auditDigest] at length
  · split at same
    · have length := congrArg List.length same
      simp [auditDigest] at length
    · exact List.append_cancel_left same

/-- A store that holds one entry, with the hash that was issued. -/
def storeOf (entry : AuditEntry) : Dict String (List AuditEntry) :=
  Dict.empty.set "tenant-1" [entry]

theorem getEntries_storeOf (s : WORMAuditLogger) (entry : AuditEntry)
    : (s.altered (storeOf entry)).getEntries "tenant-1" = [entry] :=
  rfl

theorem storeOf_assumed {entry : AuditEntry}
    (hash : entry.currentHash = firstEntry.currentHash)
    : let s := appendedLogger auditHmac auditSecret [firstEvent]
      Assumed auditHmac s ((s.altered (storeOf entry)).getEntries "tenant-1") := by
  refine ⟨?_, fun _ _ _ _ => auditHmac_injective _⟩
  rw [firstEvent_issued]
  exact List.forall_mem_singleton.mpr ⟨firstEntry, List.mem_cons_self, hash⟩

def renamedEntry : AuditEntry := { firstEntry with entryId := "AUD-FFFFFFFFFFFF" }

def emptiedEntry : AuditEntry := { firstEntry with payloadJson := "\x7b\x7d" }

/-- With one event appended: not every store, the one with another identifier as far as it is no
relabelling, and the one with another payload.
-/
theorem audit_log_sound_iff_sample
    : let s := appendedLogger auditHmac auditSecret [firstEvent]
      ((∀ store t, Assumed auditHmac s ((s.altered store).getEntries t) → Sound auditHmac s store t)
        ↔ [firstEvent] = [])
      ∧ (Sound auditHmac s (storeOf renamedEntry) "tenant-1"
        ↔ (Relabelled s [renamedEntry] → [renamedEntry] <+: s.getEntries "tenant-1"))
      ∧ Sound auditHmac s (storeOf emptiedEntry) "tenant-1" := by
  intro s
  obtain ⟨all, each⟩ := audit_log_sound_iff auditHmac auditSecret [firstEvent]
    (fun _ _ _ _ => auditHmac_injective _)
  have renamed := (each (storeOf renamedEntry) "tenant-1" (storeOf_assumed rfl)).1
  have emptied := (each (storeOf emptiedEntry) "tenant-1" (storeOf_assumed rfl)).2
  rw [getEntries_storeOf] at renamed emptied
  refine ⟨all, renamed, emptied ?_⟩
  have free (entry : AuditEntry) (tenant : entry.tenantId = "tenant-1")
      (type : entry.eventType = "EVENT_1") (actor : entry.actorId = "actor_1")
      (time : entry.timestamp = "1970-01-01T00:00:00+00:00")
      : entry.SeparatorFree := by
    constructor
    · rw [tenant]
      decide +kernel
    · rw [type]
      decide +kernel
    · rw [actor]
      decide +kernel
    · rw [time]
      decide +kernel
  have issued : s.issued = [firstEntry] := firstEvent_issued
  constructor
  · exact List.forall_mem_singleton.mpr rfl
  · rw [issued]
    exact List.forall_mem_singleton.mpr (List.forall_mem_singleton.mpr (fun _ => rfl))
  · exact List.forall_mem_singleton.mpr (free _ rfl rfl rfl rfl)
  · rw [issued]
    exact List.forall_mem_singleton.mpr (free _ rfl rfl rfl rfl)

/-- The first entry under another identifier is verified. -/
theorem renamed_entry_verified
    : let s := appendedLogger auditHmac auditSecret [firstEvent]
      let store := Dict.empty.set "tenant-1" [{ firstEntry with entryId := "AUD-FFFFFFFFFFFF" }]
      Assumed auditHmac s ((s.altered store).getEntries "tenant-1")
      ∧ ¬ Sound auditHmac s store "tenant-1" := by
  intro s store
  have appended : Appended auditHmac auditSecret s :=
    appendedLogger_appended auditHmac auditSecret [firstEvent]
  have log : s.getEntries "tenant-1" = [firstEntry] :=
    (rfl : s.getEntries "tenant-1" = s.issued).trans firstEvent_issued
  have stored : (s.altered store).getEntries "tenant-1" = [renamedEntry] :=
    getEntries_storeOf s renamedEntry
  have assumed : Assumed auditHmac s ((s.altered store).getEntries "tenant-1") :=
    storeOf_assumed rfl
  refine ⟨assumed, fun sound => ?_⟩
  have verified : (s.altered store).verifyIntegrity auditHmac "tenant-1" = .ok true := by
    apply (altered_verified_iff appended store "tenant-1" assumed).mpr
    refine ⟨"tenant-1", 1, ?_⟩
    rw [stored, log]
    exact .cons ⟨rfl, rfl, rfl, rfl⟩ .nil
  have begins := sound verified
  rw [stored, log] at begins
  have ids := congrArg AuditEntry.entryId (List.cons_prefix_cons.mp begins).1
  exact absurd ids (by decide)

end Sample

end PettyFlow.Audit
