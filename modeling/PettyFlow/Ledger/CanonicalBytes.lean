import PettyFlow.Foundation.Separators
import PettyFlow.Ledger.HashChain

/-! Which blocks their canonical bytes determine. The fields are joined without escaping, so
that a block is determined only where no other cut of its bytes gives a block.
-/

namespace PettyFlow.Ledger

open Foundation

theorem bar_not_mem_decimal (n : Int) : barByte ∉ decimal n :=
  not_mem_decimal (c := '|') (by decide) rfl rfl (by decide)

theorem bar_mem_utf8 (text : String) : barByte ∈ utf8 text ↔ '|' ∈ text.toList :=
  mem_utf8 (by decide) rfl

theorem bar_text : utf8 "|" = [barByte] := by decide

theorem typeBytes_text (value : String) : typeBytes (.text value) = utf8 value := by
  unfold typeBytes
  split <;> rename_i same <;> cases same <;> rfl

/-- A text with a bar is cut there. -/
theorem cut_at_bar {text : String} (bar : '|' ∈ text.toList)
    : ∃ first second, text = first ++ "|" ++ second := by
  obtain ⟨before, after, cut⟩ := List.append_of_mem bar
  refine ⟨.ofList before, .ofList after, ?_⟩
  rw [← String.toList_inj, cut]
  simp

theorem longer_text (first second : String) : first ++ "|" ++ second ≠ first := by
  intro same
  have lengths := congrArg String.length same
  simp only [String.length_append] at lengths
  have one : "|".length = 1 := rfl
  omega

namespace LedgerBlock

/-- The three texts that follow the sequence number, as they are joined. -/
def header (block : LedgerBlock) : Bytes :=
  utf8 block.tenantId ++ barByte :: (utf8 block.transactionId
    ++ barByte :: utf8 block.description)

/-- The legs, as they are joined. -/
def legsBytes (block : LedgerBlock) : Bytes :=
  joinLegs (block.legsPayload.map LegPayload.encode)

theorem toCanonicalBytes_eq (block : LedgerBlock)
    : block.toCanonicalBytes
      = decimal block.sequenceNumber ++ barByte :: (block.header
        ++ barByte :: (block.previousHash ++ barByte :: (utf8 block.timestamp
          ++ barByte :: block.legsBytes))) := by
  simp only [toCanonicalBytes, computeCanonicalBytes, joinFields, header, legsBytes,
    List.append_assoc, List.cons_append]

/-- The header is the encoding of a text. -/
theorem header_text (block : LedgerBlock)
    : block.header
      = utf8 (block.tenantId ++ "|" ++ block.transactionId ++ "|" ++ block.description) := by
  simp only [header, utf8_append, bar_text, List.append_assoc, List.cons_append, List.nil_append]

/-- What follows a bar after another header is a text. -/
theorem longer_header {block copy : LedgerBlock} {between : Bytes}
    (longer : copy.header = block.header ++ barByte :: between)
    : ∃ more, between = utf8 more := by
  rw [header_text, header_text, List.append_cons, ← bar_text, ← utf8_append] at longer
  obtain ⟨more, _, rest⟩ := utf8_prefix longer
  exact ⟨more, rest⟩

/-- No text before the previous hash has a bar in it. -/
structure CleanHeader (block : LedgerBlock) : Prop where
  tenant : '|' ∉ block.tenantId.toList
  transaction : '|' ∉ block.transactionId.toList
  description : '|' ∉ block.description.toList

/-- A header has at least two bars, and exactly two when its texts have none. -/
theorem header_count (block : LedgerBlock)
    : block.header.count barByte
      = 2 + (utf8 block.tenantId).count barByte + (utf8 block.transactionId).count barByte
        + (utf8 block.description).count barByte := by
  simp only [header, List.count_append, List.count_cons_self]
  omega

theorem CleanHeader.count {block : LedgerBlock} (clean : block.CleanHeader)
    : block.header.count barByte = 2 := by
  have none (text : String) (free : '|' ∉ text.toList) : (utf8 text).count barByte = 0 :=
    List.count_eq_zero.mpr (fun member => free ((bar_mem_utf8 text).mp member))
  rw [header_count, none _ clean.tenant, none _ clean.transaction, none _ clean.description]

theorem CleanHeader.of_count {block : LedgerBlock}
    (two : block.header.count barByte = 2)
    : block.CleanHeader := by
  have free (text : String) (none : (utf8 text).count barByte = 0) : '|' ∉ text.toList :=
    fun member => List.count_eq_zero.mp none ((bar_mem_utf8 text).mpr member)
  rw [header_count] at two
  exact ⟨free _ (by omega), free _ (by omega), free _ (by omega)⟩

/-- Clean headers determine their texts. -/
theorem CleanHeader.texts_eq {block copy : LedgerBlock} (clean : block.CleanHeader)
    (same : copy.header = block.header)
    : copy.tenantId = block.tenantId
      ∧ copy.transactionId = block.transactionId
      ∧ copy.description = block.description := by
  have cleanCopy : copy.CleanHeader := .of_count (same ▸ clean.count)
  obtain ⟨tenants, rests⟩ :=
    split_first (fun bar => cleanCopy.tenant ((bar_mem_utf8 _).mp bar))
      (fun bar => clean.tenant ((bar_mem_utf8 _).mp bar)) same
  obtain ⟨transactions, descriptions⟩ :=
    split_first (fun bar => cleanCopy.transaction ((bar_mem_utf8 _).mp bar))
      (fun bar => clean.transaction ((bar_mem_utf8 _).mp bar)) rests
  exact ⟨utf8_injective tenants, utf8_injective transactions, utf8_injective descriptions⟩

/-- Nonempty legs end with the amount of the last leg, by induction over the legs. -/
theorem joinLegs_ends (legs : List LegPayload) (some : legs ≠ [])
    : ∃ front amt, joinLegs (legs.map LegPayload.encode) = front ++ decimal amt := by
  induction legs with
  | nil => exact absurd rfl some
  | cons leg rest ih =>
      cases rest with
      | nil =>
          exact ⟨utf8 leg.acct ++ colonByte :: (typeBytes leg.type ++ [colonByte]), leg.amt,
            by simp [joinLegs, LegPayload.encode, joinLeg]⟩
      | cons next rest =>
          obtain ⟨front, amt, ends⟩ := ih (List.cons_ne_nil _ _)
          refine ⟨leg.encode ++ semicolonByte :: front, amt, ?_⟩
          unfold joinLegs at ends ⊢
          rw [List.map_cons, List.map_cons, List.intercalate_cons_cons, ← List.map_cons, ends]
          simp

/-- Bytes that end in a bar have no legs after their last field. -/
theorem no_legs_of_bar_end (ends fields : Bytes) {block : LedgerBlock}
    (same : ends ++ [barByte] = fields ++ barByte :: block.legsBytes)
    : block.legsPayload = [] := by
  by_contra some
  obtain ⟨front, amt, last⟩ := joinLegs_ends block.legsPayload some
  have bar : (decimal amt).getLast? = Option.some barByte := by
    have lasts := congrArg List.getLast? same
    rw [legsBytes, last, List.getLast?_concat] at lasts
    rw [lasts, ← List.cons_append, ← List.append_assoc]
    exact (List.getLast?_append_of_ne_nil _ (decimal_ne_nil amt)).symm
  exact bar_not_mem_decimal amt (List.mem_of_getLast? bar)

/-- The block is the only one with its canonical bytes and its hashes. The last field says
that the previous hash and the timestamp cannot be found again after a longer header.
-/
structure Sealed (block : LedgerBlock) : Prop extends block.CleanHeader where
  noLegs : block.legsPayload = []
  unshifted
    : ∀ more timestamp : String,
        block.previousHash ++ barByte :: utf8 block.timestamp
        ≠ utf8 more ++ barByte :: (block.previousHash ++ barByte :: utf8 timestamp)

/-- A copy of a block that leaves its two hashes as they are. -/
def Retouched (block copy : LedgerBlock) : Prop :=
  copy.previousHash = block.previousHash ∧ copy.currentHash = block.currentHash

/-- Another cut of a sealed block's bytes would need a longer header, and with it the
previous hash and the timestamp a second time.
-/
theorem Sealed.unique {block copy : LedgerBlock} (closed : block.Sealed)
    (retouched : block.Retouched copy)
    (same : copy.toCanonicalBytes = block.toCanonicalBytes)
    : copy = block := by
  rw [toCanonicalBytes_eq, toCanonicalBytes_eq, retouched.1] at same
  obtain ⟨numbers, same⟩ :=
    split_first (bar_not_mem_decimal _) (bar_not_mem_decimal _) same
  have blockLegs : block.legsBytes = [] := by rw [legsBytes, closed.noLegs]; rfl
  rw [blockLegs] at same
  have copyLegs : copy.legsPayload = [] :=
    no_legs_of_bar_end
      (block.header ++ barByte :: (block.previousHash ++ barByte :: utf8 block.timestamp))
      (copy.header ++ barByte :: (block.previousHash ++ barByte :: utf8 copy.timestamp))
      (by simpa using same.symm)
  have copyBytes : copy.legsBytes = [] := by rw [legsBytes, copyLegs]; rfl
  rw [copyBytes] at same
  -- The header of the block has the fewest bars there can be, so the copy has no fewer
  have fewer : block.header.count barByte ≤ copy.header.count barByte := by
    rw [closed.toCleanHeader.count, header_count]
    omega
  rcases cut_no_later fewer same.symm with ⟨headers, rests⟩ | ⟨between, longer, rests⟩
  · obtain ⟨tenants, transactions, descriptions⟩ := closed.toCleanHeader.texts_eq headers.symm
    have times : copy.timestamp = block.timestamp := by
      have ends := List.append_cancel_left rests
      exact utf8_injective (List.append_cancel_right (List.cons.inj ends).2).symm
    exact LedgerBlock.ext (decimal_injective numbers) tenants transactions descriptions
      (copyLegs.trans closed.noLegs.symm) retouched.1 retouched.2 times
  · -- A longer header would move the previous hash, which the seal rules out
    obtain ⟨more, rfl⟩ := longer_header longer
    have shifted
        : block.previousHash ++ barByte :: utf8 block.timestamp ++ [barByte]
          = utf8 more ++ barByte :: (block.previousHash ++ barByte :: utf8 copy.timestamp)
            ++ [barByte] := by
      simpa using rests
    exact absurd (List.append_cancel_right shifted) (closed.unshifted more copy.timestamp)

/-- Another block with the same hashes and the same canonical bytes. -/
def Disguise (block copy : LedgerBlock) : Prop :=
  block.Retouched copy ∧ copy ≠ block ∧ copy.toCanonicalBytes = block.toCanonicalBytes

/-- Texts with the same header can be put in place of those of a block. -/
theorem disguise_header (block : LedgerBlock) (tenantId transactionId description : String)
    (differs
      : tenantId ≠ block.tenantId
        ∨ transactionId ≠ block.transactionId
        ∨ description ≠ block.description)
    (same
      : utf8 (tenantId ++ "|" ++ transactionId ++ "|" ++ description) = block.header)
    : block.Disguise { block with tenantId, transactionId, description } := by
  refine ⟨⟨rfl, rfl⟩, fun equal => ?_, ?_⟩
  · obtain ⟨_, tenants, transactions, descriptions, _⟩ := LedgerBlock.ext_iff.mp equal
    rcases differs with other | other | other
    · exact other tenants
    · exact other transactions
    · exact other descriptions
  · rw [header_text] at same
    have headers
        : ({ block with tenantId, transactionId, description } : LedgerBlock).header
          = block.header := by
      rw [header_text, header_text]
      exact same
    rw [toCanonicalBytes_eq, toCanonicalBytes_eq, headers]
    rfl

/-- A leg of the text `DEBIT` can be given the bytes of that text instead. -/
theorem disguise_leg (block : LedgerBlock) {leg : LegPayload} (stored : leg ∈ block.legsPayload)
    (debit : leg.type = .text EntryType.debit.value)
    : ∃ copy, block.Disguise copy := by
  obtain ⟨before, after, legs⟩ := List.append_of_mem stored
  refine ⟨{ block with legsPayload := before ++ { leg with type := .bytes debitBytes } :: after },
    ⟨rfl, rfl⟩, fun equal => ?_, ?_⟩
  · have payloads := congrArg LedgerBlock.legsPayload equal
    rw [legs] at payloads
    have types := congrArg LegPayload.type (List.cons.inj (List.append_cancel_left payloads)).1
    rw [debit] at types
    cases types
  · have encoded : ({ leg with type := .bytes debitBytes } : LegPayload).encode = leg.encode := by
      unfold LegPayload.encode
      rw [debit]
      rfl
    simp only [toCanonicalBytes, legs, computeCanonicalBytes, List.map_append, List.map_cons,
      encoded]

/-- A block that is not sealed has a disguise: its bars or its shift show where to cut its
bytes otherwise, and a debit leg can be given another type.
-/
theorem exists_disguise {block : LedgerBlock}
    (debited
      : block.legsPayload ≠ [] → ∃ leg ∈ block.legsPayload, leg.type = .text EntryType.debit.value)
    (opened : ¬ block.Sealed)
    : ∃ copy, block.Disguise copy := by
  by_contra none
  have noDisguise (copy : LedgerBlock) : ¬ block.Disguise copy := fun disguise => none ⟨copy, disguise⟩
  refine opened { tenant := ?_, transaction := ?_, description := ?_, noLegs := ?_, unshifted := ?_ }
  · intro bar
    -- A bar inside a text can be read as the end of its field
    obtain ⟨first, second, cut⟩ := cut_at_bar bar
    refine noDisguise _ (disguise_header block first second
      (block.transactionId ++ "|" ++ block.description) (Or.inl ?_) ?_)
    · rw [cut]
      exact (longer_text first second).symm
    · rw [header_text, cut]
      simp only [String.append_assoc]
  · intro bar
    obtain ⟨first, second, cut⟩ := cut_at_bar bar
    refine noDisguise _ (disguise_header block block.tenantId first
      (second ++ "|" ++ block.description) (Or.inr (Or.inl ?_)) ?_)
    · rw [cut]
      exact (longer_text first second).symm
    · rw [header_text, cut]
      simp only [String.append_assoc]
  · intro bar
    obtain ⟨first, second, cut⟩ := cut_at_bar bar
    refine noDisguise _ (disguise_header block (block.tenantId ++ "|" ++ block.transactionId)
      first second (Or.inl (longer_text _ _)) ?_)
    rw [header_text, cut]
    simp only [String.append_assoc]
  · by_contra some
    obtain ⟨leg, stored, debit⟩ := debited some
    exact none (disguise_leg block stored debit)
  · intro more timestamp shifted
    refine noDisguise
      { block with description := block.description ++ "|" ++ more, timestamp }
      ⟨⟨rfl, rfl⟩, fun equal => ?_, ?_⟩
    · exact longer_text _ _ (congrArg LedgerBlock.description equal)
    · have longer
          : ({ block with
                description := block.description ++ "|" ++ more, timestamp } : LedgerBlock).header
            = block.header ++ barByte :: utf8 more := by
        simp [header, bar_text]
      have shift
          : block.previousHash ++ barByte :: (utf8 block.timestamp ++ barByte :: block.legsBytes)
            = (utf8 more ++ barByte :: (block.previousHash ++ barByte :: utf8 timestamp))
              ++ barByte :: block.legsBytes := by
        rw [← shifted]
        simp
      rw [toCanonicalBytes_eq, toCanonicalBytes_eq, longer, shift]
      simp [legsBytes]

end LedgerBlock

/-- Account and type of the leg are texts without the separators of legs. -/
structure LegPayload.SeparatorFree (leg : LegPayload) : Prop where
  acctColon : ':' ∉ leg.acct.toList
  acctSemicolon : ';' ∉ leg.acct.toList
  type : ∃ value : String, leg.type = .text value ∧ ':' ∉ value.toList ∧ ';' ∉ value.toList

theorem colon_mem_utf8 (text : String) : colonByte ∈ utf8 text ↔ ':' ∈ text.toList :=
  mem_utf8 (by decide) rfl

theorem semicolon_mem_utf8 (text : String) : semicolonByte ∈ utf8 text ↔ ';' ∈ text.toList :=
  mem_utf8 (by decide) rfl

theorem LegPayload.SeparatorFree.encode_clean {leg : LegPayload} (free : leg.SeparatorFree)
    : leg.encode ≠ [] ∧ semicolonByte ∉ leg.encode := by
  obtain ⟨value, type, _, valueSemicolon⟩ := free.type
  have amount : semicolonByte ∉ decimal leg.amt :=
    not_mem_decimal (c := ';') (by decide) rfl rfl (by decide)
  have other : semicolonByte ≠ colonByte := by decide
  unfold LegPayload.encode joinLeg
  refine ⟨by simp, ?_⟩
  rw [type, typeBytes_text]
  simp [semicolon_mem_utf8, free.acctSemicolon, valueSemicolon, amount, other]

/-- Encoded legs without separators in their texts determine the legs. -/
theorem LegPayload.SeparatorFree.eq_of_encode {leg other : LegPayload}
    (free : leg.SeparatorFree) (otherFree : other.SeparatorFree)
    (same : leg.encode = other.encode)
    : leg = other := by
  obtain ⟨value, type, valueColon, _⟩ := free.type
  obtain ⟨otherValue, otherType, otherColon, _⟩ := otherFree.type
  unfold LegPayload.encode joinLeg at same
  rw [type, otherType, typeBytes_text, typeBytes_text] at same
  obtain ⟨accts, rests⟩ :=
    split_first (fun colon => free.acctColon ((colon_mem_utf8 _).mp colon))
      (fun colon => otherFree.acctColon ((colon_mem_utf8 _).mp colon)) same
  obtain ⟨types, amounts⟩ :=
    split_first (fun colon => valueColon ((colon_mem_utf8 _).mp colon))
      (fun colon => otherColon ((colon_mem_utf8 _).mp colon)) rests
  have types : leg.type = other.type := by
    rw [type, otherType, utf8_injective types]
  exact LegPayload.ext (utf8_injective accts) types (decimal_injective amounts)

/-- Equally encoded lists of such legs are equal, by induction over the legs. -/
theorem eq_of_map_encode {legs others : List LegPayload}
    (free : ∀ leg ∈ legs, leg.SeparatorFree) (othersFree : ∀ leg ∈ others, leg.SeparatorFree)
    (same : legs.map LegPayload.encode = others.map LegPayload.encode)
    : legs = others := by
  induction legs generalizing others with
  | nil => exact (List.map_eq_nil_iff.mp same.symm).symm
  | cons leg rest ih =>
      cases others with
      | nil => cases same
      | cons other otherRest =>
          obtain ⟨heads, tails⟩ := List.cons.inj same
          obtain ⟨free, freeRest⟩ := List.forall_mem_cons.mp free
          obtain ⟨otherFree, otherFreeRest⟩ := List.forall_mem_cons.mp othersFree
          rw [free.eq_of_encode otherFree heads, ih freeRest otherFreeRest tails]

/-- Joined legs without separators in their texts determine the legs. -/
theorem eq_of_joinLegs {legs others : List LegPayload}
    (free : ∀ leg ∈ legs, leg.SeparatorFree) (othersFree : ∀ leg ∈ others, leg.SeparatorFree)
    (same
      : joinLegs (legs.map LegPayload.encode) = joinLegs (others.map LegPayload.encode))
    : legs = others := by
  have clean {list : List LegPayload} (free : ∀ leg ∈ list, leg.SeparatorFree)
      : ∀ part ∈ list.map LegPayload.encode, part ≠ [] ∧ semicolonByte ∉ part := by
    intro part member
    obtain ⟨leg, inside, rfl⟩ := List.mem_map.mp member
    exact (free leg inside).encode_clean
  exact eq_of_map_encode free othersFree (join_injective (clean free) (clean othersFree) same)

/-- No text of the block contains a separator that could end it. -/
structure LedgerBlock.SeparatorFree (block : LedgerBlock) : Prop extends block.CleanHeader where
  timestamp : '|' ∉ block.timestamp.toList
  legs : ∀ leg ∈ block.legsPayload, leg.SeparatorFree

/-- Of blocks without separators in their texts, the canonical bytes determine the block. -/
theorem LedgerBlock.SeparatorFree.unique {block copy : LedgerBlock}
    (free : block.SeparatorFree) (copyFree : copy.SeparatorFree)
    (retouched : block.Retouched copy)
    (same : copy.toCanonicalBytes = block.toCanonicalBytes)
    : copy = block := by
  rw [toCanonicalBytes_eq, toCanonicalBytes_eq, retouched.1] at same
  obtain ⟨numbers, same⟩ :=
    split_first (bar_not_mem_decimal _) (bar_not_mem_decimal _) same
  have counts : copy.header.count barByte ≤ block.header.count barByte := by
    rw [free.toCleanHeader.count, copyFree.toCleanHeader.count]
  rcases cut_no_later counts same with ⟨headers, rests⟩ | ⟨between, longer, _⟩
  · obtain ⟨tenants, transactions, descriptions⟩ := free.toCleanHeader.texts_eq headers
    obtain ⟨times, legs⟩ :=
      split_first (fun bar => copyFree.timestamp ((bar_mem_utf8 _).mp bar))
        (fun bar => free.timestamp ((bar_mem_utf8 _).mp bar))
        (List.cons.inj (List.append_cancel_left rests)).2
    exact LedgerBlock.ext (decimal_injective numbers) tenants transactions descriptions
      (eq_of_joinLegs copyFree.legs free.legs legs) retouched.1 retouched.2
      (utf8_injective times)
  · have more := free.toCleanHeader.count
    rw [longer, List.count_append, List.count_cons_self, copyFree.toCleanHeader.count] at more
    omega

/-- Two neighbouring legs as one, whose account is the text of the first leg and the
account of the second.
-/
def LegPayload.merge (first : LegPayload) (firstType : String) (second : LegPayload)
    : LegPayload :=
  {
    second with
    acct :=
      first.acct ++ ":" ++ firstType ++ ":" ++ toString first.amt ++ ";" ++ second.acct
  }

/-- Two legs of an entry can be replaced by one with the same bytes. -/
theorem joinLegs_merge (before after : List LegPayload) (first second : LegPayload)
    {firstType : String} (type : first.type = .text firstType)
    : joinLegs ((before ++ first :: second :: after).map LegPayload.encode)
      = joinLegs
        ((before ++ first.merge firstType second :: after).map LegPayload.encode) := by
  have merged
      : (first.merge firstType second).encode
        = first.encode ++ semicolonByte :: second.encode := by
    have colon : utf8 ":" = [colonByte] := by decide
    have semicolon : utf8 ";" = [semicolonByte] := by decide
    simp [LegPayload.encode, joinLeg, LegPayload.merge, type, typeBytes_text, colon, semicolon,
      decimal]
  simp only [joinLegs, List.map_append, List.map_cons, merged]
  exact join_merge _ _ _ _ _

/-- The block with two neighbouring legs of it merged. -/
def LedgerBlock.mergeLegs (block : LedgerBlock) (front : List LegPayload) (first : LegPayload)
    (firstType : String) (second : LegPayload) (back : List LegPayload)
    : LedgerBlock :=
  { block with legsPayload := front ++ first.merge firstType second :: back }

theorem LedgerBlock.disguise_merge (block : LedgerBlock) {front back : List LegPayload}
    {first second : LegPayload} (legs : block.legsPayload = front ++ first :: second :: back)
    {firstType : String} (type : first.type = .text firstType)
    : block.Disguise (block.mergeLegs front first firstType second back) := by
  refine ⟨⟨rfl, rfl⟩, fun equal => ?_, ?_⟩
  · have lengths := congrArg (fun block => block.legsPayload.length) equal
    simp [LedgerBlock.mergeLegs, legs] at lengths
  · rw [toCanonicalBytes_eq, toCanonicalBytes_eq, legsBytes, legsBytes, legs,
      joinLegs_merge front back first second type]
    rfl

end PettyFlow.Ledger
