import PettyFlow.Foundation.Separators
import PettyFlow.Foundation.Xml

/-! The texts of a tree's elements, read back from the text that the tree is written to. Escapes
keep brackets out of texts and attributes, so that every bracket belongs to a tag.
-/

namespace Foundation.Xml

/-- A character that ends the name of a tag. -/
def endsName (c : Char) : Bool := c = ' ' || c = '>'

/-- A tag is cut off before its first bracket. -/
def tagName (piece : List Char) : List Char := piece.takeWhile (fun c => !endsName c)

/-- What follows a tag. -/
def afterTag (piece : List Char) : List Char := (piece.dropWhile (fun c => c ≠ '>')).tail

/-- The texts of the elements of a name, as they are written. -/
def writtenTexts (name : String) (xml : String) : List (List Char) :=
  (((xml.toList.splitOn '<').tail).filter (fun piece => tagName piece = name.toList)).map afterTag

/-- What stands in the tag of an element. -/
def opening (tag : String) (attributes : List Attribute) : List Char :=
  tag.toList ++ attributes.flatMap (fun a => (writeAttribute a).toList)

mutual

/-- What follows each opening bracket of a written tree. -/
def pieces : Xml → List (List Char)
  | element tag attributes text children =>
      if text = "" ∧ children.isEmpty then
        [opening tag attributes ++ [' ', '/', '>']]
      else
        (opening tag attributes ++ '>' :: (escapeText text).toList)
          :: (childrenPieces children ++ ['/' :: (tag.toList ++ ['>'])])

def childrenPieces : List Xml → List (List Char)
  | [] => []
  | child :: rest => pieces child ++ childrenPieces rest

end

mutual

/-- The texts of the elements of a name. -/
def textsOf (name : String) : Xml → List String
  | element tag _ text children =>
      (if tag = name then [text] else []) ++ childrenTexts name children

def childrenTexts (name : String) : List Xml → List String
  | [] => []
  | child :: rest => textsOf name child ++ childrenTexts name rest

end

/-- A name without blanks, brackets and slashes. -/
def isName (name : String) : Bool :=
  name.toList.all (fun c => c ≠ ' ' ∧ c ≠ '<' ∧ c ≠ '>' ∧ c ≠ '/')

mutual

/-- Every tag and every attribute of a tree is a name. -/
def isClean : Xml → Bool
  | element tag attributes _ children =>
      isName tag && attributes.all (fun a => isName a.name) && childrenClean children

def childrenClean : List Xml → Bool
  | [] => true
  | child :: rest => isClean child && childrenClean rest

end

section Writing

theorem toList_opening (tag : String) (attributes : List Attribute)
    : ("<" ++ tag ++ String.join (attributes.map writeAttribute)).toList
      = '<' :: opening tag attributes := by
  rw [String.toList_append, String.toList_append, String.toList_join, List.flatMap_map]
  rfl

mutual

/-- The text of a tree is made of its pieces. -/
theorem toList_toText : ∀ tree : Xml, (toText tree).toList = (pieces tree).flatMap (List.cons '<')
  | element tag attributes text children => by
      have inner := toList_childrenText children
      unfold toText pieces
      split
      · rw [String.toList_append, toList_opening]
        simp
      · simp [opening, List.flatMap_map, inner]

theorem toList_childrenText
    : ∀ children : List Xml,
        (toText.childrenText children).toList = (childrenPieces children).flatMap (List.cons '<')
  | [] => rfl
  | child :: rest => by
      rw [toText.childrenText, String.toList_append, toList_toText child, toList_childrenText rest,
        childrenPieces, List.flatMap_append]

end

end Writing

section Reading

/-- Pieces without brackets are found again between the brackets. -/
theorem tail_splitOn_pieces {pieces : List (List Char)} (clean : ∀ piece ∈ pieces, '<' ∉ piece)
    : ((pieces.flatMap (List.cons '<')).splitOn '<').tail = pieces := by
  have joined (first : List Char)
      : ['<'].intercalate (first :: pieces) = first ++ pieces.flatMap (List.cons '<') := by
    clear clean
    induction pieces generalizing first with
    | nil => simp
    | cons piece rest ih => rw [List.intercalate_cons_cons, ih]; simp
  have whole : ['<'].intercalate ([] :: pieces) = pieces.flatMap (List.cons '<') := joined []
  rw [← whole, List.splitOn_intercalate _ _ (List.cons_ne_nil _ _)]
  · rfl
  · intro piece member
    rcases List.mem_cons.mp member with rfl | later
    · exact List.not_mem_nil
    · exact clean piece later

theorem clean_of_all {text : List Char}
    (all : text.all (fun c => c ≠ '<' ∧ c ≠ '>') = true) {c : Char} (member : c ∈ text)
    : c ≠ '<' ∧ c ≠ '>' :=
  of_decide_eq_true (List.all_eq_true.mp all c member)

theorem escapeText_clean {text : String} {c : Char} (member : c ∈ (escapeText text).toList)
    : c ≠ '<' ∧ c ≠ '>' := by
  rw [escapeText, String.toList_ofList] at member
  obtain ⟨source, _, written⟩ := List.mem_flatMap.mp member
  split at written
  · exact clean_of_all (by decide) written
  · exact clean_of_all (by decide) written
  · exact clean_of_all (by decide) written
  · rename_i noAmpersand noLess noGreater
    obtain rfl := List.mem_singleton.mp written
    exact ⟨noLess, noGreater⟩

/-- A text without the escaped marks is written as it is. -/
theorem escapeText_eq_self {text : String}
    (plain : ∀ c ∈ text.toList, c ≠ '&' ∧ c ≠ '<' ∧ c ≠ '>')
    : escapeText text = text := by
  apply String.toList_injective
  rw [escapeText, String.toList_ofList]
  conv_rhs => rw [← List.map_id text.toList]
  rw [List.map_eq_flatMap]
  refine List.flatMap_congr (fun c member => ?_)
  obtain ⟨noAmpersand, noLess, noGreater⟩ := plain c member
  split
  · exact absurd rfl noAmpersand
  · exact absurd rfl noLess
  · exact absurd rfl noGreater
  · rfl

theorem escapeAttribute_clean {text : String} {c : Char}
    (member : c ∈ (escapeAttribute text).toList)
    : c ≠ '<' ∧ c ≠ '>' := by
  rw [escapeAttribute, String.toList_ofList] at member
  obtain ⟨source, escaped, written⟩ := List.mem_flatMap.mp member
  split at written
  · exact clean_of_all (by decide) written
  · exact clean_of_all (by decide) written
  · exact clean_of_all (by decide) written
  · exact clean_of_all (by decide) written
  · obtain rfl := List.mem_singleton.mp written
    exact escapeText_clean escaped

theorem isName_clean {name : String} (named : isName name = true) {c : Char}
    (member : c ∈ name.toList)
    : c ≠ ' ' ∧ c ≠ '<' ∧ c ≠ '>' ∧ c ≠ '/' :=
  of_decide_eq_true (List.all_eq_true.mp named c member)

theorem writeAttribute_clean {a : Attribute} (named : isName a.name = true) {c : Char}
    (member : c ∈ (writeAttribute a).toList)
    : c ≠ '<' ∧ c ≠ '>' := by
  simp only [writeAttribute, String.toList_append, List.mem_append] at member
  rcases member with (((blank | name) | equals) | value) | quote
  · exact clean_of_all (by decide) blank
  · have clean := isName_clean named name
    exact ⟨clean.2.1, clean.2.2.1⟩
  · exact clean_of_all (by decide) equals
  · exact escapeAttribute_clean value
  · exact clean_of_all (by decide) quote

variable {tag name : String} {attributes : List Attribute}

theorem opening_clean (named : isName tag = true)
    (listed : attributes.all (fun a => isName a.name) = true) {c : Char}
    (member : c ∈ opening tag attributes)
    : c ≠ '<' ∧ c ≠ '>' := by
  rcases List.mem_append.mp member with inTag | inAttributes
  · have clean := isName_clean named inTag
    exact ⟨clean.2.1, clean.2.2.1⟩
  · obtain ⟨a, present, written⟩ := List.mem_flatMap.mp inAttributes
    exact writeAttribute_clean (List.all_eq_true.mp listed a present) written

/-- The name of a tag ends where its attributes or its end begin. -/
theorem tagName_opening (named : isName tag = true) (attributes : List Attribute)
    {mark : Char} (ends : endsName mark = true) (rest : List Char)
    : tagName (opening tag attributes ++ mark :: rest) = tag.toList := by
  have inside (c : Char) (member : c ∈ tag.toList) : (!endsName c) = true := by
    have clean := isName_clean named member
    simp [endsName, clean.1, clean.2.2.1]
  rw [tagName, opening, List.append_assoc, List.takeWhile_append_of_pos inside]
  cases attributes with
  | nil => simp [ends]
  | cons a others =>
      have blank : (writeAttribute a).toList = ' ' :: (writeAttribute a).toList.tail := by
        simp [writeAttribute]
      rw [List.flatMap_cons, blank]
      simp [endsName]

/-- What follows a tag is read from its first closing bracket on. -/
theorem afterTag_append {tag : List Char} (clean : ∀ c ∈ tag, c ≠ '>') (rest : List Char)
    : afterTag (tag ++ '>' :: rest) = rest := by
  rw [afterTag, List.dropWhile_append_of_pos (fun c member => decide_eq_true (clean c member))]
  simp

mutual

/-- No piece of a clean tree holds an opening bracket. -/
theorem pieces_clean
    : ∀ tree : Xml, isClean tree = true → ∀ piece ∈ pieces tree, '<' ∉ piece
  | element tag attributes text children => by
      intro clean piece member
      obtain ⟨⟨named, listed⟩, children_clean⟩ := by
        simpa only [isClean, Bool.and_eq_true] using clean
      have tag_clean : '<' ∉ opening tag attributes :=
        fun bracket => (opening_clean named listed bracket).1 rfl
      unfold pieces at member
      split at member
      · obtain rfl := List.mem_singleton.mp member
        simp [tag_clean]
      · rcases List.mem_cons.mp member with rfl | later
        · have text_clean : '<' ∉ (escapeText text).toList :=
            fun bracket => (escapeText_clean bracket).1 rfl
          simp [tag_clean, text_clean]
        · rcases List.mem_append.mp later with inner | closing
          · exact childrenPieces_clean children children_clean piece inner
          · obtain rfl := List.mem_singleton.mp closing
            have name_clean : '<' ∉ tag.toList :=
              fun bracket => (isName_clean named bracket).2.1 rfl
            simp [name_clean]

theorem childrenPieces_clean
    : ∀ children : List Xml,
        childrenClean children = true → ∀ piece ∈ childrenPieces children, '<' ∉ piece
  | [] => nofun
  | child :: rest => by
      intro clean piece member
      obtain ⟨first, later⟩ := Bool.and_eq_true_iff.mp clean
      rcases List.mem_append.mp member with own | other
      · exact pieces_clean child first piece own
      · exact childrenPieces_clean rest later piece other

end

/-- The texts that are read from some pieces. -/
def readTexts (name : String) (pieces : List (List Char)) : List (List Char) :=
  (pieces.filter (fun piece => tagName piece = name.toList)).map afterTag

theorem readTexts_append (name : String) (pieces others : List (List Char))
    : readTexts name (pieces ++ others) = readTexts name pieces ++ readTexts name others := by
  rw [readTexts, List.filter_append, List.map_append]
  rfl

theorem readTexts_singleton (name : String) (piece : List Char)
    : readTexts name [piece] = if tagName piece = name.toList then [afterTag piece] else [] := by
  unfold readTexts
  by_cases same : tagName piece = name.toList <;> simp [same]

/-- A closing tag is no element of any name. -/
theorem readTexts_closing (named : isName name = true) (tag : String)
    : readTexts name ['/' :: (tag.toList ++ ['>'])] = [] := by
  rw [readTexts_singleton, if_neg]
  intro same
  have slash : '/' ∈ name.toList := by
    rw [← same]
    simp [tagName, endsName]
  exact (isName_clean named slash).2.2.2 rfl

mutual

/-- The texts of a name are read from the pieces of a clean tree. -/
theorem readTexts_pieces (named : isName name = true)
    : ∀ tree : Xml,
        isClean tree = true
        → readTexts name (pieces tree)
          = (textsOf name tree).map (fun text => (escapeText text).toList)
  | element tag attributes text children => by
      intro clean
      obtain ⟨⟨tagged, listed⟩, children_clean⟩ := by
        simpa only [isClean, Bool.and_eq_true] using clean
      have inner := readTexts_childrenPieces named children children_clean
      have noGreater (c : Char) (member : c ∈ opening tag attributes) : c ≠ '>' :=
        (opening_clean tagged listed member).2
      have same : tag.toList = name.toList ↔ tag = name := String.toList_inj
      unfold pieces textsOf
      split
      · -- A tag that is closed at once stands for an empty text
        rename_i empty
        obtain ⟨rfl, none⟩ := empty
        obtain rfl := List.isEmpty_iff.mp none
        have after : afterTag (opening tag attributes ++ [' ', '/', '>']) = [] := by
          have noGreater' (c : Char) (member : c ∈ opening tag attributes ++ [' ', '/'])
              : c ≠ '>' := by
            rcases List.mem_append.mp member with inTag | mark
            · exact noGreater c inTag
            · rintro rfl
              simp at mark
          simpa using afterTag_append noGreater' []
        rw [readTexts_singleton, tagName_opening tagged attributes rfl, after]
        by_cases own : tag = name <;> simp [same, own, childrenTexts, escapeText]
      · rw [← List.singleton_append, readTexts_append, readTexts_append, readTexts_closing named,
          inner, List.append_nil, readTexts_singleton, tagName_opening tagged attributes rfl,
          afterTag_append noGreater]
        by_cases own : tag = name <;> simp [same, own]

theorem readTexts_childrenPieces (named : isName name = true)
    : ∀ children : List Xml,
        childrenClean children = true
        → readTexts name (childrenPieces children)
          = (childrenTexts name children).map (fun text => (escapeText text).toList)
  | [] => fun _ => rfl
  | child :: rest => by
      intro clean
      obtain ⟨first, later⟩ := Bool.and_eq_true_iff.mp clean
      rw [childrenPieces, childrenTexts, readTexts_append, List.map_append,
        readTexts_pieces named child first, readTexts_childrenPieces named rest later]

end

/-- What is written for the elements of a name is read back. -/
theorem writtenTexts_toText (named : isName name = true) {tree : Xml}
    (clean : isClean tree = true)
    : writtenTexts name (toText tree)
      = (textsOf name tree).map (fun text => (escapeText text).toList) := by
  rw [writtenTexts, toList_toText, tail_splitOn_pieces (pieces_clean tree clean)]
  exact readTexts_pieces named tree clean

end Reading

end Foundation.Xml
