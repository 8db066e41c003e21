import Mathlib

/-! XML trees and the text that a tree is written to. -/

namespace Foundation

structure Attribute where
  name : String
  value : String

/-- An element with its attributes, its text and its children after the text. -/
inductive Xml where
  | element (tag : String) (attributes : List Attribute) (text : String)
    (children : List Xml)

namespace Xml

def escapeText (text : String) : String :=
  String.ofList (text.toList.flatMap (fun c =>
    match c with
    | '&' => "&amp;".toList
    | '<' => "&lt;".toList
    | '>' => "&gt;".toList
    | _ => [c]))

/-- In an attribute the quote and the line breaks are escaped as well. -/
def escapeAttribute (text : String) : String :=
  String.ofList ((escapeText text).toList.flatMap (fun c =>
    match c with
    | '"' => "&quot;".toList
    | '\r' => "&#13;".toList
    | '\n' => "&#10;".toList
    | '\t' => "&#09;".toList
    | _ => [c]))

def writeAttribute (a : Attribute) : String :=
  " " ++ a.name ++ "=\"" ++ escapeAttribute a.value ++ "\""

/-- The text of a tree; an element without content is closed at once. -/
def toText : Xml → String
  | element tag attributes text children =>
      let opening := "<" ++ tag ++ String.join (attributes.map writeAttribute)
      if text = "" ∧ children.isEmpty then
        opening ++ " />"
      else
        opening ++ ">" ++ escapeText text ++ childrenText children ++ "</" ++ tag ++ ">"
where
  childrenText : List Xml → String
    | [] => ""
    | child :: rest => toText child ++ childrenText rest

end Xml

end Foundation
