import Mathlib.Data.List.Basic

/-!
# Content of a markup document and the callbacks that report it

Content is a row of character data and elements, each element with content of its own. A push
parser reports it as callbacks; a run of character data may come in any number of chunks.
-/

namespace CrosswireNm.Library

/-- Content over names in `ν` and characters in `α`. Comments and processing instructions are left
out. -/
inductive Content (ν α : Type*)
  | nil
  | text (data : List α) (rest : Content ν α)
  | cdata (data : List α) (rest : Content ν α)
  | element (name : ν) (children rest : Content ν α)

inductive Callback (ν α : Type*)
  | start (name : ν)
  | text (chunk : List α)
  | stop (name : ν)

variable {ν α σ : Type*}

def Content.callbacks : Content ν α → List (Callback ν α)
  | .nil => []
  | .text data rest => .text data :: rest.callbacks
  | .cdata _ rest => rest.callbacks
  | .element name children rest =>
    .start name :: children.callbacks ++ .stop name :: rest.callbacks

/-- As much of it as a parser reports. -/
def Content.leafText : Content ν α → List α
  | .nil => []
  | .text data rest => data ++ rest.leafText
  | .cdata _ rest | .element _ _ rest => rest.leafText

section Paths

variable [DecidableEq ν]

def Content.childrenNamed (name : ν) : Content ν α → List (Content ν α)
  | .nil => []
  | .text _ rest | .cdata _ rest => rest.childrenNamed name
  | .element other children rest =>
    (if other = name then [children] else []) ++ rest.childrenNamed name

/-- The contents of the elements at the path, in document order. -/
def Content.at : List ν → Content ν α → List (Content ν α)
  | [], content => [content]
  | name :: path, content => (content.childrenNamed name).flatMap (Content.at path)

end Paths

end CrosswireNm.Library
