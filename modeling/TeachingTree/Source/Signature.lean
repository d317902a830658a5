/-
Types read from their written signature.

A signature such as `const std::vector<vector<int> >` is split into the number of vector
layers it starts with and the innermost element, which is then classified by its name.

Main definitions:

* `stripQualifiers` — a text with single spaces and without the qualifiers at its ends;
* `boundaryFrom`, `topLevelBoundary?` — where the text up to the first top-level `,` or `>` ends;
* `splitContainer` — the number of vector layers and the innermost element;
* `SourceType.ofName`, `SourceType.ofSignature` — the type that a name or a signature stands for.

`splitLayers` opens a layer only where the container starts the current element, so that a container
inside an allocator argument or another template is left alone.
-/

import TeachingTree.Source.Type
import TeachingTree.Text.Blank
import TeachingTree.Text.Search
import TeachingTree.Text.Word

set_option relaxedAutoImplicit false
set_option autoImplicit false

namespace TeachingTree.Signature

open Text

/-! ### Qualifiers -/

/-- The words that may stand before a type without changing it. -/
def leadingQualifiers : List (List Char) :=
  ["const".toList, "volatile".toList, "class".toList, "struct".toList, "enum".toList]

/-- The words that may stand after a type without changing it. -/
def trailingQualifiers : List (List Char) := ["const".toList, "volatile".toList]

/-- The words of a type without the qualifiers at the two ends. -/
def stripWords (ws : List (List Char)) : List (List Char) :=
  let unled := ws.dropWhile leadingQualifiers.contains
  (unled.reverse.dropWhile trailingQualifiers.contains).reverse

/-- The text with single spaces between its words and without the qualifiers at its two ends. -/
def stripQualifiers (cs : List Char) : List Char := unwords (stripWords (words cs))

/-! ### Top-level boundaries -/

/-- The number of characters before the first `,` or `>` outside all brackets, starting inside
`depth` brackets; all characters when there is none. -/
def boundaryFrom (depth : Int) : List Char → Nat
  | [] => 0
  | c :: rest =>
    if c == '<' || c == '(' || c == '[' then boundaryFrom (depth + 1) rest + 1
    else if c == ')' || c == ']' then boundaryFrom (depth - 1) rest + 1
    else if c == '>' then if depth = 0 then 0 else boundaryFrom (depth - 1) rest + 1
    else if c == ',' && depth == 0 then 0
    else boundaryFrom depth rest + 1

/-- The characters from an index on.  Indices below zero count from the end of the text, and the
whole text follows the characters there; there are none before the text. -/
def charactersFrom? (cs : List Char) (start : Int) : Option (List Char) :=
  let before := (-start).toNat
  if before = 0 then some (cs.drop start.toNat)
  else if before ≤ cs.length then some (cs.drop (cs.length - before) ++ cs)
  else none

/-- The index of the first `,` or `>` outside all brackets from `start` on, or the length of the
text when there is none. -/
def topLevelBoundary? (cs : List Char) (start : Int) : Option Int :=
  (charactersFrom? cs start).map fun rest => min start cs.length + boundaryFrom 0 rest

/-! ### Container prefixes -/

/-- Drops the word `class` and the blanks after it, if they are there. -/
def skipClass (cs : List Char) : List Char :=
  match after? "class" cs with
  | some (c :: rest) => if isBlank c then dropBlank rest else cs
  | _ => cs

/-- Drops the qualification `std::`, if it is there. -/
def skipStd (cs : List Char) : List Char := (after? "std::" cs).getD cs

/-- Drops the qualification by an inline namespace, two underscores and a word, if it is there. -/
def skipInlineNamespace (cs : List Char) : List Char :=
  match cs with
  | '_' :: '_' :: rest =>
    match rest.takeWhile isWordChar, rest.dropWhile isWordChar with
    | _ :: _, ':' :: ':' :: rest => rest
    | _, _ => cs
  | _ => cs

/-- What follows the opening bracket, if a container starts here. -/
def containerHere? (cs : List Char) : Option (List Char) :=
  match after? "vector" (skipInlineNamespace (skipStd (skipClass cs))) with
  | some rest =>
    match dropBlank rest with
    | '<' :: inner => some inner
    | _ => none
  | none => none

/-- The first container that does not start inside a word: the text before it and the text after
its opening bracket.  `inWord` says that a word character precedes the text. -/
def findContainer (inWord : Bool) : List Char → Option (List Char × List Char)
  | [] => none
  | c :: rest =>
    match if inWord then none else containerHere? (c :: rest) with
    | some inner => some ([], inner)
    | none => (findContainer (isWordChar c) rest).map fun (before, inner) => (c :: before, inner)

theorem length_dropBlank_le (cs : List Char) : (dropBlank cs).length ≤ cs.length :=
  (List.dropWhile_sublist _).length_le

theorem length_skipClass_le (cs : List Char) : (skipClass cs).length ≤ cs.length := by
  unfold skipClass
  split
  · rename_i c rest h
    split
    · have := length_after?_le h
      have := length_dropBlank_le rest
      simp only [List.length_cons] at *
      omega
    · exact Nat.le_refl _
  · exact Nat.le_refl _

theorem length_skipStd_le (cs : List Char) : (skipStd cs).length ≤ cs.length := by
  unfold skipStd
  cases h : after? "std::" cs with
  | none => simp
  | some rest => exact length_after?_le h

theorem length_skipInlineNamespace_le (cs : List Char) :
    (skipInlineNamespace cs).length ≤ cs.length := by
  unfold skipInlineNamespace
  split
  · rename_i rest
    split
    · rename_i after _ h
      have := (List.dropWhile_sublist isWordChar (l := rest)).length_le
      rw [h] at this
      simp only [List.length_cons] at *
      omega
    · exact Nat.le_refl _
  · exact Nat.le_refl _

/-- The text inside a container is shorter than the text that starts it. -/
theorem length_containerHere?_lt {cs inner : List Char} (h : containerHere? cs = some inner) :
    inner.length < cs.length := by
  unfold containerHere? at h
  split at h
  · rename_i rest hv
    split at h
    · rename_i inner' hd
      simp only [Option.some.injEq] at h
      subst h
      have h₁ := length_after?_le hv
      have h₂ := length_skipInlineNamespace_le (skipStd (skipClass cs))
      have h₃ := length_skipStd_le (skipClass cs)
      have h₄ := length_skipClass_le cs
      have h₅ := length_dropBlank_le rest
      rw [hd] at h₅
      simp only [List.length_cons] at h₅
      omega
    · simp at h
  · simp at h

/-- The text inside the first container is shorter than the whole text. -/
theorem length_findContainer_lt {inWord : Bool} {cs before inner : List Char}
    (h : findContainer inWord cs = some (before, inner)) : inner.length < cs.length := by
  induction cs generalizing inWord before with
  | nil => simp [findContainer] at h
  | cons c rest ih =>
      simp only [findContainer] at h
      split at h
      · rename_i found hf
        simp only [Option.some.injEq, Prod.mk.injEq] at h
        obtain ⟨-, rfl⟩ := h
        split at hf
        · simp at hf
        · exact length_containerHere?_lt hf
      · simp only [Option.map_eq_some_iff, Prod.mk.injEq, Prod.exists] at h
        obtain ⟨before', inner', hf, -, rfl⟩ := h
        exact Nat.lt_succ_of_lt (ih hf)

/-! ### Splitting -/

/-- Opens the containers that a text starts with, qualifiers aside: the number of layers, and the
text from the innermost element on. -/
def splitLayers (cs : List Char) : Nat × List Char :=
  match _h : findContainer false cs with
  | some (before, inner) =>
    if (stripQualifiers before).isEmpty && before.length < boundaryFrom 0 cs then
      let (depth, element) := splitLayers inner
      (depth + 1, element)
    else (0, cs)
  | none => (0, cs)
termination_by cs.length
decreasing_by exact length_findContainer_lt _h

/-- The number of vector layers of a signature, and its innermost element without qualifiers. -/
def splitContainer (cs : List Char) : Nat × List Char :=
  match splitLayers (trimBlank cs) with
  | (0, text) => (0, stripQualifiers text)
  | (depth + 1, text) => (depth + 1, stripQualifiers (text.take (boundaryFrom 0 text)))

/-! ### Names -/

/-- The names of character types. -/
def characterNames : List String :=
  ["char", "signed char", "unsigned char", "wchar_t", "char8_t", "char16_t", "char32_t"]

/-- The names of floating-point types. -/
def floatingNames : List String := ["float", "double", "long double"]

/-- The names of integer types that are one word. -/
def integerNames : List String := ["size_t", "std::size_t", "ptrdiff_t", "std::ptrdiff_t"]

/-- The words of which the other names of integer types are made. -/
def integerWords : List (List Char) :=
  ["signed".toList, "unsigned".toList, "short".toList, "long".toList, "int".toList]

/-- Whether a text starts with the name of the string type: `string` and nothing more but a final
line feed, or `basic_string` of `char`. -/
def startsString (cs : List Char) : Bool :=
  let short := match after? "string" cs with
    | some rest => rest == [] || rest == ['\n']
    | none => false
  let long := match after? "basic_string" cs with
    | some rest =>
      match dropBlank rest with
      | '<' :: rest =>
        match after? "char" (dropBlank rest) with
        | some [] => true
        | some (c :: _) => !isWordChar c
        | none => false
      | _ => false
    | none => false
  short || long

/-- Whether the name of the string type follows some `::` of the text. -/
def scopedString : List Char → Bool
  | [] => false
  | c :: rest =>
    (match c, rest with
      | ':', ':' :: name => startsString name
      | _, _ => false) || scopedString rest

/-- Whether a text names the string type, at its start or after some `::`. -/
def namesString (cs : List Char) : Bool := startsString cs || scopedString cs

/-- Whether a text is a name, possibly with scopes. -/
def isScopedName : List Char → Bool
  | [] => false
  | c :: rest => (c.isAlpha || c == '_') && rest.all fun d => isWordChar d || d == ':'

/-- The part of a name after its last `::`; `part` is what was read of it so far, in reverse. -/
def lastScopeFrom (part : List Char) : List Char → List Char
  | [] => part.reverse
  | ':' :: ':' :: rest => lastScopeFrom [] rest
  | c :: rest => lastScopeFrom (c :: part) rest

/-- The part of a name after its last `::`. -/
def lastScope (cs : List Char) : List Char := lastScopeFrom [] cs

/-! ### The type of a name or a signature -/

/-- The shape that a name without qualifiers stands for. -/
def shapeOfName (cs : List Char) : TypeShape :=
  let spelling := String.ofList cs
  if spelling == "bool" then { kind := .bool, spelling }
  else if characterNames.contains spelling then { kind := .character, spelling }
  else if floatingNames.contains spelling then { kind := .floating, spelling }
  else if spelling == "void" then { kind := .void, spelling }
  else if integerNames.contains spelling ||
      (!(words cs).isEmpty && (words cs).all integerWords.contains) then
    { kind := .integer, spelling }
  else if namesString cs then { kind := .string, spelling }
  else if isScopedName cs then
    { kind := .record, spelling, recordName := some (String.ofList (lastScope cs)) }
  else { kind := .unknown, spelling, typeClass := "Record" }

end Signature

namespace SourceType

/-- The type that a name stands for, qualifiers aside. -/
def ofName (name : String) : SourceType :=
  .plain (Signature.shapeOfName (Signature.stripQualifiers name.toList))

/-- A vector of a type, written as such. -/
def vectorOf (element : SourceType) : SourceType :=
  .containing { kind := .vector, spelling := "vector<" ++ element.spelling ++ ">" } element

/-- A type inside the given number of vectors. -/
def inVectors : Nat → SourceType → SourceType
  | 0, type => type
  | depth + 1, type => vectorOf (inVectors depth type)

/-- The type that a signature stands for. -/
def ofSignature (signature : String) : SourceType :=
  let (depth, element) := Signature.splitContainer signature.toList
  inVectors depth (ofName (String.ofList element))

end SourceType

end TeachingTree
