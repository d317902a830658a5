/-
**A tree can be recovered from its JSON value.**

Objects carry no name of their class.  Some classes are told by their type, some have no type, and
the type of an operator, of a literal or of a message is no name of a class at all.  Which node an
object stands for is seen from its keys; the type decides only between the two kinds of leaves with
a value, and between an operator with one operand and the end of a function.  So trees are
recovered, if no literal is called an identifier and no operator a return.

A number that is no integer is known by its text only.  It is recovered as far as texts of numbers
are read back.

Main definitions:

* `Schema.Parts` — the members of an object, and what their values stand for;
* `Schema.ofDatum?` — the tree that a value stands for;
* `Schema.mapNumbers` — a tree with other numbers in its literals;
* `Schema.IsDistinct` — nodes that are told from all others;
* `Schema.SameText` — trees that differ at most in numbers with the same text.

Main results:

* `Schema.All.isRecovered` — **trees of such nodes are recovered** from their JSON value;
* `Schema.exists_ofDocumentDatum?` — programs are recovered, too.
-/

import TeachingTree.Proofs.Schema.Text

set_option relaxedAutoImplicit false
set_option autoImplicit false

namespace TeachingTree

open JsonText (Datum datum)
open Text (CodePoint)

/-! ### The same value -/

/-- Values that are the same, where the members of an object have no order. -/
inductive JsonText.Datum.Same : Datum → Datum → Prop where
  | refl (value : Datum) : Same value value
  | cons {item item' : Datum} {items items' : List Datum} :
      Same item item' → Same (.array items) (.array items') →
      Same (.array (item :: items)) (.array (item' :: items'))
  | object {members members' : List (List CodePoint × Datum)} :
      (∀ key, (members.lookup key).isSome = (members'.lookup key).isSome) →
      (∀ key value value', members.lookup key = some value → members'.lookup key = some value' →
        Same value value') →
      Same (.object members) (.object members')

namespace Schema

/-! ### Members of objects -/

/-- What the value of a member stands for: the value of a literal, or what stands in a place. -/
structure Part where
  /-- The value of a literal. -/
  constant : Option Constant
  /-- What stands in a place. -/
  place : Option Schema

/-- The members of an object by their keys. -/
abbrev Parts := String → Option Part

namespace Parts

variable (parts : Parts) (key : String)

/-- The value of a literal under a key. -/
def constant? : Option Constant := (parts key).bind Part.constant

/-- The integer under a key. -/
def integer? : Option Int :=
  match parts.constant? key with
  | some (.integer n) => some n
  | _ => none

/-- The truth value under a key. -/
def bool? : Option Bool :=
  match parts.constant? key with
  | some (.bool b) => some b
  | _ => none

/-- The text under a key. -/
def text? : Option String :=
  match parts.constant? key with
  | some (.text points) => CodePoint.string? points
  | _ => none

/-- What stands in the place of a key. -/
def place? : Option Schema := (parts key).bind Part.place

/-- What stands in the place of a key that may be left out. -/
def placeOrAbsent? : Option Schema := if (parts key).isSome then parts.place? key else some .absent

/-- The nodes in the list of a key. -/
def nodes? : Option (List Schema) :=
  match parts.place? key with
  | some (.group items) => some items
  | _ => none

/-- The position of a node. -/
def position? : Option Position := do
  return ⟨← parts.integer? "line", ← parts.integer? "column"⟩

end Parts

/-! ### The node of an object -/

/-- A node with a value. -/
def leafOfParts? (parts : Parts) (id : Int) (position : Position) : Option Schema := do
  let kind ← parts.text? "type"
  if (parts "description").isSome then
    return .message id position kind (← parts.text? "value") (← parts.text? "description")
  else if kind = "identifier" then return .identifier id position (← parts.text? "value")
  else return .literal id position kind (← parts.constant? "value")

/-- A declaration. -/
def declarationOfParts? (parts : Parts) (id : Int) (position : Position) : Option Schema := do
  let name ← parts.text? "name"
  if (parts "return-type").isSome then
    return .function id position name (← parts.place? "return-type") (← parts.nodes? "parameters")
      (← parts.place? "block")
  else if (parts "attributes").isSome then
    return .struct id position name (← parts.nodes? "attributes")
  else if (parts "is-const").isSome then
    return .var id position name (← parts.place? "data-type") (← parts.bool? "is-reference")
      (← parts.bool? "is-const") (← parts.placeOrAbsent? "init") (parts "type").isNone
  else return .field id position name (← parts.place? "data-type")

/-- A node that has a position. -/
def placedOfParts? (parts : Parts) (id : Int) (position : Position) : Option Schema := do
  if (parts "value").isSome then leafOfParts? parts id position
  else if (parts "expression").isSome then
    let opcode ← parts.text? "type"
    let expression ← parts.place? "expression"
    return if opcode = "return" then .returned id position expression
      else .unary id position opcode expression
  else if (parts "left").isSome then
    return .binary id position (← parts.text? "type") (← parts.place? "left")
      (← parts.place? "right")
  else if (parts "arguments").isSome then
    return .call id position (← parts.text? "name") (← parts.nodes? "arguments")
  else if (parts "then").isSome then
    return .conditional id position (← parts.place? "condition") (← parts.place? "then")
      (← parts.placeOrAbsent? "else")
  else if (parts "post").isSome then
    return .forLoop id position (← parts.place? "init") (← parts.place? "condition")
      (← parts.place? "post") (← parts.place? "block")
  else if (parts "condition").isSome then
    return .whileLoop id position (← parts.place? "condition") (← parts.place? "block")
  else declarationOfParts? parts id position

/-- The node of an object. -/
def ofParts? (parts : Parts) : Option Schema := do
  let id ← parts.integer? "id"
  if (parts "line").isSome then placedOfParts? parts id (← parts.position?)
  else if (parts "statements").isSome then return .block id (← parts.nodes? "statements")
  else return .type id (← parts.text? "name") (← parts.placeOrAbsent? "data-type")

/-- The value of a literal, as texts of numbers are read. -/
def constantOfDatum? (read : String → Binary64) : Datum → Option Constant
  | .bool b => some (.bool b)
  | .integer n => some (.integer n)
  | .number text => some (.floating (read text))
  | .text points => some (.text points)
  | _ => none

mutual

/-- What a value stands for in a place, as texts of numbers are read: lists stand for groups. -/
def ofDatum? (read : String → Binary64) : Datum → Option Schema
  | .null => some .absent
  | .array items => (ofItems? read items).map .group
  | .object members => ofParts? fun key => (partsOf read members).lookup (CodePoint.ofString key)
  | _ => none

/-- What values stand for in a list. -/
def ofItems? (read : String → Binary64) : List Datum → Option (List Schema)
  | [] => some []
  | item :: items => do
    let node ← ofDatum? read item
    let nodes ← ofItems? read items
    return node :: nodes

/-- What the values of members stand for. -/
def partsOf (read : String → Binary64) :
    List (List CodePoint × Datum) → List (List CodePoint × Part)
  | [] => []
  | (key, value) :: members =>
    (key, ⟨constantOfDatum? read value, ofDatum? read value⟩) :: partsOf read members

end

/-! ### Other numbers -/

/-- The value with another number, if it is a number that is no integer. -/
def mapNumber (f : Binary64 → Binary64) : Constant → Constant
  | .floating x => .floating (f x)
  | value => value

mutual

/-- The tree with other numbers in its literals. -/
def mapNumbers (f : Binary64 → Binary64) : Schema → Schema
  | .absent => .absent
  | .group items => .group (mapNumbersAll f items)
  | .foreign className => .foreign className
  | .type id name dataType => .type id name (mapNumbers f dataType)
  | .literal id position kind value => .literal id position kind (mapNumber f value)
  | .identifier id position name => .identifier id position name
  | .message id position kind tag description => .message id position kind tag description
  | .unary id position opcode expression => .unary id position opcode (mapNumbers f expression)
  | .binary id position opcode left right =>
    .binary id position opcode (mapNumbers f left) (mapNumbers f right)
  | .call id position name arguments => .call id position name (mapNumbersAll f arguments)
  | .block id statements => .block id (mapNumbersAll f statements)
  | .conditional id position condition thenBlock elseBlock =>
    .conditional id position (mapNumbers f condition) (mapNumbers f thenBlock)
      (mapNumbers f elseBlock)
  | .whileLoop id position condition body =>
    .whileLoop id position (mapNumbers f condition) (mapNumbers f body)
  | .forLoop id position init condition post body =>
    .forLoop id position (mapNumbers f init) (mapNumbers f condition) (mapNumbers f post)
      (mapNumbers f body)
  | .returned id position expression => .returned id position (mapNumbers f expression)
  | .var id position name dataType isReference isConst init isParameter =>
    .var id position name (mapNumbers f dataType) isReference isConst (mapNumbers f init)
      isParameter
  | .field id position name dataType => .field id position name (mapNumbers f dataType)
  | .function id position name returnType parameters body =>
    .function id position name (mapNumbers f returnType) (mapNumbersAll f parameters)
      (mapNumbers f body)
  | .struct id position name attributes =>
    .struct id position name (mapNumbersAll f attributes)
  | .document id statements => .document id (mapNumbersAll f statements)

/-- The trees with other numbers in their literals. -/
def mapNumbersAll (f : Binary64 → Binary64) : List Schema → List Schema
  | [] => []
  | tree :: trees => mapNumbers f tree :: mapNumbersAll f trees

end

/-! ### Recovery -/

/-- A member is found under its key. -/
theorem lookup_ofString_cons {α : Type} (key other : String) (part : α)
    (parts : List (List CodePoint × α)) :
    ((CodePoint.ofString other, part) :: parts).lookup (CodePoint.ofString key) =
      if other = key then some part else parts.lookup (CodePoint.ofString key) := by
  by_cases h : other = key
  · simp [h]
  · have hne : CodePoint.ofString key ≠ CodePoint.ofString other := fun heq =>
      h (JsonText.ofString_injective heq).symm
    rw [List.lookup_cons, beq_false_of_ne hne, if_neg h]

/-- A mark on nodes that are not told from all others: literals that are called identifiers,
operators that are called returns, and whole programs, which stand below no other node. -/
def obscure? : Schema → Option Unit
  | .literal _ _ kind _ => if kind = "identifier" then some () else none
  | .unary _ _ opcode _ => if opcode = "return" then some () else none
  | .document .. => some ()
  | _ => none

/-- Nodes that are told from all others, with values of literals that are recovered. -/
def IsDistinct (node : Schema) : Prop := node.IsNode (·.isScalar = true) ∧ node.obscure? = none

/-- A place has a JSON value from which it is recovered, except that its numbers are as their texts
are read. -/
def IsRecovered (place : Schema) : Prop :=
  ∃ value, place.toJson = .ok value ∧ ∀ read,
    ofDatum? read (datum value) = some (place.mapNumbers (read ∘ NumberStyle.document.text))

section Recovery

theorem exists_ofItems? {nodes : List Schema} (h : ∀ node ∈ nodes, node.IsRecovered) :
    ∃ values, toJsonList nodes = .ok values ∧ ∀ read,
      ofItems? read (JsonText.dataOfItems values) =
        some (mapNumbersAll (read ∘ NumberStyle.document.text) nodes) := by
  induction nodes with
  | nil => exact ⟨[], rfl, fun _ => rfl⟩
  | cons node nodes ih =>
      obtain ⟨value, hvalue, hnode⟩ := h node (List.mem_cons_self ..)
      obtain ⟨values, hvalues, hnodes⟩ :=
        ih fun other hother => h other (List.mem_cons_of_mem _ hother)
      refine ⟨value :: values, by rw [toJsonList, hvalue, hvalues]; rfl, fun read => ?_⟩
      rw [JsonText.dataOfItems, ofItems?, hnode, hnodes]
      rfl

theorem isAbsent_mapNumbers (f : Binary64 → Binary64) (place : Schema) (h : place.isAbsent = true) :
    place.mapNumbers f = .absent := by
  cases place <;> first | rfl | simp [isAbsent] at h

/-- Code points that are all characters are those of the characters. -/
theorem map_char_of_mapM_char? {points : List CodePoint} {cs : List Char}
    (h : points.mapM CodePoint.char? = some cs) : cs.map CodePoint.char = points := by
  induction points generalizing cs with
  | nil =>
      rw [List.mapM_nil] at h
      obtain rfl := Option.some.inj h
      rfl
  | cons point points ih =>
      rw [List.mapM_cons] at h
      obtain ⟨c, hc, h⟩ := Option.bind_eq_some_iff.1 h
      obtain ⟨rest, hrest, h⟩ := Option.bind_eq_some_iff.1 h
      obtain rfl := Option.some.inj h
      cases point with
      | char d =>
          obtain rfl := Option.some.inj hc
          rw [List.map_cons, ih hrest]
      | leading | trailing => cases hc

/-- A text is known by its code points, be they characters or not. -/
theorem datum_ofPoints (points : List CodePoint) : datum (Json.ofPoints points) = .text points := by
  rw [Json.ofPoints]
  cases h : CodePoint.string? points with
  | none => rfl
  | some s =>
      obtain ⟨cs, hcs, rfl⟩ := Option.map_eq_some_iff.1 h
      refine congrArg Datum.text ?_
      rw [CodePoint.ofString, String.toList_ofList, map_char_of_mapM_char? hcs]

attribute [local simp] typed placed datum JsonText.dataOfMembers partsOf ofDatum? ofParts?
  constantOfDatum? placedOfParts? leafOfParts? declarationOfParts? Parts.integer? Parts.bool?
  Parts.text? Parts.constant? Parts.place? Parts.placeOrAbsent? Parts.nodes? Parts.position?
  lookup_ofString_cons mapNumbers optionalMember

theorem isRecovered_literal {id : Int} {position : Position} {kind : String} {value : Constant}
    (hscalar : value.isScalar = true) (hkind : kind ≠ "identifier") :
    (Schema.literal id position kind value).IsRecovered := by
  refine ⟨_, rfl, fun read => ?_⟩
  cases value with
  | bool b => simp [Constant.toJson, hkind, mapNumber]
  | integer n => simp [Constant.toJson, hkind, mapNumber]
  | floating x => simp [Constant.toJson, hkind, mapNumber]
  | text points => simp [Constant.toJson, hkind, mapNumber, datum_ofPoints]
  | _ => simp [Constant.isScalar] at hscalar

/-- **Trees of nodes that are told from each other are recovered** from their JSON value. -/
theorem All.isRecovered {tree : Schema} (h : tree.All IsDistinct) : tree.IsRecovered := by
  induction h with
  | absent => exact ⟨.null, rfl, fun _ => rfl⟩
  | group _ ih =>
      obtain ⟨values, hvalues, hitems⟩ := exists_ofItems? ih
      exact ⟨.array values, by rw [toJson, hvalues]; rfl, fun read => by simp [hitems]⟩
  | foreign h => exact h.1.elim
  | @type id name dataType _ _ ih =>
      obtain ⟨t, ht, htype⟩ := ih
      refine ⟨_, by rw [toJson, ht]; rfl, fun read => ?_⟩
      cases habsent : dataType.isAbsent with
      | true => simp [habsent, isAbsent_mapNumbers]
      | false => simp [habsent, htype]
  | literal h => exact isRecovered_literal h.1 (by simpa [obscure?] using h.2)
  | identifier => exact ⟨_, rfl, fun read => by simp⟩
  | message => exact ⟨_, rfl, fun read => by simp⟩
  | @unary id position opcode expression h _ ih =>
      obtain ⟨x, hx, hexpression⟩ := ih
      have hopcode : opcode ≠ "return" := by simpa [obscure?] using h.2
      exact ⟨_, by rw [toJson, hx]; rfl, fun read => by simp [hexpression, hopcode]⟩
  | binary _ _ _ ihl ihr =>
      obtain ⟨l, hl, hleft⟩ := ihl
      obtain ⟨r, hr, hright⟩ := ihr
      exact ⟨_, by rw [toJson, hl, hr]; rfl, fun read => by simp [hleft, hright]⟩
  | call _ _ ih =>
      obtain ⟨xs, hxs, harguments⟩ := exists_ofItems? ih
      exact ⟨_, by rw [toJson, hxs]; rfl, fun read => by simp [harguments]⟩
  | block _ _ ih =>
      obtain ⟨xs, hxs, hstatements⟩ := exists_ofItems? ih
      exact ⟨_, by rw [toJson, hxs]; rfl, fun read => by simp [hstatements]⟩
  | @conditional id position condition thenBlock elseBlock _ _ _ _ ihc iht ihe =>
      obtain ⟨c, hc, hcondition⟩ := ihc
      obtain ⟨t, ht, hthen⟩ := iht
      obtain ⟨e, he, helse⟩ := ihe
      refine ⟨_, by rw [toJson, hc, ht, he]; rfl, fun read => ?_⟩
      cases habsent : elseBlock.isAbsent with
      | true => simp [habsent, hcondition, hthen, isAbsent_mapNumbers]
      | false => simp [habsent, hcondition, hthen, helse]
  | whileLoop _ _ _ ihc ihb =>
      obtain ⟨c, hc, hcondition⟩ := ihc
      obtain ⟨b, hb, hbody⟩ := ihb
      exact ⟨_, by rw [toJson, hc, hb]; rfl, fun read => by simp [hcondition, hbody]⟩
  | forLoop _ _ _ _ _ ihi ihc ihp ihb =>
      obtain ⟨i, hi, hinit⟩ := ihi
      obtain ⟨c, hc, hcondition⟩ := ihc
      obtain ⟨p, hp, hpost⟩ := ihp
      obtain ⟨b, hb, hbody⟩ := ihb
      exact ⟨_, by rw [toJson, hi, hc, hp, hb]; rfl,
        fun read => by simp [hinit, hcondition, hpost, hbody]⟩
  | returned _ _ ih =>
      obtain ⟨x, hx, hexpression⟩ := ih
      exact ⟨_, by rw [toJson, hx]; rfl, fun read => by simp [hexpression]⟩
  | @var id position name dataType init isReference isConst isParameter _ _ _ iht ihi =>
      obtain ⟨t, ht, htype⟩ := iht
      obtain ⟨i, hi, hinit⟩ := ihi
      refine ⟨_, by rw [toJson, ht, hi]; rfl, fun read => ?_⟩
      cases habsent : init.isAbsent with
      | true => cases isParameter <;> simp [habsent, htype, isAbsent_mapNumbers]
      | false => cases isParameter <;> simp [habsent, htype, hinit]
  | field _ _ ih =>
      obtain ⟨t, ht, htype⟩ := ih
      exact ⟨_, by rw [toJson, ht]; rfl, fun read => by simp [htype]⟩
  | function _ _ _ _ iht ihp ihb =>
      obtain ⟨t, ht, htype⟩ := iht
      obtain ⟨ps, hps, hparameters⟩ := exists_ofItems? ihp
      obtain ⟨b, hb, hbody⟩ := ihb
      exact ⟨_, by rw [toJson, ht, hps, hb]; rfl, fun read => by simp [htype, hparameters, hbody]⟩
  | struct _ _ ih =>
      obtain ⟨xs, hxs, hattributes⟩ := exists_ofItems? ih
      exact ⟨_, by rw [toJson, hxs]; rfl, fun read => by simp [hattributes]⟩
  | document h => exact absurd h.2 (by simp [obscure?])

/-! ### Recovery from the same value -/

theorem lookup_partsOf (read : String → Binary64) (members : List (List CodePoint × Datum))
    (key : List CodePoint) :
    (partsOf read members).lookup key = (members.lookup key).map fun value =>
      ⟨constantOfDatum? read value, ofDatum? read value⟩ := by
  induction members with
  | nil => rfl
  | cons member members ih =>
      obtain ⟨other, value⟩ := member
      rw [partsOf, List.lookup_cons, List.lookup_cons, ih]
      cases key == other <;> rfl

/-- What is recovered does not depend on the order of members. -/
theorem ofDatum?_of_same (read : String → Binary64) {value value' : Datum} (h : value.Same value') :
    constantOfDatum? read value = constantOfDatum? read value' ∧
      ofDatum? read value = ofDatum? read value' := by
  induction h with
  | refl => exact ⟨rfl, rfl⟩
  | cons _ _ ihitem ihitems =>
      have hitems := Option.map_injective (fun _ _ => Schema.group.inj) ihitems.2
      exact ⟨rfl, by rw [ofDatum?, ofDatum?, ofItems?, ofItems?, ihitem.2, hitems]⟩
  | @object members members' hkeys _ ih =>
      refine ⟨rfl, congrArg ofParts? (funext fun key => ?_)⟩
      rw [lookup_partsOf, lookup_partsOf]
      have hkey := hkeys (CodePoint.ofString key)
      cases hvalue : members.lookup (CodePoint.ofString key) with
      | none =>
          cases hvalue' : members'.lookup (CodePoint.ofString key) with
          | none => rfl
          | some value' => simp [hvalue, hvalue'] at hkey
      | some value =>
          cases hvalue' : members'.lookup (CodePoint.ofString key) with
          | none => simp [hvalue, hvalue'] at hkey
          | some value' =>
              obtain ⟨hconstant, hplace⟩ := ih _ value value' hvalue hvalue'
              rw [Option.map_some, Option.map_some, hconstant, hplace]

/-! ### Programs -/

/-- The program that a value stands for: an object of statements that stands alone is a program, not
a block. -/
def ofDocumentDatum? (read : String → Binary64) (value : Datum) : Option Schema :=
  match ofDatum? read value with
  | some (.block id statements) => some (.document id statements)
  | _ => none

/-- Trees that differ at most in numbers with the same text: they are equal if numbers are replaced
by what their texts are read as, however that is. -/
def SameText (tree other : Schema) : Prop :=
  ∀ read : String → Binary64, tree.mapNumbers (read ∘ NumberStyle.document.text) =
    other.mapNumbers (read ∘ NumberStyle.document.text)

/-- **A program is recovered** if the nodes below it are told from each other. -/
theorem exists_ofDocumentDatum? {id : Int} {statements : List Schema}
    (h : ∀ node ∈ statements, node.All IsDistinct) :
    ∃ value, (document id statements).toJson = .ok value ∧ ∀ read,
      ofDocumentDatum? read (datum value) =
        some ((document id statements).mapNumbers (read ∘ NumberStyle.document.text)) := by
  have hblock : (block id statements).All IsDistinct := .block ⟨trivial, rfl⟩ h
  obtain ⟨value, hvalue, hdatum⟩ := hblock.isRecovered
  -- the object of a program is that of a block
  have hsame : (document id statements).toJson = (block id statements).toJson := rfl
  refine ⟨value, hsame.trans hvalue, fun read => ?_⟩
  rw [ofDocumentDatum?, hdatum]
  rfl

/-- Programs with the same value are recovered alike. -/
theorem ofDocumentDatum?_of_same (read : String → Binary64) {value value' : Datum}
    (h : value.Same value') : ofDocumentDatum? read value = ofDocumentDatum? read value' := by
  rw [ofDocumentDatum?, ofDocumentDatum?, (ofDatum?_of_same read h).2]

end Recovery

end Schema

end TeachingTree
