/-
**The JSON form of trees of the grammar.**

A tree of the grammar has a JSON value, since nothing in it is outside the schema.  That value may
still have no text: an integer may be too long to be written, and the value of a literal may have
no JSON form.  The theorems say that there is no other reason.

* `Json.FaultsIn` — a JSON value fails to be written only for reasons of a given sort;
* `Schema.Conforms.serializes` — **nodes of the grammar have a JSON value**, and what keeps it
  from being written is an integer or the value of a literal;
* `Schema.Fits.documentText_isTypeError` — if literals have scalar values, writing a tree of the
  grammar never meets a value of the wrong type.
-/

import TeachingTree.Proofs.Schema.Grammar
import TeachingTree.Schema.Document

set_option relaxedAutoImplicit false
set_option autoImplicit false

namespace TeachingTree

/-! ### Faults of JSON values -/

namespace Json

/-- Whether the reason is a value of a type that has no JSON form. -/
def TextError.isTypeError : TextError → Bool
  | .unsupported _ => true
  | .unsupportedKey _ => true
  | _ => false

/-- If a value is not written, whatever the indentation, then for one of the given reasons. -/
def FaultsIn (reason : TextError → Prop) (value : Json) : Prop :=
  ∀ e, value.fault? = some e → reason e

variable {reason : TextError → Prop}

theorem faultsIn_of_mem_faultOfItems {items : List Json} (h : ∀ item ∈ items, item.FaultsIn reason)
    {e : TextError} (he : faultOfItems? items = some e) : reason e := by
  induction items with
  | nil => simp [faultOfItems?] at he
  | cons item items ih =>
      rw [faultOfItems?, Option.or_eq_some_iff] at he
      rcases he with he | ⟨-, he⟩
      · exact h item (List.mem_cons_self ..) e he
      · exact ih (fun other hother => h other (List.mem_cons_of_mem _ hother)) he

theorem faultsIn_of_mem_faultOfMembers {members : List (String × Json)}
    (h : ∀ member ∈ members, member.2.FaultsIn reason) {e : TextError}
    (he : faultOfMembers? members = some e) : reason e := by
  induction members with
  | nil => simp [faultOfMembers?] at he
  | cons member members ih =>
      rw [faultOfMembers?, Option.or_eq_some_iff] at he
      rcases he with he | ⟨-, he⟩
      · exact h member (List.mem_cons_self ..) e he
      · exact ih (fun other hother => h other (List.mem_cons_of_mem _ hother)) he

theorem FaultsIn.array {items : List Json} (h : ∀ item ∈ items, item.FaultsIn reason) :
    (Json.array items).FaultsIn reason := fun _ he => faultsIn_of_mem_faultOfItems h he

theorem FaultsIn.object {members : List (String × Json)}
    (h : ∀ member ∈ members, member.2.FaultsIn reason) : (Json.object members).FaultsIn reason :=
  fun _ he => faultsIn_of_mem_faultOfMembers h he

@[simp] theorem FaultsIn.null : Json.null.FaultsIn reason := fun _ he => by simp [fault?] at he

@[simp] theorem FaultsIn.bool (b : Bool) : (Json.bool b).FaultsIn reason :=
  fun _ he => by simp [fault?] at he

@[simp] theorem FaultsIn.text (s : String) : (Json.text s).FaultsIn reason :=
  fun _ he => by simp [fault?] at he

theorem FaultsIn.integer (hdigits : reason .digits) (n : Int) :
    (Json.integer n).FaultsIn reason := by
  intro e he
  rw [fault?] at he
  split at he
  · simp at he
  · rwa [← Option.some.inj he]

/-- A value is not written because of the indentation, or for a reason of its own. -/
theorem checkIndent_or_fault_of_write {room : Nat} {indent : Option Int} {value : Json}
    {e : TextError} (h : value.write room indent = .error e) :
    checkIndent room indent = .error e ∨ value.fault? = some e := by
  unfold write at h
  cases hindent : checkIndent room indent with
  | error e' =>
      simp only [hindent, bind, Except.bind, Except.error.injEq] at h
      exact .inl (congrArg _ h)
  | ok u =>
      rw [hindent] at h
      cases hfault : value.fault? with
      | none => simp [hfault, bind, Except.bind] at h
      | some e' =>
          simp only [hfault, bind, Except.bind, Except.error.injEq] at h
          exact .inr (congrArg some h)

theorem isTypeError_of_checkIndent {room : Nat} {indent : Option Int} {e : TextError}
    (h : checkIndent room indent = .error e) : e.isTypeError = false := by
  cases indent with
  | none => simp [checkIndent] at h
  | some n =>
      simp only [checkIndent] at h
      split at h
      · rw [← Except.error.inj h]
        rfl
      · split at h
        · rw [← Except.error.inj h]
          rfl
        · simp at h

end Json

namespace Schema

open Json (FaultsIn)

/-! ### Members of objects -/

/-- The reasons for which a tree of the grammar is not written: an integer is too long, or the value
of a literal is not written. -/
def Reason (value : Constant → Prop) (e : Json.TextError) : Prop :=
  e = .digits ∨ ∃ v, value v ∧ v.toJson.fault? = some e

variable {value : Constant → Prop}

@[simp] theorem faultsIn_integer (n : Int) : (Json.integer n).FaultsIn (Reason value) :=
  FaultsIn.integer (.inl rfl) n

theorem faultsIn_optionalMember {key : String} {place : Schema} {json : Json}
    (h : json.FaultsIn (Reason value)) :
    ∀ member ∈ optionalMember key place json, member.2.FaultsIn (Reason value) := by
  intro member hmember
  rw [optionalMember] at hmember
  split at hmember
  · simp at hmember
  · rw [List.mem_singleton.1 hmember]
    exact h

/-! ### Nodes -/

/-- A place has a JSON value, and that is written except for the given reasons. -/
def Serializes (value : Constant → Prop) (place : Schema) : Prop :=
  ∃ json, place.toJson = .ok json ∧ json.FaultsIn (Reason value)

theorem exists_toJsonList {nodes : List Schema} (h : ∀ node ∈ nodes, node.Serializes value) :
    ∃ jsons, toJsonList nodes = .ok jsons ∧ (Json.array jsons).FaultsIn (Reason value) := by
  induction nodes with
  | nil => exact ⟨[], rfl, FaultsIn.array (by simp)⟩
  | cons node nodes ih =>
      obtain ⟨json, hjson, hfaults⟩ := h node (List.mem_cons_self ..)
      obtain ⟨jsons, hjsons, hrest⟩ :=
        ih fun other hother => h other (List.mem_cons_of_mem _ hother)
      refine ⟨json :: jsons, by rw [toJsonList, hjson, hjsons]; rfl, ?_⟩
      intro e he
      rw [Json.fault?, Json.faultOfItems?, Option.or_eq_some_iff] at he
      rcases he with he | ⟨-, he⟩
      · exact hfaults e he
      · exact hrest e he

/-- A place has a JSON value if the nodes that it contributes have. -/
theorem serializes_of_splice {place : Schema} (h : ∀ node ∈ place.splice, node.Serializes value) :
    place.Serializes value := by
  cases place with
  | absent => exact ⟨.null, rfl, FaultsIn.null⟩
  | group items =>
      obtain ⟨jsons, hjsons, hfaults⟩ := exists_toJsonList h
      rw [splice_group] at hjsons
      exact ⟨.array jsons, by rw [toJson, hjsons]; rfl, hfaults⟩
  | _ => exact h _ (List.mem_singleton_self _)

/-- **Nodes of the grammar have a JSON value**, and only an integer or the value of a literal keeps
it from being written. -/
theorem Conforms.serializes {node : Schema} (h : node.Conforms value) : node.Serializes value := by
  induction h with
  | type => exact ⟨_, rfl, FaultsIn.object (by simp [optionalMember, isAbsent])⟩
  | @vector id name dataType _ _ ih =>
      obtain ⟨t, ht, hft⟩ := ih
      refine ⟨.object ([("id", .integer id), ("name", .text name)]
        ++ optionalMember "data-type" dataType t), by rw [toJson, ht]; rfl, FaultsIn.object ?_⟩
      exact List.forall_mem_append.2 ⟨by simp, faultsIn_optionalMember hft⟩
  | @literal id position kind v hv =>
      have hfv : v.toJson.FaultsIn (Reason value) := fun e he => .inr ⟨v, hv, he⟩
      exact ⟨_, rfl, FaultsIn.object (by simp [typed, placed, hfv])⟩
  | identifier => exact ⟨_, rfl, FaultsIn.object (by simp [typed, placed])⟩
  | message => exact ⟨_, rfl, FaultsIn.object (by simp [typed, placed])⟩
  | @unary id position opcode expression _ ih =>
      obtain ⟨x, hx, hfx⟩ := serializes_of_splice ih
      refine ⟨.object (typed id position opcode ++ [("expression", x)]), by rw [toJson, hx]; rfl,
        FaultsIn.object ?_⟩
      simp [typed, placed, hfx]
  | @binary id position opcode left right _ _ ihl ihr =>
      obtain ⟨l, hl, hfl⟩ := serializes_of_splice ihl
      obtain ⟨r, hr, hfr⟩ := serializes_of_splice ihr
      refine ⟨.object (typed id position opcode ++ [("left", l), ("right", r)]),
        by rw [toJson, hl, hr]; rfl, FaultsIn.object ?_⟩
      simp [typed, placed, hfl, hfr]
  | @call id position name arguments _ ih =>
      obtain ⟨xs, hxs, hfxs⟩ := exists_toJsonList ih
      refine ⟨.object (typed id position "function-call"
        ++ [("name", .text name), ("arguments", .array xs)]), by rw [toJson, hxs]; rfl,
        FaultsIn.object ?_⟩
      simp [typed, placed, hfxs]
  | @block id statements _ ih =>
      obtain ⟨xs, hxs, hfxs⟩ := exists_toJsonList ih
      refine ⟨.object [("id", .integer id), ("statements", .array xs)], by rw [toJson, hxs]; rfl,
        FaultsIn.object ?_⟩
      simp [hfxs]
  | @conditional id position condition thenBlock _ _ _ ihc iht =>
      obtain ⟨c, hc, hfc⟩ := serializes_of_splice ihc
      obtain ⟨t, ht, hft⟩ := iht
      refine ⟨.object (typed id position "conditional" ++ [("condition", c), ("then", t)]
        ++ optionalMember "else" .absent .null), by rw [toJson, hc, ht]; rfl, FaultsIn.object ?_⟩
      exact List.forall_mem_append.2
        ⟨by simp [typed, placed, hfc, hft], faultsIn_optionalMember FaultsIn.null⟩
  | @conditionalElse id position condition thenBlock elseBlock _ _ _ _ _ ihc iht ihe =>
      obtain ⟨c, hc, hfc⟩ := serializes_of_splice ihc
      obtain ⟨t, ht, hft⟩ := iht
      obtain ⟨e, he, hfe⟩ := ihe
      refine ⟨.object (typed id position "conditional" ++ [("condition", c), ("then", t)]
        ++ optionalMember "else" elseBlock e), by rw [toJson, hc, ht, he]; rfl, FaultsIn.object ?_⟩
      exact List.forall_mem_append.2
        ⟨by simp [typed, placed, hfc, hft], faultsIn_optionalMember hfe⟩
  | @whileLoop id position condition body _ _ _ ihc ihb =>
      obtain ⟨c, hc, hfc⟩ := serializes_of_splice ihc
      obtain ⟨b, hb, hfb⟩ := ihb
      refine ⟨.object (typed id position "while" ++ [("condition", c), ("block", b)]),
        by rw [toJson, hc, hb]; rfl, FaultsIn.object ?_⟩
      simp [typed, placed, hfc, hfb]
  | @forLoop id position init condition post body _ _ _ _ _ ihi ihc ihp ihb =>
      obtain ⟨i, hi, hfi⟩ := serializes_of_splice ihi
      obtain ⟨c, hc, hfc⟩ := serializes_of_splice ihc
      obtain ⟨p, hp, hfp⟩ := serializes_of_splice ihp
      obtain ⟨b, hb, hfb⟩ := ihb
      refine ⟨.object (typed id position "for"
        ++ [("init", i), ("condition", c), ("post", p), ("block", b)]),
        by rw [toJson, hi, hc, hp, hb]; rfl, FaultsIn.object ?_⟩
      simp [typed, placed, hfi, hfc, hfp, hfb]
  | @returned id position expression _ ih =>
      obtain ⟨x, hx, hfx⟩ := serializes_of_splice ih
      refine ⟨.object (typed id position "return" ++ [("expression", x)]), by rw [toJson, hx]; rfl,
        FaultsIn.object ?_⟩
      simp [typed, placed, hfx]
  | @var id position name dataType init isReference isConst isParameter _ _ _ _ iht ihi =>
      obtain ⟨t, ht, hft⟩ := iht
      obtain ⟨i, hi, hfi⟩ := serializes_of_splice ihi
      refine ⟨.object ((if isParameter then placed id position
          else typed id position "variable-declaration")
        ++ [("name", .text name), ("data-type", t), ("is-reference", .bool isReference),
          ("is-const", .bool isConst)] ++ optionalMember "init" init i),
        by rw [toJson, ht, hi]; rfl, FaultsIn.object ?_⟩
      refine List.forall_mem_append.2 ⟨?_, faultsIn_optionalMember hfi⟩
      cases isParameter <;> simp [typed, placed, hft]
  | @field id position name dataType _ _ iht =>
      obtain ⟨t, ht, hft⟩ := iht
      refine ⟨.object (placed id position ++ [("name", .text name), ("data-type", t)]),
        by rw [toJson, ht]; rfl, FaultsIn.object ?_⟩
      simp [placed, hft]
  | @function id position name returnType body parameters _ _ _ _ _ _ iht ihp ihb =>
      obtain ⟨t, ht, hft⟩ := iht
      obtain ⟨ps, hps, hfps⟩ := exists_toJsonList ihp
      obtain ⟨b, hb, hfb⟩ := ihb
      refine ⟨.object (typed id position "function-declaration"
        ++ [("name", .text name), ("return-type", t), ("parameters", .array ps), ("block", b)]),
        by rw [toJson, ht, hps, hb]; rfl, FaultsIn.object ?_⟩
      simp [typed, placed, hft, hfps, hfb]
  | @struct id position name attributes _ _ ih =>
      obtain ⟨xs, hxs, hfxs⟩ := exists_toJsonList ih
      refine ⟨.object (typed id position "struct-declaration"
        ++ [("name", .text name), ("attributes", .array xs)]), by rw [toJson, hxs]; rfl,
        FaultsIn.object ?_⟩
      simp [typed, placed, hfxs]
  | @document id statements _ ih =>
      obtain ⟨xs, hxs, hfxs⟩ := exists_toJsonList ih
      refine ⟨.object [("id", .integer id), ("statements", .array xs)], by rw [toJson, hxs]; rfl,
        FaultsIn.object ?_⟩
      simp [hfxs]

theorem Fits.serializes {place : Schema} (h : place.Fits value) : place.Serializes value :=
  serializes_of_splice fun node hnode => (h node hnode).serializes

/-! ### Texts -/

/-- A scalar is written unless it is an integer that is too long. -/
theorem isTypeError_of_fault_isScalar {v : Constant} (hv : v.isScalar = true) {e : Json.TextError}
    (he : v.toJson.fault? = some e) : e.isTypeError = false := by
  cases v with
  | bool b => simp [Constant.toJson, Json.fault?] at he
  | integer n =>
      have hdigits : (Json.integer n).FaultsIn (fun reason => reason = .digits) :=
        FaultsIn.integer (by rfl) n
      rw [hdigits e he]
      rfl
  | floating x => simp [Constant.toJson, Json.fault?] at he
  | text points =>
      simp only [Constant.toJson, Json.ofPoints] at he
      split at he <;> simp [Json.fault?] at he
  | _ => simp [Constant.isScalar] at hv

end Schema

/-- Whether a document is not written because of a value of the wrong type. -/
def DocumentError.isTypeError : DocumentError → Bool
  | .value _ => true
  | .text e => e.isTypeError

namespace Schema

/-- If the values of literals are scalars, no value of the wrong type is met when what fits into a
place is written, with whatever indentation. -/
theorem Fits.documentText_isTypeError {place : Schema} (h : place.Fits (·.isScalar = true))
    {room : Nat} {indent : Option Int} {e : DocumentError}
    (he : place.documentText room indent = .error e) : e.isTypeError = false := by
  obtain ⟨json, hjson, hfaults⟩ := h.serializes
  rw [documentText, hjson] at he
  cases hwrite : json.write room indent with
  | ok text =>
      have hok : (json.write room indent).mapError DocumentError.text = .ok text := by
        rw [hwrite]
        rfl
      exact absurd (hok.symm.trans he) (by simp)
  | error e' =>
      have herror : (json.write room indent).mapError DocumentError.text = .error (.text e') := by
        rw [hwrite]
        rfl
      rw [← Except.error.inj (herror.symm.trans he)]
      rcases Json.checkIndent_or_fault_of_write hwrite with hindent | hfault
      · exact Json.isTypeError_of_checkIndent hindent
      · rcases hfaults e' hfault with hdigits | ⟨v, hv, hfault⟩
        · rw [hdigits]
          rfl
        · exact isTypeError_of_fault_isScalar hv hfault

end Schema

end TeachingTree
