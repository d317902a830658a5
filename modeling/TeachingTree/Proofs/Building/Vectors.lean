/-
**Two ways to the elements of a vector.**

The elements of a vector are its first template argument.  Where the parser exposes none, they are
read from the spelling of the vector.  The two ways do not share anything: the one goes by the sorts
of types, the other by the words of the text.  Still they lead to the same type in the schema, at
every depth, if the innermost element is spelled as the parser spells it: a basic type, the string
type, or a record of the program under its own name.

Not every type is one of these.  An enumeration is an integer by its sort, but a text cannot tell
its name from the name of a record.

Main definitions:

* `Building.basicSpellings`, `Building.stringSpellings` — how basic types and the string type are
  spelled;
* `Building.IsElement` — the innermost elements;
* `Building.Undivided`, `Building.ElementText` — spellings that are read as a whole;
* `Building.Agrees` — elements of which both ways make the same;
* `Building.Nest` — vectors of vectors of an element, to a depth;
* `CursorType.withoutArguments` — a type whose template arguments are not exposed.

Main results:

* `Building.namesStream_vector` — a vector is a stream only if its elements are;
* `Building.IsElement.agrees` — both ways agree on innermost elements;
* `Building.Nest.splitLayers` — the spelling of a vector opens to its innermost element;
* `Building.Nest.lowerType_eq` — **both ways lead to the same type of the schema**.
-/

import TeachingTree.Building.TypeName
import TeachingTree.Lowering.TypeName
import TeachingTree.Proofs.Source.Grammar
import TeachingTree.Proofs.Source.Name

set_option relaxedAutoImplicit false
set_option autoImplicit false

namespace TeachingTree.Building

open Text Signature

/-! ### Streams -/

theorem startsStream_cons_of_ne {c : Char} (h : c ≠ 'b') (cs : List Char) :
    startsStream (c :: cs) = false := by
  simp [startsStream, streamTemplates, after?, dropStart?, Ne.symm h]

/-- An instance of a stream template does not go on behind the end of an element. -/
theorem startsStream_of_append {c : Char} (h : IsEnd c) {cs rest : List Char}
    (hstream : startsStream (cs ++ c :: rest) = true) : startsStream cs = true := by
  have hends : ∀ name ∈ streamTemplates, ',' ∉ name.toList ∧ '>' ∉ name.toList := by decide
  obtain ⟨name, hname, hmatch⟩ := List.any_eq_true.1 hstream
  refine List.any_eq_true.2 ⟨name, hname, ?_⟩
  rw [h.after?_append (hends name hname)] at hmatch
  cases hafter : after? name cs with
  | none =>
      rw [hafter] at hmatch
      exact hmatch
  | some after =>
      rw [hafter] at hmatch
      simp only [Option.map_some, dropBlank_append h.isBlank] at hmatch ⊢
      cases hdrop : dropBlank after with
      | nil =>
          have hbracket : c ≠ '<' := h.ne (by decide)
          simp [hdrop, hbracket] at hmatch
      | cons d after' =>
          rw [hdrop] at hmatch
          exact hmatch

theorem anySuffix_startsStream_append_left {before : List Char} (h : 'b' ∉ before)
    (cs : List Char) :
    anySuffix startsStream (before ++ cs) = anySuffix startsStream cs := by
  induction before with
  | nil => rfl
  | cons c before ih =>
      rw [List.mem_cons, not_or] at h
      rw [List.cons_append, anySuffix, startsStream_cons_of_ne (Ne.symm h.1), Bool.false_or, ih h.2]

theorem anySuffix_startsStream_append {c : Char} (h : IsEnd c) {cs rest : List Char}
    (hcs : anySuffix startsStream cs = false)
    (hrest : anySuffix startsStream (c :: rest) = false) :
    anySuffix startsStream (cs ++ c :: rest) = false := by
  induction cs with
  | nil => exact hrest
  | cons d cs ih =>
      rw [anySuffix, Bool.or_eq_false_iff] at hcs
      rw [List.cons_append, anySuffix, Bool.or_eq_false_iff]
      refine ⟨Bool.eq_false_iff.2 fun hstream => ?_, ih hcs.2⟩
      rw [← List.cons_append] at hstream
      exact absurd (startsStream_of_append h hstream) (by simp [hcs.1])

/-- An instance of a stream template has a bracket. -/
theorem anySuffix_startsStream_of_notMem {cs : List Char} (h : '<' ∉ cs) :
    anySuffix startsStream cs = false := by
  refine Bool.eq_false_iff.2 fun hstream => h ?_
  obtain ⟨rest, hrest, hstart⟩ := (anySuffix_iff startsStream cs).1 hstream
  obtain ⟨name, -, hmatch⟩ := List.any_eq_true.1 hstart
  cases hafter : after? name rest with
  | none => simp [hafter] at hmatch
  | some after =>
      rw [hafter] at hmatch
      have hmem : '<' ∈ dropBlank after := List.mem_of_head? (by simpa using hmatch)
      exact hrest.mem ((suffix_of_after? hafter).mem ((dropBlank_suffix after).mem hmem))

/-- **A vector is a stream only if its elements are.** -/
theorem namesStream_vector {spelling element : String} (h : IsVectorSpelling spelling element)
    (helement : namesStream element = false) : namesStream spelling = false := by
  have hstart : 'b' ∉ "std::vector<".toList := by decide
  rw [namesStream] at helement
  rcases h with rfl | rfl
  · have hlist : ("std::vector<" ++ element ++ ">").toList =
        "std::vector<".toList ++ (element.toList ++ '>' :: []) := by simp
    rw [namesStream, hlist, anySuffix_startsStream_append_left hstart]
    exact anySuffix_startsStream_append (.inr rfl) helement rfl
  · have hallocator : 'b' ∉ ", std::allocator<".toList := by decide
    have hlist : ("std::vector<" ++ element ++ ", std::allocator<" ++ element ++ "> >").toList =
        "std::vector<".toList ++ (element.toList ++
          ',' :: (" std::allocator<".toList ++ (element.toList ++ '>' :: " >".toList))) := by simp
    rw [namesStream, hlist, anySuffix_startsStream_append_left hstart]
    refine anySuffix_startsStream_append (.inl rfl) helement ?_
    have hrest :=
      anySuffix_startsStream_append_left hallocator (element.toList ++ '>' :: " >".toList)
    refine Eq.trans hrest ?_
    exact anySuffix_startsStream_append (.inr rfl) helement rfl

/-! ### Elements -/

/-- How basic types of a sort are spelled. -/
def basicSpellings : TypeClass → List String
  | .bool => ["bool"]
  | .character =>
    ["char", "signed char", "unsigned char", "wchar_t", "char8_t", "char16_t", "char32_t"]
  | .integer =>
    ["short", "unsigned short", "int", "unsigned int", "long", "unsigned long", "long long",
      "unsigned long long"]
  | .floating => ["float", "double", "long double"]
  | _ => []

/-- How the string type is spelled, in the namespaces of the common libraries. -/
def stringSpellings : List String :=
  ["std::string", "std::basic_string<char>",
    "std::basic_string<char, std::char_traits<char>, std::allocator<char> >",
    "std::__cxx11::basic_string<char>",
    "std::__cxx11::basic_string<char, std::char_traits<char>, std::allocator<char> >",
    "std::__1::basic_string<char>",
    "std::__1::basic_string<char, std::__1::char_traits<char>, std::__1::allocator<char> >"]

/-- The innermost elements: basic types, the string type, and records of the program under their own
names, all behind qualifiers. -/
inductive IsElement (context : Context) (head : TypeHead) : Prop where
  | basic {qualification name : String} (hq : qualification ∈ qualifications)
      (hname : name ∈ basicSpellings head.sort) (hspelling : head.spelling = qualification ++ name)
  | string {qualification name : String} (hq : qualification ∈ qualifications)
      (hsort : head.sort = .record) (hname : name ∈ stringSpellings)
      (hspelling : head.spelling = qualification ++ name)
  | record {qualification : String} {scopes : List (List Char)} {name : List Char}
      {declaration : Declaration} (hq : qualification ∈ qualifications)
      (hsort : head.sort = .record) (hname : IsRecordName scopes name)
      (hspelling : head.spelling = qualification ++ String.ofList (scopedName scopes name))
      (hdeclaration : head.declaration = some declaration)
      (hkind : declaration.kind.isRecord = true)
      (hplace : context.counts declaration.location = true)
      (hrecord : recordName declaration = String.ofList name)

/-- A spelling that is no vector and no stream, and is not cut off before its end. -/
structure Undivided (spelling : List Char) : Prop where
  container : findContainer false spelling = none
  stream : anySuffix startsStream spelling = false
  whole : boundaryFrom 0 spelling = spelling.length
  closed : ∀ (c : Char) (rest : List Char), IsEnd c →
    boundaryFrom 0 (spelling ++ c :: rest) = spelling.length

/-- Qualifiers in front of a name do not divide it. -/
theorem Undivided.qualified {name : List Char} (h : Undivided name) {qualification : String}
    (hq : qualification ∈ qualifications) : Undivided (qualification.toList ++ name) := by
  obtain ⟨hplain, hletter⟩ := notMem_of_mem_qualifications hq
  refine ⟨findContainer_qualified hq h.container, ?_, ?_, fun c rest hc => ?_⟩
  · rw [anySuffix_startsStream_append_left hletter, h.stream]
  · rw [boundaryFrom_plain_append hplain, h.whole, List.length_append]
  · rw [List.append_assoc, boundaryFrom_plain_append hplain, h.closed c rest hc, List.length_append]

/-- The text of an innermost element without its qualifiers. -/
structure ElementText (name : List Char) : Prop extends Undivided name where
  stripped : stripQualifiers name = name

/-- Qualifiers in front of an element are taken off. -/
theorem ElementText.stripQualifiers_eq {name : List Char} (h : ElementText name)
    {qualification : String} (hq : qualification ∈ qualifications) {spelling : String}
    (hspelling : spelling.toList = qualification.toList ++ name) :
    stripQualifiers spelling.toList = name := by
  rw [hspelling, stripQualifiers_qualified hq, h.stripped]

/-- A text without brackets and commas is no vector and no stream. -/
theorem elementText_of_plain {name : List Char}
    (hplain : ∀ d ∈ name, d ∉ ['<', '(', '[', ')', ']', '>', ','])
    (hstripped : stripQualifiers name = name) : ElementText name := by
  have hbracket : '<' ∉ name := fun hmem => hplain '<' hmem (by simp)
  refine ⟨⟨findContainer_eq_none (.inr hbracket) false, anySuffix_startsStream_of_notMem hbracket,
    ?_, fun c rest hc => ?_⟩, hstripped⟩
  · have happend : boundaryFrom 0 (name ++ []) = _ := boundaryFrom_plain_append hplain []
    rwa [List.append_nil, boundaryFrom, Nat.add_zero] at happend
  · rw [boundaryFrom_plain_append hplain, boundaryFrom_isEnd hc, Nat.add_zero]

/-- The sorts of basic types. -/
def basicSorts : List TypeClass := [.bool, .character, .integer, .floating]

theorem mem_basicSorts {sort : TypeClass} {name : String} (h : name ∈ basicSpellings sort) :
    sort ∈ basicSorts := by
  cases sort with
  | bool | character | integer | floating => simp [basicSorts]
  | _ => simp [basicSpellings] at h

theorem elementText_basic {sort : TypeClass} {name : String} (h : name ∈ basicSpellings sort) :
    ElementText name.toList := by
  have hall : ∀ sort ∈ basicSorts, ∀ name ∈ basicSpellings sort,
        name.toList.all (fun d => decide (d ∉ ['<', '(', '[', ')', ']', '>', ','])) = true ∧
          stripQualifiers name.toList = name.toList := by decide +kernel
  obtain ⟨hplain, hstripped⟩ := hall sort (mem_basicSorts h) name h
  exact elementText_of_plain (forall_mem_of_all hplain) hstripped

theorem elementText_string {name : String} (h : name ∈ stringSpellings) :
    ElementText name.toList := by
  have hall : ∀ name ∈ stringSpellings, 'v' ∉ name.toList ∧
      anySuffix startsStream name.toList = false ∧
      boundaryFrom 0 name.toList = name.toList.length ∧
      (boundaryFrom 0 (name.toList ++ [',']) = name.toList.length ∧
        boundaryFrom 0 (name.toList ++ ['>']) = name.toList.length) ∧
      stripQualifiers name.toList = name.toList := by decide +kernel
  obtain ⟨hletter, hstream, hwhole, hclosed, hstripped⟩ := hall name h
  refine ⟨⟨findContainer_eq_none (.inl hletter) false, hstream, hwhole, fun c rest hc => ?_⟩,
    hstripped⟩
  have hboundary : boundaryFrom 0 (name.toList ++ [c]) = name.toList.length := by
    rcases hc with rfl | rfl
    · exact hclosed.1
    · exact hclosed.2
  have hlt : boundaryFrom 0 (name.toList ++ [c]) < (name.toList ++ [c]).length := by
    rw [hboundary, List.length_append]
    exact Nat.lt_succ_self _
  have happend := boundaryFrom_append hlt rest
  rwa [List.append_assoc, List.singleton_append, hboundary] at happend

theorem elementText_record {scopes : List (List Char)} {name : List Char}
    (h : IsRecordName scopes name) : ElementText (scopedName scopes name) := by
  refine elementText_of_plain (fun d hd => ?_) (stripQualifiers_scopedName h)
  rcases mem_scopedName h hd with hword | rfl
  · exact notMem_marks (.inr hword)
  · decide

/-! ### The type of an element -/

/-- Two types with the same name and, qualifiers aside, the same spelling are named alike inside a
vector. -/
theorem elementName_eq {type other : SourceType}
    (hspelling : stripQualifiers type.spelling.toList = stripQualifiers other.spelling.toList)
    (hname : Lowering.leafName type = Lowering.leafName other) :
    Lowering.elementName type = Lowering.elementName other := by
  rw [Lowering.elementName, Lowering.elementName, hspelling, hname]

/-- What both ways make of an innermost element: types that are no vectors and have the same name
inside a vector. -/
def Agrees (context : Context) (head : TypeHead) : Prop :=
  ∀ (isConst : Bool) (pointee : Build SourceType) (element : Option (Build SourceType)),
    ∃ shape : TypeShape, canonicalType context head isConst pointee element = pure (.plain shape) ∧
      shape.kind ≠ .vector ∧
      Lowering.elementName (.plain shape) = Lowering.elementName
        (SourceType.ofName (String.ofList (stripQualifiers head.spelling.toList)))

/-- The names agree if the name without qualifiers makes the same name as the sort. -/
theorem elementName_ofName {shape : TypeShape} {name : List Char}
    (hstrip : stripQualifiers shape.spelling.toList = name)
    (hstripped : stripQualifiers name = name)
    (hleaf : Lowering.leafName (.plain shape) = Lowering.leafName (.plain (shapeOfName name))) :
    Lowering.elementName (.plain shape) =
      Lowering.elementName (SourceType.ofName (String.ofList name)) := by
  rw [SourceType.ofName, String.toList_ofList, hstripped]
  refine elementName_eq ?_ hleaf
  rw [SourceType.spelling, SourceType.spelling, SourceType.shape, SourceType.shape,
    spelling_shapeOfName, String.toList_ofList, hstripped, hstrip]

/-- The kind of the basic types of a sort. -/
def basicKind : TypeClass → TypeKind
  | .bool => .bool
  | .character => .character
  | .integer => .integer
  | _ => .floating

theorem canonicalType_basic (context : Context) {head : TypeHead} (h : head.sort ∈ basicSorts)
    (isConst : Bool) (pointee : Build SourceType) (element : Option (Build SourceType)) :
    canonicalType context head isConst pointee element =
      pure (.plain { kind := basicKind head.sort, spelling := head.spelling, isConst }) := by
  simp only [basicSorts, List.mem_cons, List.not_mem_nil, or_false] at h
  rcases h with h | h | h | h <;> simp only [canonicalType, h, basicKind]

theorem agrees_basic {context : Context} {head : TypeHead} {qualification name : String}
    (hq : qualification ∈ qualifications) (hname : name ∈ basicSpellings head.sort)
    (hspelling : head.spelling = qualification ++ name) : Agrees context head := by
  intro isConst pointee element
  have htext := elementText_basic hname
  have hstrip : stripQualifiers head.spelling.toList = name.toList :=
    htext.stripQualifiers_eq hq (by rw [hspelling, String.toList_append])
  -- the name makes a type of the kind that belongs to the sort, and that kind has a name
  have hkinds : ∀ sort ∈ basicSorts, basicKind sort ≠ .vector ∧
      (Lowering.kindName? (basicKind sort)).isSome = true ∧
      ∀ name ∈ basicSpellings sort, (shapeOfName name.toList).kind = basicKind sort := by
    decide +kernel
  obtain ⟨hvector, hnamed, hshapes⟩ := hkinds head.sort (mem_basicSorts hname)
  obtain ⟨kindName, hkindName⟩ := Option.isSome_iff_exists.1 hnamed
  refine ⟨_, canonicalType_basic context (mem_basicSorts hname) isConst pointee element, hvector,
    ?_⟩
  rw [hstrip]
  refine elementName_ofName hstrip htext.stripped ?_
  simp only [Lowering.leafName, SourceType.kind, SourceType.shape, hshapes name hname, hkindName]

/-- The type of a string that is no vector and no stream. -/
theorem canonicalType_string (context : Context) {head : TypeHead} (hsort : head.sort = .record)
    (hstream : namesStream head.spelling = false)
    (hcontainer : (splitContainer head.spelling.toList).1 = 0)
    (hstring : namesString head.spelling.toList = true) (isConst : Bool)
    (pointee : Build SourceType) (element : Option (Build SourceType)) :
    canonicalType context head isConst pointee element =
      pure (.plain { kind := .string, spelling := head.spelling, isConst }) := by
  simp only [canonicalType, hsort, recordType, hstream, hcontainer, hstring, Bool.false_eq_true,
    if_false, Nat.lt_irrefl, if_true]

/-- The type of a record of the program that is no vector, no stream and no string. -/
theorem canonicalType_record (context : Context) {head : TypeHead} (hsort : head.sort = .record)
    (hstream : namesStream head.spelling = false)
    (hcontainer : (splitContainer head.spelling.toList).1 = 0)
    (hstring : namesString head.spelling.toList = false) {declaration : Declaration}
    (hdeclaration : head.declaration = some declaration)
    (hkind : declaration.kind.isRecord = true)
    (hplace : context.counts declaration.location = true) (isConst : Bool)
    (pointee : Build SourceType) (element : Option (Build SourceType)) :
    canonicalType context head isConst pointee element =
      pure (.plain { kind := .record, spelling := head.spelling,
                     recordName := some (recordName declaration), isConst }) := by
  simp only [canonicalType, hsort, recordType, hstream, hcontainer, hstring, hdeclaration, hkind,
    hplace, Bool.false_eq_true, if_false, Nat.lt_irrefl, Bool.and_self, if_true]

/-- A text without containers is no container. -/
theorem splitContainer_fst {cs : List Char} (h : findContainer false (trimBlank cs) = none) :
    (splitContainer cs).1 = 0 := by
  rw [splitContainer, splitLayers_of_findContainer_eq_none h]

theorem scopedString_append (before : List Char) {cs : List Char} (h : scopedString cs = true) :
    scopedString (before ++ cs) = true := by
  induction before with
  | nil => exact h
  | cons c before ih =>
      rw [List.cons_append]
      unfold scopedString
      rw [ih, Bool.or_true]

theorem agrees_string {context : Context} {head : TypeHead} {qualification name : String}
    (hq : qualification ∈ qualifications) (hsort : head.sort = .record)
    (hname : name ∈ stringSpellings) (hspelling : head.spelling = qualification ++ name) :
    Agrees context head := by
  intro isConst pointee element
  have hlist : head.spelling.toList = qualification.toList ++ name.toList := by
    rw [hspelling, String.toList_append]
  have hnamed : ∀ name ∈ stringSpellings, scopedString name.toList = true ∧
      (shapeOfName name.toList).kind = .string := by decide +kernel
  obtain ⟨hscoped, hshape⟩ := hnamed name hname
  have htext := (elementText_string hname).toUndivided.qualified hq
  rw [← hlist] at htext
  have hstrip := (elementText_string hname).stripQualifiers_eq hq hlist
  have hstring : namesString head.spelling.toList = true := by
    rw [hlist, namesString, scopedString_append _ hscoped, Bool.or_true]
  have hends : ∀ q ∈ qualifications, ∀ name ∈ stringSpellings,
      (q.toList ++ name.toList).head?.any Text.isBlank = false ∧
        (q.toList ++ name.toList).getLast?.any Text.isBlank = false := by decide +kernel
  have htrim : trimBlank head.spelling.toList = head.spelling.toList := by
    rw [hlist]
    obtain ⟨hhead, hlast⟩ := hends qualification hq name hname
    exact Text.trimBlank_eq_self hhead hlast
  refine ⟨_, canonicalType_string context hsort htext.stream
    (splitContainer_fst (by rw [htrim]; exact htext.container)) hstring isConst pointee element,
    by simp, ?_⟩
  rw [hstrip]
  refine elementName_ofName hstrip (elementText_string hname).stripped ?_
  simp only [Lowering.leafName, SourceType.kind, SourceType.shape, hshape, Lowering.kindName?]

/-- The type of the name of a record is called by the last part of the name, even if that is read as
a name of the string type. -/
theorem leafName_shapeOfName_scopedName {scopes : List (List Char)} {name : List Char}
    (h : IsRecordName scopes name) :
    Lowering.leafName (.plain (shapeOfName (scopedName scopes name))) = String.ofList name := by
  have hempty : "" ∈ qualifications := by simp [qualifications]
  rw [shapeOfName_scopedName h]
  by_cases hstring : namesString (scopedName scopes name) = true
  · have hlast : name = "string".toList := eq_of_namesString h hempty hstring
    simp only [hstring, if_true]
    rw [hlast]
    rfl
  · simp only [hstring, if_false, Bool.false_eq_true]
    rfl

theorem agrees_record {context : Context} {head : TypeHead} {qualification : String}
    {scopes : List (List Char)} {name : List Char} {declaration : Declaration}
    (hq : qualification ∈ qualifications) (hsort : head.sort = .record)
    (hname : IsRecordName scopes name)
    (hspelling : head.spelling = qualification ++ String.ofList (scopedName scopes name))
    (hdeclaration : head.declaration = some declaration)
    (hkind : declaration.kind.isRecord = true)
    (hplace : context.counts declaration.location = true)
    (hrecord : recordName declaration = String.ofList name) : Agrees context head := by
  intro isConst pointee element
  have hlist : head.spelling.toList = qualification.toList ++ scopedName scopes name := by
    rw [hspelling, String.toList_append, String.toList_ofList]
  have htext := (elementText_record hname).toUndivided.qualified hq
  rw [← hlist] at htext
  have hstrip := (elementText_record hname).stripQualifiers_eq hq hlist
  have hbracket : '<' ∉ head.spelling.toList := by
    rw [hlist, List.mem_append, not_or]
    refine ⟨fun hmem => (notMem_of_mem_qualifications hq).1 '<' hmem (by simp), fun hmem => ?_⟩
    rcases mem_scopedName hname hmem with hword | hcolon
    · exact absurd hword (by decide)
    · exact absurd hcolon (by decide)
  have hcontainer : (splitContainer head.spelling.toList).1 = 0 := by
    rw [splitContainer_eq (.inr hbracket)]
  have hleaf := leafName_shapeOfName_scopedName hname
  rw [hstrip]
  by_cases hstring : namesString head.spelling.toList = true
  · refine ⟨_, canonicalType_string context hsort htext.stream hcontainer hstring isConst pointee
        element,
      by simp, elementName_ofName hstrip (elementText_record hname).stripped ?_⟩
    -- the string type is called like the last part of its name
    rw [hlist] at hstring
    rw [hleaf, eq_of_namesString hname hq hstring]
    rfl
  · refine ⟨_, canonicalType_record context hsort htext.stream hcontainer (by simpa using hstring)
      hdeclaration hkind hplace isConst pointee element,
      by simp, elementName_ofName hstrip (elementText_record hname).stripped ?_⟩
    rw [hleaf, hrecord]
    rfl

/-- **Both ways agree on innermost elements.** -/
theorem IsElement.agrees {context : Context} {head : TypeHead} (h : IsElement context head) :
    Agrees context head := by
  cases h with
  | basic hq hname hspelling => exact agrees_basic hq hname hspelling
  | string hq hsort hname hspelling => exact agrees_string hq hsort hname hspelling
  | record hq hsort hname hspelling hdeclaration hkind hplace hrecord =>
      exact agrees_record hq hsort hname hspelling hdeclaration hkind hplace hrecord

theorem IsElement.undivided {context : Context} {head : TypeHead} (h : IsElement context head) :
    Undivided head.spelling.toList := by
  cases h with
  | basic hq hname hspelling =>
      rw [hspelling, String.toList_append]
      exact (elementText_basic hname).toUndivided.qualified hq
  | string hq hsort hname hspelling =>
      rw [hspelling, String.toList_append]
      exact (elementText_string hname).toUndivided.qualified hq
  | record hq hsort hname hspelling =>
      rw [hspelling, String.toList_append, String.toList_ofList]
      exact (elementText_record hname).toUndivided.qualified hq

end TeachingTree.Building

namespace TeachingTree

/-! ### Nests of vectors -/

namespace CursorType

/-- The template arguments of a type. -/
def arguments : CursorType → List CursorType
  | .mk _ _ _ arguments => arguments

/-- A type whose template arguments are not exposed. -/
def withoutArguments : CursorType → CursorType
  | .mk head none pointee _ => .mk head none pointee []
  | .mk head (some (.mk canonical form target _)) pointee arguments =>
    .mk head (some (.mk canonical form target [])) pointee arguments

theorem canonical_withoutArguments (type : CursorType) :
    type.withoutArguments.canonical.head = type.canonical.head ∧
      type.withoutArguments.canonical.arguments = [] := by
  rcases type with ⟨head, _ | ⟨canonical, form, target, arguments⟩, pointee, others⟩ <;>
    exact ⟨rfl, rfl⟩

end CursorType

namespace Building

open Signature

/-- A type decides by its canonical form. -/
theorem exists_sourceType_eq (context : Context) (type : CursorType) :
    ∃ isConst pointee, sourceType context type =
      canonicalType context type.canonical.head isConst pointee
        (firstArgument context type.canonical.arguments) := by
  rcases type with ⟨head, _ | ⟨canonical, form, target, arguments⟩, pointee, others⟩
  · exact ⟨_, _, by rw [sourceType]; rfl⟩
  · exact ⟨_, _, by rw [sourceType]; rfl⟩

/-- Vectors of vectors of an element, to a depth. -/
inductive Nest (element : TypeHead) : Nat → CursorType → Prop where
  | element {type : CursorType} (h : type.canonical.head = element) : Nest element 0 type
  | vector {depth : Nat} {type inner : CursorType} {others : List CursorType}
      (hsort : type.canonical.head.sort = .record)
      (harguments : type.canonical.arguments = inner :: others)
      (hvalid : inner.head.sort ≠ .invalid)
      (hspelling : IsVectorSpelling type.canonical.head.spelling inner.canonical.head.spelling)
      (hinner : Nest element depth inner) : Nest element (depth + 1) type

namespace Nest

variable {context : Context} {element : TypeHead} {depth : Nat} {type : CursorType}

theorem namesStream_eq_false (hu : Undivided element.spelling.toList)
    (h : Nest element depth type) :
    namesStream type.canonical.head.spelling = false := by
  induction h with
  | element h =>
      rw [h]
      exact hu.stream
  | vector _ _ _ hspelling _ ih => exact namesStream_vector hspelling ih

/-- **The spelling of a nest opens to its innermost element**, whatever follows it. -/
theorem splitLayers (hu : Undivided element.spelling.toList) (h : Nest element depth type)
    {c : Char} (hc : IsEnd c) (rest : List Char) :
    ∃ d rest', IsEnd d ∧
      Signature.splitLayers (type.canonical.head.spelling.toList ++ c :: rest) =
        (depth, element.spelling.toList ++ d :: rest') := by
  induction h generalizing c rest with
  | element h =>
      refine ⟨c, rest, hc, ?_⟩
      rw [h]
      refine splitLayers_append hc ?_ hu.whole (hu.closed c rest hc)
      rw [splitLayers_of_findContainer_eq_none hu.container]
  | vector _ _ _ hspelling _ ih =>
      obtain ⟨d, tail, hd, hlist⟩ := hspelling.toList
      obtain ⟨last, rest', hlast, hinner⟩ := ih hd (tail ++ c :: rest)
      refine ⟨last, rest', hlast, ?_⟩
      rw [hlist, List.append_assoc, List.append_assoc, List.cons_append, splitLayers_vector, hinner]

/-- The spelling of a vector splits into its depth and its innermost element. -/
theorem splitContainer (hu : Undivided element.spelling.toList)
    (h : Nest element (depth + 1) type) :
    Signature.splitContainer type.canonical.head.spelling.toList =
      (depth + 1, stripQualifiers element.spelling.toList) := by
  cases h with
  | vector _ _ _ hspelling hinner =>
      obtain ⟨c, rest, hc, hlist⟩ := hspelling.toList
      obtain ⟨d, rest', hd, hlayers⟩ := hinner.splitLayers hu hc rest
      rw [Signature.splitContainer, hspelling.trimBlank, hlist, splitLayers_vector, hlayers]
      simp only [hu.closed d rest' hd, List.take_left]

/-- The elements of a vector are its first template argument. -/
theorem sourceType_vector (hu : Undivided element.spelling.toList)
    {inner : CursorType} {others : List CursorType}
    (hsort : type.canonical.head.sort = .record)
    (harguments : type.canonical.arguments = inner :: others)
    (hvalid : inner.head.sort ≠ .invalid)
    (h : Nest element (depth + 1) type) {built : SourceType}
    (hbuilt : sourceType context inner = pure built) :
    ∃ isConst, sourceType context type =
      pure (.containing
        { kind := .vector, spelling := type.canonical.head.spelling, isConst } built) := by
  obtain ⟨isConst, pointee, hsource⟩ := exists_sourceType_eq context type
  refine ⟨isConst, ?_⟩
  rw [hsource, harguments]
  simp only [canonicalType, hsort, recordType, h.namesStream_eq_false hu, h.splitContainer hu,
    firstArgument, hvalid, Bool.false_eq_true, if_false, Nat.zero_lt_succ, if_true, hbuilt]
  rfl

/-- The first way: the elements are the first template argument. -/
theorem sourceType_eq (he : IsElement context element) (h : Nest element depth type) :
    ∃ built shape, sourceType context type = pure built ∧ built.vectorDepth = depth ∧
      built.vectorElement? = some (.plain shape) ∧
      Lowering.elementName (.plain shape) = Lowering.elementName
        (SourceType.ofName (String.ofList (stripQualifiers element.spelling.toList))) := by
  induction h with
  | @element type h =>
      obtain ⟨isConst, pointee, hsource⟩ := exists_sourceType_eq context type
      rw [h] at hsource
      obtain ⟨shape, hshape, hvector, hname⟩ := he.agrees isConst pointee _
      exact ⟨.plain shape, shape, hsource.trans hshape, if_neg hvector, if_neg hvector, hname⟩
  | @vector depth type inner others hsort harguments hvalid hspelling hinner ih =>
      obtain ⟨built, shape, hbuilt, hdepth, helement, hname⟩ := ih
      obtain ⟨isConst, hsource⟩ := sourceType_vector he.undivided hsort harguments hvalid
        (.vector hsort harguments hvalid hspelling hinner) hbuilt
      refine ⟨_, shape, hsource, ?_, ?_, hname⟩
      · simp [SourceType.vectorDepth, hdepth]
      · simp [SourceType.vectorElement?, helement]

/-- The second way: the elements are read from the spelling. -/
theorem sourceType_withoutArguments (context : Context) (hu : Undivided element.spelling.toList)
    (h : Nest element (depth + 1) type) (s : State) :
    ∃ isConst, (sourceType context type.withoutArguments s).1 =
      .ok ((SourceType.inVectors (depth + 1) (SourceType.ofName (String.ofList
        (stripQualifiers element.spelling.toList)))).withConst isConst) := by
  obtain ⟨isConst, pointee, hsource⟩ := exists_sourceType_eq context type.withoutArguments
  obtain ⟨hhead, harguments⟩ := type.canonical_withoutArguments
  have hstream := h.namesStream_eq_false hu
  have hsplit := h.splitContainer hu
  have hsort : type.canonical.head.sort = .record := by
    cases h with
    | vector hsort => exact hsort
  refine ⟨isConst, ?_⟩
  have hsignature : SourceType.ofSignature type.canonical.head.spelling =
      SourceType.inVectors (depth + 1) (SourceType.ofName (String.ofList
        (stripQualifiers element.spelling.toList))) := by
    rw [SourceType.ofSignature, hsplit]
  rw [hsource, hhead, harguments]
  simp only [canonicalType, hsort, recordType, hstream, hsplit, firstArgument, Bool.false_eq_true,
    if_false, Nat.zero_lt_succ, if_true, hsignature]
  rfl

end Nest

/-! ### Both ways -/

theorem vectorDepth_withConst (isConst : Bool) (type : SourceType) :
    (type.withConst isConst).vectorDepth = type.vectorDepth := by cases type <;> rfl

theorem vectorElement?_withConst_of_vector (isConst : Bool) {type : SourceType}
    (h : type.kind = .vector) : (type.withConst isConst).vectorElement? = type.vectorElement? := by
  cases type <;> simp_all [SourceType.withConst, SourceType.vectorElement?, SourceType.kind,
    SourceType.shape]

/-- A vector is lowered by its depth and the name of its innermost element. -/
theorem lowerType_of_vectors {type element : SourceType} {depth : Nat}
    (hdepth : type.vectorDepth = depth + 1) (helement : type.vectorElement? = some element) :
    Lowering.lowerType type = Lowering.makeType (Lowering.elementName element) .absent >>=
      Lowering.wrapVectors (depth + 1) := by
  rw [Lowering.lowerType, Lowering.innermostName, hdepth, if_neg (Nat.succ_ne_zero depth), helement]

/-- **Both ways lead to the same type of the schema**: from whatever state, the type of a vector and
that of the vector without its template arguments are lowered to the same chain of nodes. -/
theorem Nest.lowerType_eq {context : Context} {element : TypeHead} (he : IsElement context element)
    {depth : Nat} {type : CursorType} (h : Nest element (depth + 1) type) (s t : State) :
    ∃ structural textual, (sourceType context type s).1 = .ok structural ∧
      (sourceType context type.withoutArguments t).1 = .ok textual ∧
      structural.vectorDepth = depth + 1 ∧
      Lowering.lowerType structural = Lowering.lowerType textual := by
  obtain ⟨built, shape, hbuilt, hdepth, helement, hname⟩ := h.sourceType_eq he
  obtain ⟨isConst, htext⟩ := h.sourceType_withoutArguments context he.undivided t
  have hkind : (SourceType.ofName (String.ofList
      (stripQualifiers element.spelling.toList))).kind ≠ .vector :=
    SourceType.kind_ofName_ne_vector _
  generalize SourceType.ofName (String.ofList (stripQualifiers element.spelling.toList)) = other
    at hname htext hkind
  obtain ⟨hdepth', helement'⟩ := SourceType.vectorDepth_inVectors hkind (depth + 1)
  have htextual := lowerType_of_vectors ((vectorDepth_withConst isConst _).trans hdepth')
    ((vectorElement?_withConst_of_vector isConst rfl).trans helement')
  refine ⟨built, _, by rw [hbuilt]; rfl, htext, hdepth, ?_⟩
  rw [lowerType_of_vectors hdepth helement, htextual, hname]

/-- The type of a vector with the default allocator, as the parser exposes it. -/
def vectorType (inner : CursorType) : CursorType :=
  let spelling := inner.canonical.head.spelling
  .mk { sort := .record, kindSpelling := "Record"
        spelling := "std::vector<" ++ spelling ++ ", std::allocator<" ++ spelling ++ "> >" }
    none none [inner]

theorem Nest.vectorType {element : TypeHead} {depth : Nat} {inner : CursorType}
    (hvalid : inner.head.sort ≠ .invalid) (h : Nest element depth inner) :
    Nest element (depth + 1) (vectorType inner) :=
  .vector rfl rfl hvalid (.inr rfl) h

/-- Vectors of vectors of characters, which count as strings. -/
theorem Nest.lowerType_characters :
    let character : TypeHead := { sort := .character, kindSpelling := "Char_S", spelling := "char" }
    let type := Building.vectorType (Building.vectorType (.mk character none none []))
    let context : Context := { mainFile := "main.cpp" }
    IsElement context character ∧ Nest character (1 + 1) type ∧
      ∃ structural textual, (sourceType context type default).1 = .ok structural ∧
        (sourceType context type.withoutArguments default).1 = .ok textual ∧
        structural.vectorDepth = 1 + 1 ∧
        Lowering.lowerType structural = Lowering.lowerType textual := by
  intro character type context
  have hq : "" ∈ qualifications := by simp [qualifications]
  have hname : "char" ∈ basicSpellings character.sort := by simp [basicSpellings, character]
  have he : IsElement context character := .basic hq hname rfl
  have hnest : Nest character (1 + 1) type :=
    .vectorType (by decide) (.vectorType (by decide) (.element rfl))
  exact ⟨he, hnest, Nest.lowerType_eq he hnest default default⟩

/-- An enumeration is an integer by its sort, and a record by its name. -/
theorem innermostName_enumeration :
    let enumeration : TypeHead := { sort := .integer, kindSpelling := "Enum", spelling := "Color" }
    let type := vectorType (.mk enumeration none none [])
    let context : Context := { mainFile := "main.cpp" }
    ∃ structural textual, (sourceType context type default).1 = .ok structural ∧
      (sourceType context type.withoutArguments default).1 = .ok textual ∧
      Lowering.innermostName structural = "int" ∧ Lowering.innermostName textual = "Color" := by
  intro enumeration type context
  have htext : ElementText "Color".toList :=
    elementText_of_plain (Text.forall_mem_of_all (by decide)) (by decide +kernel)
  have hu : Undivided enumeration.spelling.toList := htext.toUndivided
  have hnest : Nest enumeration (0 + 1) type := .vectorType (by decide) (.element rfl)
  have hbuilt : sourceType context (.mk enumeration none none []) =
      pure (.plain { kind := .integer, spelling := "Color" }) := rfl
  obtain ⟨isConst, hstructural⟩ := Nest.sourceType_vector hu rfl rfl (by decide) hnest hbuilt
  obtain ⟨isConst', htextual⟩ := hnest.sourceType_withoutArguments context hu default
  refine ⟨_, _, by rw [hstructural]; rfl, htextual, ?_, ?_⟩
  · cases isConst <;> decide +kernel
  · cases isConst' <;> decide +kernel

end Building

end TeachingTree
