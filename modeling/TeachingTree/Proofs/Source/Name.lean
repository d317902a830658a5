/-
**Names of records in signatures.**

A name of a record is a name with its scopes, such as `a::b::Name`.  In a signature it may stand
behind qualifiers, which are taken off again.  The type that is read from it is a record of the last
part of the name, unless the name is reserved for something else or is one of the string type; but
then the last part is `string`, and that is what the schema calls the string type, too.

Main definitions:

* `Signature.qualifications` — what may stand in front of a name;
* `Signature.scopedName` — a name behind its scopes;
* `Signature.reservedNames` — the names that stand for something else;
* `Signature.IsRecordName` — the names of records.

Main results:

* `Signature.stripQualifiers_qualified` — qualifiers are taken off;
* `Signature.lastScope_scopedName` — **the last part of a name is found**;
* `Signature.eq_of_namesString` — a name of the string type ends in `string`;
* `Signature.shapeOfName_scopedName` — **the type of the name of a record**.
-/

import TeachingTree.Proofs.Source.Opening

set_option relaxedAutoImplicit false
set_option autoImplicit false

namespace TeachingTree

namespace Signature

open Text

/-! ### Qualifiers -/

/-- What may stand in front of a name. -/
def qualifications : List String := ["", "const ", "volatile ", "const volatile "]

/-- The words in front of a name are qualifiers. -/
theorem words_qualified {qualification : String} (hq : qualification ∈ qualifications)
    (cs : List Char) :
    ∃ qualifiers, words (qualification.toList ++ cs) = qualifiers ++ words cs ∧
      ∀ word ∈ qualifiers, leadingQualifiers.contains word = true := by
  have hconst : IsWord "const".toList := ⟨by decide, forall_mem_of_all (by decide)⟩
  have hvolatile : IsWord "volatile".toList := ⟨by decide, forall_mem_of_all (by decide)⟩
  simp only [qualifications, List.mem_cons, List.not_mem_nil, or_false] at hq
  rcases hq with rfl | rfl | rfl | rfl
  · exact ⟨[], rfl, by simp⟩
  · exact ⟨["const".toList], words_append_space hconst cs, by decide⟩
  · exact ⟨["volatile".toList], words_append_space hvolatile cs, by decide⟩
  · refine ⟨["const".toList, "volatile".toList], ?_, by decide⟩
    have happend := words_append_space hconst ("volatile".toList ++ ' ' :: cs)
    rwa [words_append_space hvolatile] at happend

/-- **Qualifiers in front of a text are taken off.** -/
theorem stripQualifiers_qualified {qualification : String} (hq : qualification ∈ qualifications)
    (cs : List Char) : stripQualifiers (qualification.toList ++ cs) = stripQualifiers cs := by
  obtain ⟨qualifiers, hwords, hqualifiers⟩ := words_qualified hq cs
  rw [stripQualifiers, stripQualifiers, hwords, stripWords, stripWords,
    List.dropWhile_append_of_pos hqualifiers]

/-- No container starts in a qualifier. -/
theorem findContainer_qualified {qualification : String} (hq : qualification ∈ qualifications)
    {cs : List Char} (h : findContainer false cs = none) :
    findContainer false (qualification.toList ++ cs) = none := by
  have hblank : isBlank ' ' = true := by decide
  have hspace : ∀ rest, findContainer false rest = none →
      findContainer false (' ' :: rest) = none := by
    intro rest hrest
    rw [findContainer, containerHere?_cons (isWordChar_of_isBlank hblank),
      isWordChar_of_isBlank hblank, hrest]
    rfl
  have hqualifier : ∀ w ∈ leadingQualifiers, ∀ rest, containerHere? (w ++ ' ' :: rest) = none →
      findContainer false rest = none → findContainer false (w ++ ' ' :: rest) = none := by
    intro w hw rest hhere hrest
    obtain ⟨hword, hletters⟩ := isWord_of_mem_leadingQualifiers hw
    rw [findContainer_letters hword.1 hletters (breaks_cons hblank rest) hhere, hspace rest hrest]
    rfl
  have hconst : ∀ rest, findContainer false rest = none →
      findContainer false ("const ".toList ++ rest) = none :=
    fun rest => hqualifier "const".toList (by decide) rest rfl
  have hvolatile : ∀ rest, findContainer false rest = none →
      findContainer false ("volatile ".toList ++ rest) = none :=
    fun rest => hqualifier "volatile".toList (by decide) rest rfl
  simp only [qualifications, List.mem_cons, List.not_mem_nil, or_false] at hq
  rcases hq with rfl | rfl | rfl | rfl
  · exact h
  · exact hconst cs h
  · exact hvolatile cs h
  · exact hconst _ (hvolatile cs h)

theorem notMem_of_mem_qualifications {qualification : String}
    (hq : qualification ∈ qualifications) :
    (∀ d ∈ qualification.toList, d ∉ ['<', '(', '[', ')', ']', '>', ',']) ∧
      'b' ∉ qualification.toList := by
  have hall : ∀ q ∈ qualifications,
      q.toList.all (fun d => decide (d ∉ ['<', '(', '[', ')', ']', '>', ','])) = true ∧
        'b' ∉ q.toList := by decide
  exact (hall qualification hq).imp_left forall_mem_of_all

/-! ### Names -/

/-- A name behind its scopes. -/
def scopedName (scopes : List (List Char)) (name : List Char) : List Char :=
  scopes.flatMap (· ++ [':', ':']) ++ name

/-- The names that stand for something else than a record. -/
def reservedNames : List (List Char) :=
  (["bool", "void"] ++ characterNames ++ floatingNames ++ integerNames).map String.toList
    ++ integerWords ++ leadingQualifiers

/-- The names of records: parts of letters, numbers and underscores, which start with a letter of
ASCII or an underscore and stand for nothing else. -/
structure IsRecordName (scopes : List (List Char)) (name : List Char) : Prop where
  parts : ∀ part ∈ name :: scopes, part ≠ [] ∧ ∀ c ∈ part, isWordChar c = true
  start : ∃ c rest, scopedName scopes name = c :: rest ∧ (c.isAlpha || c == '_') = true
  free : scopedName scopes name ∉ reservedNames

section Names

variable {scopes : List (List Char)} {name : List Char}

theorem mem_scopedName (h : IsRecordName scopes name) {c : Char} (hc : c ∈ scopedName scopes name) :
    isWordChar c = true ∨ c = ':' := by
  rcases List.mem_append.1 hc with hscope | hname
  · obtain ⟨part, hpart, hc⟩ := List.mem_flatMap.1 hscope
    rcases List.mem_append.1 hc with hword | hcolon
    · exact .inl ((h.parts part (List.mem_cons_of_mem _ hpart)).2 c hword)
    · simp only [List.mem_cons, List.not_mem_nil, or_false, or_self] at hcolon
      exact .inr hcolon
  · exact .inl ((h.parts name (List.mem_cons_self ..)).2 c hname)

theorem isBlank_of_mem_scopedName (h : IsRecordName scopes name) {c : Char}
    (hc : c ∈ scopedName scopes name) : isBlank c = false := by
  rcases mem_scopedName h hc with hword | rfl
  · exact isBlank_of_isWordChar hword
  · decide

theorem scopedName_ne_nil (h : IsRecordName scopes name) : scopedName scopes name ≠ [] := by
  obtain ⟨c, rest, heq, -⟩ := h.start
  rw [heq]
  exact List.cons_ne_nil _ _

theorem words_scopedName (h : IsRecordName scopes name) :
    words (scopedName scopes name) = [scopedName scopes name] :=
  words_of_isWord ⟨scopedName_ne_nil h, fun _ => isBlank_of_mem_scopedName h⟩

theorem stripQualifiers_scopedName (h : IsRecordName scopes name) :
    stripQualifiers (scopedName scopes name) = scopedName scopes name := by
  have hleading : scopedName scopes name ∉ leadingQualifiers := by
    have hfree := h.free
    simp only [reservedNames, List.mem_append, not_or] at hfree
    exact hfree.2
  have htrailing : scopedName scopes name ∉ trailingQualifiers := by
    have hsubset : ∀ word ∈ trailingQualifiers, word ∈ leadingQualifiers := by decide
    exact mt (hsubset _) hleading
  rw [stripQualifiers, words_scopedName h, stripWords,
    List.dropWhile_cons_of_neg (by simpa using hleading)]
  simp [htrailing]

/-! ### The last part of a name -/

/-- Reading the last part goes over letters. -/
theorem lastScopeFrom_append {word : List Char} (hword : ':' ∉ word) (part rest : List Char) :
    lastScopeFrom part (word ++ rest) = lastScopeFrom (word.reverse ++ part) rest := by
  induction word generalizing part with
  | nil => rfl
  | cons c word ih =>
      rw [List.mem_cons, not_or] at hword
      have hstep : lastScopeFrom part (c :: (word ++ rest)) =
          lastScopeFrom (c :: part) (word ++ rest) :=
        lastScopeFrom.eq_3 part c (word ++ rest) fun tail hc _ => hword.1 hc.symm
      rw [List.cons_append, hstep, ih hword.2]
      simp

theorem notMem_of_isWordChar {word : List Char} (hword : ∀ c ∈ word, isWordChar c = true)
    {d : Char} (hd : isWordChar d = false) : d ∉ word := by
  intro hmem
  rw [hword d hmem] at hd
  exact Bool.noConfusion hd

/-- **The last part of a name is found.** -/
theorem lastScope_scopedName (h : IsRecordName scopes name) :
    lastScope (scopedName scopes name) = name := by
  have hcolon : isWordChar ':' = false := by decide
  have hparts : ∀ part ∈ name :: scopes, ':' ∉ part := fun part hpart =>
    notMem_of_isWordChar (h.parts part hpart).2 hcolon
  rw [List.forall_mem_cons] at hparts
  have hscopes : lastScopeFrom [] (scopedName scopes name) = lastScopeFrom [] name := by
    clear h
    obtain ⟨-, hscopes⟩ := hparts
    induction scopes with
    | nil => rfl
    | cons scope scopes ih =>
        rw [List.forall_mem_cons] at hscopes
        have hname : scopedName (scope :: scopes) name =
            scope ++ ':' :: ':' :: scopedName scopes name := by simp [scopedName]
        rw [hname, lastScopeFrom_append hscopes.1, lastScopeFrom, ih hscopes.2]
  have hlast := lastScopeFrom_append hparts.1 [] []
  rw [List.append_nil, List.append_nil] at hlast
  rw [lastScope, hscopes, hlast, lastScopeFrom, List.reverse_reverse]

/-! ### Names of the string type -/

/-- The letters, numbers and underscores at the end of a text. -/
def lastWord (cs : List Char) : List Char := (cs.reverse.takeWhile isWordChar).reverse

theorem lastWord_append {word : List Char} (hword : ∀ c ∈ word, isWordChar c = true)
    {before : List Char} (hbefore : ∀ c ∈ before.getLast?, isWordChar c = false) :
    lastWord (before ++ word) = word := by
  have hreverse : ∀ c ∈ word.reverse, isWordChar c = true := fun c hc =>
    hword c (List.mem_reverse.1 hc)
  rw [lastWord, List.reverse_append, List.takeWhile_append_of_pos hreverse]
  have hend : before.reverse.takeWhile isWordChar = [] := by
    rcases List.eq_nil_or_concat before with rfl | ⟨front, c, rfl⟩
    · rfl
    · have hc := hbefore c (by simp)
      simp [hc]
  rw [hend, List.append_nil, List.reverse_reverse]

/-- The name of the string type in a text without brackets and lines is the word `string`. -/
theorem eq_of_startsString {cs : List Char} (hbracket : '<' ∉ cs) (hline : '\n' ∉ cs)
    (h : startsString cs = true) : cs = "string".toList := by
  rw [startsString, Bool.or_eq_true] at h
  rcases h with h | h
  · split at h
    · rename_i rest hafter
      have hcs := dropStart?_eq_some_iff.1 hafter
      simp only [Bool.or_eq_true, beq_iff_eq] at h
      rcases h with rfl | rfl
      · simpa using hcs
      · exact absurd (by simp [hcs]) hline
    · simp at h
  · -- the template needs a bracket
    split at h
    · rename_i rest hafter
      split at h
      · rename_i inner hdrop
        have hmem : '<' ∈ rest :=
          (dropBlank_suffix rest).mem (by rw [hdrop]; exact List.mem_cons_self ..)
        exact absurd ((suffix_of_after? hafter).mem hmem) hbracket
      · simp at h
    · simp at h

theorem suffix_of_scopedString {cs : List Char} (hbracket : '<' ∉ cs) (hline : '\n' ∉ cs)
    (h : scopedString cs = true) : "::string".toList <:+ cs := by
  induction cs with
  | nil => simp [scopedString] at h
  | cons c cs ih =>
      unfold scopedString at h
      rw [Bool.or_eq_true] at h
      rw [List.mem_cons, not_or] at hbracket hline
      rcases h with h | h
      · split at h
        · rename_i tail
          have htail : tail = "string".toList :=
            eq_of_startsString (mt (List.mem_cons_of_mem _) hbracket.2)
              (mt (List.mem_cons_of_mem _) hline.2) h
          rw [htail]
          exact List.suffix_rfl
        · simp at h
      · exact (ih hbracket.2 hline.2 h).trans (List.suffix_cons ..)

/-- **A name of the string type ends in the word `string`.** -/
theorem lastWord_of_namesString {cs : List Char} (hbracket : '<' ∉ cs) (hline : '\n' ∉ cs)
    (h : namesString cs = true) : lastWord cs = "string".toList := by
  have hstring : ∀ c ∈ "string".toList, isWordChar c = true := forall_mem_of_all (by decide)
  rw [namesString, Bool.or_eq_true] at h
  rcases h with h | h
  · rw [eq_of_startsString hbracket hline h]
    have hnone : ∀ c ∈ ([] : List Char).getLast?, isWordChar c = false := by simp
    exact lastWord_append hstring hnone
  · obtain ⟨before, rfl⟩ := suffix_of_scopedString hbracket hline h
    have hsplit : before ++ "::string".toList = (before ++ [':', ':']) ++ "string".toList := by simp
    rw [hsplit]
    exact lastWord_append hstring (by simp; decide)

theorem lastWord_qualified (h : IsRecordName scopes name) {qualification : String}
    (hq : qualification ∈ qualifications) :
    lastWord (qualification.toList ++ scopedName scopes name) = name := by
  have hname := (h.parts name (List.mem_cons_self ..)).2
  rw [scopedName, ← List.append_assoc]
  refine lastWord_append hname fun c hc => ?_
  rcases List.eq_nil_or_concat scopes with rfl | ⟨front, scope, rfl⟩
  · -- a name without scopes stands behind a space or behind nothing
    have hspace : ∀ q ∈ qualifications, q.toList.getLast?.any isWordChar = false := by decide
    rw [List.flatMap_nil, List.append_nil] at hc
    have hlast := hspace qualification hq
    rwa [Option.mem_def.1 hc] at hlast
  · have hlast : c = ':' := by simpa using hc.symm
    rw [hlast]
    decide

/-- **A name of a record that names the string type has the last part `string`.** -/
theorem eq_of_namesString (h : IsRecordName scopes name) {qualification : String}
    (hq : qualification ∈ qualifications)
    (hstring : namesString (qualification.toList ++ scopedName scopes name) = true) :
    name = "string".toList := by
  have hletters : ∀ q ∈ qualifications, '<' ∉ q.toList ∧ '\n' ∉ q.toList := by decide
  have hother : ∀ d : Char, isWordChar d = false → d ≠ ':' → d ∉ scopedName scopes name := by
    intro d hword hcolon hmem
    rcases mem_scopedName h hmem with hd | hd
    · rw [hword] at hd
      exact Bool.noConfusion hd
    · exact hcolon hd
  have hbracket : '<' ∉ qualification.toList ++ scopedName scopes name := by
    rw [List.mem_append, not_or]
    exact ⟨(hletters _ hq).1, hother '<' (by decide) (by decide)⟩
  have hline : '\n' ∉ qualification.toList ++ scopedName scopes name := by
    rw [List.mem_append, not_or]
    exact ⟨(hletters _ hq).2, hother '\n' (by decide) (by decide)⟩
  rw [← lastWord_qualified h hq]
  exact lastWord_of_namesString hbracket hline hstring

/-! ### The type of a name -/

theorem isScopedName_scopedName (h : IsRecordName scopes name) :
    isScopedName (scopedName scopes name) = true := by
  obtain ⟨c, rest, heq, hc⟩ := h.start
  rw [heq, isScopedName, hc, Bool.true_and, List.all_eq_true]
  intro d hd
  have hmem : d ∈ scopedName scopes name := by rw [heq]; exact List.mem_cons_of_mem _ hd
  rcases mem_scopedName h hmem with hword | rfl
  · rw [hword, Bool.true_or]
  · decide

/-- The type of a name of a record is the string type or a record of its last part. -/
theorem shapeOfName_scopedName (h : IsRecordName scopes name) :
    shapeOfName (scopedName scopes name) =
      let spelling := String.ofList (scopedName scopes name)
      if namesString (scopedName scopes name) then { kind := .string, spelling }
      else { kind := .record, spelling, recordName := some (String.ofList name) } := by
  have hfree := h.free
  simp only [reservedNames, List.mem_append, List.mem_map, not_or, not_exists, not_and] at hfree
  obtain ⟨⟨hstrings, hinteger⟩, -⟩ := hfree
  have hother : ∀ s ∈ ["bool", "void"] ++ characterNames ++ floatingNames ++ integerNames,
      String.ofList (scopedName scopes name) ≠ s := by
    rintro s hs rfl
    simp only [List.mem_append] at hs
    exact hstrings _ hs String.toList_ofList
  have hcharacter : String.ofList (scopedName scopes name) ∉ characterNames := fun hmem =>
    hother _ (by simp [hmem]) rfl
  have hfloating : String.ofList (scopedName scopes name) ∉ floatingNames := fun hmem =>
    hother _ (by simp [hmem]) rfl
  have hnames : String.ofList (scopedName scopes name) ∉ integerNames := fun hmem =>
    hother _ (by simp [hmem]) rfl
  have hbool := hother "bool" (by simp)
  have hvoid := hother "void" (by simp)
  simp [shapeOfName, hbool, hvoid, hcharacter, hfloating, hnames, words_scopedName h, hinteger,
    isScopedName_scopedName h, lastScope_scopedName h]

end Names

end Signature

end TeachingTree
