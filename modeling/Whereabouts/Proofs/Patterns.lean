import Whereabouts.Proofs.ProjectNames

/-!
# Patterns

Regular patterns with one group.  A search takes the leftmost place at which a pattern fits,
and of the ways in which it fits there the preferred one.  The published project of a path
is what the group of a pattern takes that consumes the slashes on both sides; that is the
first segment of the form, whatever stands in front of it.
-/

namespace Whereabouts
namespace Text

/-!
## Fitting and searching
-/

/-- A regular pattern.  `several` prefers as many characters as possible, and `either`
prefers its first part. -/
inductive Pattern where
  | start
  | finish
  | literal (text : List Char)
  | several (kind : Char -> Bool)
  | both (first second : Pattern)
  | either (first second : Pattern)
  | group (inner : Pattern)

/-- A text that has been read to some place, with what the group has taken of it. -/
structure Reading where
  read : List Char
  rest : List Char
  taken : Option (List Char)

def Reading.advance (reading : Reading) (count : Nat) : Reading :=
  { reading with
    read := reading.read ++ reading.rest.take count
    rest := reading.rest.drop count }

namespace Pattern

/-- The readings behind a pattern, the preferred ones first. -/
def fits : Pattern -> Reading -> List Reading
  | start, reading => if reading.read.isEmpty then [reading] else []
  | finish, reading => if reading.rest.isEmpty then [reading] else []
  | literal text, reading =>
      if text.isPrefixOf reading.rest then [reading.advance text.length] else []
  | several kind, reading =>
      (List.range (reading.rest.takeWhile kind).length).reverse.map fun count =>
        reading.advance (count + 1)
  | both first second, reading => (first.fits reading).flatMap second.fits
  | either first second, reading => first.fits reading ++ second.fits reading
  | group inner, reading =>
      (inner.fits reading).map fun after =>
        { after with taken := some (after.read.drop reading.read.length) }

/-- The preferred reading behind a pattern at the first place from here on where it fits. -/
def searchFrom (pattern : Pattern) (read : List Char) : List Char -> Option Reading
  | [] => (pattern.fits ⟨read, [], none⟩).head?
  | c :: rest =>
      (pattern.fits ⟨read, c :: rest, none⟩).head?.or (pattern.searchFrom (read ++ [c]) rest)

def search (pattern : Pattern) (text : List Char) : Option (List Char) :=
  (pattern.searchFrom [] text).bind Reading.taken

end Pattern
end Text

namespace RemotePath

open Text

/-!
## The pattern of published projects
-/

/-- What stands behind a segment: a slash, or nothing. -/
def segmentEnd : Pattern :=
  .either (.literal ['/']) .finish

/-- A segment that is `PRJ-` and decimal digits. -/
def projectSegment : Pattern :=
  .both (.group (.both (.literal ['P', 'R', 'J', '-']) (.several isDecimalDigit))) segmentEnd

/-- A published project between slashes or the ends of the text. -/
def projectPattern : Pattern :=
  .both (.either .start (.literal ['/'])) projectSegment

theorem taken_segmentEnd (reading : Reading) :
    (segmentEnd.fits reading).map Reading.taken =
      if reading.rest.isEmpty || reading.rest.head? = some '/' then [reading.taken] else [] := by
  rcases reading with ⟨read, _ | ⟨c, rest⟩, taken⟩
  · rfl
  · by_cases hc : c = '/'
    · subst hc
      simp [segmentEnd, Pattern.fits, Reading.advance]
    · simp [segmentEnd, Pattern.fits, hc, Ne.symm hc]

theorem flatMap_reverse_range {β : Type} {count : Nat} {f : Nat -> List β}
    (hshort : forall n, n + 1 < count -> f n = []) :
    (List.range count).reverse.flatMap f = if count = 0 then [] else f (count - 1) := by
  cases count with
  | zero => rfl
  | succ last =>
      have hrest : (List.range last).reverse.flatMap f = [] := by
        rw [List.flatMap_eq_nil_iff]
        intro n hn
        rw [List.mem_reverse, List.mem_range] at hn
        exact hshort n (by omega)
      rw [List.range_succ, List.reverse_append, List.reverse_singleton, List.singleton_append,
        List.flatMap_cons, hrest, List.append_nil, if_neg (Nat.succ_ne_zero last)]
      rfl

theorem not_segmentEnd_of_lt {tail : List Char} {count : Nat}
    (hcount : count < (tail.takeWhile isDecimalDigit).length) :
    ((tail.drop count).isEmpty || (tail.drop count).head? = some '/') = false := by
  have hlength : count < tail.length :=
    Nat.lt_of_lt_of_le hcount (List.takeWhile_prefix isDecimalDigit).length_le
  have hdigit : isDecimalDigit tail[count] = true := by
    have hmem := List.getElem_mem hcount
    rw [(List.takeWhile_prefix isDecimalDigit).getElem hcount] at hmem
    exact List.all_eq_true.mp List.all_takeWhile _ hmem
  have hslash : tail[count] ≠ '/' := by
    intro heq
    rw [heq] at hdigit
    exact absurd hdigit (by decide +kernel)
  rw [List.drop_eq_getElem_cons hlength, List.isEmpty_cons, List.head?_cons]
  simpa using hslash

/-- Behind `PRJ-` the group takes some of the digits, the most of them first, where a segment
ends behind those. -/
theorem taken_projectSegment_append (read tail : List Char) (taken : Option (List Char)) :
    (projectSegment.fits ⟨read, ['P', 'R', 'J', '-'] ++ tail, taken⟩).map Reading.taken =
      (List.range (tail.takeWhile isDecimalDigit).length).reverse.flatMap fun count =>
        if (tail.drop (count + 1)).isEmpty || (tail.drop (count + 1)).head? = some '/' then
          [some (['P', 'R', 'J', '-'] ++ tail.take (count + 1))]
        else [] := by
  have hmark : ['P', 'R', 'J', '-'].isPrefixOf (['P', 'R', 'J', '-'] ++ tail) = true := by
    rw [List.isPrefixOf_iff_prefix]
    exact List.prefix_append _ _
  have hbehind : (⟨read, ['P', 'R', 'J', '-'] ++ tail, taken⟩ : Reading).advance 4 =
      ⟨read ++ ['P', 'R', 'J', '-'], tail, taken⟩ := rfl
  simp only [projectSegment, Pattern.fits, if_pos hmark, List.flatMap_cons, List.flatMap_nil,
    List.append_nil, List.length_cons, List.length_nil]
  rw [hbehind, List.map_map, List.flatMap_map, List.map_flatMap]
  congr 1
  funext count
  rw [taken_segmentEnd]
  simp [Reading.advance]

theorem taken_projectSegment (reading : Reading) :
    (projectSegment.fits reading).map Reading.taken =
      (projectHere? reading.rest).toList.map some := by
  rcases reading with ⟨read, rest, taken⟩
  unfold projectHere?
  cases hmark : after? ['P', 'R', 'J', '-'] rest with
  | none =>
      have hprefix : (['P', 'R', 'J', '-'].isPrefixOf rest) = false := by
        rw [Bool.eq_false_iff, Ne, List.isPrefixOf_iff_prefix]
        rintro ⟨tail, htail⟩
        rw [after?_eq_some_iff.mpr htail.symm] at hmark
        cases hmark
      simp [projectSegment, Pattern.fits, hprefix]
  | some tail =>
      rw [after?_eq_some_iff] at hmark
      subst hmark
      rw [taken_projectSegment_append, flatMap_reverse_range]
      · dsimp only
        have htake : tail.take (tail.takeWhile isDecimalDigit).length =
            tail.takeWhile isDecimalDigit :=
          (List.prefix_iff_eq_take.mp (List.takeWhile_prefix isDecimalDigit)).symm
        by_cases hnumber : tail.takeWhile isDecimalDigit = []
        · rw [hnumber]
          rfl
        · have hlast : (tail.takeWhile isDecimalDigit).length - 1 + 1 =
              (tail.takeWhile isDecimalDigit).length :=
            Nat.sub_add_cancel (List.length_pos_iff.mpr hnumber)
          rw [if_neg (by simpa using hnumber), hlast, htake,
            if_neg (c := (tail.takeWhile isDecimalDigit).isEmpty = true) (by simpa using hnumber)]
          split <;> rfl
      · intro count hcount
        rw [not_segmentEnd_of_lt hcount]
        rfl

theorem taken_projectPattern (read rest : List Char) :
    ((projectPattern.fits ⟨read, rest, none⟩).head?).map Reading.taken =
      ((if read.isEmpty then projectHere? rest else none).or
        (if rest.head? = some '/' then projectHere? rest.tail else none)).map some := by
  have htaken : (projectPattern.fits ⟨read, rest, none⟩).map Reading.taken =
      (if read.isEmpty then projectHere? rest else none).toList.map some ++
        (if rest.head? = some '/' then projectHere? rest.tail else none).toList.map some := by
    rw [projectPattern, Pattern.fits, Pattern.fits, Pattern.fits, Pattern.fits,
      List.flatMap_append, List.map_append]
    congr 1
    · split
      · rw [List.flatMap_singleton, taken_projectSegment]
      · rfl
    · rcases rest with _ | ⟨c, rest⟩
      · rfl
      · by_cases hc : c = '/'
        · subst hc
          simp [taken_projectSegment, Reading.advance]
        · simp [hc, Ne.symm hc]
  rw [<- List.head?_map, htaken, List.head?_append, List.head?_map, List.head?_map,
    Option.head?_toList, Option.head?_toList, Option.map_or]

/-- From some place on the search finds what the text goes on with there, if that is the
start of the text, and else what stands behind the next slash that has a project behind it. -/
theorem taken_searchFrom (read text : List Char) :
    (projectPattern.searchFrom read text).map Reading.taken =
      ((if read.isEmpty then projectHere? text else none).or (projectBehind? text)).map some := by
  induction text generalizing read with
  | nil =>
      rw [Pattern.searchFrom, taken_projectPattern]
      rfl
  | cons c rest ih =>
      have hread : (read ++ [c]).isEmpty = false := by simp
      have hbehind : projectBehind? (c :: rest) =
          (if c = '/' then projectHere? rest else none).or (projectBehind? rest) := by
        rw [projectBehind?]
        cases if c = '/' then projectHere? rest else none <;> rfl
      rw [Pattern.searchFrom, Option.map_or, taken_projectPattern, ih, hread, hbehind,
        <- Option.map_or, if_neg Bool.false_ne_true, Option.none_or, <- Option.or_assoc]
      simp

/-- The search finds the first segment that is the name of a published project. -/
theorem search_projectPattern (text : List Char) :
    projectPattern.search text = (pieces '/' text).find? isProjectName := by
  have htaken := taken_searchFrom [] text
  rw [List.isEmpty_nil, if_pos rfl, projectHere?_or_projectBehind?] at htaken
  rw [Pattern.search]
  cases hfound : projectPattern.searchFrom [] text with
  | none =>
      rw [hfound, Option.map_none] at htaken
      exact (Option.map_eq_none_iff.mp htaken.symm).symm
  | some found =>
      rw [hfound, Option.map_some] at htaken
      cases hfirst : (pieces '/' text).find? isProjectName with
      | none =>
          rw [hfirst] at htaken
          cases htaken
      | some project =>
          rw [hfirst] at htaken
          simpa using htaken

/-- The published project of a path is what a search for its pattern takes, and that is the
first segment which is `PRJ-` and decimal digits; there is none exactly when no segment is. -/
theorem publishedProject?_first (path : String) :
    publishedProject? path = (projectPattern.search path.toList).map String.ofList ∧
      (forall project, publishedProject? path = some project <->
        exists before after, segments path = before ++ project.toList :: after ∧
          isProjectName project.toList = true ∧
          forall segment, segment ∈ before -> isProjectName segment = false) ∧
      (publishedProject? path = none <->
        forall segment, segment ∈ segments path -> isProjectName segment = false) := by
  refine ⟨?_, fun project => ?_, ?_⟩
  · rw [publishedProject?_eq_find?, search_projectPattern]
    rfl
  · have hfirst : publishedProject? path = some project <->
        (segments path).find? isProjectName = some project.toList := by
      rw [publishedProject?_eq_find?, Option.map_eq_some_iff]
      constructor
      · rintro ⟨name, hname, rfl⟩
        rwa [String.toList_ofList]
      · exact fun hname => ⟨_, hname, String.ofList_toList⟩
    rw [hfirst, List.find?_eq_some_iff_append]
    constructor
    · rintro ⟨hproject, before, after, hsegments, hbefore⟩
      exact ⟨before, after, hsegments, hproject, by simpa using hbefore⟩
    · rintro ⟨before, after, hsegments, hproject, hbefore⟩
      exact ⟨hproject, before, after, hsegments, by simpa using hbefore⟩
  · rw [publishedProject?_eq_find?, Option.map_eq_none_iff, List.find?_eq_none]
    simp

example : publishedProject? "PRJ-/PRJ-1x//PRJ-7" = some "PRJ-7" := by
  decide +kernel

end RemotePath
end Whereabouts
