import Whereabouts.Proofs.Names

/-!
# Names of published projects

The published project that a path names is the first of its names that is `PRJ-` and decimal
digits, whatever the other names are and however many slashes part them.
-/

namespace Whereabouts
namespace RemotePath

/-!
## Segments
-/

/-- `PRJ-` and decimal digits of any script, at least one. -/
def isProjectName (name : List Char) : Bool :=
  match Text.after? ['P', 'R', 'J', '-'] name with
  | none => false
  | some number => !number.isEmpty && number.all Text.isDecimalDigit

theorem isProjectName_iff {name : List Char} :
    isProjectName name = true <-> exists number, number ≠ [] ∧
      (forall c, c ∈ number -> Text.isDecimalDigit c = true) ∧
        name = ['P', 'R', 'J', '-'] ++ number := by
  unfold isProjectName
  cases hmark : Text.after? ['P', 'R', 'J', '-'] name with
  | none =>
      refine ⟨(fun h => nomatch h), ?_⟩
      rintro ⟨number, _, _, hname⟩
      rw [Text.after?_eq_some_iff.mpr hname] at hmark
      cases hmark
  | some number =>
      rw [Text.after?_eq_some_iff] at hmark
      subst hmark
      simp

theorem ne_nil_of_isProjectName {name : List Char} (h : isProjectName name = true) :
    name ≠ [] := by
  rcases isProjectName_iff.mp h with ⟨number, _, _, rfl⟩
  exact List.cons_ne_nil _ _

theorem slash_not_mem_of_isProjectName {name : List Char} (h : isProjectName name = true) :
    '/' ∉ name := by
  rcases isProjectName_iff.mp h with ⟨number, _, hdigits, rfl⟩
  intro hslash
  rcases List.mem_append.mp hslash with hslash | hslash
  · exact absurd hslash (by decide)
  · exact absurd (hdigits '/' hslash) (by decide +kernel)

/-- A segment ends in front of a text that is empty or starts with a slash. -/
def Ends (rest : List Char) : Prop :=
  rest = [] ∨ exists more, rest = '/' :: more

theorem takeWhile_segment {kind : Char -> Bool} (hslash : kind '/' = false)
    {segment rest : List Char} (hsegment : forall c, c ∈ segment -> kind c = true)
    (hrest : Ends rest) : (segment ++ rest).takeWhile kind = segment := by
  refine Text.takeWhile_run hsegment fun c hc => ?_
  rcases hrest with rfl | ⟨more, rfl⟩
  · cases hc
  · cases hc
    exact hslash

theorem segment_unique {segment other rest rest' : List Char} (hsegment : '/' ∉ segment)
    (hother : '/' ∉ other) (hrest : Ends rest) (hrest' : Ends rest')
    (h : segment ++ rest = other ++ rest') : segment = other := by
  have hkind : forall {s : List Char}, '/' ∉ s -> forall c, c ∈ s -> (c != '/') = true := by
    intro s hs c hc
    rw [bne_iff_ne]
    rintro rfl
    exact hs hc
  have hwhile := congrArg (List.takeWhile fun c => c != '/') h
  rwa [takeWhile_segment (by decide) (hkind hsegment) hrest,
    takeWhile_segment (by decide) (hkind hother) hrest'] at hwhile

/-!
## The search
-/

/-- A text starts with a published project when its first segment is the name of one. -/
theorem projectHere?_eq_some_iff {s project : List Char} :
    projectHere? s = some project <->
      isProjectName project = true ∧ exists rest, s = project ++ rest ∧ Ends rest := by
  unfold projectHere?
  constructor
  · intro h
    split at h
    · cases h
    · rename_i tail htail
      rw [Text.after?_eq_some_iff] at htail
      dsimp only at h
      split at h
      · cases h
      · rename_i hne
        split at h
        · rename_i hend
          cases h
          have hdigits : forall c, c ∈ tail.takeWhile Text.isDecimalDigit ->
              Text.isDecimalDigit c = true := List.all_eq_true.mp List.all_takeWhile
          have hsplit := List.prefix_iff_eq_append.mp
            (List.takeWhile_prefix (l := tail) Text.isDecimalDigit)
          refine ⟨isProjectName_iff.mpr ⟨_, by simpa using hne, hdigits, rfl⟩,
            tail.drop (tail.takeWhile Text.isDecimalDigit).length, ?_, ?_⟩
          · rw [htail]
            exact congrArg (['P', 'R', 'J', '-'] ++ ·) hsplit.symm
          · unfold Ends
            cases hrest : tail.drop (tail.takeWhile Text.isDecimalDigit).length with
            | nil => exact Or.inl rfl
            | cons c more =>
                rw [hrest] at hend
                have hc : c = '/' := by simpa using hend
                exact Or.inr ⟨more, by rw [hc]⟩
        · cases h
  · rintro ⟨hproject, rest, rfl, hrest⟩
    rcases isProjectName_iff.mp hproject with ⟨number, hne, hdigits, rfl⟩
    have htail : Text.after? ['P', 'R', 'J', '-'] (['P', 'R', 'J', '-'] ++ number ++ rest) =
        some (number ++ rest) := by
      rw [Text.after?_eq_some_iff, List.append_assoc]
    rw [htail]
    dsimp only
    rw [takeWhile_segment (by decide +kernel) hdigits hrest, List.drop_left,
      if_neg (by simpa using hne), if_pos]
    · rfl
    · rcases hrest with rfl | ⟨more, rfl⟩ <;> rfl

theorem projectHere?_append {segment rest : List Char} (hsegment : '/' ∉ segment)
    (hrest : Ends rest) :
    projectHere? (segment ++ rest) = if isProjectName segment then some segment else none := by
  cases hname : isProjectName segment with
  | true => exact projectHere?_eq_some_iff.mpr ⟨hname, rest, rfl, hrest⟩
  | false =>
      apply Option.eq_none_iff_forall_ne_some.mpr
      intro project hproject
      rcases projectHere?_eq_some_iff.mp hproject with ⟨hother, rest', heq, hrest'⟩
      have hsame := segment_unique hsegment (slash_not_mem_of_isProjectName hother)
        hrest hrest' heq
      rw [← hsame, hname] at hother
      cases hother

theorem projectBehind?_append {segment : List Char} (hsegment : '/' ∉ segment)
    (rest : List Char) : projectBehind? (segment ++ rest) = projectBehind? rest := by
  induction segment with
  | nil => rfl
  | cons c segment ih =>
      rw [List.mem_cons, not_or] at hsegment
      rw [List.cons_append, projectBehind?, if_neg (Ne.symm hsegment.1)]
      exact ih hsegment.2

theorem projectBehind?_slash (rest : List Char) :
    projectBehind? ('/' :: rest) = (projectHere? rest).or (projectBehind? rest) := by
  rw [projectBehind?, if_pos rfl]
  cases projectHere? rest <;> rfl

theorem projectHere?_or_projectBehind? (s : List Char) :
    (projectHere? s).or (projectBehind? s) = (Text.pieces '/' s).find? isProjectName := by
  induction hlength : s.length using Nat.strongRecOn generalizing s with
  | ind n ih =>
      by_cases hslash : '/' ∈ s
      · rcases List.eq_append_cons_of_mem hslash with ⟨segment, rest, rfl, hsegment⟩
        have hshort : rest.length < n := by
          rw [← hlength, List.length_append, List.length_cons]
          omega
        rw [projectHere?_append hsegment (Or.inr ⟨rest, rfl⟩), projectBehind?_append hsegment,
          projectBehind?_slash, ih _ hshort rest rfl, Text.pieces_append_sep,
          Text.pieces_of_not_mem hsegment, List.singleton_append, List.find?_cons]
        cases isProjectName segment <;> rfl
      · have hhere := projectHere?_append hslash (Or.inl rfl)
        have hbehind := projectBehind?_append hslash []
        rw [List.append_nil] at hhere hbehind
        rw [hhere, hbehind, Text.pieces_of_not_mem hslash, List.find?_cons]
        cases isProjectName s <;> rfl

/-- The published project that a path names is the first of its segments that is one. -/
theorem publishedProject?_eq_find? (path : String) :
    publishedProject? path = ((segments path).find? isProjectName).map String.ofList := by
  rw [segments, <- projectHere?_or_projectBehind?, publishedProject?]
  cases projectHere? path.toList <;> rfl

theorem publishedProject?_eq (path : String) :
    publishedProject? path = ((names path).find? isProjectName).map String.ofList := by
  rw [publishedProject?_eq_find?, segments, names, namesIn, List.find?_filter]
  congr 2
  funext name
  cases hname : isProjectName name with
  | false => simp
  | true => simp [ne_nil_of_isProjectName hname]

end RemotePath
end Whereabouts
