import Whereabouts.Command.Inspection
import Whereabouts.Variables.Mentions

/-!
# Mentions of variables

Every place in a text at which the common start of the variables stands is a mention, also
one inside another.  The names of a text are those that its mentions reach to, in their
order; that the search goes on behind a place it has found costs none, as the common start
does not overlap itself.  A variable that is mentioned whole is never reported as unknown.
-/

namespace Whereabouts

open Mentions

/-- A place in a text with what stands in front of it, with the characters of a name from
there on, and with what comes behind those. -/
structure Mention where
  before : List Char
  key : List Char
  after : List Char

namespace Mention

/-- What may stand behind a name: nothing, or a character that no name has. -/
def Ends (after : List Char) : Prop :=
  after = [] ∨ exists c rest, after = c :: rest ∧ isNameChar c = false

/-- The common start stands at the place of a mention, which has the longest run of
characters of a name. -/
structure Stands (mention : Mention) (text : List Char) : Prop where
  text_eq : text = mention.before ++ mention.key ++ mention.after
  starts : start <+: mention.key
  named : forall c, c ∈ mention.key -> isNameChar c = true
  ends : Ends mention.after

/-- Whether what is mentioned is the name of a variable, not the common start alone and not
a part that ends with an underscore. -/
def isWhole (mention : Mention) : Bool :=
  mention.key != start && mention.key.getLast? != some '_'

/-- The mention at a place, where `rest` follows the common start. -/
def placed (before rest : List Char) : Mention where
  before := before
  key := start ++ rest.takeWhile isNameChar
  after := rest.dropWhile isNameChar

end Mention

namespace Mentions

/-- The mentions in a text, one for each place of the common start, behind a part in which
they have been found. -/
def mentionsFrom (before : List Char) : List Char -> List Mention
  | [] => []
  | c :: rest =>
      match Text.after? start (c :: rest) with
      | some tail => .placed before tail :: mentionsFrom (before ++ [c]) rest
      | none => mentionsFrom (before ++ [c]) rest

def mentions (text : String) : List Mention :=
  mentionsFrom [] text.toList

/-!
## Places
-/

theorem exists_place_iff {c : Char} {text : List Char} {P : List Char -> List Char -> Prop} :
    (exists front rest, c :: text = front ++ start ++ rest ∧ P front rest) <->
      (exists tail, Text.after? start (c :: text) = some tail ∧ P [] tail) ∨
        exists front rest, text = front ++ start ++ rest ∧ P (c :: front) rest := by
  constructor
  · rintro ⟨_ | ⟨d, front⟩, rest, htext, hP⟩
    · exact Or.inl ⟨rest, Text.after?_eq_some_iff.mpr htext, hP⟩
    · cases (List.cons.inj htext).1
      exact Or.inr ⟨front, rest, (List.cons.inj htext).2, hP⟩
  · rintro (⟨tail, htail, hP⟩ | ⟨front, rest, rfl, hP⟩)
    · exact ⟨[], tail, Text.after?_eq_some_iff.mp htail, hP⟩
    · exact ⟨c :: front, rest, rfl, hP⟩

theorem mem_mentionsFrom_iff {mention : Mention} {before text : List Char} :
    mention ∈ mentionsFrom before text <-> exists front rest,
      text = front ++ start ++ rest ∧ mention = .placed (before ++ front) rest := by
  induction text generalizing before with
  | nil =>
      refine ⟨(fun h => nomatch h), ?_⟩
      rintro ⟨front, rest, htext, _⟩
      cases front <;> cases htext
  | cons c text ih =>
      have hlater : mention ∈ mentionsFrom (before ++ [c]) text <-> exists front rest,
          text = front ++ start ++ rest ∧ mention = .placed (before ++ c :: front) rest := by
        rw [ih]
        simp
      rw [exists_place_iff, <- hlater, List.append_nil, mentionsFrom]
      cases Text.after? start (c :: text) with
      | none => simp
      | some tail => simp

theorem pairwise_mentionsFrom (before text : List Char) :
    (mentionsFrom before text).Pairwise fun a b => a.before.length < b.before.length := by
  induction text generalizing before with
  | nil => exact .nil
  | cons c text ih =>
      rw [mentionsFrom]
      cases Text.after? start (c :: text) with
      | none => exact ih _
      | some tail =>
          refine List.pairwise_cons.mpr ⟨fun later hlater => ?_, ih _⟩
          rcases mem_mentionsFrom_iff.mp hlater with ⟨front, rest, _, rfl⟩
          simp only [Mention.placed, List.length_append, List.length_singleton]
          omega

end Mentions

namespace Mention

theorem Ends.head {after : List Char} (h : Ends after) :
    forall c, after.head? = some c -> isNameChar c = false := by
  rcases h with rfl | ⟨c, rest, rfl, hc⟩
  · exact fun d hd => nomatch hd
  · rintro d ⟨⟩
    exact hc

theorem ends_dropWhile (rest : List Char) : Ends (rest.dropWhile isNameChar) := by
  cases hrest : rest.dropWhile isNameChar with
  | nil => exact Or.inl rfl
  | cons c more => exact Or.inr ⟨c, more, rfl, Text.head?_dropWhile (by rw [hrest]; rfl)⟩

theorem stands_iff {mention : Mention} {text : List Char} :
    mention.Stands text <->
      exists before rest, text = before ++ start ++ rest ∧ mention = .placed before rest := by
  constructor
  · rintro ⟨htext, ⟨run, hkey⟩, hnamed, hends⟩
    rcases mention with ⟨before, key, after⟩
    dsimp only at htext hkey hnamed hends
    subst hkey
    have hrun : forall c, c ∈ run -> isNameChar c = true :=
      fun c hc => hnamed c (List.mem_append_right start hc)
    refine ⟨before, run ++ after, by simp [htext], ?_⟩
    rw [placed, Text.takeWhile_run hrun hends.head, Text.dropWhile_run hrun hends.head]
  · rintro ⟨before, rest, rfl, rfl⟩
    refine ⟨?_, List.prefix_append _ _, ?_, ends_dropWhile rest⟩
    · simp [placed, List.takeWhile_append_dropWhile]
    · have hstart : start.all isNameChar = true := by decide
      intro c hc
      rcases List.mem_append.mp hc with hc | hc
      · exact List.all_eq_true.mp hstart c hc
      · exact List.all_eq_true.mp List.all_takeWhile c hc

end Mention

namespace Mentions

/-!
## Names
-/

theorem mentionsFrom_start_tail (before rest : List Char) :
    mentionsFrom before (start.tail ++ rest) = mentionsFrom (before ++ start.tail) rest := by
  simp [start, mentionsFrom, Text.after?]

theorem name?_eq (before rest : List Char) :
    (name? rest).toList =
      if (Mention.placed before rest).isWhole then [(Mention.placed before rest).key] else [] := by
  unfold name? Mention.isWhole Mention.placed
  dsimp only
  cases hlast : (rest.takeWhile isNameChar).getLast? with
  | none =>
      rw [List.getLast?_eq_none_iff.mp hlast]
      rfl
  | some last =>
      have hkey : (start ++ rest.takeWhile isNameChar).getLast? = some last := by
        rw [List.getLast?_append, hlast]
        rfl
      have hlonger : start ++ rest.takeWhile isNameChar ≠ start := by
        intro heq
        rw [List.append_right_eq_self.mp heq] at hlast
        cases hlast
      by_cases hscore : last = '_'
      · simp [hkey, hscore]
      · simp [hkey, hscore, hlonger]

/-- The names of a text are the whole ones of its mentions. -/
theorem namesFrom_eq (before text : List Char) :
    namesFrom 0 text =
      ((mentionsFrom before text).filter Mention.isWhole).map Mention.key := by
  -- On the length of the text: the search goes on behind a place that it has found.
  induction hlength : text.length using Nat.strongRecOn generalizing before text with
  | ind n ih =>
      cases text with
      | nil => rfl
      | cons c rest =>
          rw [namesFrom, mentionsFrom]
          cases hhere : Text.after? start (c :: rest) with
          | none =>
              exact ih rest.length (by rw [<- hlength]; exact Nat.lt_succ_self _) _ rest rfl
          | some tail =>
              rw [Text.after?_eq_some_iff] at hhere
              have hrest : rest = start.tail ++ tail := (List.cons.inj hhere).2
              subst hrest
              have hskip :
                  namesFrom (start.length - 1) (start.tail ++ tail) = namesFrom 0 tail := rfl
              have hshort : tail.length < n := by
                rw [<- hlength, hhere, List.length_append]
                have hpos : 0 < start.length := by decide
                omega
              dsimp only
              rw [hskip, name?_eq before, mentionsFrom_start_tail, ih _ hshort _ tail rfl,
                List.filter_cons]
              split <;> rfl

/-!
## Bytes
-/

theorem utf8Size_of_isNameChar {c : Char} (h : isNameChar c = true) : c.utf8Size = 1 := by
  have hsmall : c.val ≤ 127 := by
    rw [isNameChar, Bool.or_eq_true, Bool.or_eq_true, decide_eq_true_eq] at h
    rcases h with (hupper | hdigit) | rfl
    · have hbounds : c.val ≥ 'A'.val ∧ c.val ≤ 'Z'.val := of_decide_eq_true hupper
      exact UInt32.le_trans hbounds.2 (by decide)
    · have hbounds := (Bool.and_eq_true_iff.mp hdigit).2
      exact UInt32.le_trans (of_decide_eq_true hbounds) (by decide)
    · decide
  exact Char.utf8Size_eq_one_iff.mpr hsmall

theorem utf8ByteSize_of_named {key : List Char}
    (hnamed : forall c, c ∈ key -> isNameChar c = true) :
    (String.ofList key).utf8ByteSize = key.length := by
  induction key with
  | nil => rfl
  | cons c key ih =>
      rw [List.forall_mem_cons] at hnamed
      rw [<- List.singleton_append, String.ofList_append, String.utf8ByteSize_append, ih hnamed.2,
        <- String.singleton_eq_ofList, String.utf8ByteSize_singleton,
        utf8Size_of_isNameChar hnamed.1, List.length_append, List.length_singleton]

theorem isValid_of_stands {mention : Mention} {text : String} (h : mention.Stands text.toList)
    {count : Nat} (hcount : count ≤ mention.key.length) :
    String.Pos.Raw.IsValid text
      ⟨(String.ofList mention.before).utf8ByteSize + count⟩ := by
  rw [String.Pos.Raw.isValid_iff_exists_append]
  refine ⟨String.ofList (mention.before ++ mention.key.take count),
    String.ofList (mention.key.drop count ++ mention.after), ?_, ?_⟩
  · apply String.toList_injective
    rw [h.text_eq, String.toList_append, String.toList_ofList, String.toList_ofList]
    simp [<- List.append_assoc (mention.key.take count)]
  · have htaken : forall c, c ∈ mention.key.take count -> isNameChar c = true :=
      fun c hc => h.named c (List.mem_of_mem_take hc)
    apply String.Pos.Raw.ext
    rw [String.byteIdx_rawEndPos, String.ofList_append, String.utf8ByteSize_append,
      utf8ByteSize_of_named htaken, List.length_take, Nat.min_eq_left hcount]

theorem extract_of_stands {mention : Mention} {text : String} (h : mention.Stands text.toList) :
    text.toByteArray.extract (String.ofList mention.before).utf8ByteSize
        ((String.ofList mention.before).utf8ByteSize + mention.key.length) =
      (String.ofList mention.key).toByteArray := by
  have htext : text = String.ofList mention.before ++ String.ofList mention.key ++
      String.ofList mention.after := by
    apply String.toList_injective
    rw [h.text_eq]
    simp
  have hsize : (String.ofList mention.key).toByteArray.size = mention.key.length := by
    rw [String.size_toByteArray, utf8ByteSize_of_named h.named]
  rw [htext, String.toByteArray_append, String.toByteArray_append, <- String.size_toByteArray,
    <- hsize, <- ByteArray.size_append, ByteArray.extract_append_size_left]
  exact ByteArray.extract_append_eq_right rfl ByteArray.size_append

/-!
## Unknown variables
-/

/-- A text stands in another one, up to its end or a character that no name has. -/
def StandsIn (name source : String) : Prop :=
  exists before after, source.toList = before ++ name.toList ++ after ∧ Mention.Ends after

theorem mem_mentions_iff {mention : Mention} {text : String} :
    mention ∈ mentions text <-> mention.Stands text.toList :=
  mem_mentionsFrom_iff.trans Mention.stands_iff.symm

theorem namesOf_eq (text : String) :
    namesOf text =
      ((mentions text).filter Mention.isWhole).map fun mention => String.ofList mention.key := by
  rw [namesOf, namesFrom_eq [], List.map_map]
  rfl

theorem mem_namesOf_of_standsIn {name source : String} (h : StandsIn name source)
    (hstart : start <+: name.toList) (hnamed : forall c, c ∈ name.toList -> isNameChar c = true)
    (hlast : name.toList.getLast? ≠ some '_') : name ∈ namesOf source := by
  rcases h with ⟨before, after, hsource, hends⟩
  have hwhole : Mention.isWhole ⟨before, name.toList, after⟩ = true := by
    have hlonger : name.toList ≠ start := by
      intro heq
      rw [heq] at hlast
      exact hlast rfl
    simp [Mention.isWhole, hlast, hlonger]
  rw [namesOf_eq, List.mem_map]
  refine ⟨⟨before, name.toList, after⟩, List.mem_filter.mpr ⟨?_, hwhole⟩, String.ofList_toList⟩
  exact mem_mentions_iff.mpr ⟨hsource, hstart, hnamed, hends⟩

theorem mem_unknownVariables_iff {allowed names : List String} {name : String} :
    name ∈ Command.unknownVariables allowed names <->
      name ∈ names ∧ start <+: name.toList ∧ name ∉ allowed := by
  have hstart : (Text.after? Command.variableStart.toList name.toList).isSome = true <->
      start <+: name.toList := by
    rw [Option.isSome_iff_exists]
    refine exists_congr fun rest => ?_
    rw [Text.after?_eq_some_iff, eq_comm]
    rfl
  rw [Command.unknownVariables, List.mem_mergeSort, List.mem_filter, Bool.and_eq_true, hstart]
  simp

/-- The names of a text are those of its mentions that are whole, in the order of their
places; there is one mention for each place at which the common start stands, and every cut
at a mention falls between two characters.  A name that stands in the text is never unknown
where all names of the text are allowed. -/
theorem namesOf_complete (text : String) :
    namesOf text =
        ((mentions text).filter Mention.isWhole).map (fun mention => String.ofList mention.key) ∧
      (mentions text).Pairwise (fun a b => a.before.length < b.before.length) ∧
      (forall mention, mention ∈ mentions text <-> mention.Stands text.toList) ∧
      (forall before rest, text.toList = before ++ start ++ rest ->
        exists mention, mention ∈ mentions text ∧ mention.before = before) ∧
      (forall mention, mention ∈ mentions text ->
        let place := (String.ofList mention.before).utf8ByteSize
        (forall count, count ≤ mention.key.length ->
          String.Pos.Raw.IsValid text ⟨place + count⟩) ∧
        text.toByteArray.extract place (place + mention.key.length) =
          (String.ofList mention.key).toByteArray) ∧
      (forall (allowed names : List String) (name : String),
        (forall key, key ∈ namesOf text -> key ∈ allowed) -> StandsIn name text ->
        (forall c, c ∈ name.toList -> isNameChar c = true) ->
        name.toList.getLast? ≠ some '_' ->
        name ∉ Command.unknownVariables allowed names) := by
  refine ⟨namesOf_eq text, pairwise_mentionsFrom [] text.toList,
    fun _ => mem_mentions_iff, ?_, ?_, ?_⟩
  · intro before rest htext
    exact ⟨.placed before rest, mem_mentions_iff.mpr (Mention.stands_iff.mpr ⟨_, _, htext, rfl⟩),
      rfl⟩
  · intro mention hmention
    have hstands := mem_mentions_iff.mp hmention
    exact ⟨fun count hcount => isValid_of_stands hstands hcount, extract_of_stands hstands⟩
  · intro allowed names name hkeys hstands hnamed hlast hunknown
    rcases mem_unknownVariables_iff.mp hunknown with ⟨_, hstart, hunlisted⟩
    exact hunlisted (hkeys name (mem_namesOf_of_standsIn hstands hstart hnamed hlast))

example : namesOf "LOCSYNC_LOCSYNC_A, éLOCSYNC_B_" = ["LOCSYNC_LOCSYNC_A", "LOCSYNC_A"] := by
  decide +kernel

/-- A variable whose name has another character is reported although a source mentions it. -/
theorem starred_variable_unknown :
    ¬ forall (sources names : List String) (name source : String), source ∈ sources ->
      StandsIn name source -> name.toList.getLast? ≠ some '_' ->
      name ∉ Command.unknownVariables (sources.flatMap namesOf) names := by
  intro h
  have hunknown : "LOCSYNC_*" ∈
      Command.unknownVariables (["LOCSYNC_* variables"].flatMap namesOf) ["LOCSYNC_*"] := by
    rw [mem_unknownVariables_iff]
    exact ⟨List.mem_singleton_self _, ⟨['*'], rfl⟩, by decide +kernel⟩
  refine h ["LOCSYNC_* variables"] ["LOCSYNC_*"] "LOCSYNC_*" "LOCSYNC_* variables"
    (List.mem_singleton_self _) ?_ (by decide) hunknown
  exact ⟨[], " variables".toList, rfl, Or.inr ⟨' ', "variables".toList, rfl, rfl⟩⟩

end Mentions
end Whereabouts
